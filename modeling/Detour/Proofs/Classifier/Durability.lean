import Detour.Proofs.Classifier.Effects
import Detour.Proofs.DomainList.Contents
import Detour.Proofs.Target.WellFormed

/-!
# Learned names are not lost

A learned list that is not marked as changed is what its file holds. Loading establishes this, for a
list that loses names on the way is marked. After that every change of a list is marked, and a mark
only goes away when the list was stored without fault; a fault puts it back, whatever has become of
the file. Storing one list leaves the file of the other alone, so the lists can be looked at one by
one.

## Main statements

* `Classifier.Durable` — what is not marked is in the files.
* `Classifier.storeList_durable`, `Session.step_durable` — no step loses it.
* `Session.run_saved` — reading an unmarked list gives what was learned.
-/
namespace Detour

open DomainList Files Text Utf8

namespace Classifier

/-! ## Marks -/

/-- A learned list that is not marked now was not marked before either, and has the same names. -/
def Marks (c c' : Classifier) : Prop :=
  ∀ l, c'.isChanged l = false →
    c.isChanged l = false ∧ ∀ n, n ∈ c.learned l ↔ n ∈ c'.learned l

/-- Every list that loses a name is marked. -/
theorem Loses.marks {c c' : Classifier} (h : Loses c c') : Marks c c' := by
  intro l unmarked
  have none := mt (h.changed l).2 (by simp [unmarked])
  push Not at none
  exact ⟨by simpa using none.1, fun n => ⟨none.2 n, h.kept l n⟩⟩

theorem learnBlocked_marks (c : Classifier) (domain : Text) :
    Marks c (c.learnBlocked domain).classifier := by
  rw [learnBlocked_classifier]
  intro l unmarked
  cases l with
  | blocked => cases unmarked
  | direct =>
    have unmarked : (c.directChanged || c.direct.contains domain) = false := unmarked
    obtain ⟨unmarked, other⟩ := Bool.or_eq_false_iff.1 unmarked
    refine ⟨unmarked, fun n => ?_⟩
    have kept := DomainSet.erase_of_not_mem (DomainSet.contains_eq_false.1 other)
    simp only [learned, kept]

theorem learnDirect_marks (c : Classifier) (domain : Text) :
    Marks c (c.learnDirect domain).classifier := by
  rw [learnDirect_classifier]
  intro l unmarked
  cases l with
  | direct => cases unmarked
  | blocked =>
    have unmarked : (c.blockedChanged || c.blocked.contains domain) = false := unmarked
    obtain ⟨unmarked, other⟩ := Bool.or_eq_false_iff.1 unmarked
    refine ⟨unmarked, fun n => ?_⟩
    have kept := DomainSet.erase_of_not_mem (DomainSet.contains_eq_false.1 other)
    simp only [learned, kept]

/-- A new classifier has learned nothing. -/
theorem create_learned {settings : Settings} {locations : Locations} {c : Classifier}
    (fresh : create settings locations = .ok c) :
    c.locations = locations ∧ ∀ l n, n ∉ c.learned l := by
  obtain ⟨transient, -, rfl⟩ := create_eq_ok.1 fresh
  exact ⟨rfl, fun l n => by cases l <;> exact DomainSet.not_mem_empty n⟩

/-! ## Files -/

/-- Every list has a file of its own: each path names a file, storing a learned list does not touch
the file of the other one, and nothing keeps these two from being opened. -/
structure HaveFiles (locations : Locations) (d : Disk) : Prop where
  proper : ∀ k, (locations.pathFor k).Proper
  named : ∀ k, ∃ l, (locations.pathFor k).Names d.working l
  spared : ∀ a b : Learned, a ≠ b → ∀ l, (locations.pathFor a.kind).target? d.working = some l →
    Spares (locations.pathFor b.kind) d.working l
  opened : ∀ (a : Learned) (calls : List Call),
    d.refuses (⟨.openFile, [(locations.pathFor a.kind).text]⟩ :: calls) = none

theorem HaveFiles.congr {locations : Locations} {d e : Disk} (h : HaveFiles locations d)
    (working : e.working = d.working) (refuses : e.refuses = d.refuses) :
    HaveFiles locations e where
  proper := h.proper
  named := working ▸ h.named
  spared := working ▸ h.spared
  opened := refuses ▸ h.opened

/-- Every list, those of the administrator too, has a file of its own that can be opened, and
storing a learned list touches no file but its own. -/
structure OwnFiles (locations : Locations) (d : Disk) : Prop where
  proper : ∀ k, (locations.pathFor k).Proper
  named : ∀ k, ∃ l, (locations.pathFor k).Names d.working l
  spared : ∀ (k : Kind) (a : Learned), k ≠ a.kind →
    ∀ l, (locations.pathFor k).target? d.working = some l →
      Spares (locations.pathFor a.kind) d.working l
  opened : ∀ (k : Kind) (calls : List Call),
    d.refuses (⟨.openFile, [(locations.pathFor k).text]⟩ :: calls) = none

theorem OwnFiles.congr {locations : Locations} {d e : Disk} (h : OwnFiles locations d)
    (working : e.working = d.working) (refuses : e.refuses = d.refuses) :
    OwnFiles locations e where
  proper := h.proper
  named := working ▸ h.named
  spared := working ▸ h.spared
  opened := refuses ▸ h.opened

theorem OwnFiles.haveFiles {locations : Locations} {d : Disk} (h : OwnFiles locations d) :
    HaveFiles locations d where
  proper := h.proper
  named := h.named
  spared := fun a b different => h.spared a.kind b (by
    cases a <;> cases b <;> first | exact absurd rfl different | decide)
  opened := fun a => h.opened a.kind

/-- The lists of the directory `/lists` have files of their own. -/
theorem ownFiles_lists {d : Disk} (working : d.working = [])
    (opened : ∀ (k : Kind) (calls : List Call), d.refuses
      (⟨.openFile, [((Locations.inside (.ofText "/lists")).pathFor k).text]⟩ :: calls) = none) :
    OwnFiles (.inside (.ofText "/lists")) d := by
  have target (k : Kind) : ((Locations.inside (.ofText "/lists")).pathFor k).target? [] =
      some ([octets "lists"] ++ [octets k.name]) := by
    cases k <;> decide +kernel
  refine ⟨fun k => ?_, fun k => ?_, fun k a other l hl => ?_, opened⟩
  · have directory : (Path.ofText "/lists").Proper := Path.proper_ofText (by decide)
    have part : Path.IsPart k.name := by
      cases k <;> exact ⟨by decide, by decide, by decide, by decide⟩
    cases k <;> exact directory.child part
  · refine ⟨_, ⟨[([octets "lists"], .directory)]⟩, [octets "lists"], octets k.name, ?_, rfl⟩
    rw [working]
    cases k <;> decide +kernel
  · rw [working] at hl ⊢
    obtain rfl := Option.some.inj ((target k).symm.trans hl)
    have visible : (octets k.name).head? ≠ some 46 := by cases k <;> decide +kernel
    refine ⟨?_, ?_, fun temporary => visible temporary.head?⟩
    · rw [target]
      cases k <;> cases a <;> first | exact absurd rfl other | decide +kernel
    · cases k <;> cases a <;> decide +kernel

/-- What is learned survives in a file, and is in its file unless it is marked. -/
structure Durable (locations : Locations) (c : Classifier) (d : Disk) : Prop where
  located : c.locations = locations
  working : d.HasWorking
  files : HaveFiles locations d
  storable : ∀ l, ∀ n ∈ c.learned l, Storable n
  saved : ∀ l, c.isChanged l = false → Holds (locations.pathFor l.kind) (c.learned l) d

section Durable

variable {locations : Locations} {c c' : Classifier} {d : Disk}

/-- A change of the lists may be marked, as long as what is new survives in a file. -/
theorem Durable.update (h : Durable locations c d) (located : c'.locations = c.locations)
    (storable : ∀ l, ∀ n ∈ c'.learned l, n ∈ c.learned l ∨ Storable n) (marks : Marks c c') :
    Durable locations c' d := by
  refine ⟨located.trans h.located, h.working, h.files, ?_, ?_⟩
  · intro l n hn
    rcases storable l n hn with old | new
    · exact h.storable l n old
    · exact new
  · intro l unmarked
    obtain ⟨unmarked, same⟩ := marks l unmarked
    exact (h.saved l unmarked).congr same

theorem Durable.congr (h : Durable locations c d) (located : c'.locations = c.locations)
    (learned : ∀ l, c'.learned l = c.learned l) (changed : ∀ l, c'.isChanged l = c.isChanged l) :
    Durable locations c' d := by
  refine h.update located (fun l n hn => .inl (learned l ▸ hn)) fun l unmarked => ?_
  exact ⟨changed l ▸ unmarked, fun n => by rw [learned l]⟩

/-- Storing one learned list leaves the file of the other one alone. -/
theorem Durable.others (h : Durable locations c d) (l : Learned) {e : Disk}
    (stored : e = (DomainList.store (locations.pathFor l.kind) (c.learned l).names d).2) :
    e.HasWorking ∧ HaveFiles locations e ∧ ∀ m, m ≠ l → c.isChanged m = false →
      Holds (locations.pathFor m.kind) (c.learned m) e := by
  have proper := h.files.proper l.kind
  obtain ⟨u, calls, hu, -, -⟩ := store_spares proper h.working (c.learned l).names
  have disk : e = { d with tree := u, calls } := stored.trans hu
  refine ⟨?_, h.files.congr (by rw [disk]) (by rw [disk]), fun m hm unmarked => ?_⟩
  · rw [disk]
    exact h.working
  · rw [stored]
    exact (h.saved m unmarked).store_other proper h.working (h.files.spared m l hm) _

/-- A list is stored, or keeps its mark. -/
theorem storeList_durable (h : Durable locations c d) (l : Learned) :
    Durable locations (c.storeList l d).classifier (c.storeList l d).disk := by
  have located := h.located
  subst located
  have proper := h.files.proper l.kind
  cases c.storeList_cases l d with
  | unchanged _ _ classifier disk =>
    rw [classifier, disk]
    exact h
  | stored _ disk done _ classifier =>
    obtain ⟨working, files, others⟩ := h.others l disk
    rw [classifier]
    refine ⟨(c.sameLists_mark false l).locations, working, files, ?_, ?_⟩
    · intro m
      rw [learned_mark]
      exact h.storable m
    · intro m unmarked
      rw [learned_mark]
      by_cases hm : m = l
      · subst hm
        rw [disk]
        exact holds_store proper h.working (h.storable m) done
      · exact others m hm (isChanged_mark_of_ne c false hm ▸ unmarked)
  | reported marked disk _ _ _ classifier =>
    obtain ⟨working, files, others⟩ := h.others l disk
    rw [classifier]
    refine ⟨rfl, working, files, h.storable, fun m unmarked => others m ?_ unmarked⟩
    rintro rfl
    rw [marked] at unmarked
    cases unmarked
  | escaped _ _ failed untold =>
    -- no fault escapes where the path is usable
    obtain ⟨location, names⟩ := h.files.named l.kind
    obtain ⟨usable, -⟩ := names.usable proper
    rw [isReported_of_store proper (proper.sendable usable) h.working failed] at untold
    cases untold

theorem persist_durable (h : Durable locations c d) :
    Durable locations (c.persist d).classifier (c.persist d).disk :=
  persist_preserves (P := Durable locations) (fun _ _ l h => storeList_durable h l) h

theorem learnBlocked_durable (h : Durable locations c d) {domain : Text}
    (storable : Storable domain) : Durable locations (c.learnBlocked domain).classifier d := by
  have marks := c.learnBlocked_marks domain
  rw [learnBlocked_classifier] at marks ⊢
  refine h.update rfl (fun l n hn => ?_) marks
  cases l with
  | blocked =>
    rcases DomainSet.mem_insert.1 hn with rfl | hn
    · exact .inr storable
    · exact .inl hn
  | direct => exact .inl (DomainSet.mem_erase.1 hn).1

theorem learnDirect_durable (h : Durable locations c d) {domain : Text}
    (storable : Storable domain) : Durable locations (c.learnDirect domain).classifier d := by
  have marks := c.learnDirect_marks domain
  rw [learnDirect_classifier] at marks ⊢
  refine h.update rfl (fun l n hn => ?_) marks
  cases l with
  | blocked => exact .inl (DomainSet.mem_erase.1 hn).1
  | direct =>
    rcases DomainSet.mem_insert.1 hn with rfl | hn
    · exact .inr storable
    · exact .inl hn

/-- Loading reads of a list the names of the set that its file holds. -/
theorem mem_readings {k : Kind} {s : DomainSet} {l : Location}
    (proper : (c.locations.pathFor k).Proper) (names : (c.locations.pathFor k).Names d.working l)
    (opened : ∀ calls, d.refuses (⟨.openFile, [(c.locations.pathFor k).text]⟩ :: calls) = none)
    (holds : Holds (c.locations.pathFor k) s d) (n : Text) : n ∈ c.readings d k ↔ n ∈ s := by
  have same := c.diskAt_sameFiles k d
  obtain ⟨usable, target⟩ := names.usable proper
  rw [← same.working] at target
  have opened : (c.diskAt k d).refusal? .openFile [(c.locations.pathFor k).text] = none := by
    rw [Disk.refusal?, same.refuses]
    exact opened _
  obtain ⟨names, read, members⟩ := (holds.sameFiles same).load_eq proper usable target opened
  rw [← members n, readings, listNames, read]
  rfl

/-- What is read of a learned list is what its file holds. -/
theorem holds_readings (files : HaveFiles locations d) (located : c.locations = locations)
    {l : Learned} (found : ReadableOrMissing (locations.pathFor l.kind) d) :
    Holds (locations.pathFor l.kind) (.ofList (c.readings d l.kind)) d := by
  subst located
  obtain ⟨location, names⟩ := files.named l.kind
  have proper := files.proper l.kind
  obtain ⟨s, holds⟩ := found.holds proper (names.usable proper).2
  refine holds.congr fun n => ?_
  rw [DomainSet.mem_ofList, mem_readings proper names (files.opened l) holds]

/-- Where every path names a file, the disk can tell of each list whether it is there. -/
theorem tellsLists_of_names (proper : ∀ k, (locations.pathFor k).Proper)
    (named : ∀ k, ∃ l, (locations.pathFor k).Names d.working l)
    (located : c.locations = locations) : c.TellsLists d := by
  intro k
  rw [located]
  obtain ⟨location, names⟩ := named k
  obtain ⟨usable, -⟩ := names.usable (proper k)
  rcases (proper k).exists?_cases usable d with hf | ⟨place, -, hp⟩
  · exact ⟨false, hf⟩
  · exact ⟨_, hp⟩

theorem HaveFiles.tellsLists (files : HaveFiles locations d) (located : c.locations = locations) :
    c.TellsLists d :=
  tellsLists_of_names files.proper files.named located

/-- A new classifier that loads its lists knows what the files hold, or has marked the list. -/
theorem load_durable (empty : ∀ l n, n ∉ c.learned l) (located : c.locations = locations)
    (working : d.HasWorking) (files : HaveFiles locations d)
    (found : ∀ l : Learned, ReadableOrMissing (locations.pathFor l.kind) d) :
    Durable locations (c.load [] [] d).classifier (c.load [] [] d).disk := by
  obtain ⟨-, -, same, -, hc, -⟩ := load_told (files.tellsLists located) [] []
  have blocked := holds_readings files located (found .blocked)
  have direct := holds_readings files located (found .direct)
  simp only [Learned.kind] at blocked direct
  generalize c.readings d .blocked = blockedNames at hc blocked
  generalize c.readings d .direct = directNames at hc direct
  have read : Durable locations ((c.learnAll [] []).learnAll blockedNames directNames)
      (c.load [] [] d).disk := by
    have holds (l : Learned) : Holds (locations.pathFor l.kind)
        (((c.learnAll [] []).learnAll blockedNames directNames).learned l)
        (c.load [] [] d).disk := by
      cases l with
      | blocked =>
        refine (blocked.sameFiles same).congr fun n => ?_
        have none : n ∉ c.blocked := empty .blocked n
        simp [learned, none]
      | direct =>
        refine (direct.sameFiles same).congr fun n => ?_
        have none : n ∉ c.direct := empty .direct n
        simp [learned, none]
    have working : (c.load [] [] d).disk.HasWorking := by
      rw [Disk.HasWorking, same.working]
      exact working
    exact ⟨located, working, files.congr same.working same.refuses,
      fun l => (holds l).storable, fun l _ => holds l⟩
  rw [hc]
  refine read.update rfl (fun l n hn => .inl ?_) (merge_loses _ _ _).marks
  cases l with
  | blocked => exact (mem_blocked_merge.1 hn).1
  | direct => exact (mem_direct_merge.1 hn).1.1

end Durable

end Classifier

/-! ## Sessions -/

namespace Session

open Classifier

/-- Any step but loading, about a target that was read if it records one. -/
def Step.Ordinary (encode : Host.Encoder) : Step → Prop
  | .load .. => False
  | .recordBlocked t => ∃ input, Target.parse encode input = .ok t
  | .recordDirect t => ∃ input, Target.parse encode input = .ok t
  | .recordTransientBlocked t => ∃ input, Target.parse encode input = .ok t
  | _ => True

theorem storable_domain {encode : Host.Encoder} (lawful : encode.Lawful) {input : Text} {t : Target}
    (parsed : Target.parse encode input = .ok t) (domain : t.domain ≠ []) :
    Storable t.domain := by
  obtain ⟨-, chars⟩ := Target.chars_of_parse lawful parsed domain
  exact storable_of_ascii domain fun c hc => (chars c hc).visible

section Steps

variable {encode : Host.Encoder} {locations : Locations} {s : Session}

theorem step_durable (lawful : encode.Lawful) {x : Step} (h : Durable locations s.classifier s.disk)
    (ordinary : x.Ordinary encode) :
    Durable locations (s.step x).2.classifier (s.step x).2.disk := by
  have unchanged {c : Classifier} (hc : (s.step x).2.classifier = c)
      (hd : (s.step x).2.disk = s.disk) (located : c.locations = s.classifier.locations)
      (learned : ∀ l, c.learned l = s.classifier.learned l)
      (changed : ∀ l, c.isChanged l = s.classifier.isChanged l) :
      Durable locations (s.step x).2.classifier (s.step x).2.disk := by
    rw [hc, hd]
    exact h.congr located learned changed
  cases s.step_cases x with
  | load => exact ordinary.elim
  | persist classifier disk =>
    rw [classifier, disk]
    exact persist_durable h
  | learnBlocked _ unlisted _ _ classifier disk =>
    obtain ⟨input, parsed⟩ := ordinary
    rw [classifier, disk]
    simp only [isAlwaysDirect, Bool.or_eq_false_iff, beq_eq_false_iff_ne] at unlisted
    exact learnBlocked_durable h (storable_domain lawful parsed unlisted.1)
  | learnDirect _ unlisted _ _ classifier disk =>
    obtain ⟨input, parsed⟩ := ordinary
    rw [classifier, disk]
    simp only [isInAlwaysSets, Bool.or_eq_false_iff, beq_eq_false_iff_ne] at unlisted
    exact learnDirect_durable h (storable_domain lawful parsed unlisted.1.1)
  | change classifier disk =>
    exact unchanged classifier disk rfl (fun l => by cases l <;> rfl) fun l => by cases l <;> rfl
  | other _ classifier disk =>
    obtain ⟨transient, hc⟩ := classifier
    exact unchanged hc disk rfl (fun l => by cases l <;> rfl) fun l => by cases l <;> rfl

theorem run_durable (lawful : encode.Lawful) {steps : List Step}
    (h : Durable locations s.classifier s.disk) (ordinary : ∀ x ∈ steps, x.Ordinary encode) :
    Durable locations (s.run steps).classifier (s.run steps).disk :=
  run_preserves (P := fun s => Durable locations s.classifier s.disk)
    (fun _ _ h ordinary => step_durable lawful h ordinary) h ordinary

end Steps

/-- Nothing learned is lost between the classifier and its files. A new classifier loads its lists,
the learned ones being readable or missing, and goes on as it likes while its calls may be refused;
whenever a learned list is not marked, reading it gives exactly the names that are learned. -/
theorem run_saved {encode : Host.Encoder} (lawful : encode.Lawful) {settings : Settings}
    {locations : Locations} {c : Classifier}
    (fresh : Classifier.create settings locations = .ok c) {disk : Disk}
    (working : disk.HasWorking) (files : HaveFiles locations disk)
    (found : ∀ l : Learned, ReadableOrMissing (locations.pathFor l.kind) disk) (now : Moment)
    {steps : List Step} (ordinary : ∀ x ∈ steps, x.Ordinary encode) (l : Learned) :
    let start : Session := { classifier := c, disk, now }
    let s := start.run (.load [] [] :: steps)
    s.classifier.isChanged l = false →
      ∃ names, (DomainList.load (locations.pathFor l.kind) s.disk).1 = .ok names ∧
        ∀ n, n ∈ names ↔ n ∈ s.classifier.learned l := by
  intro start s unmarked
  obtain ⟨located, empty⟩ := create_learned fresh
  have loaded : Durable locations (start.step (.load [] [])).2.classifier
      (start.step (.load [] [])).2.disk := load_durable empty located working files found
  have durable : Durable locations s.classifier s.disk :=
    run_durable (s := (start.step (.load [] [])).2) lawful loaded ordinary
  obtain ⟨location, names⟩ := durable.files.named l.kind
  have proper := durable.files.proper l.kind
  obtain ⟨usable, target⟩ := names.usable proper
  exact (durable.saved l unmarked).load_eq proper usable target (durable.files.opened l _)

/-- A name changes lists. Neither can be stored at first, and both are with the next attempt. -/
theorem run_saved_retried :
    let t : Target := { host := "www.example.com", domain := "example.com" }
    let locations := Locations.inside (.ofText "/lists")
    let start : Session :=
      { classifier := .ofLocations locations
        disk := diskOf "example.com" [⟨.synchronise, ⟨false, "busy"⟩, some 2, none⟩]
        now := ⟨.int 0, []⟩ }
    let s := start.run [.load [] [], .recordDirect t, .persist, .persist]
    s.classifier.isChanged .direct = false ∧
      ∃ names, (DomainList.load locations.direct s.disk).1 = .ok names ∧
        ∀ n, n ∈ names ↔ n ∈ s.classifier.learned .direct := by
  intro t locations start s
  have files : HaveFiles locations start.disk := (ownFiles_lists rfl fun k calls => rfl).haveFiles
  have found (l : Learned) : ReadableOrMissing (locations.pathFor l.kind) start.disk := by
    cases l with
    | blocked => exact .inl ⟨octets "example.com", by decide +kernel⟩
    | direct =>
      have target : (locations.pathFor .direct).target? [] =
          some [octets "lists", octets "direct"] := by decide +kernel
      exact readableOrMissing_of_absent target (by decide +kernel)
  have ordinary : ∀ x ∈ [Step.recordDirect t, .persist, .persist], x.Ordinary .sample := by
    simp only [List.forall_mem_cons, List.not_mem_nil, false_imp_iff, implies_true, and_true]
    exact ⟨⟨"www.example.com", by decide +kernel⟩, trivial, trivial⟩
  have unmarked : s.classifier.isChanged .direct = false := by decide +kernel
  exact ⟨unmarked, run_saved Host.Encoder.lawful_sample (create_default locations) (by decide) files
    found ⟨.int 0, []⟩ ordinary .direct unmarked⟩

end Session
end Detour
