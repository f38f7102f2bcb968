import Detour.Proofs.Classifier.Durability
import Detour.Proofs.Classifier.Loading
import Detour.Proofs.Classifier.Outcomes
import Detour.Proofs.Classifier.Persisting

/-!
# Learned-blocked names that were stored

A name that is recorded as blocked is blocked again once the lists are loaded anew, if persisting
them left no mark. The learned-direct list may stay marked for all that: where it is not updated its
file goes on naming a domain that was learned as blocked, and loses to the learned-blocked list.

Persisting that succeeds leaves no temporary file behind. So the lists only have to be different
files, none on the way to a learned one; nothing has to be known about their names.

## Main statements

* `Classifier.Backed` — learned-blocked names and the lists of the administrator are in their files.
* `Classifier.load_backed`, `recordBlocked_backed`, `persist_backed` — from loading to persisting.
* `Classifier.Backed.countsBlocked` — what is learned-blocked then is blocked when loaded again.
-/
namespace Detour.Classifier

open DomainList Files Text

/-- Every list has a file of its own that can be opened, and none is passed on the way to the file
of a learned list. -/
structure ApartFiles (locations : Locations) (d : Disk) : Prop where
  proper : ∀ k, (locations.pathFor k).Proper
  named : ∀ k, ∃ l, (locations.pathFor k).Names d.working l
  apart : ∀ (k : Kind) (a : Learned), k ≠ a.kind →
    ∀ l, (locations.pathFor k).target? d.working = some l →
      (locations.pathFor a.kind).target? d.working ≠ some l ∧
        l ∉ (locations.pathFor a.kind).way d.working
  opened : ∀ (k : Kind) (calls : List Call),
    d.refuses (⟨.openFile, [(locations.pathFor k).text]⟩ :: calls) = none

theorem OwnFiles.apartFiles {locations : Locations} {d : Disk} (h : OwnFiles locations d) :
    ApartFiles locations d where
  proper := h.proper
  named := h.named
  apart := fun k a other l hl =>
    ⟨(h.spared k a other l hl).different, (h.spared k a other l hl).notPassed⟩
  opened := h.opened

theorem ApartFiles.congr {locations : Locations} {d e : Disk} (h : ApartFiles locations d)
    (working : e.working = d.working) (refuses : e.refuses = d.refuses) :
    ApartFiles locations e where
  proper := h.proper
  named := working ▸ h.named
  apart := working ▸ h.apart
  opened := refuses ▸ h.opened

/-- The learned-blocked names survive in a file, and are in theirs unless they are marked; the files
of the administrator hold what makes up the always-direct list. -/
structure Backed (locations : Locations) (c : Classifier) (d : Disk) : Prop where
  located : c.locations = locations
  working : d.HasWorking
  files : ApartFiles locations d
  storable : ∀ n ∈ c.blocked, Storable n
  saved : c.blockedChanged = false → Holds locations.blocked c.blocked d
  listed : ∃ blocked direct, Holds locations.alwaysBlocked blocked d ∧
    Holds locations.alwaysDirect direct d ∧
    ∀ n, n ∈ c.alwaysDirect ↔ n ∈ direct ∧ n ∉ blocked

section Backed

variable {locations : Locations} {c c' : Classifier} {d e : Disk}

/-- What loading reads of a list is what its file holds. -/
theorem ApartFiles.mem_readings (files : ApartFiles locations d) (located : c.locations = locations)
    {k : Kind} {s : DomainSet} (holds : Holds (locations.pathFor k) s d) (n : Text) :
    n ∈ c.readings d k ↔ n ∈ s := by
  subst located
  obtain ⟨location, names⟩ := files.named k
  exact Classifier.mem_readings (files.proper k) names (files.opened k) holds n

theorem Backed.sameFiles (h : Backed locations c d) (same : d.SameFiles e) :
    Backed locations c e := by
  obtain ⟨blocked, direct, holdsBlocked, holdsDirect, alwaysDirect⟩ := h.listed
  refine ⟨h.located, ?_, h.files.congr same.working same.refuses, h.storable,
    fun unmarked => (h.saved unmarked).sameFiles same,
    blocked, direct, holdsBlocked.sameFiles same, holdsDirect.sameFiles same, alwaysDirect⟩
  rw [Disk.HasWorking, same.working]
  exact h.working

/-- Where all lists are readable or missing, a new classifier that loads them is backed by them. -/
theorem load_backed {settings : Settings} (fresh : create settings locations = .ok c)
    (working : d.HasWorking) (files : ApartFiles locations d)
    (found : ∀ k, ReadableOrMissing (locations.pathFor k) d) :
    Backed locations (c.load [] [] d).classifier (c.load [] [] d).disk := by
  obtain ⟨located, empty⟩ := create_learned fresh
  have told := tellsLists_of_names files.proper files.named located
  have merged := load_merged told fun _ => []
  obtain ⟨-, -, same, -⟩ := load_told told [] []
  have holds (k : Kind) : ∃ s, Holds (locations.pathFor k) s d := by
    obtain ⟨location, names⟩ := files.named k
    exact (found k).holds (files.proper k) (names.usable (files.proper k)).2
  choose held holds using holds
  have read (k : Kind) (n : Text) : n ∈ c.readings d k ↔ n ∈ held k :=
    files.mem_readings located (holds k) n
  have offered (n : Text) : c.Offered (fun _ => []) (c.readings d) .blocked n ↔
      n ∈ held .blocked := by
    simp [Offered, empty, Learned.kind, read]
  have there (n : Text) (hn : n ∈ (c.load [] [] d).classifier.blocked) : n ∈ held .blocked :=
    (offered n).1 ((merged.blocked n).1 hn).1
  have backed : Backed locations (c.load [] [] d).classifier d := by
    refine ⟨(locations_load told [] []).trans located, working, files,
      fun n hn => (holds .blocked).storable n (there n hn), fun unmarked => ?_,
      held .alwaysBlocked, held .alwaysDirect, holds .alwaysBlocked, holds .alwaysDirect,
      fun n => ?_⟩
    · -- an unmarked list has lost nothing
      have lost := mt (merged.changed .blocked).2 (by simp [isChanged, unmarked])
      push Not at lost
      exact (holds .blocked).congr fun n => ⟨fun hn => lost.2 n ((offered n).2 hn), there n⟩
    · rw [merged.alwaysDirect, read, read]
  exact backed.sameFiles same

/-- A blocked outcome that is learned is marked, and its domain survives in a file. -/
theorem recordBlocked_backed (h : Backed locations c d) {encode : Host.Encoder}
    (lawful : encode.Lawful) {input : Text} {t : Target}
    (parsed : Target.parse encode input = .ok t) (now : Moment) :
    Backed locations (c.recordBlocked now t).classifier d := by
  rcases c.recordBlocked_cases now t with ⟨transient, same⟩ | ⟨-, unlisted, -, -, learned⟩
  · rw [same]
    exact ⟨h.located, h.working, h.files, h.storable, h.saved, h.listed⟩
  · rw [learned, learnBlocked_classifier]
    refine ⟨h.located, h.working, h.files, fun n hn => ?_, fun unmarked => ?_, h.listed⟩
    · rcases DomainSet.mem_insert.1 hn with rfl | old
      · exact Session.storable_domain lawful parsed (domain_ne_nil unlisted)
      · exact h.storable n old
    · cases unmarked

/-- A list that is stored takes its mark away and leaves the other files alone. -/
theorem storeList_backed (h : Backed locations c d) {l : Learned} {stored : Bool}
    (result : (c.storeList l d).result = .ok stored)
    (unmarked : (c.storeList l d).classifier.isChanged l = false) :
    Backed locations (c.storeList l d).classifier (c.storeList l d).disk := by
  have located := h.located
  subst located
  have proper := h.files.proper l.kind
  cases c.storeList_cases l d with
  | unchanged _ _ classifier disk =>
    rw [classifier, disk]
    exact h
  | reported marked _ _ _ _ classifier =>
    rw [classifier, marked] at unmarked
    cases unmarked
  | escaped _ _ _ _ failed =>
    rw [failed] at result
    cases result
  | stored _ disk done _ classifier =>
    obtain ⟨u, calls, hu, -, -⟩ := store_done_spares proper h.working done
    have other {k : Kind} {s : DomainSet} (different : k ≠ l.kind)
        (holds : Holds (c.locations.pathFor k) s d) :
        Holds (c.locations.pathFor k) s (c.storeList l d).disk := by
      rw [disk]
      exact holds.store_done_other proper h.working (h.files.apart k l different) done
    have saved (unmarked : (c.mark false l).blockedChanged = false) :
        Holds c.locations.blocked (c.mark false l).blocked (c.storeList l d).disk := by
      cases l with
      | blocked =>
        rw [disk]
        exact holds_store proper h.working h.storable done
      | direct => exact other (k := .blocked) (by decide) (h.saved unmarked)
    obtain ⟨blocked, direct, holdsBlocked, holdsDirect, alwaysDirect⟩ := h.listed
    have learned : Kind.alwaysBlocked ≠ l.kind ∧ Kind.alwaysDirect ≠ l.kind := by
      cases l <;> decide
    have same := c.sameLists_mark false l
    rw [classifier]
    refine ⟨same.locations, ?_, h.files.congr (by rw [disk, hu]) (by rw [disk, hu]), ?_, saved,
      blocked, direct, other learned.1 holdsBlocked, other learned.2 holdsDirect, ?_⟩
    · rw [disk, hu]
      exact h.working
    · rw [same.blocked]
      exact h.storable
    · rw [same.alwaysDirect]
      exact alwaysDirect

/-- Persisting one list goes through if it is not updated, or with storing it. -/
theorem persistList_eq_ok {l : Learned} {written written' : List Kind}
    (h : (c.persistList l written d).result = .ok written') :
    (c.isUpdated l = false ∧ (c.persistList l written d).classifier = c ∧
      (c.persistList l written d).disk = d) ∨
    ∃ stored, c.isUpdated l = true ∧ (c.storeList l d).result = .ok stored ∧
      (c.persistList l written d).classifier = (c.storeList l d).classifier ∧
      (c.persistList l written d).disk = (c.storeList l d).disk := by
  unfold persistList at h ⊢
  by_cases updated : c.isUpdated l = true
  · simp only [updated, Bool.not_true, Bool.false_eq_true, if_false] at h ⊢
    cases hs : c.storeList l d with
    | mk r c' d' messages =>
      cases r with
      | error f => simp [hs] at h
      | ok stored => exact .inr ⟨stored, trivial, rfl, rfl, rfl⟩
  · rw [Bool.not_eq_true] at updated
    simp only [updated, Bool.not_false, if_true]
    exact .inl ⟨trivial, trivial, trivial⟩

/-- Persisting goes through with one list after the other. -/
theorem persist_eq_ok {written : List Kind} (h : (c.persist d).result = .ok written) :
    ∃ first, let r := c.persistList .blocked [] d
      r.result = .ok first ∧
      (r.classifier.persistList .direct first r.disk).result = .ok written ∧
      (c.persist d).classifier = (r.classifier.persistList .direct first r.disk).classifier ∧
      (c.persist d).disk = (r.classifier.persistList .direct first r.disk).disk := by
  unfold persist at h ⊢
  cases hb : c.persistList .blocked [] d with
  | mk r c' d' messages =>
    cases r with
    | error f => simp [hb] at h
    | ok first =>
      simp only [hb] at h
      exact ⟨first, rfl, h, rfl, rfl⟩

theorem persistList_backed (h : Backed locations c d) {l : Learned} {written written' : List Kind}
    (result : (c.persistList l written d).result = .ok written')
    (unmarked : c.isUpdated l = true →
      (c.persistList l written d).classifier.isChanged l = false) :
    Backed locations (c.persistList l written d).classifier
      (c.persistList l written d).disk := by
  rcases persistList_eq_ok result with ⟨-, classifier, disk⟩ |
    ⟨stored, updated, done, classifier, disk⟩
  · rw [classifier, disk]
    exact h
  · have cleared := unmarked updated
    rw [classifier] at cleared
    rw [classifier, disk]
    exact storeList_backed h done cleared

/-- Persisting that leaves no mark on a list that is updated leaves all that is learned-blocked in
its file. -/
theorem persist_backed (h : Backed locations c d) {written : List Kind}
    (result : (c.persist d).result = .ok written)
    (unmarked : ∀ l, c.isUpdated l = true → (c.persist d).classifier.isChanged l = false) :
    Backed locations (c.persist d).classifier (c.persist d).disk := by
  obtain ⟨first, done, rest, classifier, disk⟩ := persist_eq_ok result
  have changes := c.persistList_classifier d .blocked []
  have later := (c.persistList .blocked [] d).classifier.persistList_classifier
    (c.persistList .blocked [] d).disk .direct first
  have stored : Backed locations (c.persistList .blocked [] d).classifier
      (c.persistList .blocked [] d).disk := by
    refine persistList_backed h done fun updated => ?_
    -- the second list does not touch the mark of the first
    have cleared := unmarked .blocked updated
    rw [classifier, later, isChanged_mark_of_ne _ _ (by decide)] at cleared
    exact cleared
  rw [classifier, disk]
  refine persistList_backed stored rest fun updated => ?_
  rw [← classifier]
  refine unmarked .direct ?_
  rw [changes] at updated
  exact updated

/-- A name that is learned-blocked and stored, and not always-direct, counts as blocked in a new
classifier that loads the lists: if it is dropped, it is always-blocked. -/
theorem Backed.countsBlocked (h : Backed locations c d) (unmarked : c.blockedChanged = false)
    {settings : Settings} (fresh : create settings locations = .ok c') {n : Text}
    (learned : n ∈ c.blocked) (notDirect : n ∉ c.alwaysDirect) (now : Number) :
    (c'.load [] [] d).classifier.CountsBlocked now n := by
  obtain ⟨located, -⟩ := create_learned fresh
  have merged := load_merged
    (tellsLists_of_names h.files.proper h.files.named located) fun _ => []
  obtain ⟨blocked, direct, holdsBlocked, holdsDirect, alwaysDirect⟩ := h.listed
  have readBlocked := h.files.mem_readings located (k := .alwaysBlocked) holdsBlocked n
  have readDirect := h.files.mem_readings located (k := .alwaysDirect) holdsDirect n
  have read := h.files.mem_readings located (k := .blocked) (h.saved unmarked) n
  rw [alwaysDirect] at notDirect
  refine ⟨?_, ?_⟩
  · rw [merged.alwaysDirect, readDirect, readBlocked]
    exact notDirect
  · rw [merged.alwaysBlocked, readBlocked]
    by_cases listed : n ∈ blocked
    · exact .inl listed
    · refine .inr (.inr ((merged.blocked n).2 ⟨.inr (.inr (read.2 learned)), ?_⟩))
      rw [IsListed, readDirect, readBlocked]
      exact fun there => there.elim (fun hd => notDirect ⟨hd, listed⟩) listed

end Backed

end Detour.Classifier
