import Detour.Proofs.Classifier.Consistency
import Detour.Proofs.Classifier.Durability
import Detour.Proofs.ExpiringSet.Refinement

/-!
# Restarting

A classifier whose learned lists are in their files is replaced by a new one that loads the same
files. The new one knows what the old one knew, but for the names of the learned-blocked list that
are always-blocked as well: these get into the list when they are recorded, and are dropped when it
is loaded. No answer depends on them, so both give the same answers when no time is running.

The lists of the administrator are read once and never written. What has to be carried along for
them is that their files still hold them: storing a learned list touches no other file.

## Main statements

* `Classifier.load_knows` — what a new classifier knows after loading, from what the files hold.
* `Classifier.Restartable` — the files have what a restart needs.
* `Classifier.Reloads.sameAnswers` — what is dropped when reloading does not matter for answers.
* `Session.run_reloaded` — a restart gives back lists and answers.
-/
namespace Detour

open DomainList Files Text Utf8

namespace Classifier

/-! ## Loading -/

/-- What a new classifier knows when it has loaded files that hold some sets. -/
structure Knows (held : Kind → DomainSet) (c : Classifier) : Prop where
  alwaysBlocked : ∀ n, n ∈ c.alwaysBlocked ↔ n ∈ held .alwaysBlocked
  alwaysDirect : ∀ n, n ∈ c.alwaysDirect ↔ n ∈ held .alwaysDirect ∧ n ∉ held .alwaysBlocked
  blocked : ∀ n, n ∈ c.blocked ↔
    n ∈ held .blocked ∧ n ∉ held .alwaysDirect ∧ n ∉ held .alwaysBlocked
  direct : ∀ n, n ∈ c.direct ↔
    (n ∈ held .direct ∧ n ∉ held .alwaysDirect ∧ n ∉ held .alwaysBlocked) ∧ n ∉ c.blocked

/-- Loading into a new classifier goes through, and merges what the files hold. -/
theorem load_knows {locations : Locations} {c : Classifier} {d : Disk}
    (files : OwnFiles locations d) (located : c.locations = locations)
    (empty : ∀ l n, n ∉ c.learned l) {held : Kind → DomainSet}
    (holds : ∀ k, Holds (locations.pathFor k) (held k) d) :
    (c.load [] [] d).result = .ok () ∧ d.SameFiles (c.load [] [] d).disk ∧
      Knows held (c.load [] [] d).classifier ∧
      (c.load [] [] d).classifier.transient = c.transient := by
  have told : c.TellsLists d := files.haveFiles.tellsLists located
  obtain ⟨-, -, same, result, merged, -⟩ := load_told told [] []
  have read (k : Kind) (n : Text) : n ∈ c.readings d k ↔ n ∈ held k := by
    subst located
    obtain ⟨location, names⟩ := files.named k
    exact mem_readings (files.proper k) names (files.opened k) (holds k) n
  have noneBlocked (n : Text) : n ∉ c.blocked := empty .blocked n
  have noneDirect (n : Text) : n ∉ c.direct := empty .direct n
  refine ⟨result, same, ?_, by rw [merged, transient_merge]; rfl⟩
  rw [merged]
  refine ⟨fun n => ?_, fun n => ?_, fun n => ?_, fun n => ?_⟩
  · rw [mem_alwaysBlocked_merge, read]
  · rw [mem_alwaysDirect_merge, read, read]
  · simp [noneBlocked, read]
  · rw [mem_direct_merge]
    simp [noneDirect, read]

/-- What is loaded into a new classifier is put apart. -/
theorem Knows.consistent {held : Kind → DomainSet} {c : Classifier} (h : Knows held c) :
    c.Consistent := by
  have listed {n : Text} (hn : n ∈ c.alwaysDirect) : n ∈ held .alwaysDirect :=
    ((h.alwaysDirect n).1 hn).1
  refine ⟨fun n hb hd => ?_, fun n hd hb => ?_, fun n hb hd => ?_, fun n hn => ?_⟩
  · exact ((h.direct n).1 hd).2 hb
  · exact ((h.alwaysDirect n).1 hd).2 ((h.alwaysBlocked n).1 hb)
  · exact ((h.blocked n).1 hb).2.1 (listed hd)
  · obtain ⟨⟨-, notDirect, notBlocked⟩, -⟩ := (h.direct n).1 hn
    exact ⟨fun hd => notDirect (listed hd), fun hb => notBlocked ((h.alwaysBlocked n).1 hb)⟩

/-! ## What a restart needs -/

/-- The lists of the administrator are what their files hold, blocked names going first. -/
structure Administered (locations : Locations) (c : Classifier) (d : Disk) : Prop where
  files : OwnFiles locations d
  working : d.HasWorking
  blocked : Holds (locations.pathFor .alwaysBlocked) c.alwaysBlocked d
  direct : ∃ listed, Holds (locations.pathFor .alwaysDirect) listed d ∧
    ∀ n, n ∈ c.alwaysDirect ↔ n ∈ listed ∧ n ∉ c.alwaysBlocked

/-- All lists are apart, and in their files unless they are marked. -/
structure Restartable (locations : Locations) (c : Classifier) (d : Disk) : Prop where
  durable : Durable locations c d
  consistent : c.Consistent
  administered : Administered locations c d

section Restartable

variable {locations : Locations} {c c' : Classifier} {d : Disk}

theorem Administered.congr (h : Administered locations c d)
    (direct : c'.alwaysDirect = c.alwaysDirect) (blocked : c'.alwaysBlocked = c.alwaysBlocked) :
    Administered locations c' d := by
  refine ⟨h.files, h.working, ?_, ?_⟩
  · rw [blocked]
    exact h.blocked
  · rw [direct, blocked]
    exact h.direct

/-- Storing a learned list leaves the files of the administrator alone. -/
theorem Administered.store (h : Administered locations c d) (a : Learned) (names : List Text) :
    Administered locations c (DomainList.store (locations.pathFor a.kind) names d).2 := by
  have proper := h.files.proper a.kind
  obtain ⟨u, calls, disk, -, -⟩ := store_spares proper h.working names
  have kept {k : Kind} (other : k ≠ a.kind) {s : DomainSet}
      (holds : Holds (locations.pathFor k) s d) :
      Holds (locations.pathFor k) s (DomainList.store (locations.pathFor a.kind) names d).2 :=
    holds.store_other proper h.working (h.files.spared k a other) names
  obtain ⟨listed, holds, direct⟩ := h.direct
  refine ⟨h.files.congr (by rw [disk]) (by rw [disk]), ?_, kept ?_ h.blocked,
    listed, kept ?_ holds, direct⟩
  · rw [disk]
    exact h.working
  · cases a <;> decide
  · cases a <;> decide

theorem storeList_administered (h : Administered locations c d) (located : c.locations = locations)
    (l : Learned) : Administered locations (c.storeList l d).classifier (c.storeList l d).disk := by
  subst located
  have same := c.storeList_sameLists l d
  have stored := h.store l (c.learned l).names
  have written : Administered c.locations c (c.storeList l d).disk := by
    rcases c.storeList_disk l d with disk | disk <;> rwa [disk]
  exact written.congr same.alwaysDirect same.alwaysBlocked

theorem persist_administered (h : Administered locations c d) (located : c.locations = locations) :
    Administered locations (c.persist d).classifier (c.persist d).disk := by
  have stored (c : Classifier) (d : Disk) (l : Learned)
      (h : c.locations = locations ∧ Administered locations c d) :
      (c.storeList l d).classifier.locations = locations ∧
        Administered locations (c.storeList l d).classifier (c.storeList l d).disk :=
    ⟨(c.storeList_sameLists l d).locations.trans h.1, storeList_administered h.2 h.1 l⟩
  exact (persist_preserves (P := fun c d => c.locations = locations ∧ Administered locations c d)
    stored ⟨located, h⟩).2

/-- A new classifier that loads its lists can be restarted. -/
theorem load_restartable {settings : Settings} (fresh : create settings locations = .ok c)
    (working : d.HasWorking) (files : OwnFiles locations d)
    (found : ∀ k, ReadableOrMissing (locations.pathFor k) d) :
    Restartable locations (c.load [] [] d).classifier (c.load [] [] d).disk := by
  obtain ⟨located, empty⟩ := create_learned fresh
  have holds (k : Kind) : ∃ s, Holds (locations.pathFor k) s d := by
    obtain ⟨location, names⟩ := files.named k
    exact (found k).holds (files.proper k) (names.usable (files.proper k)).2
  choose sets holds using holds
  obtain ⟨-, same, knows, -⟩ := load_knows files located empty holds
  have durable := load_durable empty located working files.haveFiles fun l => found l.kind
  have blocked (n : Text) := (knows.alwaysBlocked n).symm
  refine ⟨durable, knows.consistent, files.congr same.working same.refuses, durable.working,
    ((holds .alwaysBlocked).sameFiles same).congr blocked,
    sets .alwaysDirect, (holds .alwaysDirect).sameFiles same, fun n => ?_⟩
  rw [knows.alwaysDirect, blocked]

/-! ## What a restart gives back -/

/-- The sets that the files of an unmarked classifier hold, `listed` being those of the
always-direct list, of which the classifier only has the ones that are not always-blocked. -/
def held (c : Classifier) (listed : DomainSet) : Kind → DomainSet
  | .blocked => c.blocked
  | .direct => c.direct
  | .alwaysBlocked => c.alwaysBlocked
  | .alwaysDirect => listed

/-- The lists of a classifier and those of another one that loaded its files: the same, but for
learned-blocked names that are always-blocked. -/
structure Reloads (c c' : Classifier) : Prop where
  alwaysDirect : ∀ n, n ∈ c'.alwaysDirect ↔ n ∈ c.alwaysDirect
  alwaysBlocked : ∀ n, n ∈ c'.alwaysBlocked ↔ n ∈ c.alwaysBlocked
  direct : ∀ n, n ∈ c'.direct ↔ n ∈ c.direct
  blocked : ∀ n, n ∈ c'.blocked ↔ n ∈ c.blocked ∧ n ∉ c.alwaysBlocked

/-- Two classifiers, each at its time, answer all questions about targets and names alike. -/
structure SameAnswers (c : Classifier) (now : Number) (c' : Classifier) (now' : Number) : Prop where
  inAlwaysSets : ∀ t, c'.isInAlwaysSets t = c.isInAlwaysSets t
  alwaysDirect : ∀ t, c'.isAlwaysDirect t = c.isAlwaysDirect t
  alwaysBlocked : ∀ t, c'.isAlwaysBlocked t = c.isAlwaysBlocked t
  blocked : ∀ t, (c'.isBlocked now' t).1 = (c.isBlocked now t).1
  direct : ∀ t, c'.isDirect t = c.isDirect t
  route : ∀ t, (c'.classify now' t).1 = (c.classify now t).1
  blockedName : ∀ n, (c'.lookupBlocked now' n).1 = (c.lookupBlocked now n).1
  directName : ∀ n, c'.lookupDirect n = c.lookupDirect n

/-- A new classifier that loads the files of one whose lists are not marked has its lists, and no
time is running in it. -/
theorem Restartable.reloads (h : Restartable locations c d)
    (unmarked : ∀ l, c.isChanged l = false) {settings : Settings}
    (fresh : create settings locations = .ok c') :
    (c'.load [] [] d).result = .ok () ∧ Reloads c (c'.load [] [] d).classifier ∧
      ∀ now n, (c'.load [] [] d).classifier.transient.isLive now n = false := by
  obtain ⟨located, empty⟩ := create_learned fresh
  obtain ⟨listed, holdsDirect, alwaysDirect⟩ := h.administered.direct
  have holds (k : Kind) : Holds (locations.pathFor k) (c.held listed k) d := by
    cases k with
    | blocked => exact h.durable.saved .blocked (unmarked .blocked)
    | direct => exact h.durable.saved .direct (unmarked .direct)
    | alwaysBlocked => exact h.administered.blocked
    | alwaysDirect => exact holdsDirect
  obtain ⟨result, -, knows, transient⟩ := load_knows h.administered.files located empty holds
  -- a name that is listed as always-direct is so, unless it is always-blocked
  have unlisted (n : Text) (hn : n ∉ c.alwaysDirect) (hb : n ∉ c.alwaysBlocked) : n ∉ listed :=
    fun there => hn ((alwaysDirect n).2 ⟨there, hb⟩)
  have blocked (n : Text) :
      n ∈ (c'.load [] [] d).classifier.blocked ↔ n ∈ c.blocked ∧ n ∉ c.alwaysBlocked := by
    rw [knows.blocked]
    exact ⟨fun hn => ⟨hn.1, hn.2.2⟩,
      fun hn => ⟨hn.1, unlisted n (h.consistent.blocked n hn.1) hn.2, hn.2⟩⟩
  refine ⟨result, ⟨fun n => ?_, knows.alwaysBlocked, fun n => ?_, blocked⟩, fun now n => ?_⟩
  · exact (knows.alwaysDirect n).trans (alwaysDirect n).symm
  · rw [knows.direct, blocked]
    refine ⟨fun hn => hn.1.1, fun hn => ?_⟩
    obtain ⟨notDirect, notBlocked⟩ := h.consistent.direct n hn
    exact ⟨⟨hn, unlisted n notDirect notBlocked, notBlocked⟩,
      fun both => h.consistent.learned n both.1 hn⟩
  · obtain ⟨start, created, rfl⟩ := create_eq_ok.1 fresh
    rw [transient]
    exact ExpiringSet.isLive_of_nil (ExpiringSet.eq_of_create created).2 now n

end Restartable

section Answers

variable {c c' : Classifier} {now now' : Number}

theorem Reloads.sameAnswers (h : Reloads c c') (quiet : ∀ n, c.transient.isLive now n = false)
    (quiet' : ∀ n, c'.transient.isLive now' n = false) : SameAnswers c now c' now' := by
  have countsBlocked (n : Text) : c'.CountsBlocked now' n ↔ c.CountsBlocked now n := by
    simp only [CountsBlocked, h.alwaysDirect, h.alwaysBlocked, h.blocked, quiet, quiet']
    grind
  have countsDirect (n : Text) : c'.CountsDirect n ↔ c.CountsDirect n := by
    simp only [CountsDirect, h.alwaysDirect, h.alwaysBlocked, h.direct]
  have blockedName (n : Text) : (c'.lookupBlocked now' n).1 = (c.lookupBlocked now n).1 := by
    simp only [lookupBlocked_answer, countsBlocked]
  have directName (n : Text) : c'.lookupDirect n = c.lookupDirect n := by
    simp only [lookupDirect_answer, countsDirect]
  have inDirect (n : Text) : c'.alwaysDirect.contains n = c.alwaysDirect.contains n := by
    rw [Bool.eq_iff_iff, DomainSet.contains_eq_true, DomainSet.contains_eq_true, h.alwaysDirect]
  have inBlocked (n : Text) : c'.alwaysBlocked.contains n = c.alwaysBlocked.contains n := by
    rw [Bool.eq_iff_iff, DomainSet.contains_eq_true, DomainSet.contains_eq_true, h.alwaysBlocked]
  have blocked (t : Target) : (c'.isBlocked now' t).1 = (c.isBlocked now t).1 := by
    simp only [isBlocked_answer, blockedName]
  refine ⟨fun t => ?_, fun t => ?_, fun t => ?_, blocked, fun t => ?_, fun t => ?_, blockedName,
    directName⟩
  · simp only [isInAlwaysSets, names, inDirect, inBlocked]
  · simp only [isAlwaysDirect, names, inDirect]
  · simp only [isAlwaysBlocked, names, inBlocked]
  · simp only [isDirect, directName]
  · simp only [classify_answer, blocked]

end Answers

end Classifier

/-! ## Sessions -/

namespace Session

open Classifier

section Steps

variable {encode : Host.Encoder} {locations : Locations} {s : Session}

theorem step_restartable (lawful : encode.Lawful) {x : Step}
    (h : Restartable locations s.classifier s.disk) (ordinary : x.Ordinary encode) :
    Restartable locations (s.step x).2.classifier (s.step x).2.disk := by
  have noLoad : x.isLoad = false := by cases x <;> first | exact ordinary.elim | rfl
  have administered : Administered locations (s.step x).2.classifier (s.step x).2.disk := by
    have unwritten (disk : (s.step x).2.disk = s.disk) :
        Administered locations (s.step x).2.classifier (s.step x).2.disk := by
      obtain ⟨direct, blocked⟩ := step_alwaysLists (s := s) noLoad
      rw [disk]
      exact h.administered.congr direct blocked
    cases s.step_cases x with
    | load => cases noLoad
    | persist classifier disk =>
      rw [classifier, disk]
      exact persist_administered h.administered h.durable.located
    | learnBlocked _ _ _ _ _ disk => exact unwritten disk
    | learnDirect _ _ _ _ _ disk => exact unwritten disk
    | change _ disk => exact unwritten disk
    | other _ _ disk => exact unwritten disk
  exact ⟨step_durable lawful h.durable ordinary, step_consistent noLoad h.consistent, administered⟩

theorem run_restartable (lawful : encode.Lawful) {steps : List Step}
    (h : Restartable locations s.classifier s.disk) (ordinary : ∀ x ∈ steps, x.Ordinary encode) :
    Restartable locations (s.run steps).classifier (s.run steps).disk :=
  run_preserves (P := fun s => Restartable locations s.classifier s.disk)
    (fun _ _ h ordinary => step_restartable lawful h ordinary) h ordinary

end Steps

/-- A restart goes unnoticed. A new classifier loads its lists and goes on as it likes while its
calls may be refused; once no learned list is marked, another new classifier that loads the same
files has the same lists, but for learned-blocked names that are always-blocked. When no time is
running in the first one, both give the same answers about all targets and all names. -/
theorem run_reloaded {encode : Host.Encoder} (lawful : encode.Lawful)
    {settings settings' : Settings} {locations : Locations} {c c' : Classifier}
    (fresh : Classifier.create settings locations = .ok c)
    (fresh' : Classifier.create settings' locations = .ok c') {disk : Disk}
    (working : disk.HasWorking) (files : OwnFiles locations disk)
    (found : ∀ k, ReadableOrMissing (locations.pathFor k) disk) (now : Moment)
    {steps : List Step} (ordinary : ∀ x ∈ steps, x.Ordinary encode) :
    let start : Session := { classifier := c, disk, now }
    let s := start.run (.load [] [] :: steps)
    let r := c'.load [] [] s.disk
    (∀ l, s.classifier.isChanged l = false) →
      r.result = .ok () ∧ Reloads s.classifier r.classifier ∧
        ∀ now now', (∀ n, s.classifier.transient.isLive now n = false) →
          SameAnswers s.classifier now r.classifier now' := by
  intro start s r unmarked
  have loaded : Restartable locations (start.step (.load [] [])).2.classifier
      (start.step (.load [] [])).2.disk := load_restartable fresh working files found
  have restartable : Restartable locations s.classifier s.disk :=
    run_restartable (s := (start.step (.load [] [])).2) lawful loaded ordinary
  obtain ⟨result, reloads, quiet⟩ := restartable.reloads unmarked fresh'
  exact ⟨result, reloads, fun now now' idle => reloads.sameAnswers idle (quiet now')⟩

/-- A name that is always-blocked is learned as well. The lists are only stored with the second
attempt, and the name is not learned any more after a restart. -/
theorem run_reloaded_dropped :
    let ads : Target := { host := "ads.net", domain := "ads.net" }
    let t : Target := { host := "www.example.com", domain := "example.com" }
    let locations := Locations.inside (.ofText "/lists")
    let tree : Tree := ⟨[([octets "lists"], .directory),
      ([octets "lists", octets "blocked"], .file (octets "example.com")),
      ([octets "lists", octets "always_blocked"], .file (octets "ads.net"))]⟩
    let start : Session :=
      { classifier := .ofLocations locations
        disk := ({ tree } : Disk).under [⟨.synchronise, ⟨false, "busy"⟩, some 2, none⟩]
        now := ⟨.int 0, []⟩ }
    let s := start.run [.load [] [], .recordBlocked ads, .recordDirect t, .persist, .persist]
    let c := ((Classifier.ofLocations locations).load [] [] s.disk).classifier
    (∀ l, s.classifier.isChanged l = false) ∧
      (∀ n, s.classifier.transient.isLive (.int 0) n = false) ∧
      ofString "ads.net" ∈ s.classifier.blocked ∧ ofString "ads.net" ∉ c.blocked ∧
      (∀ n, n ∈ c.direct ↔ n ∈ s.classifier.direct) ∧
      ∀ now' u, (c.classify now' u).1 = (s.classifier.classify (.int 0) u).1 := by
  intro ads t locations tree start s c
  have found (k : Kind) : ReadableOrMissing (locations.pathFor k) start.disk := by
    have target (k : Kind) : (locations.pathFor k).target? [] =
        some [octets "lists", octets k.name] := by cases k <;> decide +kernel
    cases k with
    | blocked => exact .inl ⟨octets "example.com", by decide +kernel⟩
    | alwaysBlocked => exact .inl ⟨octets "ads.net", by decide +kernel⟩
    | direct => exact readableOrMissing_of_absent (target .direct) (by decide +kernel)
    | alwaysDirect => exact readableOrMissing_of_absent (target .alwaysDirect) (by decide +kernel)
  have ordinary : ∀ x ∈ [Step.recordBlocked ads, .recordDirect t, .persist, .persist],
      x.Ordinary .sample := by
    simp only [List.forall_mem_cons, List.not_mem_nil, false_imp_iff, implies_true, and_true]
    exact ⟨⟨"ads.net", by decide +kernel⟩, ⟨"www.example.com", by decide +kernel⟩, trivial, trivial⟩
  obtain ⟨blocked, direct, empty, learned, listed⟩ : s.classifier.isChanged .blocked = false ∧
      s.classifier.isChanged .direct = false ∧ s.classifier.transient.expiries = [] ∧
      ofString "ads.net" ∈ s.classifier.blocked ∧
      ofString "ads.net" ∈ s.classifier.alwaysBlocked := by decide +kernel
  have unmarked (l : Learned) : s.classifier.isChanged l = false := by
    cases l with
    | blocked => exact blocked
    | direct => exact direct
  have idle := ExpiringSet.isLive_of_nil empty (.int 0)
  have restart := run_reloaded Host.Encoder.lawful_sample (create_default locations)
    (create_default locations) (by decide) (ownFiles_lists rfl fun k calls => rfl) found
    ⟨.int 0, []⟩ ordinary unmarked
  have reloads : Reloads s.classifier c := restart.2.1
  have answers (now' : Number) : SameAnswers s.classifier (.int 0) c now' :=
    restart.2.2 (.int 0) now' idle
  exact ⟨unmarked, idle, learned, fun h => ((reloads.blocked _).1 h).2 listed, reloads.direct,
    fun now' => (answers now').route⟩

end Session
end Detour
