import Detour.Classifier.Session
import Detour.Proofs.Files.Reading

/-!
# What the operations of a classifier do

Each operation is described once: recording, loading, persisting and looking up as changes of the
classifier, and a step of a session as one of these. Invariants are derived from these descriptions,
not from the operations.

## Main statements

* `Classifier.recordTransientBlocked_ends`, `Classifier.recordBlocked_ends`,
  `Classifier.recordDirect_ends` — how recording ends.
* `Classifier.recordBlocked_cases`, `Classifier.recordDirect_cases` — what recording changes.
* `Classifier.load_told`, `Classifier.load_untold` — loading merges, or stops half-way.
* `Session.step_cases` — what a step does to the classifier.
-/
namespace Detour

open DomainList Files

namespace Classifier

/-- Two classifiers that agree in their sets, apart from the one whose members expire. -/
structure SameLists (c c' : Classifier) : Prop where
  locations : c'.locations = c.locations
  alwaysDirect : c'.alwaysDirect = c.alwaysDirect
  alwaysBlocked : c'.alwaysBlocked = c.alwaysBlocked
  direct : c'.direct = c.direct
  blocked : c'.blocked = c.blocked

theorem SameLists.refl (c : Classifier) : SameLists c c := ⟨rfl, rfl, rfl, rfl, rfl⟩

theorem SameLists.trans {c c' c'' : Classifier} (h : SameLists c c') (g : SameLists c' c'') :
    SameLists c c'' :=
  ⟨g.locations.trans h.locations, g.alwaysDirect.trans h.alwaysDirect,
    g.alwaysBlocked.trans h.alwaysBlocked, g.direct.trans h.direct, g.blocked.trans h.blocked⟩

/-- Two classifiers that differ at most in the set whose members expire. -/
def SameButTransient (c c' : Classifier) : Prop := ∃ transient, c' = { c with transient }

theorem SameButTransient.sameLists {c c' : Classifier} (h : SameButTransient c c') :
    SameLists c c' := by
  obtain ⟨transient, rfl⟩ := h
  exact ⟨rfl, rfl, rfl, rfl, rfl⟩

/-! ## New classifiers -/

theorem create_eq_ok {settings : Settings} {locations : Locations} {c : Classifier} :
    create settings locations = .ok c ↔
      ∃ transient, ExpiringSet.create settings.transientLifetime ExpiringSet.defaultSweep =
        .ok transient ∧ c = { settings, locations, transient } := by
  unfold create
  cases ExpiringSet.create settings.transientLifetime ExpiringSet.defaultSweep with
  | error f => simp [Except.map]
  | ok transient => simp [Except.map, eq_comm]

/-- A new classifier under the default settings: names expire after two minutes. -/
def ofLocations (locations : Locations) : Classifier where
  settings := {}
  locations
  transient := { lifetime := .ofInt 120, sweepEvery := .int 64 }

theorem create_default (locations : Locations) :
    create {} locations = .ok (ofLocations locations) :=
  create_eq_ok.2 ⟨_, by decide +kernel, rfl⟩

/-! ## Recording -/

/-- A target is in no list of the administrator if it has a domain and neither name is listed. -/
theorem isInAlwaysSets_eq_false {c : Classifier} {t : Target} :
    c.isInAlwaysSets t = false ↔ t.domain ≠ [] ∧
      (t.host ∉ c.alwaysDirect ∧ t.domain ∉ c.alwaysDirect) ∧
      (t.host ∉ c.alwaysBlocked ∧ t.domain ∉ c.alwaysBlocked) := by
  simp [isInAlwaysSets, names, DomainSet.contains_eq_false, and_assoc]

theorem learnBlocked_classifier (c : Classifier) (domain : Text) :
    (c.learnBlocked domain).classifier =
      { c with
        blocked := c.blocked.insert domain
        direct := c.direct.erase domain
        blockedChanged := true
        directChanged := c.directChanged || c.direct.contains domain } := by
  unfold learnBlocked
  by_cases h : domain ∈ c.direct
  · simp [h, DomainSet.contains_eq_true.2 h]
  · simp [h, DomainSet.contains_eq_false.2 h, DomainSet.erase_of_not_mem h]

theorem learnDirect_classifier (c : Classifier) (domain : Text) :
    (c.learnDirect domain).classifier =
      { c with
        direct := c.direct.insert domain
        blocked := c.blocked.erase domain
        directChanged := true
        blockedChanged := c.blockedChanged || c.blocked.contains domain } := by
  unfold learnDirect
  by_cases h : domain ∈ c.blocked
  · simp [h, DomainSet.contains_eq_true.2 h]
  · simp [h, DomainSet.contains_eq_false.2 h, DomainSet.erase_of_not_mem h]

@[simp] theorem learnBlocked_outcome (c : Classifier) (domain : Text) :
    (c.learnBlocked domain).outcome = some .recorded := by
  unfold learnBlocked
  split <;> rfl

@[simp] theorem learnDirect_outcome (c : Classifier) (domain : Text) :
    (c.learnDirect domain).outcome = some .recorded := by
  unfold learnDirect
  split <;> rfl

@[simp] theorem learnBlocked_events (c : Classifier) (domain : Text) :
    (c.learnBlocked domain).events = [] := by
  unfold learnBlocked
  split <;> rfl

@[simp] theorem learnDirect_events (c : Classifier) (domain : Text) :
    (c.learnDirect domain).events = [] := by
  unfold learnDirect
  split <;> rfl

/-- The event that goes out when the time of a target starts to run. -/
def blockEvent (c : Classifier) (now : Moment) (t : Target) : Event :=
  ⟨t.domain, t.hostPort, now.timestamp, .number (.float c.transient.lifetime)⟩

/-- How blocking a target for some time ends: it is refused, the time of expiry cannot be told, or
the time is running then, which is announced if it was not before. -/
inductive TransientRecorded (c : Classifier) (now : Moment) (t : Target) (r : Recorded) : Prop
  | refused (outcome : r.outcome = some .notRecorded) (classifier : r.classifier = c)
      (events : r.events = [])
  | untold (outcome : r.outcome = none) (classifier : r.classifier = c) (events : r.events = [])
  | timed {new : Bool} {transient : ExpiringSet} (unlisted : c.isAlwaysDirect t = false)
      (named : t.hostIsAddress = false)
      (added : c.transient.add now.seconds t.domain = some (new, transient))
      (outcome : r.outcome = some .recordedTransient)
      (classifier : r.classifier = { c with transient })
      (events : r.events = if new then [c.blockEvent now t] else [])

theorem recordTransientBlocked_ends (c : Classifier) (now : Moment) (t : Target) :
    TransientRecorded c now t (c.recordTransientBlocked now t) := by
  unfold recordTransientBlocked
  split
  · exact .refused rfl rfl rfl
  · next listed =>
    rw [Bool.not_eq_true, Bool.or_eq_false_iff] at listed
    split
    · exact .untold rfl rfl rfl
    · next added => exact .timed listed.1 listed.2 added rfl rfl rfl
    · next added => exact .timed listed.1 listed.2 added rfl rfl rfl

theorem recordTransientBlocked_sameButTransient (c : Classifier) (now : Moment) (t : Target) :
    SameButTransient c (c.recordTransientBlocked now t).classifier := by
  cases c.recordTransientBlocked_ends now t with
  | refused _ classifier => exact ⟨c.transient, classifier⟩
  | untold _ classifier => exact ⟨c.transient, classifier⟩
  | timed _ _ _ _ classifier => exact ⟨_, classifier⟩

/-- How recording a target that could not be reached ends: its time runs if learned-blocked names
are not updated; otherwise it is refused, known, or learned. -/
inductive BlockedRecorded (c : Classifier) (now : Moment) (t : Target) (r : Recorded) : Prop
  | timed (off : c.settings.updateBlocked = false) (result : r = c.recordTransientBlocked now t)
  | refused (outcome : r.outcome = some .notRecorded) (classifier : r.classifier = c)
      (events : r.events = [])
  | known (unlisted : c.isAlwaysDirect t = false) (known : t.domain ∈ c.blocked)
      (outcome : r.outcome = some .alreadyRecorded) (classifier : r.classifier = c)
      (events : r.events = [])
  | learned (update : c.settings.updateBlocked = true) (unlisted : c.isAlwaysDirect t = false)
      (named : t.hostIsAddress = false) (new : t.domain ∉ c.blocked)
      (result : r = c.learnBlocked t.domain)

theorem recordBlocked_ends (c : Classifier) (now : Moment) (t : Target) :
    BlockedRecorded c now t (c.recordBlocked now t) := by
  unfold recordBlocked
  split
  · next off => exact .timed (by simpa using off) rfl
  · next update =>
    split
    · exact .refused rfl rfl rfl
    · next listed =>
      rw [Bool.not_eq_true, Bool.or_eq_false_iff] at listed
      split
      · next known => exact .known listed.1 known rfl rfl rfl
      · next new => exact .learned (by simpa using update) listed.1 listed.2 new rfl

/-- How recording a target that was reached ends: it is refused, known, or learned. -/
inductive DirectRecorded (c : Classifier) (t : Target) (r : Recorded) : Prop
  | refused (outcome : r.outcome = some .notRecorded) (classifier : r.classifier = c)
      (events : r.events = [])
  | known (unlisted : c.isInAlwaysSets t = false) (known : t.domain ∈ c.direct)
      (outcome : r.outcome = some .alreadyRecorded) (classifier : r.classifier = c)
      (events : r.events = [])
  | learned (update : c.settings.updateDirect = true) (unlisted : c.isInAlwaysSets t = false)
      (named : t.hostIsAddress = false) (new : t.domain ∉ c.direct)
      (result : r = c.learnDirect t.domain)

theorem recordDirect_ends (c : Classifier) (t : Target) :
    DirectRecorded c t (c.recordDirect t) := by
  unfold recordDirect
  split
  · exact .refused rfl rfl rfl
  · next update =>
    split
    · exact .refused rfl rfl rfl
    · next listed =>
      rw [Bool.not_eq_true, Bool.or_eq_false_iff] at listed
      split
      · next known => exact .known listed.1 known rfl rfl rfl
      · next new => exact .learned (by simpa using update) listed.1 listed.2 new rfl

/-- A blocked outcome changes the expiring set at most, or is learned. -/
theorem recordBlocked_cases (c : Classifier) (now : Moment) (t : Target) :
    SameButTransient c (c.recordBlocked now t).classifier ∨
    (c.settings.updateBlocked = true ∧ c.isAlwaysDirect t = false ∧ t.hostIsAddress = false ∧
      t.domain ∉ c.blocked ∧ c.recordBlocked now t = c.learnBlocked t.domain) := by
  cases c.recordBlocked_ends now t with
  | timed _ result => exact .inl (result ▸ c.recordTransientBlocked_sameButTransient now t)
  | refused _ classifier => exact .inl ⟨c.transient, classifier⟩
  | known _ _ _ classifier => exact .inl ⟨c.transient, classifier⟩
  | learned update unlisted named new result => exact .inr ⟨update, unlisted, named, new, result⟩

/-- A direct outcome changes nothing, or is learned. -/
theorem recordDirect_cases (c : Classifier) (t : Target) :
    (c.recordDirect t).classifier = c ∨
    (c.settings.updateDirect = true ∧ c.isInAlwaysSets t = false ∧ t.hostIsAddress = false ∧
      t.domain ∉ c.direct ∧ c.recordDirect t = c.learnDirect t.domain) := by
  cases c.recordDirect_ends t with
  | refused _ classifier => exact .inl classifier
  | known _ _ _ classifier => exact .inl classifier
  | learned update unlisted named new result => exact .inr ⟨update, unlisted, named, new, result⟩

/-! ## Looking up -/

theorem lookupBlocked_sameButTransient (c : Classifier) (now : Number) (name : Text) :
    SameButTransient c (c.lookupBlocked now name).2 := by
  unfold lookupBlocked
  split
  · exact ⟨c.transient, rfl⟩
  · split
    · exact ⟨c.transient, rfl⟩
    · split
      · exact ⟨c.transient, rfl⟩
      · exact ⟨_, rfl⟩

/-- A name counts as blocked unless it is always-direct, if it is listed as always-blocked, live
among the names that expire, or learned-blocked. -/
def CountsBlocked (c : Classifier) (now : Number) (name : Text) : Prop :=
  name ∉ c.alwaysDirect ∧
    (name ∈ c.alwaysBlocked ∨ c.transient.isLive now name = true ∨ name ∈ c.blocked)

instance (c : Classifier) (now : Number) (name : Text) : Decidable (c.CountsBlocked now name) :=
  inferInstanceAs (Decidable (_ ∧ _))

/-- A name counts as direct if it is always-direct, or learned-direct and not always-blocked. -/
def CountsDirect (c : Classifier) (name : Text) : Prop :=
  name ∈ c.alwaysDirect ∨ (name ∉ c.alwaysBlocked ∧ name ∈ c.direct)

instance (c : Classifier) (name : Text) : Decidable (c.CountsDirect name) :=
  inferInstanceAs (Decidable (_ ∨ _))

theorem lookupBlocked_fst {c : Classifier} {name : Text} (h : hasPort name = false)
    (now : Number) : (c.lookupBlocked now name).1 = .ok (decide (c.CountsBlocked now name)) := by
  unfold lookupBlocked
  by_cases direct : name ∈ c.alwaysDirect
  · simp [h, direct, CountsBlocked]
  · by_cases blocked : name ∈ c.alwaysBlocked
    · simp [h, direct, blocked, CountsBlocked]
    · simp [h, direct, blocked, CountsBlocked, DomainSet.contains]

theorem lookupDirect_eq {c : Classifier} {name : Text} (h : hasPort name = false) :
    c.lookupDirect name = .ok (decide (c.CountsDirect name)) := by
  unfold lookupDirect
  by_cases direct : name ∈ c.alwaysDirect
  · simp [h, direct, CountsDirect]
  · by_cases blocked : name ∈ c.alwaysBlocked
    · simp [h, direct, blocked, CountsDirect]
    · simp [h, direct, blocked, CountsDirect, DomainSet.contains]

/-- What looking up a name says, be there a port or not. -/
theorem lookupBlocked_answer (c : Classifier) (now : Number) (name : Text) :
    (c.lookupBlocked now name).1 =
      if hasPort name then .error (.port .blocked name)
      else .ok (decide (c.CountsBlocked now name)) := by
  by_cases port : hasPort name = true
  · simp [lookupBlocked, port]
  · rw [if_neg port]
    exact lookupBlocked_fst (Bool.eq_false_iff.2 port) now

theorem lookupDirect_answer (c : Classifier) (name : Text) :
    c.lookupDirect name =
      if hasPort name then .error (.port .direct name) else .ok (decide (c.CountsDirect name)) := by
  by_cases port : hasPort name = true
  · simp [lookupDirect, port]
  · rw [if_neg port]
    exact lookupDirect_eq (Bool.eq_false_iff.2 port)

/-- Looking a name up does not change what counts as blocked. -/
theorem countsBlocked_lookupBlocked (c : Classifier) (now : Number) (name other : Text) :
    (c.lookupBlocked now name).2.CountsBlocked now other ↔ c.CountsBlocked now other := by
  unfold lookupBlocked
  split
  · rfl
  · split
    · rfl
    · split
      · rfl
      · simp [CountsBlocked]

theorem SameButTransient.trans {c c' c'' : Classifier} (h : SameButTransient c c')
    (g : SameButTransient c' c'') : SameButTransient c c'' := by
  obtain ⟨a, rfl⟩ := h
  obtain ⟨b, rfl⟩ := g
  exact ⟨b, rfl⟩

theorem isBlocked_sameButTransient (c : Classifier) (now : Number) (t : Target) :
    SameButTransient c (c.isBlocked now t).2 := by
  have host := c.lookupBlocked_sameButTransient now t.host
  unfold isBlocked
  split
  · exact ⟨c.transient, rfl⟩
  · split
    · next c' h =>
      rw [h] at host
      exact host.trans (c'.lookupBlocked_sameButTransient now t.domain)
    · exact host

/-- Whether a target is blocked follows from what looking up its two names says. -/
theorem isBlocked_answer (c : Classifier) (now : Number) (t : Target) :
    (c.isBlocked now t).1 =
      if t.domain = [] then .ok false
      else match (c.lookupBlocked now t.host).1 with
        | .ok false => (c.lookupBlocked now t.domain).1
        | r => r := by
  have second : ((c.lookupBlocked now t.host).2.lookupBlocked now t.domain).1 =
      (c.lookupBlocked now t.domain).1 := by
    simp only [lookupBlocked_answer, countsBlocked_lookupBlocked]
  unfold isBlocked
  split
  · rfl
  · split
    · next c' first =>
      rw [first] at second
      rw [first, second]
    · next other =>
      split
      · next first => exact (other _ (Prod.ext first rfl)).elim
      · rfl

theorem classify_answer (c : Classifier) (now : Number) (t : Target) :
    (c.classify now t).1 = (c.isBlocked now t).1.map routeOf := by
  unfold classify
  split <;> next h => rw [h]; rfl

theorem classify_snd (c : Classifier) (now : Number) (t : Target) :
    (c.classify now t).2 = (c.isBlocked now t).2 := by
  unfold classify
  split <;> next h => rw [h]

/-! ## Loading -/

@[simp] theorem mem_blocked_learnAll {c : Classifier} {blocked direct : List Text} {n : Text} :
    n ∈ (c.learnAll blocked direct).blocked ↔ n ∈ c.blocked ∨ n ∈ blocked := by
  simp [learnAll]

@[simp] theorem mem_direct_learnAll {c : Classifier} {blocked direct : List Text} {n : Text} :
    n ∈ (c.learnAll blocked direct).direct ↔ n ∈ c.direct ∨ n ∈ direct := by
  simp [learnAll]

theorem mem_blocked_dropLearned {c : Classifier} {names : DomainSet} {n : Text} :
    n ∈ (c.dropLearned names).blocked ↔ n ∈ c.blocked ∧ n ∉ names := by
  simp [dropLearned, DomainSet.mem_def (s := names)]

theorem mem_direct_dropLearned {c : Classifier} {names : DomainSet} {n : Text} :
    n ∈ (c.dropLearned names).direct ↔ n ∈ c.direct ∧ n ∉ names := by
  simp [dropLearned, DomainSet.mem_def (s := names)]

theorem blocked_separate (c : Classifier) : c.separate.blocked = c.blocked := rfl

theorem mem_direct_separate {c : Classifier} {n : Text} :
    n ∈ c.separate.direct ↔ n ∈ c.direct ∧ n ∉ c.blocked := by
  simp [separate, DomainSet.mem_def (s := c.blocked)]

section Merging

variable {c : Classifier} {alwaysBlocked alwaysDirect : List Text} {n : Text}

@[simp] theorem mem_alwaysBlocked_merge :
    n ∈ (c.merge alwaysBlocked alwaysDirect).alwaysBlocked ↔ n ∈ alwaysBlocked := by
  simp [merge]

@[simp] theorem mem_alwaysDirect_merge :
    n ∈ (c.merge alwaysBlocked alwaysDirect).alwaysDirect ↔
      n ∈ alwaysDirect ∧ n ∉ alwaysBlocked := by
  simp only [merge, DomainSet.mem_without, ← DomainSet.mem_def, DomainSet.mem_ofList]

@[simp] theorem mem_blocked_merge :
    n ∈ (c.merge alwaysBlocked alwaysDirect).blocked ↔
      n ∈ c.blocked ∧ n ∉ alwaysDirect ∧ n ∉ alwaysBlocked := by
  simp only [merge, blocked_separate, mem_blocked_dropLearned, DomainSet.mem_ofList, and_assoc]

@[simp] theorem mem_direct_merge :
    n ∈ (c.merge alwaysBlocked alwaysDirect).direct ↔
      (n ∈ c.direct ∧ n ∉ alwaysDirect ∧ n ∉ alwaysBlocked) ∧
        n ∉ (c.merge alwaysBlocked alwaysDirect).blocked := by
  simp only [merge, blocked_separate, mem_direct_separate, mem_direct_dropLearned,
    DomainSet.mem_ofList, and_assoc]

theorem transient_merge : (c.merge alwaysBlocked alwaysDirect).transient = c.transient := by
  simp only [merge, separate, dropLearned]

end Merging

/-- The learned lists lose names at most, and the lists that do are marked in addition. -/
structure Loses (c c' : Classifier) : Prop where
  kept : ∀ l, ∀ n ∈ c'.learned l, n ∈ c.learned l
  changed : ∀ l, c'.isChanged l = true ↔
    c.isChanged l = true ∨ ∃ n ∈ c.learned l, n ∉ c'.learned l

theorem Loses.trans {c c' c'' : Classifier} (h : Loses c c') (g : Loses c' c'') :
    Loses c c'' := by
  refine ⟨fun l n hn => h.kept l n (g.kept l n hn), fun l => ?_⟩
  rw [g.changed, h.changed]
  constructor
  · rintro ((marked | ⟨n, there, lost⟩) | ⟨n, there, lost⟩)
    · exact .inl marked
    · exact .inr ⟨n, there, fun hn => lost (g.kept l n hn)⟩
    · exact .inr ⟨n, h.kept l n there, lost⟩
  · rintro (marked | ⟨n, there, lost⟩)
    · exact .inl (.inl marked)
    · by_cases hn : n ∈ c'.learned l
      · exact .inr ⟨n, hn, lost⟩
      · exact .inl (.inr ⟨n, there, hn⟩)

/-- What is said of a removal is that something was removed. -/
theorem marks_removal {s : DomainSet} {names : List Text} {changed : Bool} :
    (changed || !(s.removeAll names).1.isEmpty) = true ↔
      changed = true ∨ ∃ n ∈ s, n ∉ (s.removeAll names).2 := by
  rw [Bool.or_eq_true, Bool.not_eq_true', ← Bool.not_eq_true, DomainSet.removeAll_fst_isEmpty]
  simp only [DomainSet.mem_removeAll_snd]
  grind

theorem dropLearned_loses (c : Classifier) (names : DomainSet) :
    Loses c (c.dropLearned names) := by
  refine ⟨fun l n hn => ?_, fun l => ?_⟩
  · cases l with
    | blocked => exact (mem_blocked_dropLearned.1 hn).1
    | direct => exact (mem_direct_dropLearned.1 hn).1
  · cases l <;> exact marks_removal

theorem separate_loses (c : Classifier) : Loses c c.separate := by
  refine ⟨fun l n hn => ?_, fun l => ?_⟩
  · cases l with
    | blocked => exact hn
    | direct => exact (mem_direct_separate.1 hn).1
  · cases l with
    | blocked =>
      refine ⟨.inl, fun h => h.resolve_right ?_⟩
      rintro ⟨n, there, lost⟩
      exact lost there
    | direct => exact marks_removal

theorem merge_loses (c : Classifier) (alwaysBlocked alwaysDirect : List Text) :
    Loses c (c.merge alwaysBlocked alwaysDirect) := by
  have dropped := (c.dropLearned_loses (.ofList alwaysDirect)).trans
    (dropLearned_loses _ (.ofList alwaysBlocked))
  have separated := dropped.trans (separate_loses _)
  refine ⟨fun l => ?_, fun l => ?_⟩
  · cases l with
    | blocked => exact separated.kept .blocked
    | direct => exact separated.kept .direct
  · cases l with
    | blocked => exact separated.changed .blocked
    | direct => exact separated.changed .direct

/-- Loading can only go through if the disk can tell of each list whether there is a file. -/
def TellsLists (c : Classifier) (d : Disk) : Prop :=
  ∀ k, ∃ there, d.exists? (c.locations.pathFor k) = .ok there

/-- The names that reading a list gives; a list that cannot be read has none. -/
def listNames (c : Classifier) (k : Kind) (d : Disk) : List Text :=
  (DomainList.load (c.locations.pathFor k) d).1.toOption.getD []

/-- A list is read if the disk can tell whether it is there; all that is logged then is errors. -/
theorem readList_told {c : Classifier} {k : Kind} {d : Disk} {there : Bool}
    (h : d.exists? (c.locations.pathFor k) = .ok there) :
    ∃ messages, (∀ m ∈ messages, m.level = .error) ∧ c.readList k d =
      (.ok (c.listNames k d), (DomainList.load (c.locations.pathFor k) d).2, messages) := by
  have cases := DomainList.load_cases (c.locations.pathFor k) d
  simp only [readList, listNames]
  cases hl : DomainList.load (c.locations.pathFor k) d with
  | mk r d' =>
    rw [hl] at cases
    cases r with
    | ok names => exact ⟨[], by simp, rfl⟩
    | error f =>
      have reported : f.isReported = true := by
        rcases cases with ⟨e, he, -⟩ | ⟨-, hn⟩ | ⟨-, _, -, hn⟩ | ⟨-, e, -, he⟩
        · rw [h] at he
          cases he
        · cases hn
        · cases hn
        · cases he
          rfl
      simp only [reported, if_true]
      refine ⟨_, fun m hm => ?_, rfl⟩
      rw [List.mem_singleton.1 hm]
      rfl

theorem readList_untold {c : Classifier} {k : Kind} {d : Disk} {e : Files.Fault}
    (h : d.exists? (c.locations.pathFor k) = .error e) :
    c.readList k d = (.error (.escaped e), d, []) := by
  simp [readList, DomainList.load, h, DomainList.Fault.isReported]

theorem told_of_readList {c : Classifier} {k : Kind} {d d' : Disk} {names messages}
    (h : c.readList k d = (.ok names, d', messages)) :
    (∃ there, d.exists? (c.locations.pathFor k) = .ok there) ∧ d.SameFiles d' := by
  cases he : d.exists? (c.locations.pathFor k) with
  | error e =>
    rw [readList_untold he] at h
    cases h
  | ok there =>
    obtain ⟨_, -, hr⟩ := readList_told he
    rw [hr] at h
    cases h
    exact ⟨⟨there, rfl⟩, DomainList.load_sameFiles _ d⟩

theorem escaped_of_readList {c : Classifier} {k : Kind} {d d' : Disk} {f messages}
    (h : c.readList k d = (.error f, d', messages)) : ∃ e, f = .escaped e := by
  cases he : d.exists? (c.locations.pathFor k) with
  | error e =>
    rw [readList_untold he] at h
    cases h
    exact ⟨e, rfl⟩
  | ok there =>
    obtain ⟨_, -, hr⟩ := readList_told he
    rw [hr] at h
    cases h

/-- What is learned does not matter for reading a list. -/
theorem readList_learnAll (c : Classifier) (blocked direct : List Text) (k : Kind) (d : Disk) :
    (c.learnAll blocked direct).readList k d = c.readList k d := rfl

/-- The disk at which loading reads a list: those before it have been read. -/
def diskAt (c : Classifier) (k : Kind) (d : Disk) : Disk :=
  (Kind.all.takeWhile (· ≠ k)).foldl (fun d k => (DomainList.load (c.locations.pathFor k) d).2) d

/-- What loading reads of a list. -/
def readings (c : Classifier) (d : Disk) (k : Kind) : List Text := c.listNames k (c.diskAt k d)

theorem diskAt_sameFiles (c : Classifier) (k : Kind) (d : Disk) : d.SameFiles (c.diskAt k d) := by
  unfold diskAt
  generalize Kind.all.takeWhile (· ≠ k) = before
  induction before generalizing d with
  | nil => exact .refl d
  | cons k r ih => exact (DomainList.load_sameFiles _ d).trans (ih _)

/-- If the disk can tell of each list whether there is a file, the lists are read one after the
other and merged. The failed reads are logged first, then the conflicts, and the sizes at last. -/
theorem load_told {c : Classifier} {d : Disk} (told : c.TellsLists d)
    (seedBlocked seedDirect : List Text) :
    ∃ failed, (∀ m ∈ failed, m.level = .error) ∧
      d.SameFiles (c.load seedBlocked seedDirect d).disk ∧
      (c.load seedBlocked seedDirect d).result = .ok () ∧
      (c.load seedBlocked seedDirect d).classifier =
        ((c.learnAll seedBlocked seedDirect).learnAll
          (c.readings d .blocked) (c.readings d .direct)).merge
          (c.readings d .alwaysBlocked) (c.readings d .alwaysDirect) ∧
      (c.load seedBlocked seedDirect d).messages = failed ++
        mergeMessages (c.readings d .alwaysBlocked) (c.readings d .alwaysDirect) ++
        [(c.load seedBlocked seedDirect d).classifier.loadedMessage] := by
  have reads (k : Kind) : ∃ messages, (∀ m ∈ messages, m.level = .error) ∧
      c.readList k (c.diskAt k d) = (.ok (c.readings d k),
        (DomainList.load (c.locations.pathFor k) (c.diskAt k d)).2, messages) := by
    obtain ⟨there, h⟩ := told k
    rw [← (c.diskAt_sameFiles k d).exists?] at h
    exact readList_told h
  obtain ⟨m₁, e₁, h₁⟩ := reads .blocked
  obtain ⟨m₂, e₂, h₂⟩ := reads .direct
  obtain ⟨m₃, e₃, h₃⟩ := reads .alwaysBlocked
  obtain ⟨m₄, e₄, h₄⟩ := reads .alwaysDirect
  -- each list is read from the disk that reading the one before it has left
  have next₁ : c.diskAt .blocked d = d := rfl
  have next₂ : (DomainList.load (c.locations.pathFor .blocked) d).2 = c.diskAt .direct d := rfl
  have next₃ : (DomainList.load (c.locations.pathFor .direct) (c.diskAt .direct d)).2 =
      c.diskAt .alwaysBlocked d := rfl
  have next₄ : (DomainList.load (c.locations.pathFor .alwaysBlocked)
      (c.diskAt .alwaysBlocked d)).2 = c.diskAt .alwaysDirect d := rfl
  have last : d.SameFiles (DomainList.load (c.locations.pathFor .alwaysDirect)
      (c.diskAt .alwaysDirect d)).2 :=
    (c.diskAt_sameFiles .alwaysDirect d).trans (DomainList.load_sameFiles _ _)
  rw [next₁, next₂] at h₁
  rw [next₃] at h₂
  rw [next₄] at h₃
  refine ⟨m₁ ++ m₂ ++ m₃ ++ m₄, ?_, ?_⟩
  · grind
  · unfold load
    simp only [readList_learnAll, h₁, h₂, h₃, h₄]
    exact ⟨last, trivial, rfl, trivial⟩

/-- If the disk cannot tell of some list whether there is a file, loading fails with the learned
names of some lists taken in and nothing else done. -/
theorem load_untold {c : Classifier} {d : Disk} (untold : ¬ c.TellsLists d)
    (seedBlocked seedDirect : List Text) :
    ∃ e blocked direct, (c.load seedBlocked seedDirect d).result = .error (.escaped e) ∧
      (c.load seedBlocked seedDirect d).classifier =
        (c.learnAll seedBlocked seedDirect).learnAll blocked direct := by
  unfold load
  simp only [readList_learnAll]
  split
  · next h₁ =>
    obtain ⟨e, rfl⟩ := escaped_of_readList h₁
    exact ⟨e, [], [], rfl, rfl⟩
  next blocked d₁ m₁ h₁ =>
  obtain ⟨t₁, s₁⟩ := told_of_readList h₁
  split
  · next h₂ =>
    obtain ⟨e, rfl⟩ := escaped_of_readList h₂
    exact ⟨e, blocked, [], rfl, rfl⟩
  next direct d₂ m₂ h₂ =>
  obtain ⟨t₂, s₂⟩ := told_of_readList h₂
  split
  · next h₃ =>
    obtain ⟨e, rfl⟩ := escaped_of_readList h₃
    exact ⟨e, blocked, direct, rfl, rfl⟩
  next alwaysBlocked d₃ m₃ h₃ =>
  obtain ⟨t₃, s₃⟩ := told_of_readList h₃
  split
  · next h₄ =>
    obtain ⟨e, rfl⟩ := escaped_of_readList h₄
    exact ⟨e, blocked, direct, rfl, rfl⟩
  next alwaysDirect d₄ m₄ h₄ =>
  -- all four lists were read, so the disk could tell
  obtain ⟨t₄, -⟩ := told_of_readList h₄
  rw [s₁.exists?] at t₂
  rw [(s₁.trans s₂).exists?] at t₃
  rw [((s₁.trans s₂).trans s₃).exists?] at t₄
  exact absurd (fun k => by cases k <;> assumption) untold

/-- Loading does not touch the names that expire. -/
theorem transient_load (c : Classifier) (seedBlocked seedDirect : List Text) (d : Disk) :
    (c.load seedBlocked seedDirect d).classifier.transient = c.transient := by
  by_cases told : c.TellsLists d
  · obtain ⟨_, -, -, -, merged, -⟩ := load_told told seedBlocked seedDirect
    rw [merged, transient_merge]
    rfl
  · obtain ⟨_, _, _, -, stopped⟩ := load_untold told seedBlocked seedDirect
    rw [stopped]
    rfl

/-! ## Persisting -/

@[simp] theorem learned_mark (c : Classifier) (changed : Bool) (l m : Learned) :
    (c.mark changed l).learned m = c.learned m := by
  cases l <;> cases m <;> rfl

theorem isChanged_mark_of_ne (c : Classifier) (changed : Bool) {l m : Learned} (h : m ≠ l) :
    (c.mark changed l).isChanged m = c.isChanged m := by
  cases l <;> cases m <;> first | exact absurd rfl h | rfl

/-- Taking a mark away and putting it back leaves a marked list as it was. -/
theorem mark_true_mark_false {c : Classifier} {l : Learned} (h : c.isChanged l = true) :
    (c.mark false l).mark true l = c := by
  cases l <;> simp only [isChanged] at h <;> simp only [mark, ← h]

theorem sameLists_mark (c : Classifier) (changed : Bool) (l : Learned) :
    SameLists c (c.mark changed l) := by
  cases l <;> exact ⟨rfl, rfl, rfl, rfl, rfl⟩

/-- How a list is stored if that is needed: one that was not changed is left alone, and a changed
one keeps its mark only if storing it is reported to have failed. -/
inductive ListStored (c : Classifier) (l : Learned) (d : Disk) (path : Path) (r : Listed Bool) :
    Prop
  | unchanged (unmarked : c.isChanged l = false) (result : r.result = .ok false)
      (classifier : r.classifier = c) (disk : r.disk = d)
  | stored (marked : c.isChanged l = true)
      (disk : r.disk = (DomainList.store path (c.learned l).names d).2)
      (done : (DomainList.store path (c.learned l).names d).1 = .ok ())
      (result : r.result = .ok true) (classifier : r.classifier = c.mark false l)
  | reported {f : DomainList.Fault} (marked : c.isChanged l = true)
      (disk : r.disk = (DomainList.store path (c.learned l).names d).2)
      (failed : (DomainList.store path (c.learned l).names d).1 = .error f)
      (told : f.isReported = true) (result : r.result = .ok false) (classifier : r.classifier = c)
  | escaped {f : DomainList.Fault} (marked : c.isChanged l = true)
      (disk : r.disk = (DomainList.store path (c.learned l).names d).2)
      (failed : (DomainList.store path (c.learned l).names d).1 = .error f)
      (untold : f.isReported = false) (result : r.result = .error f)
      (classifier : r.classifier = c.mark false l)

theorem storeList_cases (c : Classifier) (l : Learned) (d : Disk) :
    ListStored c l d (c.locations.pathFor l.kind) (c.storeList l d) := by
  unfold storeList
  by_cases marked : c.isChanged l = true
  · simp only [marked, Bool.not_true, Bool.false_eq_true, if_false, learned_mark]
    cases hs : DomainList.store (c.locations.pathFor l.kind) (c.learned l).names d with
    | mk r d' =>
      cases r with
      | ok u => exact .stored marked (by rw [hs]) (by rw [hs]) rfl rfl
      | error f =>
        cases told : f.isReported with
        | true =>
          refine .reported marked ?_ (f := f) (by rw [hs]) told ?_ ?_
          · simp [hs, told]
          · simp [told]
          · simp [told, mark_true_mark_false marked]
        | false =>
          refine .escaped marked ?_ (f := f) (by rw [hs]) told ?_ ?_
          · simp [hs, told]
          · simp [told]
          · simp [told]
  · rw [Bool.not_eq_true] at marked
    rw [marked]
    exact .unchanged marked rfl rfl rfl

/-- A list is not written, or it is stored under its path. -/
theorem storeList_disk (c : Classifier) (l : Learned) (d : Disk) :
    (c.storeList l d).disk = d ∨ (c.storeList l d).disk =
      (DomainList.store (c.locations.pathFor l.kind) (c.learned l).names d).2 := by
  cases c.storeList_cases l d with
  | unchanged _ _ _ disk => exact .inl disk
  | stored _ disk => exact .inr disk
  | reported _ disk => exact .inr disk
  | escaped _ disk => exact .inr disk

/-- What storing a single list keeps is kept when that is updated at all. -/
theorem persistList_preserves {P : Classifier → Disk → Prop} {l : Learned}
    (store : ∀ c d, P c d → P (c.storeList l d).classifier (c.storeList l d).disk)
    {c : Classifier} {d : Disk} (h : P c d) (written : List Kind) :
    P (c.persistList l written d).classifier (c.persistList l written d).disk := by
  have stored := store c d h
  unfold persistList
  split
  · exact h
  · split <;> next hs => simpa only [hs] using stored

/-- Persisting keeps what storing a single list keeps. -/
theorem persist_preserves {P : Classifier → Disk → Prop}
    (store : ∀ c d l, P c d → P (c.storeList l d).classifier (c.storeList l d).disk)
    {c : Classifier} {d : Disk} (h : P c d) :
    P (c.persist d).classifier (c.persist d).disk := by
  have first := persistList_preserves (l := .blocked) (fun c d => store c d .blocked) h []
  unfold persist
  split
  · next hb => simpa only [hb] using first
  · next written c' d' m hb =>
    rw [hb] at first
    exact persistList_preserves (fun c d => store c d .direct) first written

theorem storeList_sameLists (c : Classifier) (l : Learned) (d : Disk) :
    SameLists c (c.storeList l d).classifier := by
  have marked := c.sameLists_mark false l
  cases c.storeList_cases l d with
  | unchanged _ _ classifier =>
    rw [classifier]
    exact .refl c
  | stored _ _ _ _ classifier => rwa [classifier]
  | reported _ _ _ _ _ classifier =>
    rw [classifier]
    exact .refl c
  | escaped _ _ _ _ _ classifier => rwa [classifier]

theorem persist_sameLists (c : Classifier) (d : Disk) : SameLists c (c.persist d).classifier :=
  persist_preserves (P := fun c' _ => SameLists c c')
    (fun c' d' l same => same.trans (c'.storeList_sameLists l d')) (.refl c)

end Classifier

/-! ## Steps -/

namespace Session

/-- The seconds for which a domain is blocked if that is not learned. -/
def lifetime (s : Session) : Number := .float s.classifier.transient.lifetime

def Step.isLoad : Step → Bool
  | .load .. => true
  | _ => false

/-- What a step changes: it loads, persists, learns an outcome or takes new settings; any other step
changes the expiring set at most. -/
inductive Effect (s s' : Session) : Step → Prop
  | load {blocked direct : List Text}
      (classifier : s'.classifier = (s.classifier.load blocked direct s.disk).classifier)
      (disk : s'.disk = (s.classifier.load blocked direct s.disk).disk) :
      Effect s s' (.load blocked direct)
  | persist (classifier : s'.classifier = (s.classifier.persist s.disk).classifier)
      (disk : s'.disk = (s.classifier.persist s.disk).disk) : Effect s s' .persist
  | learnBlocked {t : Target} (update : s.classifier.settings.updateBlocked = true)
      (unlisted : s.classifier.isAlwaysDirect t = false) (named : t.hostIsAddress = false)
      (new : t.domain ∉ s.classifier.blocked)
      (classifier : s'.classifier = (s.classifier.learnBlocked t.domain).classifier)
      (disk : s'.disk = s.disk) : Effect s s' (.recordBlocked t)
  | learnDirect {t : Target} (update : s.classifier.settings.updateDirect = true)
      (unlisted : s.classifier.isInAlwaysSets t = false) (named : t.hostIsAddress = false)
      (new : t.domain ∉ s.classifier.direct)
      (classifier : s'.classifier = (s.classifier.learnDirect t.domain).classifier)
      (disk : s'.disk = s.disk) : Effect s s' (.recordDirect t)
  | change {settings : Settings} (classifier : s'.classifier = { s.classifier with settings })
      (disk : s'.disk = s.disk) : Effect s s' (.change settings)
  | other {x : Step} (noLoad : x.isLoad = false)
      (classifier : s.classifier.SameButTransient s'.classifier) (disk : s'.disk = s.disk) :
      Effect s s' x

theorem step_cases (s : Session) (x : Step) : Effect s (s.step x).2 x := by
  have same : s.classifier.SameButTransient s.classifier := ⟨_, rfl⟩
  cases x with
  | load blocked direct => exact .load rfl rfl
  | persist => exact .persist rfl rfl
  | recordBlocked t =>
    rcases s.classifier.recordBlocked_cases s.now t with h | ⟨update, unlisted, named, new, h⟩
    · exact .other rfl h rfl
    · exact .learnBlocked update unlisted named new (by simp only [step, recorded, h]) rfl
  | recordDirect t =>
    rcases s.classifier.recordDirect_cases t with h | ⟨update, unlisted, named, new, h⟩
    · refine .other rfl ?_ rfl
      simpa only [step, recorded, h] using same
    · exact .learnDirect update unlisted named new (by simp only [step, recorded, h]) rfl
  | recordTransientBlocked t =>
    exact .other rfl (s.classifier.recordTransientBlocked_sameButTransient s.now t) rfl
  | blockTransiently name =>
    simp only [step, blockTransiently]
    split
    · exact .other rfl same rfl
    · exact .other rfl ⟨_, rfl⟩ rfl
  | query t =>
    refine .other rfl ?_ rfl
    simp only [step, query, Classifier.classify_snd]
    exact (s.classifier.isBlocked_sameButTransient s.now.seconds t).trans
      (Classifier.isBlocked_sameButTransient _ s.now.seconds t)
  | lookup name =>
    exact .other rfl (s.classifier.lookupBlocked_sameButTransient s.now.seconds name) rfl
  | change settings => exact .change rfl rfl
  | setClock seconds => exact .other rfl same rfl

/-- Only loading changes the lists of the administrator. -/
theorem step_alwaysLists {s : Session} {x : Step} (noLoad : x.isLoad = false) :
    (s.step x).2.classifier.alwaysDirect = s.classifier.alwaysDirect ∧
      (s.step x).2.classifier.alwaysBlocked = s.classifier.alwaysBlocked := by
  have kept {c : Classifier} (classifier : (s.step x).2.classifier = c)
      (same : c.alwaysDirect = s.classifier.alwaysDirect ∧
        c.alwaysBlocked = s.classifier.alwaysBlocked) :
      (s.step x).2.classifier.alwaysDirect = s.classifier.alwaysDirect ∧
        (s.step x).2.classifier.alwaysBlocked = s.classifier.alwaysBlocked := by
    rwa [classifier]
  cases s.step_cases x with
  | load => cases noLoad
  | persist classifier =>
    have same := s.classifier.persist_sameLists s.disk
    exact kept classifier ⟨same.alwaysDirect, same.alwaysBlocked⟩
  | learnBlocked _ _ _ _ classifier =>
    rw [Classifier.learnBlocked_classifier] at classifier
    exact kept classifier ⟨rfl, rfl⟩
  | learnDirect _ _ _ _ classifier =>
    rw [Classifier.learnDirect_classifier] at classifier
    exact kept classifier ⟨rfl, rfl⟩
  | change classifier => exact kept classifier ⟨rfl, rfl⟩
  | other _ classifier =>
    exact ⟨classifier.sameLists.alwaysDirect, classifier.sameLists.alwaysBlocked⟩

@[simp] theorem run_nil (s : Session) : s.run [] = s := rfl

@[simp] theorem run_cons (s : Session) (x : Step) (steps : List Step) :
    s.run (x :: steps) = (s.step x).2.run steps := rfl

/-- What allowed steps keep holds after a run of them. -/
theorem run_preserves {P : Session → Prop} {allowed : Step → Prop}
    (step : ∀ s x, P s → allowed x → P (s.step x).2) {s : Session} {steps : List Step} (h : P s)
    (all : ∀ x ∈ steps, allowed x) : P (s.run steps) := by
  induction steps generalizing s with
  | nil => exact h
  | cons x r ih =>
    have first := step s x h (all x List.mem_cons_self)
    exact ih first fun y hy => all y (List.mem_cons_of_mem _ hy)

end Session
end Detour
