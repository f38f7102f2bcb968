import Detour.Proofs.Classifier.Locality

/-!
# The order of outcomes for different domains

Outcomes that come in at one time may be recorded in any order if no two of them are for one domain.
A call depends on the settings, the lists of the administrator and what is known about its domain,
and changes no more than that, apart from the marks on the learned lists, which are only ever set.
So each call of a batch goes as it would if it were made alone.

## Main definitions

* `Session.domains` — the domains of the targets that are recorded.
* `Session.Undisturbed` — each call of a batch goes as if it were made alone.

## Main statements

* `Classifier.recording_same` — a call depends on what is known about its domain.
* `Session.run_undisturbed` — the calls of a batch do not disturb each other.
* `Session.run_perm` — their order does not matter.
-/
namespace Detour

open DomainList ExpiringSet Files Text

namespace Classifier

/-! ## What a call depends on -/

section Same

variable {c c' : Classifier} {now : Number} {name domain : Text}

theorem Agree.isAlwaysDirect_eq (h : Agree now name c c') (t : Target) :
    c'.isAlwaysDirect t = c.isAlwaysDirect t := by
  rw [isAlwaysDirect, isAlwaysDirect, h.alwaysDirect]

theorem Agree.isInAlwaysSets_eq (h : Agree now name c c') (t : Target) :
    c'.isInAlwaysSets t = c.isInAlwaysSets t := by
  rw [isInAlwaysSets, isInAlwaysSets, h.alwaysDirect, h.alwaysBlocked]

/-- Recording for a domain goes the same way in two classifiers, down to what is logged and sent;
afterwards they agree on the domain, and the same marks were set. -/
structure SameRecorded (now : Number) (domain : Text) (c c' : Classifier) (r r' : Recorded) :
    Prop where
  outcome : r'.outcome = r.outcome
  messages : r'.messages = r.messages
  events : r'.events = r.events
  agree : Agree now domain r.classifier r'.classifier
  marks : ∃ marks : Learned → Bool, ∀ l,
    r.classifier.isChanged l = (c.isChanged l || marks l) ∧
      r'.classifier.isChanged l = (c'.isChanged l || marks l)

/-- Two calls that do nothing. -/
theorem Agree.unchanged (h : Agree now domain c c') (outcome : Option Outcome) :
    SameRecorded now domain c c' { outcome, classifier := c } { outcome, classifier := c' } :=
  ⟨rfl, rfl, rfl, h, fun _ => false, fun l => by simp⟩

/-- Two classifiers that agree on a domain still do when it was learned in both. -/
theorem Agree.learns {e e' : Classifier} {l : Learned} (h : Agree now domain c c')
    (learns : c.Learns e l domain) (learns' : c'.Learns e' l domain)
    (same : SameButLearned c e) (same' : SameButLearned c' e') : Agree now domain e e' := by
  obtain ⟨_, _, _, _, rfl⟩ := same
  obtain ⟨_, _, _, _, rfl⟩ := same'
  refine ⟨h.settings, h.alwaysDirect, h.alwaysBlocked, h.lifetime, fun m => ?_, h.expiry⟩
  rw [learns m domain, learns' m domain, if_pos rfl, if_pos rfl]

theorem Agree.learnBlocked (h : Agree now domain c c') :
    SameRecorded now domain c c' (c.learnBlocked domain) (c'.learnBlocked domain) := by
  have known : domain ∈ c'.direct ↔ domain ∈ c.direct := h.learned .direct
  have same : c'.direct.contains domain = c.direct.contains domain := by
    simp [DomainSet.contains, known]
  refine ⟨by simp, ?_, by simp, ?_, fun l => l = .blocked || c.direct.contains domain, ?_⟩
  · simp only [Classifier.learnBlocked, known]
    split <;> rfl
  · exact h.learns (c.learnBlocked_learns domain) (c'.learnBlocked_learns domain)
      (c.learnBlocked_sameButLearned domain) (c'.learnBlocked_sameButLearned domain)
  · intro l
    rw [learnBlocked_classifier, learnBlocked_classifier, same]
    cases l <;> simp [isChanged]

theorem Agree.learnDirect (h : Agree now domain c c') :
    SameRecorded now domain c c' (c.learnDirect domain) (c'.learnDirect domain) := by
  have known : domain ∈ c'.blocked ↔ domain ∈ c.blocked := h.learned .blocked
  have same : c'.blocked.contains domain = c.blocked.contains domain := by
    simp [DomainSet.contains, known]
  refine ⟨by simp, ?_, by simp, ?_, fun l => l = .direct || c.blocked.contains domain, ?_⟩
  · simp only [Classifier.learnDirect, known]
    split <;> rfl
  · exact h.learns (c.learnDirect_learns domain) (c'.learnDirect_learns domain)
      (c.learnDirect_sameButLearned domain) (c'.learnDirect_sameButLearned domain)
  · intro l
    rw [learnDirect_classifier, learnDirect_classifier, same]
    cases l <;> simp [isChanged]

end Same

section Calls

variable {c c' : Classifier} {now : Moment} {t : Target}

theorem recordTransientBlocked_same (h : Agree now.seconds t.domain c c')
    (nodup : c.transient.expiries.keys.Nodup) (nodup' : c'.transient.expiries.keys.Nodup) :
    SameRecorded now.seconds t.domain c c' (c.recordTransientBlocked now t)
      (c'.recordTransientBlocked now t) := by
  unfold recordTransientBlocked
  rw [h.isAlwaysDirect_eq]
  split
  · exact h.unchanged _
  · rcases add_same h.lifetime h.expiry nodup nodup' with
      ⟨untold, untold'⟩ | ⟨new, set, set', added, added', lifetime, expiry⟩
    · simp only [untold, untold']
      exact h.unchanged _
    · have agree : Agree now.seconds t.domain { c with transient := set }
          { c' with transient := set' } := by
        refine ⟨h.settings, h.alwaysDirect, h.alwaysBlocked, lifetime, fun l => ?_, expiry⟩
        cases l
        · exact h.learned .blocked
        · exact h.learned .direct
      have marks (l : Learned) :
          ({ c with transient := set } : Classifier).isChanged l = (c.isChanged l || false) ∧
          ({ c' with transient := set' } : Classifier).isChanged l = (c'.isChanged l || false) := by
        cases l <;> simp [isChanged]
      simp only [added, added', h.lifetime]
      cases new <;> exact ⟨rfl, rfl, rfl, agree, fun _ => false, marks⟩

/-- What comes of recording a target depends on what is known about its domain. -/
theorem recording_same {x : Session.Step} (target : x.target? = some t)
    (h : Agree now.seconds t.domain c c') (nodup : c.transient.expiries.keys.Nodup)
    (nodup' : c'.transient.expiries.keys.Nodup) :
    SameRecorded now.seconds t.domain c c' (c.recording now x) (c'.recording now x) := by
  cases x with
  | recordBlocked u =>
    obtain rfl := Option.some.inj target
    have known : u.domain ∈ c'.blocked ↔ u.domain ∈ c.blocked := h.learned .blocked
    simp only [recording, recordBlocked, h.settings, h.isAlwaysDirect_eq, known]
    split_ifs
    · exact recordTransientBlocked_same h nodup nodup'
    · exact h.unchanged _
    · exact h.unchanged _
    · exact h.learnBlocked
  | recordDirect u =>
    obtain rfl := Option.some.inj target
    have known : u.domain ∈ c'.direct ↔ u.domain ∈ c.direct := h.learned .direct
    simp only [recording, recordDirect, h.settings, h.isInAlwaysSets_eq, known]
    split_ifs
    · exact h.unchanged _
    · exact h.unchanged _
    · exact h.unchanged _
    · exact h.learnDirect
  | recordTransientBlocked u =>
    obtain rfl := Option.some.inj target
    exact recordTransientBlocked_same h nodup nodup'
  | _ => cases target

end Calls

end Classifier

namespace Session

/-! ## Batches -/

/-- The domains of the targets that some steps record. -/
def domains (calls : List Step) : List Text := (calls.filterMap Step.target?).map Target.domain

theorem mem_domains {calls : List Step} {x : Step} {t : Target} (h : x ∈ calls)
    (target : x.target? = some t) : t.domain ∈ domains calls :=
  List.mem_map_of_mem (List.mem_filterMap.2 ⟨x, h, target⟩)

theorem exists_of_mem_domains {calls : List Step} {name : Text} (h : name ∈ domains calls) :
    ∃ x ∈ calls, ∃ t, x.target? = some t ∧ t.domain = name := by
  obtain ⟨t, targeted, rfl⟩ := List.mem_map.1 h
  obtain ⟨x, hx, target⟩ := List.mem_filterMap.1 targeted
  exact ⟨x, hx, t, target, rfl⟩

/-- Two sessions in which recording for a domain goes the same way. -/
structure Beside (s s' : Session) (domain : Text) : Prop where
  now : s'.now = s.now
  agree : Classifier.Agree s.now.seconds domain s.classifier s'.classifier
  nodup : s.classifier.transient.expiries.keys.Nodup
  nodup' : s'.classifier.transient.expiries.keys.Nodup

/-- A call is answered in the same way in both, sends the same events, and sets the same marks. -/
theorem Beside.step {s s' : Session} {x : Step} {t : Target} (h : Beside s s' t.domain)
    (target : x.target? = some t) :
    s'.entry x = s.entry x ∧ Beside (s.step x).2 (s'.step x).2 t.domain ∧
    ∃ marks : Classifier.Learned → Bool, ∀ l,
      (s.step x).2.classifier.isChanged l = (s.classifier.isChanged l || marks l) ∧
        (s'.step x).2.classifier.isChanged l = (s'.classifier.isChanged l || marks l) := by
  have same := Classifier.recording_same target h.agree h.nodup h.nodup'
  have now := now_step_of_target (s := s) target
  have now' := now_step_of_target (s := s') target
  have classifier := classifier_step_of_target (s := s) target
  have classifier' := classifier_step_of_target (s := s') target
  rw [h.now] at now' classifier'
  refine ⟨?_, ⟨now'.trans now.symm, ?_, step_nodup h.nodup x, step_nodup h.nodup' x⟩, ?_⟩
  · simp [entry, step_of_target target, recorded, h.now, same.outcome, same.events]
  · rw [now, classifier, classifier']
    exact same.agree
  · rw [classifier, classifier']
    exact same.marks

/-- A call stands beside any other, if they are for different domains. -/
theorem beside_step {s : Session} (nodup : s.classifier.transient.expiries.keys.Nodup) {x : Step}
    {t : Target} (target : x.target? = some t) {name : Text} (other : name ≠ t.domain) :
    Beside s (s.step x).2 name :=
  ⟨now_step_of_target target, step_agree nodup target other, nodup, step_nodup nodup x⟩

/-- Each call of a batch goes as if it were made alone, and its domain is left as the call leaves
it; names for which there is no call are left as they are. -/
structure Undisturbed (s : Session) (calls : List Step) : Prop where
  history : s.history calls = calls.map s.entry
  own : ∀ x ∈ calls, ∀ t, x.target? = some t → Classifier.Agree s.now.seconds t.domain
    (s.step x).2.classifier (s.run calls).classifier
  others : ∀ name, name ∉ domains calls →
    Classifier.Agree s.now.seconds name s.classifier (s.run calls).classifier
  marks : ∀ l, (s.run calls).classifier.isChanged l = true ↔
    s.classifier.isChanged l = true ∨ ∃ x ∈ calls, (s.step x).2.classifier.isChanged l = true
  now : (s.run calls).now = s.now
  disk : (s.run calls).disk = s.disk

/-- Calls for different domains do not disturb each other. -/
theorem run_undisturbed {s : Session} (nodup : s.classifier.transient.expiries.keys.Nodup)
    {calls : List Step} (targets : ∀ x ∈ calls, x.target?.isSome = true)
    (apart : (domains calls).Nodup) : s.Undisturbed calls := by
  induction calls generalizing s with
  | nil =>
    refine ⟨rfl, ?_, fun name _ => .refl _ _ _, fun l => by simp, rfl, rfl⟩
    intro x hx
    cases hx
  | cons x r ih =>
    obtain ⟨t, target⟩ := Option.isSome_iff_exists.1 (targets x List.mem_cons_self)
    have split : domains (x :: r) = t.domain :: domains r := by simp [domains, target]
    rw [split] at apart
    obtain ⟨fresh, apart⟩ := List.nodup_cons.1 apart
    have first := now_step_of_target (s := s) target
    have rest := ih (step_nodup nodup x) (fun y hy => targets y (List.mem_cons_of_mem _ hy)) apart
    -- what a later call finds is what it would have found at first
    have later (y : Step) (hy : y ∈ r) :
        ∃ u, y.target? = some u ∧ Beside s (s.step x).2 u.domain := by
      obtain ⟨u, found⟩ := Option.isSome_iff_exists.1 (targets y (List.mem_cons_of_mem _ hy))
      refine ⟨u, found, beside_step nodup target ?_⟩
      rintro same
      exact fresh (same ▸ mem_domains hy found)
    refine ⟨?_, ?_, ?_, ?_, ?_, ?_⟩
    · rw [history, rest.history, List.map_cons]
      refine congrArg _ (List.map_congr_left fun y hy => ?_)
      obtain ⟨u, found, beside⟩ := later y hy
      exact (beside.step found).1
    · intro y hy u found
      rcases List.mem_cons.1 hy with rfl | hy
      · obtain rfl := Option.some.inj (target.symm.trans found)
        have kept := rest.others t.domain fresh
        rwa [first] at kept
      · obtain ⟨v, found', beside⟩ := later y hy
        obtain rfl := Option.some.inj (found.symm.trans found')
        have moved := (beside.step found).2.1.agree
        have kept := rest.own y hy u found
        rw [now_step_of_target found] at moved
        rw [first] at kept
        exact moved.trans kept
    · intro name absent
      rw [split, List.mem_cons, not_or] at absent
      have kept := rest.others name absent.2
      rw [first] at kept
      exact (step_agree nodup target absent.1).trans kept
    · intro l
      have self : Beside s s t.domain := ⟨rfl, .refl _ _ _, nodup, nodup⟩
      obtain ⟨marks, own⟩ := (self.step target).2.2
      have mine := (own l).1
      rw [run_cons, rest.marks l]
      constructor
      · rintro (here | ⟨y, hy, marked⟩)
        · exact .inr ⟨x, List.mem_cons_self, here⟩
        · obtain ⟨u, found, beside⟩ := later y hy
          obtain ⟨marks', own'⟩ := (beside.step found).2.2
          have theirs := own' l
          grind
      · rintro (before | ⟨y, hy, marked⟩)
        · left
          rw [mine, before, Bool.true_or]
        · rcases List.mem_cons.1 hy with rfl | hy
          · exact .inl marked
          · obtain ⟨u, found, beside⟩ := later y hy
            obtain ⟨marks', own'⟩ := (beside.step found).2.2
            have theirs := own' l
            grind
    · rw [run_cons, rest.now, first]
    · rw [run_cons, rest.disk, disk_step_of_target target]

/-! ## The order of a batch -/

/-- One batch goes as another one does: each call is answered as if it were made alone, the history
has the same entries, and in the end each name is known in the same way, the same lists are marked
and the same events went out. -/
structure GoesAs (s : Session) (calls calls' : List Step) : Prop where
  alone : s.history calls' = calls'.map s.entry
  history : (s.history calls').Perm (s.history calls)
  names : ∀ name, Classifier.Agree s.now.seconds name (s.run calls).classifier
    (s.run calls').classifier
  marks : ∀ l, (s.run calls').classifier.isChanged l = (s.run calls).classifier.isChanged l
  events : (s.run calls').events.Perm (s.run calls).events
  disk : (s.run calls').disk = (s.run calls).disk

/-- Two batches of the same calls agree on each name: it was left as its call leaves it, or it was
left alone. -/
theorem Undisturbed.agree {s : Session} {calls calls' : List Step} (h : s.Undisturbed calls)
    (h' : s.Undisturbed calls') (perm : calls'.Perm calls) (name : Text) :
    Classifier.Agree s.now.seconds name (s.run calls).classifier (s.run calls').classifier := by
  have same : (domains calls').Perm (domains calls) := (perm.filterMap _).map _
  by_cases called : name ∈ domains calls
  · obtain ⟨x, hx, t, target, rfl⟩ := exists_of_mem_domains called
    exact (h.own x hx t target).symm.trans (h'.own x (perm.mem_iff.2 hx) t target)
  · have absent : name ∉ domains calls' := fun there => called (same.mem_iff.1 there)
    exact (h.others name called).symm.trans (h'.others name absent)

/-- In every state that a new classifier gets to, its files changing as they like, calls that record
targets with different domains may be made in any order. -/
theorem run_perm {settings : Settings} {locations : Locations} {c : Classifier}
    (fresh : Classifier.create settings locations = .ok c) (disk : Disk) (now : Moment)
    (turns : List Turn) {calls calls' : List Step}
    (targets : ∀ x ∈ calls, x.target?.isSome = true) (apart : (domains calls).Nodup)
    (perm : calls'.Perm calls) :
    GoesAs (play { classifier := c, disk, now } turns) calls calls' := by
  have nodup := play_nodup_of_create fresh disk now turns
  generalize play { classifier := c, disk, now } turns = s at nodup
  have first := run_undisturbed nodup targets apart
  have apart' : (domains calls').Nodup := ((perm.filterMap _).map _).nodup_iff.2 apart
  have second := run_undisturbed nodup (fun x hx => targets x (perm.mem_iff.1 hx)) apart'
  have history : (s.history calls').Perm (s.history calls) := by
    rw [first.history, second.history]
    exact perm.map s.entry
  refine ⟨second.history, history, first.agree second perm, fun l => ?_, ?_, ?_⟩
  · rw [Bool.eq_iff_iff, first.marks l, second.marks l]
    exact or_congr_right (exists_congr fun x => and_congr_left fun _ => perm.mem_iff)
  · rw [events_run, events_run]
    exact ((history.flatMap_right Entry.published).map Published.event).append_left s.events
  · rw [first.disk, second.disk]

/-- A learned-blocked domain is reached, two others are not; one of these is announced. -/
theorem run_perm_mixed :
    let reached : Step := .recordDirect { host := "www.a.com", domain := "a.com" }
    let timed : Step := .recordTransientBlocked { host := "b.com", domain := "b.com" }
    let blocked : Step := .recordBlocked { host := "c.com", port := some 443, domain := "c.com" }
    let calls := [reached, timed, blocked]
    let calls' := [blocked, reached, timed]
    let s := (onEmptyDisk (.inside (.ofText "/lists"))).play
      [.act (.load ["a.com"] []), .act (.setClock (.int 60))]
    GoesAs s calls calls' ∧ ofString "a.com" ∈ (s.run calls').classifier.direct ∧
      ofString "a.com" ∉ (s.run calls').classifier.blocked ∧
      (s.run calls').classifier.transient.expiry? s.now.seconds "b.com" =
        some (.float (.ofInt 180)) ∧
      (s.run calls').events.length = 1 := by
  intro reached timed blocked calls calls' s
  have targets : ∀ x ∈ calls, x.target?.isSome = true := by decide +kernel
  have apart : (domains calls).Nodup := by decide +kernel
  have perm : calls'.Perm calls :=
    (List.Perm.swap reached blocked [timed]).trans ((List.Perm.swap timed blocked []).cons reached)
  have goes : GoesAs s calls calls' := run_perm
    (Classifier.create_default (.inside (.ofText "/lists"))) { tree := ⟨[]⟩ } ⟨.int 0, []⟩
    [.act (.load ["a.com"] []), .act (.setClock (.int 60))] targets apart perm
  have direct : ofString "a.com" ∈ (s.run calls).classifier.direct := by decide +kernel
  have blocked : ofString "a.com" ∉ (s.run calls).classifier.blocked := by decide +kernel
  have running : (s.run calls).classifier.transient.expiry? s.now.seconds "b.com" =
      some (.float (.ofInt 180)) := by decide +kernel
  have announced : (s.run calls).events.length = 1 := by decide +kernel
  have a := goes.names "a.com"
  refine ⟨goes, (a.learned .direct).2 direct, fun h => blocked ((a.learned .blocked).1 h), ?_, ?_⟩
  · exact (goes.names "b.com").expiry.trans running
  · exact goes.events.length_eq.trans announced

end Session
end Detour
