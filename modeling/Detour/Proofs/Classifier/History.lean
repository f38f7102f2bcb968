import Detour.Proofs.Classifier.Consistency

/-!
# The history of a session

A history has an entry for each step, with what was answered. The learned lists can be read off it:
of all accepted outcomes for a domain the latest one decides, and what was loaded counts only where
there is none. An outcome that was known already is accepted without touching the other list, which
is right because no domain is learned both ways.

## Main definitions

* `Session.history` — the steps as they were taken.
* `Session.lastAccepted` — the latest step with an accepted outcome for a domain.

## Main statements

* `Classifier.recordBlocked_settles`, `Classifier.recordDirect_settles` — what accepted outcomes do.
* `Session.step_follows` — what one step does to the learned lists.
* `Session.mem_learned_run_iff` — the learned lists after a run.
-/
namespace Detour

open DomainList Text

/-- The domain of the target is in the list of the call then, be it new there or not. -/
def Outcome.isAccepted : Outcome → Bool
  | .recorded | .alreadyRecorded => true
  | .notRecorded | .recordedTransient => false

namespace Session

def Answer.isAccepted : Answer → Bool
  | .outcome o => o.isAccepted
  | _ => false

/-- The target that a step records. -/
def Step.target? : Step → Option Target
  | .recordBlocked t | .recordDirect t | .recordTransientBlocked t => some t
  | _ => none

/-- Whether a step records a target in a learned list. -/
def Step.records (l : Classifier.Learned) : Step → Bool
  | .recordBlocked _ => l = .blocked
  | .recordDirect _ => l = .direct
  | _ => false

/-- A step as it was taken: the reading of the clock, the answer, and the events that it sent. -/
structure Entry where
  time : Number
  step : Step
  answer : Answer
  events : List Event

def entry (s : Session) (x : Step) : Entry where
  time := s.now.seconds
  step := x
  answer := (s.step x).1
  events := (s.step x).2.events.drop s.events.length

def history (s : Session) : List Step → List Entry
  | [] => []
  | x :: r => s.entry x :: (s.step x).2.history r

/-- The events of the entry are those that the step added. -/
theorem step_events (s : Session) (x : Step) :
    (s.step x).2.events = s.events ++ (s.entry x).events := by
  have added : ∃ new, (s.step x).2.events = s.events ++ new := by
    cases x with
    | recordBlocked t => exact ⟨_, rfl⟩
    | recordDirect t => exact ⟨_, rfl⟩
    | recordTransientBlocked t => exact ⟨_, rfl⟩
    | blockTransiently name =>
      refine ⟨[], ?_⟩
      rw [step, blockTransiently, List.append_nil]
      split <;> rfl
    | _ => exact ⟨[], (List.append_nil _).symm⟩
  obtain ⟨new, added⟩ := added
  simp [entry, added]

/-- Whether a target of a domain was recorded, and the outcome was accepted. -/
def Entry.accepts (e : Entry) (domain : Text) : Bool :=
  e.answer.isAccepted && e.step.target?.any fun t => t.domain = domain

/-- The latest step that recorded a target of a domain with an accepted outcome. -/
def lastAccepted (s : Session) (steps : List Step) (domain : Text) : Option Step :=
  ((s.history steps).filter (·.accepts domain)).getLast?.map Entry.step

theorem lastAccepted_cons (s : Session) (x : Step) (r : List Step) (domain : Text) :
    s.lastAccepted (x :: r) domain = ((s.step x).2.lastAccepted r domain).or
      (if (s.entry x).accepts domain then some x else none) := by
  simp only [lastAccepted, history, List.filter_cons]
  split
  · rw [List.getLast?_cons]
    cases (((s.step x).2.history r).filter (·.accepts domain)).getLast? <;> rfl
  · rw [Option.or_none]

theorem isAccepted_outcomeAnswer (r : Option Outcome) :
    (outcomeAnswer r).isAccepted = r.any Outcome.isAccepted := by
  cases r <;> rfl

end Session

namespace Classifier

/-- A domain is in one learned list and not in the other, and other names are where they were. -/
def Learns (c c' : Classifier) (l : Learned) (domain : Text) : Prop :=
  ∀ m n, n ∈ c'.learned m ↔ if n = domain then m = l else n ∈ c.learned m

theorem learnBlocked_learns (c : Classifier) (domain : Text) :
    c.Learns (c.learnBlocked domain).classifier .blocked domain := by
  intro m n
  rw [learnBlocked_classifier]
  cases m <;> by_cases h : n = domain <;> simp [learned, h]

theorem learnDirect_learns (c : Classifier) (domain : Text) :
    c.Learns (c.learnDirect domain).classifier .direct domain := by
  intro m n
  rw [learnDirect_classifier]
  cases m <;> by_cases h : n = domain <;> simp [learned, h]

/-- Where the lists are apart, a domain that is in one learned list is not in the other. -/
theorem Consistent.learns {c : Classifier} (hc : c.Consistent) {l : Learned} {domain : Text}
    (known : domain ∈ c.learned l) : c.Learns c l domain := by
  intro m n
  split
  · next h =>
    subst h
    constructor
    · intro other
      cases l <;> cases m
      · rfl
      · exact absurd other (hc.learned n known)
      · exact absurd known (hc.learned n other)
      · rfl
    · rintro rfl
      exact known
  · rfl

/-- An accepted outcome puts the domain into a learned list; any other leaves both lists alone. -/
inductive Settles (c : Classifier) (r : Recorded) (l : Learned) (domain : Text) : Prop
  | accepted (outcome : r.outcome.any Outcome.isAccepted = true)
      (learns : c.Learns r.classifier l domain)
  | unaccepted (outcome : r.outcome.any Outcome.isAccepted = false)
      (kept : ∀ m, r.classifier.learned m = c.learned m)

theorem SameLists.learned {c c' : Classifier} (h : SameLists c c') (l : Learned) :
    c'.learned l = c.learned l := by
  cases l with
  | blocked => exact h.blocked
  | direct => exact h.direct

theorem recordTransientBlocked_unaccepted (c : Classifier) (now : Moment) (t : Target) :
    (c.recordTransientBlocked now t).outcome.any Outcome.isAccepted = false := by
  cases c.recordTransientBlocked_ends now t with
  | refused outcome => rw [outcome]; rfl
  | untold outcome => rw [outcome]; rfl
  | timed _ _ _ outcome => rw [outcome]; rfl

theorem recordBlocked_settles {c : Classifier} (hc : c.Consistent) (now : Moment) (t : Target) :
    c.Settles (c.recordBlocked now t) .blocked t.domain := by
  cases c.recordBlocked_ends now t with
  | timed _ result =>
    rw [result]
    exact .unaccepted (c.recordTransientBlocked_unaccepted now t)
      (c.recordTransientBlocked_sameButTransient now t).sameLists.learned
  | refused outcome classifier =>
    exact .unaccepted (by rw [outcome]; rfl) fun m => by rw [classifier]
  | known _ known outcome classifier =>
    refine .accepted (by rw [outcome]; rfl) ?_
    rw [classifier]
    exact hc.learns (l := .blocked) known
  | learned _ _ _ _ result =>
    rw [result]
    exact .accepted (by rw [learnBlocked_outcome]; rfl) (c.learnBlocked_learns t.domain)

theorem recordDirect_settles {c : Classifier} (hc : c.Consistent) (t : Target) :
    c.Settles (c.recordDirect t) .direct t.domain := by
  cases c.recordDirect_ends t with
  | refused outcome classifier =>
    exact .unaccepted (by rw [outcome]; rfl) fun m => by rw [classifier]
  | known _ known outcome classifier =>
    refine .accepted (by rw [outcome]; rfl) ?_
    rw [classifier]
    exact hc.learns (l := .direct) known
  | learned _ _ _ _ result =>
    rw [result]
    exact .accepted (by rw [learnDirect_outcome]; rfl) (c.learnDirect_learns t.domain)

end Classifier

namespace Session

variable {s : Session}

/-- Only recording and loading change the learned lists. -/
theorem learned_step_of_silent {x : Step} (noLoad : x.isLoad = false) (silent : x.target? = none)
    (l : Classifier.Learned) :
    (s.step x).2.classifier.learned l = s.classifier.learned l := by
  cases s.step_cases x with
  | load => cases noLoad
  | persist classifier =>
    rw [classifier]
    exact (s.classifier.persist_sameLists s.disk).learned l
  | learnBlocked => cases silent
  | learnDirect => cases silent
  | change classifier =>
    rw [classifier]
    cases l <;> rfl
  | other _ classifier => exact classifier.sameLists.learned l

/-- A learned list has a domain after a step if the step recorded it there with an accepted outcome,
or else if it was there before. -/
def Follows (s : Session) (x : Step) : Prop :=
  ∀ l domain, domain ∈ (s.step x).2.classifier.learned l ↔
    if (s.entry x).accepts domain then x.records l = true
    else domain ∈ s.classifier.learned l

theorem follows_of_kept {x : Step} (unaccepted : ∀ domain, (s.entry x).accepts domain = false)
    (kept : ∀ l, (s.step x).2.classifier.learned l = s.classifier.learned l) : s.Follows x := by
  intro l domain
  rw [kept, unaccepted, if_neg Bool.false_ne_true]

/-- What was recorded is found in the history by its target. -/
theorem follows_of_settles {x : Step} {t : Target} {l : Classifier.Learned}
    {r : Classifier.Recorded} (target : x.target? = some t) (taken : s.step x = s.recorded r)
    (records : ∀ m, x.records m = decide (m = l)) (settles : s.classifier.Settles r l t.domain) :
    s.Follows x := by
  have accepts (domain : Text) : (s.entry x).accepts domain =
      (r.outcome.any Outcome.isAccepted && decide (t.domain = domain)) := by
    simp only [Entry.accepts, entry, taken, recorded, isAccepted_outcomeAnswer, target,
      Option.any_some]
  cases settles with
  | accepted outcome learns =>
    intro m domain
    rw [accepts, outcome, taken, recorded, learns m domain, records]
    simp [eq_comm (a := domain)]
  | unaccepted outcome kept =>
    refine follows_of_kept (fun domain => by rw [accepts, outcome, Bool.false_and]) fun m => ?_
    rw [taken]
    exact kept m

theorem step_follows (apart : s.classifier.Consistent) {x : Step} (noLoad : x.isLoad = false) :
    s.Follows x := by
  have silent (targetless : x.target? = none) : s.Follows x := by
    refine follows_of_kept (fun domain => ?_) (learned_step_of_silent noLoad targetless)
    simp [Entry.accepts, entry, targetless]
  cases x with
  | recordBlocked t =>
    exact follows_of_settles rfl rfl (fun _ => rfl)
      (Classifier.recordBlocked_settles apart s.now t)
  | recordDirect t =>
    exact follows_of_settles rfl rfl (fun _ => rfl) (Classifier.recordDirect_settles apart t)
  | recordTransientBlocked t =>
    have unaccepted := s.classifier.recordTransientBlocked_unaccepted s.now t
    refine follows_of_kept (fun domain => ?_)
      (s.classifier.recordTransientBlocked_sameButTransient s.now t).sameLists.learned
    simp [Entry.accepts, entry, step, recorded, isAccepted_outcomeAnswer, unaccepted]
  | load => cases noLoad
  | _ => exact silent rfl

/-- Where the lists are apart, the latest accepted outcome for a domain decides; without one, the
domain is where it was. -/
theorem mem_learned_of_consistent (apart : s.classifier.Consistent) {steps : List Step}
    (noLoad : ∀ x ∈ steps, x.isLoad = false) (domain : Text) (l : Classifier.Learned) :
    domain ∈ (s.run steps).classifier.learned l ↔
      (s.lastAccepted steps domain).any (Step.records l) = true ∨
        (s.lastAccepted steps domain = none ∧ domain ∈ s.classifier.learned l) := by
  induction steps generalizing s with
  | nil => simp [lastAccepted, history]
  | cons x r ih =>
    have first : x.isLoad = false := noLoad x List.mem_cons_self
    have rest : ∀ y ∈ r, y.isLoad = false := fun y hy => noLoad y (List.mem_cons_of_mem _ hy)
    rw [run_cons, ih (step_consistent first apart) rest, lastAccepted_cons]
    cases (s.step x).2.lastAccepted r domain with
    | some y => simp
    | none =>
      rw [step_follows apart first l domain]
      cases (s.entry x).accepts domain <;> simp

/-- Loading that goes through could tell of each list whether it is there. -/
theorem told_of_load {blocked direct : List Text}
    (loaded : (s.classifier.load blocked direct s.disk).result = .ok ()) :
    s.classifier.TellsLists s.disk := by
  refine Classical.byContradiction fun untold => ?_
  obtain ⟨e, -, -, failed, -⟩ := Classifier.load_untold untold blocked direct
  rw [loaded] at failed
  cases failed

/-- After the lists were loaded and any steps that do not load them again, a domain is in a learned
list exactly if the latest accepted outcome for a target of the domain was recorded there, or if
there was none and the domain was in the list when it was loaded. -/
theorem mem_learned_run_iff {blocked direct : List Text}
    (loaded : (s.classifier.load blocked direct s.disk).result = .ok ()) {steps : List Step}
    (noLoad : ∀ x ∈ steps, x.isLoad = false) (domain : Text) (l : Classifier.Learned) :
    let start := (s.step (.load blocked direct)).2
    domain ∈ (start.run steps).classifier.learned l ↔
      (start.lastAccepted steps domain).any (Step.records l) = true ∨
        (start.lastAccepted steps domain = none ∧ domain ∈ start.classifier.learned l) :=
  mem_learned_of_consistent (load_consistent (told_of_load loaded) blocked direct) noLoad domain l

/-- A domain is learned-direct, and then not reached while learned-blocked names are not updated:
that outcome only lasts for some time and does not count. -/
theorem mem_learned_run_iff_switched :
    let t : Target := { host := "www.example.com", domain := "example.com" }
    let steps : List Step := [.recordBlocked t, .recordDirect t, .recordDirect t,
      .change { updateBlocked := false }, .recordBlocked t, .query t, .persist]
    let start := ((onEmptyDisk (.inside (.ofText "/lists"))).step (.load ["example.com"] [])).2
    let c := (start.run steps).classifier
    ofString "example.com" ∈ c.learned .direct ∧ ofString "example.com" ∉ c.learned .blocked ∧
      c.transient.isLive (.int 0) "example.com" = true := by
  intro t steps start c
  let s := onEmptyDisk (.inside (.ofText "/lists"))
  have loaded : (s.classifier.load ["example.com"] [] s.disk).result = .ok () := by decide +kernel
  have noLoad : ∀ x ∈ steps, x.isLoad = false := by decide +kernel
  have direct : (start.lastAccepted steps "example.com").any (Step.records .direct) = true := by
    decide +kernel
  have blocked : (start.lastAccepted steps "example.com").any (Step.records .blocked) = false := by
    decide +kernel
  have there : (start.lastAccepted steps "example.com").isSome = true := by decide +kernel
  refine ⟨(mem_learned_run_iff loaded noLoad _ .direct).2 (.inl direct), fun h => ?_,
    by decide +kernel⟩
  rcases (mem_learned_run_iff loaded noLoad _ .blocked).1 h with h | ⟨h, -⟩
  · rw [blocked] at h
    cases h
  · rw [h] at there
    cases there

end Session
end Detour
