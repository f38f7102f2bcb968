import Detour.CommandLine.Program
import Detour.Proofs.Classifier.Durability

/-!
# Setting a classifier up

A command that classifies sets a classifier up for its configuration, and loads the lists into it.
What is set up depends on the configuration alone, so if one run succeeds in it, another one does.

## Main statements

* `CommandLine.Machine.prepare_eq_ok` — what is set up before the lists are loaded.
* `CommandLine.Machine.classify_ready` — a command is carried out on a classifier with its lists.
-/
namespace Detour

namespace CommandLine

open Classifier DomainList Files Text

namespace Work

@[simp] theorem act_fst (w : Work) (x : Session.Step) : (w.act x).1 = (w.session.step x).1 := rfl

@[simp] theorem act_session (w : Work) (x : Session.Step) :
    (w.act x).2.session = { (w.session.step x).2 with messages := [] } := rfl

@[simp] theorem act_output (w : Work) (x : Session.Step) : (w.act x).2.output = w.output := rfl

@[simp] theorem act_code (w : Work) (x : Session.Step) : (w.act x).2.code = w.code := rfl

end Work

/-- The code that a command ends with, if it does. -/
def Ending.code? : Ending → Option Nat
  | .code n => some n
  | _ => none

theorem Ending.eq_code {e : Ending} {n : Nat} (h : e.code? = some n) : e = .code n := by
  cases e with
  | code m =>
    obtain rfl := Option.some.inj h
    rfl
  | stopped _ => cases h
  | failed _ => cases h

open Work

namespace Machine

/-- The webhook of a configuration, if it has one. -/
def webhookOf (c : Configuration) : Except Failure (Option Webhook) :=
  match c.webhook with
  | none => .ok none
  | some settings => (Webhook.create settings c.simulation).map some

/-- A classifier is set up if the webhook and the classifier of the configuration can be made. -/
theorem prepare_eq_ok {m : Machine} {c : Configuration} {verbose : Bool} {w : Work} :
    m.prepare c verbose = .ok w ↔ ∃ webhook fresh, webhookOf c = .ok webhook ∧
      Classifier.create c.settings c.locations = .ok fresh ∧ w = {
        session := { classifier := fresh, disk := m.disk, now := m.now }
        logger := { format := c.format, level := if verbose then .debug else c.level }
        webhook
        network := m.network } := by
  have hooked : m.prepare c verbose = (webhookOf c).bind fun webhook =>
      ((Classifier.create c.settings c.locations).mapError (·.toFailure)).bind fun fresh =>
        .ok {
          session := { classifier := fresh, disk := m.disk, now := m.now }
          logger := { format := c.format, level := if verbose then .debug else c.level }
          webhook
          network := m.network } := by
    unfold prepare webhookOf
    cases c.webhook <;> rfl
  rw [hooked]
  cases webhookOf c with
  | error failure => simp [Except.bind]
  | ok webhook =>
    cases Classifier.create c.settings c.locations with
    | error fault => simp [Except.bind, Except.mapError]
    | ok fresh => simp [Except.bind, Except.mapError, eq_comm]

/-- Whether a classifier can be set up does not depend on the machine. -/
theorem prepare_other {m : Machine} {c : Configuration} {verbose : Bool} {w : Work}
    (h : m.prepare c verbose = .ok w) (m' : Machine) (verbose' : Bool) :
    ∃ w', m'.prepare c verbose' = .ok w' := by
  obtain ⟨webhook, fresh, hooked, created, -⟩ := prepare_eq_ok.1 h
  exact ⟨_, prepare_eq_ok.2 ⟨webhook, fresh, hooked, created, rfl⟩⟩

/-- Work on a classifier that has loaded its lists and done nothing else. -/
structure Ready (m : Machine) (c : Configuration) (w : Work) : Prop where
  loaded : ∃ fresh, Classifier.create c.settings c.locations = .ok fresh ∧
    w.session.classifier = (fresh.load [] [] m.disk).classifier ∧
    w.session.disk = (fresh.load [] [] m.disk).disk
  output : w.output = []
  code : w.code = 0

section Classify

variable {m : Machine} {o : Options} {f : Work → Option Failure × Work} {notice : Text}
  {c c' : Configuration}

theorem classify_eq (configured : m.configured o.config = .ok (notice, c))
    (overridden : c.override m.homes m.environment = .ok c') :
    m.classify o f =
      match m.prepare c' o.verbose with
      | .error failure => m.failed failure notice
      | .ok w =>
        match (w.complain notice).act (.load [] []) with
        | (.failed failure, w) => Work.finish (some failure, w)
        | (_, w) => Work.finish (f w) := by
  unfold classify
  rw [configured]
  dsimp only
  rw [overridden]
  rfl

/-- A command that ends with a code had a classifier to be carried out on. -/
theorem prepare_of_code (configured : m.configured o.config = .ok (notice, c))
    (overridden : c.override m.homes m.environment = .ok c') {code : Nat}
    (done : (m.classify o f).ending = .code code) : ∃ w, m.prepare c' o.verbose = .ok w := by
  rw [classify_eq configured overridden] at done
  cases prepared : m.prepare c' o.verbose with
  | error failure => simp [prepared, failed] at done
  | ok w => exact ⟨w, rfl⟩

/-- A command is carried out on a classifier with its lists loaded, if the disk can tell of each
list whether it is there. -/
theorem classify_ready (configured : m.configured o.config = .ok (notice, c))
    (overridden : c.override m.homes m.environment = .ok c') {w : Work}
    (prepared : m.prepare c' o.verbose = .ok w)
    (told : ∀ k, ∃ there, m.disk.exists? (c'.locations.pathFor k) = .ok there) :
    ∃ w, Ready m c' w ∧ m.classify o f = Work.finish (f w) := by
  obtain ⟨webhook, fresh, -, created, rfl⟩ := prepare_eq_ok.1 prepared
  have told : fresh.TellsLists m.disk := fun k => (create_learned created).1 ▸ told k
  obtain ⟨-, -, -, result, -, -⟩ := load_told told [] []
  rw [classify_eq configured overridden, prepared]
  dsimp only
  generalize hw : complain _ notice = w
  have answer : (w.act (.load [] [])).1 = .nothing := by
    subst hw
    simp only [act_fst, complain, Session.step, Session.listed, result]
  refine ⟨(w.act (.load [] [])).2, ⟨⟨fresh, created, ?_, ?_⟩, ?_, ?_⟩, ?_⟩
  · rw [← hw]
    rfl
  · rw [← hw]
    rfl
  · rw [← hw]
    rfl
  · rw [← hw]
    rfl
  · generalize w.act (.load [] []) = r at answer ⊢
    obtain ⟨a, after⟩ := r
    obtain rfl : a = .nothing := answer
    rfl

end Classify

end Machine
end CommandLine
end Detour
