import Detour.Classifier.Lists
import Detour.Flusher

/-!
# Sessions

A session is a classifier at work: with a disk for its lists, a clock, and what it logged and sent
out so far. It goes on step by step, and every step has an answer.

## Main definitions

* `Session.step` and `Session.run` — one step, and many.
* `Session.persisted` — the session as something to be flushed.
-/
namespace Detour

open DomainList Files Log Text

structure Session where
  classifier : Classifier
  disk : Disk
  now : Moment
  messages : List Message := []
  events : List Event := []

namespace Session

inductive Step
  | load (seedBlocked seedDirect : List Text)
  | persist
  | recordBlocked (t : Target)
  | recordDirect (t : Target)
  | recordTransientBlocked (t : Target)
  | blockTransiently (name : Text)
  | query (t : Target)
  | lookup (name : Text)
  | change (settings : Settings)
  | setClock (seconds : Number)
  deriving Repr

/-- All that is known about a target. -/
structure Facts where
  inAlwaysSets : Bool
  alwaysDirect : Bool
  alwaysBlocked : Bool
  blocked : Except Classifier.LookupFault Bool
  direct : Except Classifier.LookupFault Bool
  route : Except Classifier.LookupFault Route

inductive Answer
  | nothing
  | written (kinds : List Kind)
  | outcome (o : Outcome)
  | inserted (b : Bool)
  | facts (f : Facts)
  | name (blocked direct : Except Classifier.LookupFault Bool)
  | failed (f : Failure)

def outcomeAnswer : Option Outcome → Answer
  | some o => .outcome o
  | none => .failed Classifier.timeFailure

/-- Takes over what recording led to. -/
def recorded (s : Session) (r : Classifier.Recorded) : Answer × Session :=
  (outcomeAnswer r.outcome, { s with
    classifier := r.classifier
    messages := s.messages ++ r.messages
    events := s.events ++ r.events })

/-- Takes over what loading or persisting led to. -/
def listed {α : Type} (s : Session) (r : Classifier.Listed α) (answer : α → Answer) :
    Answer × Session :=
  (match r.result with
    | .ok a => answer a
    | .error f => .failed f.toFailure,
   { s with classifier := r.classifier, disk := r.disk, messages := s.messages ++ r.messages })

def query (s : Session) (t : Target) : Answer × Session :=
  let c := s.classifier
  let (blocked, c₁) := c.isBlocked s.now.seconds t
  let (route, c₂) := c₁.classify s.now.seconds t
  (.facts
    { inAlwaysSets := c.isInAlwaysSets t
      alwaysDirect := c.isAlwaysDirect t
      alwaysBlocked := c.isAlwaysBlocked t
      blocked
      direct := c.isDirect t
      route }, { s with classifier := c₂ })

def lookup (s : Session) (name : Text) : Answer × Session :=
  let (blocked, c) := s.classifier.lookupBlocked s.now.seconds name
  (.name blocked (c.lookupDirect name), { s with classifier := c })

def blockTransiently (s : Session) (name : Text) : Answer × Session :=
  match s.classifier.transient.add s.now.seconds name with
  | none => (.failed Classifier.timeFailure, s)
  | some (inserted, transient) =>
    (.inserted inserted, { s with classifier := { s.classifier with transient } })

def step (s : Session) : Step → Answer × Session
  | .load seedBlocked seedDirect =>
    s.listed (s.classifier.load seedBlocked seedDirect s.disk) fun _ => .nothing
  | .persist => s.listed (s.classifier.persist s.disk) .written
  | .recordBlocked t => s.recorded (s.classifier.recordBlocked s.now t)
  | .recordDirect t => s.recorded (s.classifier.recordDirect t)
  | .recordTransientBlocked t => s.recorded (s.classifier.recordTransientBlocked s.now t)
  | .blockTransiently name => s.blockTransiently name
  | .query t => s.query t
  | .lookup name => s.lookup name
  | .change settings => (.nothing, { s with classifier := { s.classifier with settings } })
  | .setClock seconds => (.nothing, { s with now := { s.now with seconds } })

/-- The session after some steps. -/
def run (s : Session) (steps : List Step) : Session := steps.foldl (fun s x => (s.step x).2) s

/-- Persisting as a flusher does it. -/
def persisted (s : Session) : Persisted Session :=
  let (answer, state) := s.step .persist
  { state
    failure := match answer with
      | .failed f => some f
      | _ => none }

end Session
end Detour
