import Detour.Text.Basic

/-!
# Routes and outcomes

A destination is reached directly or is blocked. Recording a connection has an outcome, which says
whether the destination is now treated as recorded.
-/
namespace Detour

inductive Route
  | direct
  | blocked
  deriving DecidableEq, Repr

namespace Route

def name : Route → Text
  | .direct => "direct"
  | .blocked => "blocked"

def all : List Route := [.direct, .blocked]

def ofName? (name : Text) : Option Route := all.find? fun r => r.name = name

end Route

inductive Outcome
  | notRecorded
  | recorded
  | alreadyRecorded
  | recordedTransient
  deriving DecidableEq, Repr

namespace Outcome

def name : Outcome → Text
  | .notRecorded => "not_recorded"
  | .recorded => "recorded"
  | .alreadyRecorded => "already_recorded"
  | .recordedTransient => "recorded_transient"

def all : List Outcome := [.notRecorded, .recorded, .alreadyRecorded, .recordedTransient]

def ofName? (name : Text) : Option Outcome := all.find? fun o => o.name = name

def taken (o : Outcome) : Bool := o != .notRecorded

end Outcome
end Detour
