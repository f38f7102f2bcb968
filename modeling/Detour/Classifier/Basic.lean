import Detour.DomainList.Kind
import Detour.ExpiringSet
import Detour.Outcome
import Detour.Target

/-!
# The classifier

Five sets decide how a destination is reached. The always-direct names win, then the always-blocked
ones; then the names that are blocked for some time, then those that were learned. A target is
looked up under its host and under its domain; one without a domain is local and always reached
directly.

## Main definitions

* `Classifier` — the sets, with a mark on each learned list that was changed since it was stored.
* `Classifier.lookupBlocked`, `Classifier.lookupDirect` — what is known about a name.
* `Classifier.classify` — the route of a target.
-/
namespace Detour

open DomainList Text

/-- What is learned, and for how long. -/
structure Settings where
  updateBlocked : Bool := true
  updateDirect : Bool := true
  transientLifetime : Json := ExpiringSet.defaultLifetime
  flushInterval : Json := .number (.float (.ofInt 300))
  deriving Repr, BEq

structure Classifier where
  settings : Settings
  locations : Locations
  alwaysDirect : DomainSet := .empty
  alwaysBlocked : DomainSet := .empty
  direct : DomainSet := .empty
  blocked : DomainSet := .empty
  transient : ExpiringSet
  directChanged : Bool := false
  blockedChanged : Bool := false
  deriving Repr

namespace Classifier

def create (settings : Settings) (locations : Locations) :
    Except ExpiringSet.Fault Classifier :=
  (ExpiringSet.create settings.transientLifetime ExpiringSet.defaultSweep).map fun transient =>
    { settings, locations, transient }

/-- The names of a list in ascending order. -/
def snapshot (c : Classifier) : Kind → List Text
  | .blocked => c.blocked.toSortedList
  | .direct => c.direct.toSortedList
  | .alwaysBlocked => c.alwaysBlocked.toSortedList
  | .alwaysDirect => c.alwaysDirect.toSortedList

/-! ## Names -/

/-- Only names of hosts and domains are looked up, never a host with its port. -/
inductive LookupFault
  | port (route : Route) (name : Text)
  deriving DecidableEq, Repr

def LookupFault.toFailure : LookupFault → Failure
  | .port route name =>
    .simple "AssertionError" ("lookup_" ++ route.name ++ " got host with port: " ++ name)

def hasPort (name : Text) : Bool := name.contains 58 && !Host.isAddress name

/-- Whether a name counts as blocked. A name whose time is over is dropped on the way. -/
def lookupBlocked (c : Classifier) (now : Number) (name : Text) :
    Except LookupFault Bool × Classifier :=
  if hasPort name then (.error (.port .blocked name), c)
  else if name ∈ c.alwaysDirect then (.ok false, c)
  else if name ∈ c.alwaysBlocked then (.ok true, c)
  else
    let (live, transient) := c.transient.has now name
    (.ok (live || c.blocked.contains name), { c with transient })

/-- Whether a name is known to be reached directly. -/
def lookupDirect (c : Classifier) (name : Text) : Except LookupFault Bool :=
  if hasPort name then .error (.port .direct name)
  else if name ∈ c.alwaysDirect then .ok true
  else if name ∈ c.alwaysBlocked then .ok false
  else .ok (c.direct.contains name)

/-! ## Targets -/

/-- Whether the host or the domain of a target is in a set. -/
def names (s : DomainSet) (t : Target) : Bool := s.contains t.host || s.contains t.domain

def isInAlwaysSets (c : Classifier) (t : Target) : Bool :=
  t.domain == [] || names c.alwaysDirect t || names c.alwaysBlocked t

def isAlwaysDirect (c : Classifier) (t : Target) : Bool :=
  t.domain == [] || names c.alwaysDirect t

def isAlwaysBlocked (c : Classifier) (t : Target) : Bool :=
  t.domain != [] && names c.alwaysBlocked t

def isBlocked (c : Classifier) (now : Number) (t : Target) :
    Except LookupFault Bool × Classifier :=
  if t.domain = [] then (.ok false, c)
  else match c.lookupBlocked now t.host with
    | (.ok false, c) => c.lookupBlocked now t.domain
    | r => r

def isDirect (c : Classifier) (t : Target) : Except LookupFault Bool :=
  if t.domain = [] then .ok true
  else match c.lookupDirect t.host with
    | .ok false => c.lookupDirect t.domain
    | r => r

def routeOf (blocked : Bool) : Route := if blocked then .blocked else .direct

/-- What is not known to be blocked is tried directly. -/
def classify (c : Classifier) (now : Number) (t : Target) :
    Except LookupFault Route × Classifier :=
  match c.isBlocked now t with
  | (.ok blocked, c) => (.ok (routeOf blocked), c)
  | (.error e, c) => (.error e, c)

end Classifier
end Detour
