import Detour.Classifier.Basic
import Detour.Instant
import Detour.Notification.Router

/-!
# Recording outcomes

A target that could not be reached goes into the learned-blocked list under its domain, or is
blocked for some time where that list is not updated; one that was reached goes into the
learned-direct list. A domain that enters one learned list leaves the other. Nothing is learned
about addresses, nor against the lists of the administrator.

## Main definitions

* `Classifier.recordBlocked`, `Classifier.recordDirect`, `Classifier.recordTransientBlocked`.
-/
namespace Detour.Classifier

open Log Text

/-- The name of the classifier in a log. -/
def component : Text := "DomainClassifier"

def debugMessage (message : Text) : Message := { level := .debug, component, message }

/-- What recording leads to: the outcome, none if the time of expiry cannot be told; the classifier
afterwards; what is logged; and the events that go out. -/
structure Recorded where
  outcome : Option Outcome
  classifier : Classifier
  messages : List Message := []
  events : List Event := []

/-- The failure behind a missing outcome. -/
def timeFailure : Failure := Interval.Fault.tooLarge.toFailure

/-- The message for a domain that is blocked for some time. -/
def transientMessage (t : Target) (lifetime : Json) : Message where
  level := .info
  component
  message := t.hostPort ++ " blocked"
  data := .object [("domain", .string t.domain), ("ttl_seconds", lifetime)]

/-- Blocks the domain of a target for some time. -/
def recordTransientBlocked (c : Classifier) (now : Moment) (t : Target) : Recorded :=
  if c.isAlwaysDirect t || t.hostIsAddress then { outcome := some .notRecorded, classifier := c }
  else match c.transient.add now.seconds t.domain with
    | none => { outcome := none, classifier := c }
    | some (false, transient) =>
      { outcome := some .recordedTransient, classifier := { c with transient } }
    | some (true, transient) =>
      let lifetime := .number (.float c.transient.lifetime)
      { outcome := some .recordedTransient
        classifier := { c with transient }
        messages := [transientMessage t lifetime]
        events := [⟨t.domain, t.hostPort, now.timestamp, lifetime⟩] }

/-- A domain becomes learned-blocked and stops being learned-direct. -/
def learnBlocked (c : Classifier) (domain : Text) : Recorded :=
  let added := { c with blocked := c.blocked.insert domain, blockedChanged := true }
  let message := debugMessage (domain ++ " added to blocked list")
  if domain ∈ c.direct then
    { outcome := some .recorded
      classifier := { added with direct := c.direct.erase domain, directChanged := true }
      messages := [message, debugMessage (domain ++ " deleted from direct list")] }
  else { outcome := some .recorded, classifier := added, messages := [message] }

/-- A domain becomes learned-direct and stops being learned-blocked. -/
def learnDirect (c : Classifier) (domain : Text) : Recorded :=
  let added := { c with direct := c.direct.insert domain, directChanged := true }
  let message := debugMessage (domain ++ " added to direct list")
  if domain ∈ c.blocked then
    { outcome := some .recorded
      classifier := { added with blocked := c.blocked.erase domain, blockedChanged := true }
      messages := [message, debugMessage (domain ++ " deleted from blocked list")] }
  else { outcome := some .recorded, classifier := added, messages := [message] }

def recordBlocked (c : Classifier) (now : Moment) (t : Target) : Recorded :=
  if !c.settings.updateBlocked then c.recordTransientBlocked now t
  else if c.isAlwaysDirect t || t.hostIsAddress then
    { outcome := some .notRecorded, classifier := c }
  else if t.domain ∈ c.blocked then { outcome := some .alreadyRecorded, classifier := c }
  else c.learnBlocked t.domain

def recordDirect (c : Classifier) (t : Target) : Recorded :=
  if !c.settings.updateDirect then { outcome := some .notRecorded, classifier := c }
  else if c.isInAlwaysSets t || t.hostIsAddress then
    { outcome := some .notRecorded, classifier := c }
  else if t.domain ∈ c.direct then { outcome := some .alreadyRecorded, classifier := c }
  else c.learnDirect t.domain

end Detour.Classifier
