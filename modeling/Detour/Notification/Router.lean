import Detour.Failure
import Detour.Log.Entry

/-!
# Events and their routers

An event says that a domain was found unreachable and is blocked for some time. A router has every
event wait for a worker, which hands them one after the other to the channels in the order of their
registration. A channel that fails, or that says it failed, does not keep the others from being
served; the failure is noted in the result and logged. Channels work on a state of any type that
they share.

## Main definitions

* `Router.deliver` — one event to all channels.
* `Router.publish`, `Router.serve` — an event is queued, and the worker takes the next one.
-/
namespace Detour

open Log Text

/-- The lifetime is a value of any type, for it is only passed on. -/
structure Event where
  domain : Text
  hostPort : Text
  timestamp : Text
  lifetime : Json
  deriving Repr

def Event.toJson (e : Event) : Json :=
  .object [("domain", .string e.domain), ("host_port", .string e.hostPort),
    ("timestamp", .string e.timestamp), ("ttl_seconds", e.lifetime)]

/-- A way for events to go out. Some channels hold something that has to be closed. -/
structure Channel (σ : Type) where
  name : Text
  send : Event → σ → Except Failure Bool × σ
  close : Option (σ → σ) := none

/-- What became of an event on a channel; without an error it was delivered. -/
structure Delivery where
  channel : Text
  error : Option Text
  deriving DecidableEq, Repr

def Delivery.success (d : Delivery) : Bool := d.error.isNone

structure Router (σ : Type) where
  channels : List (Channel σ) := []

/-- What delivering leads to. -/
structure Delivered (σ : Type) where
  results : List Delivery := []
  messages : List Message := []
  state : σ

namespace Router

variable {σ : Type}

/-- The name of the router in a log. -/
def component : Text := "EventRouter"

def register (r : Router σ) (c : Channel σ) : Router σ := ⟨r.channels ++ [c]⟩

def removeFirst (name : Text) : List (Channel σ) → Option (List (Channel σ))
  | [] => none
  | c :: r => if c.name = name then some r else (removeFirst name r).map (c :: ·)

/-- Removes the first channel of a name, and tells whether there was one. -/
def unregister (r : Router σ) (name : Text) : Bool × Router σ :=
  match removeFirst name r.channels with
  | none => (false, r)
  | some channels => (true, ⟨channels⟩)

/-- The text of a failed sending; none if it succeeded. -/
def errorOf : Except Failure Bool → Option Text
  | .ok true => none
  | .ok false => some "Channel returned failure"
  | .error f => some f.text

def failureMessage (channel : Text) (e : Event) (error : Text) : Message where
  level := .error
  component
  message := "Event delivery failed for channel '" ++ channel ++ "'"
  data := .object
    [("channel", .string channel), ("domain", .string e.domain), ("error", .string error)]

def failureMessages (channel : Text) (e : Event) : Option Text → List Message
  | none => []
  | some error => [failureMessage channel e error]

/-- Sends an event to channels one after the other. -/
def deliverTo (e : Event) : List (Channel σ) → σ → Delivered σ
  | [], s => { state := s }
  | c :: rest, s =>
    let (sent, s) := c.send e s
    let error := errorOf sent
    let more := deliverTo e rest s
    { results := ⟨c.name, error⟩ :: more.results
      messages := failureMessages c.name e error ++ more.messages
      state := more.state }

def deliver (r : Router σ) (e : Event) (s : σ) : Delivered σ := deliverTo e r.channels s

/-! ## The worker -/

/-- The events that wait for the worker, and what it has done: the results of each event that was
served, and what was logged. -/
structure Queue (σ : Type) where
  state : σ
  waiting : List Event := []
  served : List (Event × List Delivery) := []
  messages : List Message := []

/-- Queues an event; nothing happens without channels. -/
def publish (r : Router σ) (q : Queue σ) (e : Event) : Option (Queue σ) :=
  if r.channels.isEmpty then none else some { q with waiting := q.waiting ++ [e] }

/-- Queues events one after the other. -/
def publishAll (r : Router σ) (q : Queue σ) (events : List Event) : Queue σ :=
  events.foldl (fun q e => (r.publish q e).getD q) q

/-- The worker delivers an event that it took. -/
def serveEvent (r : Router σ) (q : Queue σ) (e : Event) : Queue σ :=
  let d := r.deliver e q.state
  { q with
    state := d.state
    served := q.served ++ [(e, d.results)]
    messages := q.messages ++ d.messages }

/-- The worker takes the event that waits longest. -/
def serve (r : Router σ) (q : Queue σ) : Queue σ :=
  match q.waiting with
  | [] => q
  | e :: waiting => r.serveEvent { q with waiting } e

/-- The worker goes on until no event waits. -/
def serveAll (r : Router σ) (q : Queue σ) : Queue σ :=
  q.waiting.foldl r.serveEvent { q with waiting := [] }

/-- Waits for the worker, then closes what the channels hold. -/
def close (r : Router σ) (q : Queue σ) : Queue σ :=
  let q := r.serveAll q
  { q with
    state := r.channels.foldl (fun s c => match c.close with
      | none => s
      | some f => f s) q.state }

end Router
end Detour
