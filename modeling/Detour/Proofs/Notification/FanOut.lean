import Detour.Notification.Router
import Detour.Proofs.Log.Failures

/-!
# Every event goes to every channel

Published events wait in a queue, from which one worker takes them and delivers each to the channels
of the router. What the channels are asked is seen by channels that note it: each is asked once for
each event, events in the order in which they were published and channels in the order of their
registration, whatever the channels answer. Results and messages follow from the answers.

## Main definitions

* `Router.Attempt` — a channel is asked to send an event.
* `Router.noting` — a router whose channels note what they are asked.
* `Router.work` — the steps of publishing and serving.

## Main statements

* `Router.deliver_noting` — one event.
* `Router.work_serves` — any steps.
-/
namespace Detour.Router

open Log Text

variable {σ : Type}

/-! ## Attempts -/

/-- A channel is asked to send an event. -/
structure Attempt where
  event : Event
  /-- The place of the channel among those of the router. -/
  index : Nat
  name : Text
  sent : Except Failure Bool

namespace Attempt

def place (a : Attempt) : Event × Nat × Text := (a.event, a.index, a.name)

def succeeded (a : Attempt) : Bool :=
  match a.sent with
  | .ok sent => sent
  | .error _ => false

/-- The text of a failure. -/
def reason (a : Attempt) : Text :=
  match a.sent with
  | .ok _ => "Channel returned failure"
  | .error f => f.text

def delivery (a : Attempt) : Delivery := ⟨a.name, if a.succeeded then none else some a.reason⟩

/-- The entry in a log about a failure. -/
def entry (a : Attempt) (timestamp : Text) : Entry where
  timestamp
  level := .error
  component := component
  message := "Event delivery failed for channel '" ++ a.name ++ "'"
  data := .object [("channel", .string a.name), ("domain", .string a.event.domain),
    ("error", .string a.reason)]

def message (a : Attempt) : Message := failureMessage a.name a.event a.reason

theorem succeeded_iff (a : Attempt) : a.succeeded = true ↔ a.sent = .ok true := by
  unfold succeeded
  cases a.sent <;> simp

theorem errorOf_sent (a : Attempt) :
    errorOf a.sent = if a.succeeded then none else some a.reason := by
  obtain ⟨event, index, name, sent⟩ := a
  match sent with
  | .ok true => rfl
  | .ok false => rfl
  | .error f => rfl

theorem success_delivery (a : Attempt) : a.delivery.success = a.succeeded := by
  cases h : a.succeeded <;> simp [delivery, Delivery.success, h]

/-- The data about a failure have no sensitive keys. -/
theorem entryOf_message (a : Attempt) (timestamp : Text) :
    Logger.entryOf timestamp a.message = a.entry timestamp := by
  have known : ∀ key ∈ ([ofString "channel", ofString "domain", ofString "error"] : List Text),
      isSensitive key = false := by decide +kernel
  have plain : ∀ key ∈ keys a.message.data, isSensitive key = false := known
  exact Logger.entryOf_plain rfl plain timestamp

end Attempt

/-! ## One event -/

/-- A channel that notes what it is asked and what it answers. -/
def noted (c : Channel σ) (index : Nat) : Channel (σ × List Attempt) where
  name := c.name
  send e s := ((c.send e s.1).1, (c.send e s.1).2, s.2 ++ [⟨e, index, c.name, (c.send e s.1).1⟩])
  close := c.close.map fun f s => (f s.1, s.2)

def noting (r : Router σ) : Router (σ × List Attempt) :=
  ⟨r.channels.zipIdx.map fun (c, index) => noted c index⟩

/-- What channels are asked about an event, from one with an index on. -/
def attempts (e : Event) : List (Channel σ) → Nat → σ → List Attempt
  | [], _, _ => []
  | c :: rest, index, s =>
    ⟨e, index, c.name, (c.send e s).1⟩ :: attempts e rest (index + 1) (c.send e s).2

theorem place_attempts (e : Event) (channels : List (Channel σ)) (index : Nat) (s : σ) :
    (attempts e channels index s).map Attempt.place =
      (channels.zipIdx index).map fun (c, i) => (e, i, c.name) := by
  induction channels generalizing index s with
  | nil => rfl
  | cons c rest ih => exact congrArg (List.cons _) (ih _ _)

theorem results_deliverTo (e : Event) (channels : List (Channel σ)) (index : Nat) (s : σ) :
    (deliverTo e channels s).results = (attempts e channels index s).map Attempt.delivery := by
  induction channels generalizing index s with
  | nil => rfl
  | cons c rest ih =>
    rw [deliverTo, attempts, List.map_cons, Attempt.delivery, ← Attempt.errorOf_sent, ← ih]

theorem messages_deliverTo (e : Event) (channels : List (Channel σ)) (index : Nat) (s : σ) :
    (deliverTo e channels s).messages =
      ((attempts e channels index s).filter fun a => !a.succeeded).map Attempt.message := by
  induction channels generalizing index s with
  | nil => rfl
  | cons c rest ih =>
    have first := Attempt.errorOf_sent ⟨e, index, c.name, (c.send e s).1⟩
    rw [deliverTo, attempts, List.filter_cons]
    dsimp only at first ⊢
    rw [first, ih (index + 1)]
    split <;> next h => simp [h, failureMessages, Attempt.message]

/-- Noting changes nothing but the notes. -/
theorem deliverTo_noting (e : Event) (channels : List (Channel σ)) (index : Nat) (s : σ)
    (notes : List Attempt) :
    deliverTo e ((channels.zipIdx index).map fun (c, i) => noted c i) (s, notes) =
      { results := (deliverTo e channels s).results
        messages := (deliverTo e channels s).messages
        state := ((deliverTo e channels s).state, notes ++ attempts e channels index s) } := by
  induction channels generalizing index s notes with
  | nil => simp [deliverTo, attempts]
  | cons c rest ih =>
    rw [List.zipIdx_cons, List.map_cons, deliverTo]
    simp only [noted] at ih ⊢
    rw [ih]
    simp [deliverTo, attempts]

theorem deliver_noting (r : Router σ) (e : Event) (s : σ) (notes : List Attempt) :
    r.noting.deliver e (s, notes) =
      { results := (r.deliver e s).results
        messages := (r.deliver e s).messages
        state := ((r.deliver e s).state, notes ++ attempts e r.channels 0 s) } :=
  deliverTo_noting e r.channels 0 s notes

/-- Every channel has a result, in the order of the channels. -/
theorem channel_results (e : Event) (channels : List (Channel σ)) (s : σ) :
    (deliverTo e channels s).results.map Delivery.channel = channels.map Channel.name := by
  induction channels generalizing s with
  | nil => rfl
  | cons c rest ih => exact congrArg (List.cons c.name) (ih _)

/-! ## Many events -/

/-- An event is published, or the worker takes the next one. -/
inductive Step
  | publish (e : Event)
  | serve

def Step.event? : Step → Option Event
  | .publish e => some e
  | .serve => none

def step (r : Router σ) (q : Queue σ) : Step → Queue σ
  | .publish e => (r.publish q e).getD q
  | .serve => r.serve q

def work (r : Router σ) (q : Queue σ) (steps : List Step) : Queue σ := steps.foldl r.step q

/-- The events that are published; without channels there are none. -/
def published (r : Router σ) (steps : List Step) : List Event :=
  if r.channels.isEmpty then [] else steps.filterMap Step.event?

theorem step_publish (r : Router σ) (q : Queue σ) (e : Event) :
    r.step q (.publish e) =
      if r.channels.isEmpty then q else { q with waiting := q.waiting ++ [e] } := by
  cases none : r.channels.isEmpty <;> simp [step, publish, none]

theorem step_serve_cons (r : Router σ) (s : σ) (e : Event) (waiting : List Event)
    (served : List (Event × List Delivery)) (messages : List Message) :
    r.step ⟨s, e :: waiting, served, messages⟩ .serve =
      ⟨(r.deliver e s).state, waiting, served ++ [(e, (r.deliver e s).results)],
        messages ++ (r.deliver e s).messages⟩ := rfl

theorem work_concat (r : Router σ) (q : Queue σ) (steps : List Step) (x : Step) :
    r.work q (steps ++ [x]) = r.step (r.work q steps) x := by
  simp [work]

/-! ### Notes -/

/-- What a queue is without the notes of the channels. -/
def Queue.forget (q : Queue (σ × List Attempt)) : Queue σ := { q with state := q.state.1 }

theorem isEmpty_noting (r : Router σ) : r.noting.channels.isEmpty = r.channels.isEmpty := by
  cases h : r.channels <;> simp [noting, h]

theorem forget_step (r : Router σ) (q : Queue (σ × List Attempt)) (x : Step) :
    (r.noting.step q x).forget = r.step q.forget x := by
  obtain ⟨⟨s, notes⟩, waiting, served, messages⟩ := q
  cases x with
  | publish e =>
    cases none : r.channels.isEmpty <;> simp [step_publish, isEmpty_noting, none, Queue.forget]
  | serve =>
    cases waiting with
    | nil => rfl
    | cons e waiting => simp [step_serve_cons, deliver_noting, Queue.forget]

theorem forget_work (r : Router σ) (q : Queue (σ × List Attempt)) (steps : List Step) :
    (r.noting.work q steps).forget = r.work q.forget steps := by
  induction steps generalizing q with
  | nil => rfl
  | cons x steps ih => exact (ih _).trans (congrArg (r.work · steps) (forget_step r q x))

/-! ### The queue is emptied -/

/-- As many services as events wait are what the worker does when it goes on to the end. -/
theorem work_serves_all (r : Router σ) (q : Queue σ) :
    r.work q (List.replicate q.waiting.length .serve) = r.serveAll q := by
  obtain ⟨s, waiting, served, messages⟩ := q
  induction waiting generalizing s served messages with
  | nil => rfl
  | cons e waiting ih => exact ih _ _ _

theorem waiting_serveAll (r : Router σ) (q : Queue σ) : (r.serveAll q).waiting = [] := by
  have kept (q : Queue σ) (events : List Event) (none : q.waiting = []) :
      (events.foldl r.serveEvent q).waiting = [] := by
    induction events generalizing q with
    | nil => exact none
    | cons e events ih => exact ih _ none
  exact kept _ _ rfl

/-! ### Steps -/

/-- What has been published is served in its order, and each event is offered once to each of the
channels in their order; results and messages are those of what the channels answered. -/
structure Serves (r : Router σ) (events : List Event) (q : Queue (σ × List Attempt)) : Prop where
  order : q.served.map Prod.fst ++ q.waiting = events
  places : q.state.2.map Attempt.place =
    q.served.flatMap fun (e, _) => r.channels.zipIdx.map fun (c, index) => (e, index, c.name)
  channels : ∀ answer ∈ q.served, answer.2.map Delivery.channel = r.channels.map Channel.name
  results : q.served.flatMap Prod.snd = q.state.2.map Attempt.delivery
  messages : q.messages = (q.state.2.filter fun a => !a.succeeded).map Attempt.message

theorem Serves.publish {r : Router σ} {events : List Event} {q : Queue (σ × List Attempt)}
    (h : Serves r events q) (e : Event) :
    Serves r (events ++ [e]) { q with waiting := q.waiting ++ [e] } :=
  { h with order := by rw [← h.order, List.append_assoc] }

theorem Serves.serve {r : Router σ} {events : List Event} {q : Queue (σ × List Attempt)}
    (h : Serves r events q) : Serves r events (r.noting.step q .serve) := by
  obtain ⟨⟨s, notes⟩, waiting, served, messages⟩ := q
  cases waiting with
  | nil => exact h
  | cons e waiting =>
    obtain ⟨order, places, channels, results, logged⟩ := h
    simp only [step_serve_cons, deliver_noting] at *
    constructor
    · simpa using order
    · simp [places, place_attempts]
    · exact List.forall_mem_append.2 ⟨channels, List.forall_mem_singleton.2 (channel_results e _ s)⟩
    · simp [results, deliver, results_deliverTo e r.channels 0 s]
    · simp [logged, deliver, messages_deliverTo e r.channels 0 s]

/-- The induction is on the steps from the latest one on. -/
theorem serves_work (r : Router σ) (s : σ) (steps : List Step) :
    Serves r (published r steps) (r.noting.work { state := (s, []) } steps) := by
  induction steps using List.reverseRecOn with
  | nil => exact ⟨by simp [work, published], rfl, by simp [work], rfl, rfl⟩
  | append_singleton steps x ih =>
    rw [work_concat]
    cases x with
    | publish e =>
      cases none : r.channels.isEmpty with
      | true => simpa [step_publish, isEmpty_noting, none, published] using ih
      | false =>
        simpa [step_publish, isEmpty_noting, none, published, Step.event?] using ih.publish e
    | serve =>
      have same : published r (steps ++ [.serve]) = published r steps := by
        simp [published, List.filterMap_cons, Step.event?]
      rw [same]
      exact ih.serve

/-- A channel that fails keeps no event from one of the same name. -/
example (e : Event) :
    (work ⟨[{ name := "hook", send := fun _ s => (.ok false, s) },
        { name := "hook", send := fun _ s => (.ok true, s) }]⟩
      { state := () } [.publish e, .serve]).served =
      [(e, [⟨"hook", some "Channel returned failure"⟩, ⟨"hook", none⟩])] := rfl

end Detour.Router
