import Detour.Interval
import Detour.Log.Logger

/-!
# Periodic flushing

A flusher runs a loop that persists something after every interval, until it is told to stop; it may
also be asked to flush at once. What is persisted is a state of any type. A failure is logged and
does not end the loop.

The waits of the loop come from a script, in which case starting runs the loop to its end; without a
script the loop waits until it is stopped.

## Main definitions

* `Flusher.flush` — one flush.
* `Flusher.start`, `Flusher.stop` — the loop.
-/
namespace Detour

open Log Text

/-- What becomes of a wait: the interval elapses, a stop is requested, or the interval elapses but a
stop was requested meanwhile. -/
inductive Wait
  | elapsed
  | stopped
  | stoppedMeanwhile
  deriving DecidableEq, Repr

/-- What persisting leads to. It may request a stop. -/
structure Persisted (σ : Type) where
  state : σ
  failure : Option Failure := none
  stops : Bool := false

structure Flusher (σ : Type) where
  interval : Binary64
  state : σ
  /-- The waits to come; without a script a wait lasts until a stop is requested. -/
  script : Option (List Wait)
  stopping : Bool := false
  /-- Whether the loop is waiting. -/
  running : Bool := false
  flushes : Nat := 0
  waits : Nat := 0
  messages : List Message := []

namespace Flusher

variable {σ : Type}

def create (interval : Json) (script : Option (List Wait)) (state : σ) :
    Except Interval.Fault (Flusher σ) :=
  (Interval.seconds "interval_seconds" interval).map fun interval => { interval, script, state }

/-- The name of the flusher in a log. -/
def component : Text := "PeriodicFlusher"

def failureMessages : Option Failure → List Message
  | none => []
  | some f => [Logger.failureMessage component "Unexpected error flushing domain lists" f none]

def flush (persist : σ → Persisted σ) (f : Flusher σ) : Flusher σ :=
  let p := persist f.state
  let stopping := f.stopping || p.stops
  { f with
    state := p.state
    stopping
    running := f.running && !stopping
    flushes := f.flushes + 1
    messages := f.messages ++ failureMessages p.failure }

/-- The loop on a script: it ends when a stop is requested, which is also what the end of the script
means. -/
def loop (persist : σ → Persisted σ) : List Wait → Flusher σ → Flusher σ
  | script, f =>
    if f.stopping then { f with script := some script }
    else
      let f := { f with waits := f.waits + 1 }
      match script with
      | [] => { f with script := some [] }
      | .elapsed :: rest => loop persist rest (flush persist f)
      | .stopped :: rest => { f with script := some rest }
      | .stoppedMeanwhile :: rest => { f with script := some rest, stopping := true }

/-- Starts the loop unless it is running. -/
def start (persist : σ → Persisted σ) (f : Flusher σ) : Flusher σ :=
  if f.running then f
  else
    let f := { f with stopping := false }
    match f.script with
    | none => { f with running := true }
    | some script => loop persist script f

/-- Ends the loop, and flushes once more if that is wanted. -/
def stop (persist : σ → Persisted σ) (last : Bool) (f : Flusher σ) : Flusher σ :=
  let f := { f with stopping := true, running := false }
  if last then flush persist f else f

end Flusher
end Detour
