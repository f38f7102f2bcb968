import Detour.Table
import Detour.Text.Basic

/-!
# A lock for readers and writers

Any number of readers hold the lock together, a writer holds it alone, and a reader that comes while
a writer waits has to wait too. Whether a party may enter is read off three counters. A party that
waits sleeps until it is woken; then it looks whether it may enter, and sleeps again if not. All
parties are woken when a writer, or the last reader, leaves.

## Main definitions

* `Lock.request` and `Lock.release` — a step, after which nothing moves any more.
* `Lock.settle` — lets the woken parties look, in the order of their coming, until all sleep.
-/
namespace Detour

inductive Side
  | reader
  | writer
  deriving DecidableEq, Repr

structure Waiter where
  name : Text
  side : Side
  awake : Bool
  deriving DecidableEq, Repr

structure Lock where
  /-- The number of readers that hold the lock. -/
  readers : Nat := 0
  /-- Whether a writer holds the lock. -/
  writer : Bool := false
  writersWaiting : Nat := 0
  holders : Table Text Side := []
  waiters : List Waiter := []
  deriving DecidableEq, Repr

namespace Lock

def free : Lock := {}

/-- A reader enters unless a writer holds or waits; a writer enters if nobody holds. -/
def mayEnter (l : Lock) : Side → Bool
  | .reader => !l.writer && l.writersWaiting == 0
  | .writer => !l.writer && l.readers == 0

def enter (l : Lock) (name : Text) : Side → Lock
  | .reader => { l with readers := l.readers + 1, holders := l.holders ++ [(name, .reader)] }
  | .writer =>
    { l with
      writersWaiting := l.writersWaiting - 1
      writer := true
      holders := l.holders ++ [(name, .writer)] }

/-- A waiter that is awake looks whether it may enter, and sleeps if not; `before` and `after` are
the other waiters. -/
def lookAt (l : Lock) (before : List Waiter) (w : Waiter) (after : List Waiter) : Lock :=
  if l.mayEnter w.side then { l with waiters := before ++ after }.enter w.name w.side
  else { l with waiters := before ++ { w with awake := false } :: after }

/-- The first waiter that is awake, with those before and after it. -/
def firstAwake : List Waiter → Option (List Waiter × Waiter × List Waiter)
  | [] => none
  | w :: r =>
    if w.awake then some ([], w, r) else (firstAwake r).map fun (a, x, b) => (w :: a, x, b)

def look (l : Lock) : Lock :=
  match firstAwake l.waiters with
  | none => l
  | some (before, w, after) => l.lookAt before w after

def awakeCount (l : Lock) : Nat := l.waiters.countP (·.awake)

/-- Every look leaves one waiter fewer awake. -/
def settleSteps : Nat → Lock → Lock
  | 0, l => l
  | n + 1, l => settleSteps n l.look

def settle (l : Lock) : Lock := settleSteps l.awakeCount l

def wakeAll (l : Lock) : Lock :=
  { l with waiters := l.waiters.map fun w => { w with awake := true } }

/-- A writer is counted as waiting before it looks for the first time. -/
def come (l : Lock) (name : Text) (side : Side) : Lock :=
  { l with
    writersWaiting := if side = .writer then l.writersWaiting + 1 else l.writersWaiting
    waiters := l.waiters ++ [⟨name, side, true⟩] }

/-- A party asks for a side, and looks at once. -/
def request (l : Lock) (name : Text) (side : Side) : Lock :=
  (l.come name side).lookAt l.waiters ⟨name, side, true⟩ []

def quit (l : Lock) (name : Text) : Side → Lock
  | .reader => { l with readers := l.readers - 1, holders := l.holders.erase name }
  | .writer => { l with writer := false, holders := l.holders.erase name }

/-- After a party of some side has quit: a reader wakes the others only if it was the last one. -/
def notify (l : Lock) (side : Side) : Lock :=
  if side = .writer ∨ l.readers = 0 then l.wakeAll else l

def leave (l : Lock) (name : Text) : Lock :=
  match l.holders.get? name with
  | none => l
  | some side => (l.quit name side).notify side

/-- A holder leaves, and those that it woke look. -/
def release (l : Lock) (name : Text) : Lock := (l.leave name).settle

def holding (l : Lock) : List Text := l.holders.keys

def waiting (l : Lock) : List Text := l.waiters.map (·.name)

end Lock
end Detour
