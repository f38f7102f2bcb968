import Detour.DomainSet
import Detour.Interval

/-!
# Sets whose members expire

A name is live from its insertion until its lifetime is over; adding it again meanwhile changes
nothing. What has expired is still stored until the name is looked up, or until a sweep, which takes
place on demand and after every so many insertions. Settings are of any type.

## Main definitions

* `ExpiringSet.add`, `ExpiringSet.has`, `ExpiringSet.purge` — operations at a reading of the clock.
-/
namespace Detour

open Text

structure ExpiringSet where
  lifetime : Binary64
  sweepEvery : Number
  /-- The time at which each stored name expires. -/
  expiries : Table Text Number := []
  /-- The insertions since the last sweep. -/
  inserted : Nat := 0
  deriving DecidableEq, Repr

namespace ExpiringSet

def defaultLifetime : Json := .number (.float (.ofInt 120))

def defaultSweep : Json := .ofInt 64

inductive Fault
  | lifetime (fault : Interval.Fault)
  | incomparable (kind : Text)
  | sweep (shown : Text)
  deriving DecidableEq, Repr

def Fault.toFailure : Fault → Failure
  | .lifetime f => f.toFailure
  | .incomparable kind =>
    .simple "TypeError" ("'<' not supported between instances of '" ++ kind ++ "' and 'int'")
  | .sweep shown => .simple "ValueError" ("sweep_every must be at least 1, got " ++ shown)

/-- The number of insertions between two sweeps. -/
def sweepOf (v : Json) : Except Fault Number :=
  match Interval.number? v with
  | none => .error (.incomparable v.kindName)
  | some n => if n.lt (.int 1) then .error (.sweep v.plain) else .ok n

/-- A lifetime that is too long to be told is only noticed last. -/
def create (lifetime sweepEvery : Json) : Except Fault ExpiringSet :=
  match Interval.seconds "ttl_seconds" lifetime with
  | .ok lifetime => (sweepOf sweepEvery).map fun sweepEvery => { lifetime, sweepEvery }
  | .error .tooLarge =>
    match sweepOf sweepEvery with
    | .ok _ => .error (.lifetime .tooLarge)
    | .error f => .error f
  | .error f => .error (.lifetime f)

/-- Whether a time is before an expiry. -/
def isBefore (now expiry : Number) : Bool := now.lt expiry

/-- Whether an expiry is over. -/
def isOver (now expiry : Number) : Bool := expiry.le now

def isLive (s : ExpiringSet) (now : Number) (name : Text) : Bool :=
  (s.expiries.get? name).any (isBefore now)

/-- Drops everything that has expired, and counts it. -/
def purge (s : ExpiringSet) (now : Number) : Nat × ExpiringSet :=
  let kept := s.expiries.filter fun (_, expiry) => !isOver now expiry
  (s.expiries.length - kept.length, { s with expiries := kept, inserted := 0 })

/-- A sweep if it is due. -/
def sweep (s : ExpiringSet) (now : Number) : ExpiringSet :=
  if s.sweepEvery.le (.int s.inserted) then (s.purge now).2 else s

/-- Adds a name unless it is live, and tells whether it did; none if the time at which the name
would expire cannot be told. -/
def add (s : ExpiringSet) (now : Number) (name : Text) : Option (Bool × ExpiringSet) :=
  if s.isLive now name then some (false, s)
  else match now.add? (.float s.lifetime) with
    | none => none
    | some expiry =>
      some (true, { s with
        expiries := s.expiries.put name expiry
        inserted := s.inserted + 1 }.sweep now)

/-- Whether a name is live. If it has expired it is dropped. -/
def has (s : ExpiringSet) (now : Number) (name : Text) : Bool × ExpiringSet :=
  match s.expiries.get? name with
  | none => (false, s)
  | some expiry =>
    if isBefore now expiry then (true, s)
    else (false, { s with expiries := s.expiries.erase name })

/-- Whether a value is live. Only a text can be, and one that has expired is dropped. -/
def containsValue (s : ExpiringSet) (now : Number) : Json → Bool × ExpiringSet
  | .string name => s.has now name
  | _ => (false, s)

/-- The live names. -/
def live (s : ExpiringSet) (now : Number) : List Text :=
  Table.keys (s.expiries.filter fun (_, expiry) => isBefore now expiry)

/-- The number of live names. -/
def size (s : ExpiringSet) (now : Number) : Nat := (s.live now).length

/-- The number of names that are stored, live or not. -/
def stored (s : ExpiringSet) : Nat := s.expiries.length

@[simp] theorem has_fst (s : ExpiringSet) (now : Number) (name : Text) :
    (s.has now name).1 = s.isLive now name := by
  unfold has isLive
  cases s.expiries.get? name with
  | none => rfl
  | some expiry => by_cases h : isBefore now expiry <;> simp [h]

/-- Looking a name up drops nothing that is live. -/
@[simp] theorem isLive_has (s : ExpiringSet) (now : Number) (name other : Text) :
    (s.has now name).2.isLive now other = s.isLive now other := by
  unfold has
  cases h : s.expiries.get? name with
  | none => rfl
  | some expiry =>
    by_cases live : isBefore now expiry
    · simp [live]
    · by_cases ho : other = name
      · subst ho
        simp [live, isLive, h]
      · simp [live, isLive, Table.get?_erase_of_ne ho]

end ExpiringSet
end Detour
