import Detour.Failure

/-!
# Intervals

A length of time is a positive number of seconds. It comes as a value of any type, for a
configuration is not checked before it is used; truth values count as zero and one.
-/
namespace Detour.Interval

open Text

inductive Fault
  | incomparable (kind : Text)
  | notPositive (name shown : Text)
  | tooLarge
  deriving DecidableEq, Repr

def Fault.toFailure : Fault → Failure
  | .incomparable kind =>
    .simple "TypeError" ("'<=' not supported between instances of '" ++ kind ++ "' and 'int'")
  | .notPositive name shown => .simple "ValueError" (name ++ " must be positive, got " ++ shown)
  | .tooLarge => .simple "OverflowError" "int too large to convert to float"

def number? : Json → Option Number
  | .number n => some n
  | .bool b => some (.int (if b then 1 else 0))
  | _ => none

/-- Whether a value is zero or less. -/
def atMostZero (v : Json) : Except Fault Bool :=
  match number? v with
  | some n => .ok (n.le (.int 0))
  | none => .error (.incomparable v.kindName)

/-- The seconds of an interval, `name` being what it is called in messages. -/
def seconds (name : Text) (v : Json) : Except Fault Binary64 :=
  match number? v with
  | none => .error (.incomparable v.kindName)
  | some n =>
    if n.le (.int 0) then .error (.notPositive name v.plain)
    else match n.toBinary64? with
      | none => .error .tooLarge
      | some x => .ok x

end Detour.Interval
