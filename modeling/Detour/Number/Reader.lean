import Detour.Number.Basic
import Detour.Text.LowerCase
import Detour.Text.Numeral

/-!
# Reading numbers

A decimal is a sign, digits with an optional point, and an optional exponent. Digits may be those of
any script, and a single underscore may stand between two digits. Infinity and not-a-number are
spelled in any case. A whole number is a sign and digits.
-/
namespace Detour.Binary64

open Text

/-- The digits at the front of a text, as values, and the rest. -/
def digitRun : Text → List Nat × Text
  | [] => ([], [])
  | c :: r =>
    match decimalValue? c with
    | none => ([], c :: r)
    | some d =>
      let (ds, rest) := digitRun r
      (d :: ds, rest)

/-- Drops underscores that stand between two digits; any other underscore is refused. -/
def dropUnderscores (afterDigit : Bool) : Text → Option Text
  | [] => some []
  | 95 :: r =>
    if afterDigit && r.head?.any fun d => (decimalValue? d).isSome then dropUnderscores false r
    else none
  | c :: r => (dropUnderscores (decimalValue? c).isSome r).map (c :: ·)

/-- A sign and the rest. -/
def signOf : Text → Bool × Text
  | 45 :: r => (true, r)
  | 43 :: r => (false, r)
  | t => (false, t)

def exponentOf? : Text → Option Int
  | [] => some 0
  | c :: r =>
    if c = 101 || c = 69 then
      let (negative, r) := signOf r
      match digitRun r with
      | ([], _) => none
      | (ds, []) =>
        let n := digitsValue ds
        some (if negative then -(n : Int) else n)
      | _ => none
    else none

/-- A decimal without a sign. -/
def unsigned? (negative : Bool) (t : Text) : Option Binary64 :=
  let (whole, rest) := digitRun t
  let (fraction, rest) := match rest with
    | 46 :: r => digitRun r
    | r => ([], r)
  if whole.isEmpty && fraction.isEmpty then none
  else (exponentOf? rest).map fun e =>
    ofDecimal negative (digitsValue (whole ++ fraction)) (e - fraction.length)

def ofText? (t : Text) : Option Binary64 := do
  let t ← dropUnderscores false t
  let (negative, t) := signOf t
  let name := t.map asciiLower
  if name = "inf" || name = "infinity" then some (.infinite negative)
  else if name = "nan" then some .nan
  else unsigned? negative t

end Detour.Binary64

namespace Detour.Number

open Binary64 Text

/-- A whole number, with blanks around it. -/
def wholeOfText? (t : Text) : Option Int := do
  let t ← dropUnderscores false (strip t)
  let (negative, digits) := signOf t
  if digits.isEmpty then none
  else match readNumeral digits with
    | .ok n => some (if negative then -(n : Int) else n)
    | .error _ => none

end Detour.Number
