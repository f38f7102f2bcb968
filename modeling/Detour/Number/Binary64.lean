/-!
# Binary64 numbers

A binary64 number is not a number, infinite, or a sign with a mantissa and an exponent. Every finite
one is a whole number of units of `2 ^ -1074`, so sums and comparisons are exact in whole numbers;
a result is rounded once, to the nearest, a tie to the even mantissa.

## Main definitions

* `Binary64.ofRatio` — the number nearest to a quotient.
* `Binary64.units` — a finite number in units of the smallest one.
* `Binary64.ofDecimal` — the number nearest to a decimal.
-/
namespace Detour

inductive Binary64
  | nan
  | infinite (negative : Bool)
  /-- The mantissa is below `2 ^ 53`, and at least `2 ^ 52` unless the exponent is `-1074`. -/
  | finite (negative : Bool) (mantissa : Nat) (exponent : Int)
  deriving DecidableEq, Repr, Inhabited

namespace Binary64

def least : Int := -1074

def greatest : Int := 971

def twoTo (n : Nat) : Nat := Nat.pow 2 n

def tenTo (n : Nat) : Nat := Nat.pow 10 n

def zero (negative : Bool) : Binary64 := .finite negative 0 least

/-- The quotient to the nearest whole number, a tie to the even one. -/
def roundDiv (a b : Nat) : Nat :=
  let q := a / b
  let r := a % b
  if 2 * r < b then q else if b < 2 * r then q + 1 else q + q % 2

/-- Numerator and denominator of `a / b` divided by `2 ^ e`. -/
def scaleDown (a b : Nat) (e : Int) : Nat × Nat :=
  if 0 ≤ e then (a, b * twoTo e.toNat) else (a * twoTo (-e).toNat, b)

/-- The exponent that gives `a / b` a mantissa of 53 digits, or the least one. -/
def exponentFor (a b : Nat) : Int :=
  let e : Int := (a.log2 : Int) - b.log2 - 52
  let (n, d) := scaleDown a b e
  max least (if twoTo 52 * d ≤ n then e else e - 1)

def assemble (negative : Bool) (mantissa : Nat) (exponent : Int) : Binary64 :=
  let (m, e) := if mantissa = twoTo 53 then (twoTo 52, exponent + 1) else (mantissa, exponent)
  if greatest < e then .infinite negative else .finite negative m e

/-- The number nearest to `a / b`. -/
def ofRatio (negative : Bool) (a b : Nat) : Binary64 :=
  if a = 0 then zero negative
  else
    let e := exponentFor a b
    let (n, d) := scaleDown a b e
    assemble negative (roundDiv n d) e

def ofInt (n : Int) : Binary64 := ofRatio (n < 0) n.natAbs 1

/-- The number of decimal digits, none for zero. -/
def decimalLength (n : Nat) : Nat := if n = 0 then 0 else (Nat.toDigits 10 n).length

/-- The number nearest to `digits · 10 ^ exponent`. Exponents far outside the range are decided
without the power. -/
def ofDecimal (negative : Bool) (digits : Nat) (exponent : Int) : Binary64 :=
  if digits = 0 then zero negative
  else
    let top : Int := decimalLength digits + exponent
    if 400 < top then .infinite negative
    else if top < -400 then zero negative
    else if 0 ≤ exponent then ofRatio negative (digits * tenTo exponent.toNat) 1
    else ofRatio negative digits (tenTo (-exponent).toNat)

/-- The value of a finite number in units of `2 ^ -1074`; zero for the others. -/
def units : Binary64 → Int
  | .finite negative m e =>
    let u : Int := (m * twoTo (e - least).toNat : Nat)
    if negative then -u else u
  | _ => 0

def isFinite : Binary64 → Bool
  | .finite .. => true
  | _ => false

def negative : Binary64 → Bool
  | .nan => false
  | .infinite n => n
  | .finite n _ _ => n

/-- A sum of zero is positive unless both summands are negative zeros. -/
def add : Binary64 → Binary64 → Binary64
  | .nan, _ => .nan
  | _, .nan => .nan
  | .infinite a, .infinite b => if a = b then .infinite a else .nan
  | .infinite a, _ => .infinite a
  | _, .infinite b => .infinite b
  | x, y =>
    let s := x.units + y.units
    if s = 0 then zero (x.negative && y.negative)
    else ofRatio (s < 0) s.natAbs (twoTo 1074)

end Binary64
end Detour
