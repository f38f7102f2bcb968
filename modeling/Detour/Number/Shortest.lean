import Detour.Number.Binary64
import Detour.Text.Digits

/-!
# Shortest decimals

A finite number is written with the fewest digits that read back as the same number, and of those
the nearest. On each decimal grid only the two neighbours of the number can be the nearest, so both
are tried, from one digit upwards; seventeen digits always suffice.
-/
namespace Detour.Binary64

open Text

/-- Numerator and denominator of a magnitude. -/
def ratio (mantissa : Nat) (exponent : Int) : Nat × Nat :=
  if 0 ≤ exponent then (mantissa * twoTo exponent.toNat, 1) else (mantissa, twoTo (-exponent).toNat)

/-- Whether `10 ^ p ≤ a / b`. -/
def powerAtMost (a b : Nat) (p : Int) : Bool :=
  if 0 ≤ p then b * tenTo p.toNat ≤ a else b ≤ a * tenTo (-p).toNat

/-- The power of ten of the leading digit of `a / b`. -/
def leadingPower (a b : Nat) : Int :=
  let guess := ((a.log2 : Int) - b.log2) * 30103 / 100000
  if powerAtMost a b (guess + 1) then guess + 1
  else if powerAtMost a b guess then guess
  else guess - 1

structure Decimal where
  digits : Nat
  exponent : Int
  deriving DecidableEq, Repr

/-- The nearer of the two neighbours of `a / b` on the grid of `10 ^ k` among those that read back
as `x`. -/
def onGrid (x : Binary64) (a b : Nat) (k : Int) : Option Decimal :=
  let (n, d) := if 0 ≤ k then (a, b * tenTo k.toNat) else (a * tenTo (-k).toNat, b)
  let near := roundDiv n d
  let other := if near * d ≤ n then near + 1 else near - 1
  if ofDecimal false near k = x then some ⟨near, k⟩
  else if ofDecimal false other k = x then some ⟨other, k⟩
  else none

/-- The first grid with a hit, from `tried + 1` digits on. -/
def firstGrid (x : Binary64) (a b : Nat) (power : Int) (tried : Nat) : Nat → Decimal
  | 0 => ⟨0, 0⟩
  | more + 1 =>
    match onGrid x a b (power - tried) with
    | some r => r
    | none => firstGrid x a b power (tried + 1) more

def shortest (mantissa : Nat) (exponent : Int) : Decimal :=
  let (a, b) := ratio mantissa exponent
  firstGrid (.finite false mantissa exponent) a b (leadingPower a b) 0 17

/-- An exponent has a sign and at least two digits. -/
def exponentText (p : Int) : Text :=
  let digits := ofNat p.natAbs
  [101, if p < 0 then 45 else 43] ++ repeated (2 - digits.length) 48 ++ digits

/-- Digits with the point after the first `1 + p` of them; from `10 ^ 16` on and below `10 ^ -4` the
point stands after the first digit and an exponent follows. -/
def placePoint (digits : Text) (p : Int) : Text :=
  if -4 ≤ p && p < 16 then
    if p < 0 then "0." ++ repeated (-p - 1).toNat 48 ++ digits
    else
      let whole := (1 + p).toNat
      let padded := digits ++ repeated (whole - digits.length) 48
      let fraction := padded.drop whole
      padded.take whole ++ "." ++ (if fraction.isEmpty then [48] else fraction)
  else
    digits.take 1 ++ (if digits.length = 1 then [] else 46 :: digits.drop 1) ++ exponentText p

def trimZeros (digits : Text) : Text :=
  let t := dropEnd (· == 48) digits
  if t.isEmpty then [48] else t

def magnitudeText (mantissa : Nat) (exponent : Int) : Text :=
  if mantissa = 0 then "0.0"
  else
    let d := shortest mantissa exponent
    let digits := ofNat d.digits
    placePoint (trimZeros digits) (d.exponent + digits.length - 1)

/-- How the numbers without digits are spelled. -/
structure Spelling where
  nan : Text
  infinity : Text

def toText (s : Spelling) : Binary64 → Text
  | .nan => s.nan
  | .infinite negative => if negative then 45 :: s.infinity else s.infinity
  | .finite negative m e => if negative then 45 :: magnitudeText m e else magnitudeText m e

end Detour.Binary64
