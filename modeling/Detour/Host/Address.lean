import Detour.Text.Digits

/-!
# IP literals

The dotted form has four decimal parts without leading zeros. The colon form has eight groups of up
to four hexadecimal digits; one `::` stands for at least one group of zeros, the last two groups may
be in dotted form, and a scope may follow a percent sign.
-/
namespace Detour.Host

open Text

def isAsciiDigit (c : CodePoint) : Bool := 48 ≤ c && c ≤ 57

/-- One of the four parts of the dotted form. -/
def isDottedPart (t : Text) : Bool :=
  !t.isEmpty && t.all isAsciiDigit && t.length ≤ 3 && (t == [48] || t.head? != some 48) &&
  digitsValue (t.map (· - 48)) ≤ 255

def isDottedAddress (t : Text) : Bool :=
  let parts := splitOn 46 t
  parts.length == 4 && parts.all isDottedPart

def isGroup (t : Text) : Bool :=
  !t.isEmpty && t.length ≤ 4 && t.all fun c => (hexValue? c).isSome

/-- The number of groups a list of parts stands for, the last of which may be in dotted form. -/
def groupCount? : List Text → Option Nat
  | [] => some 0
  | [last] => if isGroup last then some 1 else if isDottedAddress last then some 2 else none
  | part :: rest => if isGroup part then (groupCount? rest).map (· + 1) else none

/-- Both sides of the first empty part that is neither the first nor the last. -/
def gap? : List Text → Option (List Text × List Text)
  | first :: [] :: second :: rest => some ([first], second :: rest)
  | first :: rest => (gap? rest).map fun (a, b) => (first :: a, b)
  | [] => none

/-- Parts beside a gap; a single empty part at the outer end belongs to the gap. -/
def besideGap (parts : List Text) : List Text := if parts = [[]] then [] else parts

def isColonAddress (t : Text) : Bool :=
  let parts := splitOn 58 t
  match gap? parts with
  | none => groupCount? parts == some 8
  | some (high, low) =>
    let high := besideGap high
    high.all isGroup && (groupCount? (besideGap low)).any fun n => high.length + n ≤ 7

/-- A scope is not empty and has no percent sign of its own. -/
def isScopedAddress (t : Text) : Bool :=
  match cut? 37 t with
  | none => isColonAddress t
  | some (address, scope) => !scope.isEmpty && !scope.contains 37 && isColonAddress address

def isAddress (t : Text) : Bool := !t.contains 47 && (isDottedAddress t || isScopedAddress t)

end Detour.Host
