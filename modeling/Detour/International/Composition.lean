import Detour.International.Property

/-!
# Composed form

Canonical composition: every character is taken apart, the marks are put into canonical order, and
what can be joined is joined again. Hangul syllables are joined by arithmetic, all other characters
by the property table.
-/
namespace Detour.International

open Text

/-- A syllable of Hangul as its two or three letters. -/
def hangulParts? (c : CodePoint) : Option Text :=
  if isHangulSyllable c then
    let i := c - 0xAC00
    let head := [0x1100 + i / 588, 0x1161 + i % 588 / 28]
    some (if i % 28 = 0 then head else head ++ [0x11A7 + i % 28])
  else none

def decomposeChar (c : CodePoint) : Text :=
  match hangulParts? c with
  | some parts => parts
  | none =>
    let d := (property c).decomposition
    if d.isEmpty then [c] else d

def combiningClass (c : CodePoint) : Nat := (property c).combining

/-- A mark moves before those of a higher class, never before a base character. -/
def insertMark (c : CodePoint) : Text → Text
  | [] => [c]
  | d :: r =>
    if combiningClass c ≠ 0 ∧ combiningClass c < combiningClass d then d :: insertMark c r
    else c :: d :: r

/-- Canonical order; the result is built backwards. -/
def reorder (t : Text) : Text := (t.foldl (fun done c => insertMark c done) []).reverse

def decomposed (t : Text) : Text := reorder (t.flatMap decomposeChar)

/-- The character whose decomposition is the given text. -/
def composite? (parts : Text) : Option CodePoint :=
  (properties.find? fun (_, p) => p.composed && p.decomposition == parts).map (·.1)

def joinHangul? (a b : CodePoint) : Option CodePoint :=
  if 0x1100 ≤ a && a ≤ 0x1112 && 0x1161 ≤ b && b ≤ 0x1175 then
    some (0xAC00 + (a - 0x1100) * 588 + (b - 0x1161) * 28)
  else if isHangulSyllable a && (a - 0xAC00) % 28 = 0 && 0x11A8 ≤ b && b ≤ 0x11C2 then
    some (a + (b - 0x11A7))
  else none

def join? (a b : CodePoint) : Option CodePoint :=
  match joinHangul? a b with
  | some c => some c
  | none => composite? (decomposeChar a ++ [b])

/-- Joins characters to the base `base`; `marks` are those between that could not be joined, the
latest first. -/
def composeAfter (base : CodePoint) (marks : Text) : Text → Text
  | [] => base :: marks.reverse
  | c :: r =>
    let free := match marks with
      | [] => true
      | m :: _ => combiningClass m < combiningClass c
    match if free then join? base c else none with
    | some joined => composeAfter joined marks r
    | none =>
      if combiningClass c = 0 then base :: marks.reverse ++ composeAfter c [] r
      else composeAfter base (c :: marks) r

def compose : Text → Text
  | [] => []
  | c :: r => if combiningClass c = 0 then composeAfter c [] r else c :: compose r

def composedForm (t : Text) : Text := if isAscii t then t else compose (decomposed t)

def isComposedForm (t : Text) : Bool := composedForm t == t

end Detour.International
