/-!
# Texts

A text is a list of code points. Surrogates are ordinary members: an octet of a list file that is
no UTF-8 is carried as a surrogate until it is written back. Texts are ordered code point by code
point.

Blank characters are white space in the sense of the Unicode property, with the four separators of
ASCII. A byte order mark and a zero-width space are not blank.
-/
namespace Detour

abbrev CodePoint := Nat

abbrev Text := List CodePoint

namespace Text

def ofString (s : String) : Text := s.toList.map Char.toNat

instance : Coe String Text := ⟨ofString⟩

/-- A surrogate has no character of its own and is shown as the replacement character. -/
def toString (t : Text) : String :=
  String.ofList (t.map fun c => if c.isValidChar then Char.ofNat c else Char.ofNat 0xFFFD)

def isAscii (t : Text) : Bool := t.all (· < 128)

/-- Whether a text comes before another or is the same: the first code point in which they differ
decides, and the beginning of a text comes before the text. -/
def atMost : Text → Text → Bool
  | [], _ => true
  | _ :: _, [] => false
  | a :: s, b :: t => a < b || (a == b && atMost s t)

/-- The names in ascending order, repetitions kept. -/
def sorted (names : List Text) : List Text := names.mergeSort atMost

/-- The pieces between the separators; there is always at least one. -/
def splitOn (sep : CodePoint) : Text → List Text
  | [] => [[]]
  | c :: r =>
    if c = sep then [] :: splitOn sep r
    else match splitOn sep r with
      | [] => [[c]]
      | p :: ps => (c :: p) :: ps

def joinWith (sep : Text) (parts : List Text) : Text := sep.intercalate parts

def containsText (part : Text) : Text → Bool
  | [] => part.isEmpty
  | c :: r => part.isPrefixOf (c :: r) || containsText part r

/-- The text before and after the first occurrence of a code point. -/
def cut? (c : CodePoint) : Text → Option (Text × Text)
  | [] => none
  | d :: r => if d = c then some ([], r) else (cut? c r).map fun (a, b) => (d :: a, b)

/-- The text before and after the last occurrence of a code point. -/
def cutLast? (c : CodePoint) : Text → Option (Text × Text)
  | [] => none
  | d :: r =>
    match cutLast? c r with
    | some (a, b) => some (d :: a, b)
    | none => if d = c then some ([], r) else none

def dropEnd (p : CodePoint → Bool) (t : Text) : Text := (t.reverse.dropWhile p).reverse

def asciiUpper (c : CodePoint) : CodePoint := if 97 ≤ c ∧ c ≤ 122 then c - 32 else c

def asciiLower (c : CodePoint) : CodePoint := if 65 ≤ c ∧ c ≤ 90 then c + 32 else c

def repeated (n : Nat) (c : CodePoint) : Text := List.replicate n c

/-- Right-padded with spaces to a width. -/
def padTo (width : Nat) (t : Text) : Text := t ++ repeated (width - t.length) 32

/-- Whether a code point is in one of some closed intervals. -/
def isWithin (ranges : List (CodePoint × CodePoint)) (c : CodePoint) : Bool :=
  ranges.any fun (first, last) => first ≤ c && c ≤ last

/-! ## Blanks -/

def isBlank (c : CodePoint) : Bool :=
  (9 ≤ c && c ≤ 13) || (28 ≤ c && c ≤ 32) || c == 0x85 || c == 0xA0 || c == 0x1680 ||
  (0x2000 ≤ c && c ≤ 0x200A) || c == 0x2028 || c == 0x2029 || c == 0x202F || c == 0x205F ||
  c == 0x3000

/-- Both ends without blank characters. -/
def strip (t : Text) : Text := dropEnd isBlank (t.dropWhile isBlank)

def isBlankText (t : Text) : Bool := t.all isBlank

theorem splitOn_ne_nil (sep : CodePoint) (t : Text) : splitOn sep t ≠ [] := by
  induction t with
  | nil => simp [splitOn]
  | cons c r ih =>
    unfold splitOn
    split
    · simp
    · split <;> simp

end Text
end Detour
