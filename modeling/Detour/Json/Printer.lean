import Detour.Json.Value
import Detour.Text.Numeral

/-!
# Writing JSON

Only quotes, backslashes and control characters are escaped. A value is written on one line with the
separators of a style, or over several lines with two spaces for each level; the latter comes in
pieces, as it is written to a file. A whole number that is too long has no piece, and a value with
such a number in it has no text.
-/
namespace Detour.Json

open Text

def escapeChar (c : CodePoint) : Text :=
  if c = 34 then "\\\""
  else if c = 92 then "\\\\"
  else if c = 10 then "\\n"
  else if c = 13 then "\\r"
  else if c = 9 then "\\t"
  else if c = 8 then "\\b"
  else if c = 12 then "\\f"
  else if c < 32 then "\\u" ++ hexDigits false 4 c
  else [c]

def stringText (t : Text) : Text := 34 :: t.flatMap escapeChar ++ [34]

def spelling : Binary64.Spelling := ⟨"NaN", "Infinity"⟩

/-- The separators between items and after names. -/
structure Style where
  item : Text
  name : Text

def spaced : Style := ⟨", ", ": "⟩

def compact : Style := ⟨",", ":"⟩

mutual

def render (s : Style) : Json → Text
  | .null => "null"
  | .bool b => if b then "true" else "false"
  | .number n => n.toTextWith spelling
  | .string t => stringText t
  | .array items => "[" ++ renderItems s items ++ "]"
  | .object members => "\x7b" ++ renderMembers s members ++ "\x7d"

def renderItems (s : Style) : List Json → Text
  | [] => []
  | [x] => render s x
  | x :: xs => render s x ++ s.item ++ renderItems s xs

def renderMembers (s : Style) : List (Text × Json) → Text
  | [] => []
  | [(k, v)] => stringText k ++ s.name ++ render s v
  | (k, v) :: r => stringText k ++ s.name ++ render s v ++ s.item ++ renderMembers s r

end

/-- A new line with the indentation of a level. -/
def newLine (level : Nat) : Text := 10 :: repeated (2 * level) 32

/-- Why a whole number is not written. -/
def numeralFault : Text :=
  "Exceeds the limit (4300 digits) for integer string conversion; use " ++
    "sys.set_int_max_str_digits() to increase the limit"

/-- What is no container is written in one piece. -/
def scalarPiece : Json → Option Text
  | .number (.int n) => if numeralLimit < (ofNat n.natAbs).length then none else some (Text.ofInt n)
  | v => some (render compact v)

mutual

/-- Whether a value has a text, which takes that all whole numbers in it have one. -/
def hasText : Json → Bool
  | .array items => itemsHaveText items
  | .object members => membersHaveText members
  | v => (scalarPiece v).isSome

def itemsHaveText : List Json → Bool
  | [] => true
  | x :: xs => hasText x && itemsHaveText xs

def membersHaveText : List (Text × Json) → Bool
  | [] => true
  | (_, v) :: r => hasText v && membersHaveText r

end

mutual

/-- The pieces of a value; there is none for a whole number that is not written. -/
def pieces (level : Nat) : Json → List (Option Text)
  | .array [] => [some "[]"]
  | .object [] => [some "\x7b\x7d"]
  | .array items => itemPieces (level + 1) ("[" ++ newLine (level + 1)) items ++
      [some (newLine level), some (ofString "]")]
  | .object members =>
      some (ofString "\x7b") :: some (newLine (level + 1)) :: memberPieces (level + 1) members ++
        [some (newLine level), some (ofString "\x7d")]
  | v => [scalarPiece v]

/-- `before` is written together with the first item unless that has pieces of its own. -/
def itemPieces (level : Nat) (before : Text) : List Json → List (Option Text)
  | [] => []
  | x :: xs =>
    (match x with
      | .array _ | .object _ => some before :: pieces level x
      | _ => [(scalarPiece x).map (before ++ ·)]) ++
    itemPieces level ("," ++ newLine level) xs

def memberPieces (level : Nat) : List (Text × Json) → List (Option Text)
  | [] => []
  | [(k, v)] => [some (stringText k), some (ofString ": ")] ++ pieces level v
  | (k, v) :: r =>
    [some (stringText k), some (ofString ": ")] ++ pieces level v ++
      [some ("," ++ newLine level)] ++ memberPieces level r

end

end Detour.Json
