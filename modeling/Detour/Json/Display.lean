import Detour.Json.Value
import Detour.Text.Quoted

/-!
# Values in messages

A message shows a value with quoted texts inside, and names the kind of a value that does not fit.
-/
namespace Detour.Json

open Text

mutual

def display : Json → Text
  | .null => "None"
  | .bool b => if b then "True" else "False"
  | .number n => n.toText
  | .string t => quoted t
  | .array items => "[" ++ displayItems items ++ "]"
  | .object members => "\x7b" ++ displayMembers members ++ "\x7d"

def displayItems : List Json → Text
  | [] => []
  | [x] => x.display
  | x :: xs => x.display ++ ", " ++ displayItems xs

def displayMembers : List (Text × Json) → Text
  | [] => []
  | [(k, v)] => quoted k ++ ": " ++ v.display
  | (k, v) :: r => quoted k ++ ": " ++ v.display ++ ", " ++ displayMembers r

end

/-- A text stands for itself. -/
def plain : Json → Text
  | .string t => t
  | v => v.display

def kindName : Json → Text
  | .null => "NoneType"
  | .bool _ => "bool"
  | .number (.int _) => "int"
  | .number (.float _) => "float"
  | .string _ => "str"
  | .array _ => "list"
  | .object _ => "dict"

end Detour.Json
