import Detour.Number.Basic
import Detour.Table

/-!
# JSON values

The members of an object keep the order in which their names first came; a repeated name replaces
the earlier value in its place.
-/
namespace Detour

inductive Json
  | null
  | bool (b : Bool)
  | number (n : Number)
  | string (t : Text)
  | array (items : List Json)
  | object (members : List (Text × Json))
  deriving Repr, Inhabited

namespace Json

def ofInt (n : Int) : Json := .number (.int n)

def get? (name : Text) : Json → Option Json
  | .object members => Table.get? name members
  | _ => none

/-- Empty containers and texts, zero, false and null count as false. -/
def isTruthy : Json → Bool
  | .null => false
  | .bool b => b
  | .number (.int n) => n != 0
  | .number (.float x) => match x with
    | .finite _ m _ => m != 0
    | _ => true
  | .string t => !t.isEmpty
  | .array items => !items.isEmpty
  | .object members => !members.isEmpty

mutual

def beq : Json → Json → Bool
  | .null, .null => true
  | .bool a, .bool b => a == b
  | .number a, .number b => a == b
  | .string a, .string b => a == b
  | .array a, .array b => beqItems a b
  | .object a, .object b => beqMembers a b
  | _, _ => false

def beqItems : List Json → List Json → Bool
  | [], [] => true
  | x :: xs, y :: ys => x.beq y && beqItems xs ys
  | _, _ => false

def beqMembers : List (Text × Json) → List (Text × Json) → Bool
  | [], [] => true
  | (k, x) :: xs, (l, y) :: ys => k == l && x.beq y && beqMembers xs ys
  | _, _ => false

end

instance : BEq Json := ⟨beq⟩

end Json
end Detour
