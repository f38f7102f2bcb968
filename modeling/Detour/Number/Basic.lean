import Detour.Number.Shortest

/-!
# Numbers

A number is a whole number of any size or a binary64 number; the two kinds are compared by their
exact values and keep their kind when they are written.
-/
namespace Detour

inductive Number
  | int (n : Int)
  | float (x : Binary64)
  deriving DecidableEq, Repr, Inhabited

namespace Number

/-- A place on the number line, in units of the smallest binary64 number. -/
inductive Place
  | bottom
  | at (units : Int)
  | top
  deriving DecidableEq, Repr

def Place.le : Place → Place → Bool
  | .bottom, _ => true
  | _, .top => true
  | .at a, .at b => a ≤ b
  | _, _ => false

/-- The place of a number; what is not a number has none. -/
def place? : Number → Option Place
  | .int n => some (.at (n * (Binary64.twoTo 1074 : Nat)))
  | .float .nan => none
  | .float (.infinite negative) => some (if negative then .bottom else .top)
  | .float x => some (.at x.units)

def le (x y : Number) : Bool :=
  match x.place?, y.place? with
  | some a, some b => a.le b
  | _, _ => false

def lt (x y : Number) : Bool :=
  match x.place?, y.place? with
  | some a, some b => !b.le a
  | _, _ => false

def isPositive (x : Number) : Bool := lt (.int 0) x

/-- A whole number beyond the range has no binary64 form. -/
def toBinary64? (x : Number) : Option Binary64 :=
  match x with
  | .float y => some y
  | .int n =>
    match Binary64.ofInt n with
    | .infinite _ => none
    | y => some y

/-- The spelling in messages. -/
def plain : Binary64.Spelling := ⟨"nan", "inf"⟩

def toTextWith (s : Binary64.Spelling) : Number → Text
  | .int n => Text.ofInt n
  | .float x => x.toText s

def toText (x : Number) : Text := x.toTextWith plain

/-- A sum of whole numbers is exact, any other sum is rounded; there is none if a whole number is
too large for a sum with a binary64 number. -/
def add? (x y : Number) : Option Number :=
  match x, y with
  | .int a, .int b => some (.int (a + b))
  | x, y =>
    match x.toBinary64?, y.toBinary64? with
    | some a, some b => some (.float (a.add b))
    | _, _ => none

end Number
end Detour
