import Detour.Files.Disk

/-!
# Rules for refusals

A rule refuses calls of one operation, all of them or only so many, and perhaps only those with an
argument that contains some text. The first rule that refuses a call counts.
-/
namespace Detour.Files

open Text

structure Rule where
  operation : Operation
  refusal : Refusal
  /-- The number of calls that are refused; all if there is none. -/
  times : Option Nat
  part : Option Text
  deriving DecidableEq, Repr

namespace Rule

def fits (r : Rule) (c : Call) : Bool :=
  r.operation == c.operation && r.part.all fun p => c.arguments.any (containsText p)

/-- Whether a rule refuses the call at the head of a list of calls. -/
def refusesLast (r : Rule) : List Call → Bool
  | [] => false
  | c :: earlier => r.fits c && r.times.all fun n => (c :: earlier).countP r.fits ≤ n

/-- The decision of several rules. -/
def decision (rules : List Rule) (calls : List Call) : Option Refusal :=
  (rules.find? fun r => r.refusesLast calls).map (·.refusal)

end Rule

/-- A disk on which rules hold from now on. -/
def Disk.under (d : Disk) (rules : List Rule) : Disk :=
  { d with calls := [], refuses := Rule.decision rules }

end Detour.Files
