import Detour.Text.Basic

/-!
# Punycode

A label is written with ASCII alone: its ASCII characters, a hyphen, and the insertions of all other
characters as a list of deltas. A delta is a number with variable-length digits; where a digit
ends the number is ruled by a bias that follows the size of the deltas seen so far.
-/
namespace Detour.Punycode

def threshold (bias k : Nat) : Nat :=
  if k ≤ bias + 1 then 1 else if bias + 26 ≤ k then 26 else k - bias

theorem one_le_threshold (bias k : Nat) : 1 ≤ threshold bias k := by
  unfold threshold
  split
  · omega
  · split <;> omega

theorem threshold_le (bias k : Nat) : threshold bias k ≤ 26 := by
  unfold threshold
  split
  · omega
  · split <;> omega

/-- The bias of a delta that was divided down to `delta`, one step of 36 for each division. -/
def settleBias (steps delta : Nat) : Nat :=
  if 455 < delta then settleBias (steps + 36) (delta / 35) else steps + 36 * delta / (delta + 38)
termination_by delta
decreasing_by omega

def adapt (first : Bool) (delta count : Nat) : Nat :=
  let scaled := if first then delta / 700 else delta / 2
  settleBias 0 (scaled + scaled / count)

def digitChar (d : Nat) : CodePoint := if d < 26 then d + 97 else d + 22

def digitValue? (c : CodePoint) : Option Nat :=
  if 97 ≤ c && c ≤ 122 then some (c - 97)
  else if 65 ≤ c && c ≤ 90 then some (c - 65)
  else if 48 ≤ c && c ≤ 57 then some (c - 22)
  else none

def writeDelta (bias k q : Nat) : Text :=
  let t := threshold bias k
  if q < t then [digitChar q]
  else digitChar (t + (q - t) % (36 - t)) :: writeDelta bias (k + 36) ((q - t) / (36 - t))
termination_by q
decreasing_by
  have := one_le_threshold bias k
  have := Nat.div_le_self (q - threshold bias k) (36 - threshold bias k)
  omega

def writeDeltas (first : Bool) (bias count : Nat) : List Nat → Text
  | [] => []
  | d :: ds => writeDelta bias 36 d ++ writeDeltas false (adapt first d (count + 1)) (count + 1) ds

/-- The deltas of all occurrences of `m`, and the delta carried past the end of the text. -/
def occurrences (m : CodePoint) (delta : Nat) : Text → List Nat × Nat
  | [] => ([], delta)
  | c :: r =>
    if c < m then occurrences m (delta + 1) r
    else if c = m then
      let (ds, carried) := occurrences m 0 r
      (delta :: ds, carried)
    else occurrences m delta r

/-- The deltas of the characters `ms`, which ascend from `n`; `count` characters stand already. -/
def deltasFrom (t : Text) (n delta count : Nat) : List CodePoint → List Nat
  | [] => []
  | m :: ms =>
    let (ds, carried) := occurrences m (delta + (m - n) * (count + 1)) t
    ds ++ deltasFrom t (m + 1) (carried + 1) (count + ds.length) ms

/-- Ascending, without repetitions. -/
def distinctAscending (t : Text) : List CodePoint := t.mergeSort.eraseReps

def encode (t : Text) : Text :=
  let basic := t.filter (· < 128)
  let deltas := deltasFrom t 128 0 basic.length (distinctAscending (t.filter (128 ≤ ·)))
  (if basic.isEmpty then [] else basic ++ [45]) ++ writeDeltas true 72 basic.length deltas

/-- A delta in the course of being read. -/
structure Pending where
  value : Nat := 0
  weight : Nat := 1
  k : Nat := 36

def insertAt (i : Nat) (c : CodePoint) (t : Text) : Text := t.take i ++ c :: t.drop i

/-- Reads insertions into `out`; `n` and `i` are the character and the place of the latest one. -/
def decodeFrom (first : Bool) (n i bias : Nat) (out : Text) (p : Pending) : Text → Option Text
  | [] => if p.k = 36 then some out else none
  | c :: r =>
    match digitValue? c with
    | none => none
    | some d =>
      let value := p.value + d * p.weight
      let t := threshold bias p.k
      if d < t then
        let place := i + value
        let n := n + place / (out.length + 1)
        let i := place % (out.length + 1)
        if 0x10FFFF < n then none
        else
          decodeFrom false n (i + 1) (adapt first value (out.length + 1)) (insertAt i n out) {} r
      else
        decodeFrom first n i bias out ⟨value, p.weight * (36 - t), p.k + 36⟩ r

def decode? (t : Text) : Option Text :=
  match Text.cutLast? 45 t with
  | some (basic, rest) => decodeFrom true 128 0 72 basic {} rest
  | none => decodeFrom true 128 0 72 [] {} t

end Detour.Punycode
