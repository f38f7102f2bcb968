import Detour.Proofs.Number.Order
import Mathlib.Tactic.Common
import Mathlib.Tactic.Ring

/-!
# The range of binary64 numbers

A whole number has a binary64 form unless it is so large that it is rounded to an infinity. The
least such number lies half way between the greatest finite number and the power of two that would
come next, for a tie goes to the even mantissa.

## Main definitions

* `Binary64.overflow` — the least whole number beyond the range.

## Main statements

* `Number.toBinary64?_int_eq_none` — the whole numbers without a binary64 form.
-/
namespace Detour

namespace Binary64

/-- The least whole number that is rounded to an infinity. -/
def overflow : Nat := twoTo 1024 - twoTo 970

/-! ## Rounding -/

/-- Below an even number of units, what is rounded to it is at most half a unit away. -/
theorem roundDiv_eq_even {a h k : Nat} (below : a < 2 * k * (2 * h)) :
    roundDiv a (2 * h) = 2 * k ↔ 2 * k * (2 * h) ≤ a + h := by
  have positive : 0 < 2 * h := Nat.pos_of_ne_zero fun zero => by simp [zero] at below
  have parts : 2 * h * (a / (2 * h)) + a % (2 * h) = a := Nat.div_add_mod a (2 * h)
  have small : a % (2 * h) < 2 * h := Nat.mod_lt a positive
  have quotient : a / (2 * h) < 2 * k := (Nat.div_lt_iff_lt_mul positive).2 below
  unfold roundDiv
  dsimp only
  generalize a / (2 * h) = q at parts quotient ⊢
  generalize a % (2 * h) = r at parts small ⊢
  obtain last | ⟨n, further⟩ : 2 * k = q + 1 ∨ ∃ n, 2 * k = q + 1 + (n + 1) := by
    rcases Nat.lt_or_ge (q + 1) (2 * k) with further | last
    · exact .inr ⟨2 * k - (q + 2), by omega⟩
    · exact .inl (by omega)
  · -- the quotient is odd, so a tie goes up
    have next : 2 * k * (2 * h) = 2 * h * q + 2 * h := by rw [last]; ring
    have odd : q % 2 = 1 := by omega
    rw [next]
    split <;> [skip; split] <;> omega
  · have next : 2 * k * (2 * h) = 2 * h * q + 2 * h * n + 2 * h + 2 * h := by rw [further]; ring
    rw [next]
    split <;> [skip; split] <;> omega

/-! ## Whole numbers -/

theorem twoTo_add (m n : Nat) : twoTo (m + n) = twoTo m * twoTo n := Nat.pow_add 2 m n

theorem twoTo_succ (n : Nat) : twoTo (n + 1) = 2 * twoTo n := Nat.pow_succ'

theorem twoTo_le {m n : Nat} (h : m ≤ n) : twoTo m ≤ twoTo n := Nat.pow_le_pow_right (by decide) h

theorem twoTo_le_log2 {a : Nat} (nonzero : a ≠ 0) : twoTo a.log2 ≤ a := Nat.log2_self_le nonzero

theorem lt_twoTo_log2 (a : Nat) : a < twoTo (a.log2 + 1) := Nat.lt_log2_self

theorem scaleDown_natCast (a b k : Nat) : scaleDown a b k = (a, b * twoTo k) := by
  simp [scaleDown]

variable {a : Nat}

/-- The exponent of a whole number gives it a mantissa of 53 digits. -/
theorem exponentFor_one (nonzero : a ≠ 0) : exponentFor a 1 = a.log2 - 52 := by
  have power := twoTo_le_log2 nonzero
  have enough : twoTo 52 * (scaleDown a 1 (a.log2 - 52)).2 ≤ (scaleDown a 1 (a.log2 - 52)).1 := by
    unfold scaleDown
    split
    · next up =>
      have sum : 52 + ((a.log2 : Int) - 52).toNat = a.log2 := by omega
      rw [Nat.one_mul, ← twoTo_add, sum]
      exact power
    · next down =>
      have sum : a.log2 + (-((a.log2 : Int) - 52)).toNat = 52 := by omega
      calc twoTo 52 * 1 = twoTo a.log2 * twoTo (-((a.log2 : Int) - 52)).toNat := by
            rw [Nat.mul_one, ← twoTo_add, sum]
        _ ≤ a * twoTo (-((a.log2 : Int) - 52)).toNat := Nat.mul_le_mul_right _ power
  have one : (1 : Nat).log2 = 0 := rfl
  unfold exponentFor
  simp only [one, Nat.cast_zero, sub_zero, enough, if_true]
  exact max_eq_right (by unfold least; omega)

/-- The exponent passes its bound, if need be because the mantissa is carried over. -/
theorem assemble_eq_infinite {negative : Bool} {m : Nat} {e : Int} :
    (∃ sign, assemble negative m e = .infinite sign) ↔
      greatest < e ∨ m = twoTo 53 ∧ greatest = e := by
  by_cases full : m = twoTo 53
  · by_cases beyond : greatest < e + 1
    · have : greatest < e ∨ greatest = e := by omega
      simp [assemble, full, beyond, this]
    · have : ¬ (greatest < e ∨ greatest = e) := by omega
      simp [assemble, full, beyond, this]
  · by_cases beyond : greatest < e <;> simp [assemble, full, beyond]

/-- Half a unit lies between the least number out of range and the next power of two. -/
theorem overflow_add : overflow + twoTo 970 = twoTo 1024 := by
  have : twoTo 970 ≤ twoTo 1024 := twoTo_le (by decide)
  unfold overflow
  omega

/-- Whole numbers are rounded to an infinity from the half way point on. The numbers with as many
digits as the greatest finite one are compared with it; the others are told by their length. -/
theorem ofInt_eq_infinite {n : Int} :
    (∃ sign, ofInt n = .infinite sign) ↔ overflow ≤ n.natAbs := by
  have unit : twoTo 971 = 2 * twoTo 970 := twoTo_succ 970
  have half : twoTo 1024 = 2 * twoTo 1023 := twoTo_succ 1023
  have grid : twoTo 1024 = twoTo 53 * twoTo 971 := twoTo_add 53 971
  have small : twoTo 970 ≤ twoTo 1023 := twoTo_le (by decide)
  have positive : 0 < twoTo 970 := Number.twoTo_pos 970
  have next := overflow_add
  unfold ofInt ofRatio
  generalize n.natAbs = a
  split
  · next zero =>
    have : ¬ overflow ≤ 0 := by omega
    simp [zero, Binary64.zero, this]
  · next nonzero =>
    dsimp only
    rw [assemble_eq_infinite, exponentFor_one nonzero]
    have low := twoTo_le_log2 nonzero
    have high := lt_twoTo_log2 a
    rcases Nat.lt_trichotomy a.log2 1023 with inside | top | outside
    · have : twoTo (a.log2 + 1) ≤ twoTo 1023 := twoTo_le inside
      refine iff_of_false ?_ (by omega)
      have : (a.log2 : Int) - 52 < greatest := by
        unfold greatest
        omega
      omega
    · have exponent : (a.log2 : Int) - 52 = (971 : Nat) := by omega
      have even : twoTo 53 = 2 * twoTo 52 := twoTo_succ 52
      have below : a < 2 * twoTo 52 * (2 * twoTo 970) := by
        rw [← even, ← unit, ← grid]
        rwa [top] at high
      have rounded := roundDiv_eq_even below
      rw [exponent, scaleDown_natCast, Nat.one_mul, even, unit, rounded, ← even, ← unit, ← grid]
      have : greatest = (971 : Nat) := rfl
      omega
    · have : twoTo 1024 ≤ twoTo a.log2 := twoTo_le outside
      have beyond : greatest < (a.log2 : Int) - 52 := by
        unfold greatest
        omega
      exact iff_of_true (.inl beyond) (by omega)

end Binary64

/-- The whole numbers without a binary64 form. -/
theorem Number.toBinary64?_int_eq_none {n : Int} :
    (Number.int n).toBinary64? = none ↔ Binary64.overflow ≤ n.natAbs := by
  rw [← Binary64.ofInt_eq_infinite]
  unfold toBinary64?
  dsimp only
  generalize Binary64.ofInt n = x
  cases x <;> simp

end Detour
