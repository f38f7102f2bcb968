import Detour.Number.Basic

/-!
# The order of numbers

Numbers are compared by their places on the line, which are in a row; what is not a number has no
place and compares with nothing. A sum is exact if no rounding moves its place.

## Main statements

* `Number.lt_of_le_of_lt`, `Number.not_le_of_lt` — times that go by.
* `Number.not_le_zero` — what is above zero, or not a number.
* `Number.ExactSum.lt_iff` — before an exact sum.
* `Number.AddsExactly` — a sum of two numbers is exact.
* `Number.add?_ne_nan` — a sum with a finite number is a number.
-/
namespace Detour.Number

namespace Place

theorem le_trans {a b c : Place} (h : a.le b = true) (g : b.le c = true) : a.le c = true := by
  cases a <;> cases b <;> cases c <;> simp_all [Place.le]
  omega

end Place

theorem le_iff {x y : Number} :
    x.le y = true ↔ ∃ a b, x.place? = some a ∧ y.place? = some b ∧ a.le b = true := by
  unfold le
  cases x.place? <;> cases y.place? <;> simp

theorem lt_iff {x y : Number} :
    x.lt y = true ↔ ∃ a b, x.place? = some a ∧ y.place? = some b ∧ b.le a = false := by
  unfold lt
  cases x.place? <;> cases y.place? <;> simp

/-- What is before an expiry was before it all along. -/
theorem lt_of_le_of_lt {x y z : Number} (h : x.le y = true) (g : y.lt z = true) :
    x.lt z = true := by
  obtain ⟨a, b, hx, hy, hab⟩ := le_iff.1 h
  obtain ⟨b', c, hy', hz, hbc⟩ := lt_iff.1 g
  obtain rfl := Option.some.inj (hy.symm.trans hy')
  refine lt_iff.2 ⟨a, c, hx, hz, ?_⟩
  cases hca : c.le a with
  | false => rfl
  | true => rw [Place.le_trans hca hab] at hbc; cases hbc

theorem not_le_of_lt {x y : Number} (h : x.lt y = true) : y.le x = false := by
  obtain ⟨a, b, hx, hy, hab⟩ := lt_iff.1 h
  simp [le, hx, hy, hab]

theorem le_trans {x y z : Number} (h : x.le y = true) (g : y.le z = true) : x.le z = true := by
  obtain ⟨a, b, hx, hy, hab⟩ := le_iff.1 h
  obtain ⟨b', c, hy', hz, hbc⟩ := le_iff.1 g
  obtain rfl := Option.some.inj (hy.symm.trans hy')
  exact le_iff.2 ⟨a, c, hx, hz, Place.le_trans hab hbc⟩

theorem twoTo_pos (n : Nat) : 0 < Binary64.twoTo n := Nat.two_pow_pos n

theorem place?_eq_none {n : Number} : n.place? = none ↔ n = .float .nan := by
  cases n with
  | int n => exact iff_of_false (Option.some_ne_none _) nofun
  | float x => cases x <;> simp [place?]

/-- Of two numbers one is before the other or not after it; this fails for what is not a number. -/
theorem not_le_eq_lt {x y : Number} (hx : x ≠ .float .nan) (hy : y ≠ .float .nan) :
    (!y.le x) = x.lt y := by
  obtain ⟨a, ha⟩ := Option.ne_none_iff_exists'.1 (mt place?_eq_none.1 hx)
  obtain ⟨b, hb⟩ := Option.ne_none_iff_exists'.1 (mt place?_eq_none.1 hy)
  simp [le, lt, ha, hb]

/-- Whole numbers are compared as they are. -/
theorem le_int {a b : Int} : (int a).le (int b) = true ↔ a ≤ b := by
  have unit : (0 : Int) < (Binary64.twoTo 1074 : Nat) := Int.natCast_pos.2 (twoTo_pos 1074)
  exact decide_eq_true_iff.trans (Int.mul_le_mul_iff_of_pos_right unit)

theorem lt_int {a b : Int} : (int a).lt (int b) = true ↔ a < b := by
  have opposite : (int a).lt (int b) = !(int b).le (int a) := rfl
  rw [opposite, Bool.not_eq_true', ← Bool.not_eq_true, le_int, Int.not_le]

theorem isPositive_int {n : Int} (h : 0 < n) : (int n).isPositive = true := lt_int.2 h

/-- What is not zero or less is positive or not a number. -/
theorem not_le_zero {n : Number} :
    n.le (.int 0) = false ↔ n.isPositive = true ∨ n = .float .nan := by
  obtain ⟨zero, hz⟩ : ∃ zero, (int 0).place? = some zero := ⟨_, rfl⟩
  rw [← place?_eq_none]
  unfold isPositive le lt
  rw [hz]
  cases n.place? <;> simp

/-- The sum of two numbers can be told and lies where their places add up, no rounding having moved
it. -/
def ExactSum (x y : Number) (a b : Int) : Prop :=
  x.place? = some (.at a) ∧ y.place? = some (.at b) ∧
    ∃ z, x.add? y = some z ∧ z.place? = some (.at (a + b))

theorem ExactSum.lt_iff {x y now : Number} {a b t : Int} (h : ExactSum x y a b)
    (here : now.place? = some (.at t)) :
    ∃ z, x.add? y = some z ∧ (now.lt z = true ↔ t < a + b) := by
  obtain ⟨-, -, z, sum, place⟩ := h
  refine ⟨z, sum, ?_⟩
  simp [Number.lt_iff, here, place, Place.le]

/-- A finite number in units of the smallest binary64 number; zero for the others. -/
def units (x : Number) : Int :=
  match x.place? with
  | some (.at a) => a
  | _ => 0

/-- Two numbers are finite and their sum is exact. -/
def AddsExactly (x y : Number) : Prop :=
  x.place? = some (.at x.units) ∧ y.place? = some (.at y.units) ∧
    (x.add? y).bind place? = some (.at (x.units + y.units))

instance (x y : Number) : Decidable (AddsExactly x y) :=
  inferInstanceAs (Decidable (_ ∧ _))

theorem AddsExactly.exactSum {x y : Number} (h : AddsExactly x y) :
    ExactSum x y x.units y.units := by
  obtain ⟨hx, hy, sum⟩ := h
  exact ⟨hx, hy, Option.bind_eq_some_iff.1 sum⟩

/-! ## Sums that are numbers -/

theorem assemble_ne_nan (negative : Bool) (m : Nat) (e : Int) :
    Binary64.assemble negative m e ≠ .nan := by
  unfold Binary64.assemble
  generalize (if m = Binary64.twoTo 53 then (Binary64.twoTo 52, e + 1) else (m, e)) = parts
  dsimp only
  split <;> exact Binary64.noConfusion

/-- A quotient is rounded to a finite number or to an infinity. -/
theorem ofRatio_ne_nan (negative : Bool) (a b : Nat) : Binary64.ofRatio negative a b ≠ .nan := by
  unfold Binary64.ofRatio
  split
  · exact Binary64.noConfusion
  · exact assemble_ne_nan _ _ _

theorem toBinary64?_ne_nan {x : Number} {y : Binary64} (hx : x ≠ .float .nan)
    (h : x.toBinary64? = some y) : y ≠ .nan := by
  rintro rfl
  cases x with
  | float x => exact hx (congrArg float (Option.some.inj h))
  | int n =>
    have rounded : Binary64.ofInt n ≠ .nan := ofRatio_ne_nan _ _ _
    simp only [toBinary64?] at h
    split at h
    · cases h
    · exact rounded (Option.some.inj h)

/-- Adding a finite number leads away from the numbers only where there was none. -/
theorem binary64_add_ne_nan {x y : Binary64} (hx : x ≠ .nan) (hy : y.isFinite = true) :
    x.add y ≠ .nan := by
  cases y with
  | nan => cases hy
  | infinite sign => cases hy
  | finite =>
    cases x with
    | nan => exact absurd rfl hx
    | infinite => exact Binary64.noConfusion
    | finite =>
      simp only [Binary64.add, Binary64.zero]
      split
      · exact Binary64.noConfusion
      · exact ofRatio_ne_nan _ _ _

/-- A sum with a finite number is a number. -/
theorem add?_ne_nan {x z : Number} {y : Binary64} (hx : x ≠ .float .nan)
    (hy : y.isFinite = true) (sum : x.add? (.float y) = some z) : z ≠ .float .nan := by
  have told : (Number.float y).toBinary64? = some y := rfl
  cases ha : x.toBinary64? with
  | none =>
    cases x <;> simp [add?, ha] at sum
  | some a =>
    have rounded : x.add? (.float y) = some (.float (a.add y)) := by
      cases x <;> simp only [add?, ha, told]
    obtain rfl := Option.some.inj (rounded.symm.trans sum)
    intro none
    exact binary64_add_ne_nan (toBinary64?_ne_nan hx ha) hy (float.inj none)

end Detour.Number
