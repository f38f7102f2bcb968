import Detour.Text.Numeral
import Mathlib.Algebra.Group.Nat.Defs
import Mathlib.Data.List.TakeWhile

/-!
# Whole numbers and their digits

A whole number is written with the digits of ASCII, without leading zeros, and reading the digits
gives the number back unless there are too many of them.

## Main statements

* `Text.mem_ofNat`, `Text.head_ofNat` — what the text of a number consists of.
* `Text.readNumeral_decimal`, `Text.decimal_of_readNumeral` — what is read as a number.
* `Text.readNumeral_ofNat` — the text of a number that is not too long is read as that number.
-/
namespace Detour.Text

theorem mem_ofNat {n : Nat} {c : Nat} (h : c ∈ ofNat n) : 48 ≤ c ∧ c ≤ 57 := by
  obtain ⟨digit, hd, rfl⟩ := List.mem_map.1 h
  have := Nat.isDigit_of_mem_toDigits (by decide) (by decide) hd
  simpa [Char.isDigit, UInt32.le_iff_toNat_le] using this

theorem ofNat_ne_nil (n : Nat) : ofNat n ≠ [] := by
  simp [ofNat, Nat.toDigits_ne_nil]

theorem ofInt_natCast (n : Nat) : ofInt n = ofNat n := rfl

theorem length_ofNat_le {n k : Nat} (positive : 0 < k) (h : n < 10 ^ k) :
    (ofNat n).length ≤ k := by
  rw [ofNat, List.length_map]
  exact (Nat.length_toDigits_le_iff (by decide) positive).2 h

theorem lt_length_ofNat {n k : Nat} (positive : 0 < k) (h : 10 ^ k ≤ n) : k < (ofNat n).length := by
  rw [ofNat, List.length_map, ← Nat.not_le, Nat.length_toDigits_le_iff (by decide) positive]
  exact Nat.not_lt.2 h

/-- All digits but the last are those of a tenth of the number. -/
theorem ofNat_of_ten_le {n : Nat} (h : 10 ≤ n) : ofNat n = ofNat (n / 10) ++ ofNat (n % 10) := by
  have digits := Nat.toDigits_append_toDigits (b := 10) (n := n / 10) (d := n % 10) (by decide)
    (by omega) (by omega)
  rw [Nat.div_add_mod] at digits
  rw [ofNat, ← digits, List.map_append]
  rfl

theorem ofNat_of_lt_ten {n : Nat} (h : n < 10) : ofNat n = [n + 48] := by
  rw [ofNat, Nat.toDigits_of_lt_base h, List.map_singleton, Nat.toNat_digitChar_of_lt_ten h]
  exact congrArg ([·]) (Nat.add_comm 48 n)

/-- No leading zeros. -/
theorem head_ofNat {n : Nat} (positive : 0 < n) :
    ∃ (c : Nat) (r : Text), ofNat n = c :: r ∧ 49 ≤ c ∧ c ≤ 57 := by
  induction n using Nat.strongRecOn with
  | ind n ih =>
    by_cases small : n < 10
    · exact ⟨n + 48, [], ofNat_of_lt_ten small, by omega, by omega⟩
    · obtain ⟨c, r, tenth, low, high⟩ := ih (n / 10) (by omega) (by omega)
      exact ⟨c, r ++ ofNat (n % 10), by rw [ofNat_of_ten_le (by omega), tenth]; rfl, low, high⟩

theorem digitsValue_append (ds : List Nat) (d : Nat) :
    digitsValue (ds ++ [d]) = 10 * digitsValue ds + d := by
  simp [digitsValue]

theorem digitsValue_ofNat (n : Nat) : digitsValue ((ofNat n).map (· - 48)) = n := by
  induction n using Nat.strongRecOn with
  | ind n ih =>
    by_cases small : n < 10
    · simp [ofNat_of_lt_ten small, digitsValue]
    · have last : n % 10 < 10 := by omega
      rw [ofNat_of_ten_le (by omega), ofNat_of_lt_ten last, List.map_append, List.map_singleton,
        digitsValue_append, ih (n / 10) (by omega)]
      omega

theorem decimalValue?_digit {c : Nat} (h : 48 ≤ c ∧ c ≤ 57) : decimalValue? c = some (c - 48) := by
  have first : decimalZeros.find? (fun z => z ≤ c && c < z + 10) = some 48 :=
    List.find?_cons_of_pos (by simp; omega)
  rw [decimalValue?, first]
  rfl

theorem decimalValue?_digits {t : Text} (h : ∀ c ∈ t, 48 ≤ c ∧ c ≤ 57) :
    t.map decimalValue? = (t.map (· - 48)).map some := by
  rw [List.map_map]
  exact List.map_congr_left fun c hc => decimalValue?_digit (h c hc)

theorem isDigit_ofNat (n : Nat) : (ofNat n).all isDigit = true :=
  List.all_eq_true.2 fun c hc => by simp [isDigit, decimalValue?_digit (mem_ofNat hc)]

theorem mapM_eq_some {α β : Type} {f : α → Option β} {as : List α} {bs : List β} :
    as.mapM f = some bs ↔ as.map f = bs.map some := by
  induction as generalizing bs with
  | nil => cases bs <;> simp
  | cons a r ih =>
    cases bs with
    | nil => simp [List.mapM_cons, Option.bind_eq_some_iff]
    | cons b bs => simp [List.mapM_cons, Option.bind_eq_some_iff, ih]

/-- Digits are read as the number that they stand for, unless they are too many. -/
theorem readNumeral_decimal {t : Text} {values : List Nat}
    (h : t.map decimalValue? = values.map some) :
    readNumeral t =
      if numeralLimit < t.length then .error (.tooLong t.length)
      else .ok (digitsValue values) := by
  have all : (values.map some).takeWhile Option.isSome = values.map some := by
    rw [List.takeWhile_eq_self_iff]
    simp
  have length : values.length = t.length := by simpa using (congrArg List.length h).symm
  simp only [readNumeral, h, all, mapM_eq_some.2 h, List.length_map, length]

/-- What is read as a number consists of digits. -/
theorem decimal_of_readNumeral {t : Text} {n : Nat} (h : readNumeral t = .ok n) :
    ∃ values, t.map decimalValue? = values.map some ∧ digitsValue values = n := by
  unfold readNumeral at h
  dsimp only at h
  split at h
  · cases h
  · split at h
    · next values decimal =>
      cases h
      exact ⟨values, mapM_eq_some.1 decimal, rfl⟩
    · cases h

/-- The digits of ASCII have the values that they are numbered by. -/
theorem readNumeral_digits {t : Text} (h : ∀ c ∈ t, 48 ≤ c ∧ c ≤ 57) :
    readNumeral t =
      if numeralLimit < t.length then .error (.tooLong t.length)
      else .ok (digitsValue (t.map (· - 48))) := readNumeral_decimal (decimalValue?_digits h)

/-- A number is read back from its text, unless the text is too long. -/
theorem readNumeral_ofNat (n : Nat) :
    readNumeral (ofNat n) =
      if numeralLimit < (ofNat n).length then .error (.tooLong (ofNat n).length) else .ok n := by
  rw [readNumeral_digits fun c => mem_ofNat, digitsValue_ofNat]

end Detour.Text
