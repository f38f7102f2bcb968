import Detour.Text.LowerCase

/-!
# Lower case is final

A text in lower case holds only characters that stand for themselves in lower case, so lowering it
again changes nothing. Apart from small letters, no character of ASCII comes into a text that way.

## Main statements

* `Text.mem_lower` — the characters of a text in lower case.
* `Text.lower_of_small` — a text of such characters stays as it is.
-/
namespace Detour.Text

/-- A character that is its own lower-case form wherever it stands. The capital sigma has two forms
and is none of its own. -/
def IsSmall (c : Nat) : Prop := lowerChar c = [c] ∧ c ≠ 0x3A3

instance (c : Nat) : Decidable (IsSmall c) := inferInstanceAs (Decidable (_ ∧ _))

/-- A character that stands for another one in lower case. -/
def IsLowered (c : Nat) : Prop := IsSmall c ∧ (97 ≤ c ∧ c ≤ 122 ∨ 128 ≤ c)

instance (c : Nat) : Decidable (IsLowered c) := inferInstanceAs (Decidable (_ ∧ _))

theorem lowerChar_ascii {c : Nat} (h : c < 128) : lowerChar c = [asciiLower c] := if_pos h

theorem isSmall_ascii {c : Nat} (h : c < 128) (small : ¬ (65 ≤ c ∧ c ≤ 90)) : IsSmall c := by
  refine ⟨?_, by omega⟩
  rw [lowerChar_ascii h, asciiLower, if_neg small]

/-! ## The table -/

namespace CapitalRow

/-- The small letters of a row lie on one side of the capitals of another, or between them. -/
def apart (r s : CapitalRow) : Bool :=
  s.last < r.small || r.small + (r.last - r.first) < s.first ||
    ((r.distance == 2 || r.first == r.last) && s.distance == 2 && (r.small + s.first) % 2 == 1)

/-- The small letters of a row lie on one side of a character. -/
def avoids (r : CapitalRow) (c : Nat) : Bool :=
  c < r.small || r.small + (r.last - r.first) < c

theorem capitals_apart : ∀ r ∈ capitals, ∀ s ∈ capitals, r.apart s = true := by
  have checked : (capitals.all fun r => capitals.all fun s => r.apart s) = true := by
    decide +kernel
  exact fun r hr => List.all_eq_true.1 (List.all_eq_true.1 checked r hr)

theorem capitals_avoid : ∀ r ∈ capitals, r.avoids 0x130 = true ∧ r.avoids 0x3A3 = true ∧
    (128 ≤ r.small ∨ r.first = r.last ∧ 97 ≤ r.small ∧ r.small ≤ 122) := by
  decide +kernel

theorem contains_iff {r : CapitalRow} {c : Nat} :
    r.contains c = true ↔ (r.first ≤ c ∧ c ≤ r.last) ∧ (c - r.first) % r.distance = 0 := by
  simp [contains]

/-- The small letter of a capital is no capital of a row that lies apart. -/
theorem not_contains_of_apart {r s : CapitalRow} (h : r.apart s = true) {c : Nat}
    (hc : r.contains c = true) : s.contains (r.small + (c - r.first)) = false := by
  obtain ⟨⟨low, high⟩, even⟩ := contains_iff.1 hc
  rw [Bool.eq_false_iff, Ne, contains_iff]
  rintro ⟨⟨low', high'⟩, even'⟩
  simp only [apart, Bool.or_eq_true, Bool.and_eq_true, decide_eq_true_eq, beq_iff_eq] at h
  rcases h with (before | behind) | ⟨⟨steps | single, steps'⟩, odd⟩
  · omega
  · omega
  · rw [steps] at even
    rw [steps'] at even'
    omega
  · rw [steps'] at even'
    omega

end CapitalRow

/-- No small letter of a row is a capital itself. -/
theorem capitals_lower {r : CapitalRow} (hr : r ∈ capitals) {c : Nat} (hc : r.contains c = true) :
    IsLowered (r.small + (c - r.first)) := by
  obtain ⟨⟨low, high⟩, -⟩ := CapitalRow.contains_iff.1 hc
  obtain ⟨dotted, sigma, range⟩ := CapitalRow.capitals_avoid r hr
  simp only [CapitalRow.avoids, Bool.or_eq_true, decide_eq_true_eq] at dotted sigma
  have free : capitals.find? (·.contains (r.small + (c - r.first))) = none := by
    refine List.find?_eq_none.2 fun s hs => ?_
    simp [CapitalRow.not_contains_of_apart (CapitalRow.capitals_apart r hr s hs) hc]
  generalize small : r.small + (c - r.first) = d at free
  by_cases ascii : d < 128
  · exact ⟨isSmall_ascii ascii (by omega), by omega⟩
  · have undotted : d ≠ 0x130 := by omega
    refine ⟨⟨?_, by omega⟩, by omega⟩
    rw [lowerChar, if_neg ascii, if_neg undotted, free]

/-! ## Texts -/

/-- A character has a lower-case form of its own, or is kept. -/
theorem mem_lowerChar {c d : Nat} (h : d ∈ lowerChar c) (sigma : c ≠ 0x3A3) :
    IsLowered d ∨ (d = c ∧ IsSmall c) := by
  by_cases ascii : c < 128
  · rw [lowerChar_ascii ascii, List.mem_singleton] at h
    by_cases upper : 65 ≤ c ∧ c ≤ 90
    · rw [asciiLower, if_pos upper] at h
      subst h
      exact .inl ⟨isSmall_ascii (by omega) (by omega), .inl (by omega)⟩
    · rw [asciiLower, if_neg upper] at h
      exact .inr ⟨h, isSmall_ascii ascii upper⟩
  by_cases dotted : c = 0x130
  · subst dotted
    have lowered : ∀ d ∈ lowerChar 0x130, IsLowered d := by decide +kernel
    exact .inl (lowered d h)
  rw [lowerChar, if_neg ascii, if_neg dotted] at h
  cases found : capitals.find? (·.contains c) with
  | none =>
    rw [found, List.mem_singleton] at h
    refine .inr ⟨h, ?_, sigma⟩
    rw [lowerChar, if_neg ascii, if_neg dotted, found]
  | some r =>
    rw [found, List.mem_singleton] at h
    have inRow : r.contains c = true := by simpa using List.find?_some found
    exact .inl (h ▸ capitals_lower (List.mem_of_find?_eq_some found) inRow)

theorem mem_lowerAfter {before t : Text} {d : Nat} (h : d ∈ lowerAfter before t) :
    IsLowered d ∨ (d ∈ t ∧ IsSmall d) := by
  induction t generalizing before with
  | nil => cases h
  | cons c r ih =>
    rcases List.mem_append.1 h with h | h
    · split at h
      · refine .inl ?_
        rw [List.mem_singleton.1 h]
        split <;> decide
      · next sigma =>
        rcases mem_lowerChar h sigma with lowered | ⟨rfl, small⟩
        · exact .inl lowered
        · exact .inr ⟨List.mem_cons_self, small⟩
    · exact (ih h).imp id fun ⟨member, small⟩ => ⟨List.mem_cons_of_mem _ member, small⟩

/-- Every character of a text in lower case is small, and is a letter or was there before. -/
theorem mem_lower {t : Text} {d : Nat} (h : d ∈ lower t) : IsLowered d ∨ (d ∈ t ∧ IsSmall d) :=
  mem_lowerAfter h

theorem small_of_mem_lower {t : Text} {d : Nat} (h : d ∈ lower t) : IsSmall d :=
  (mem_lower h).elim (·.1) (·.2)

/-- What is no small letter was there before. -/
theorem mem_of_mem_lower {t : Text} {d : Nat} (h : d ∈ lower t) (ascii : d < 128)
    (letter : ¬ (97 ≤ d ∧ d ≤ 122)) : d ∈ t := by
  rcases mem_lower h with ⟨-, range⟩ | ⟨member, -⟩
  · omega
  · exact member

theorem lowerAfter_of_small {before t : Text} (h : ∀ c ∈ t, IsSmall c) :
    lowerAfter before t = t := by
  induction t generalizing before with
  | nil => rfl
  | cons c r ih =>
    obtain ⟨same, sigma⟩ := h c List.mem_cons_self
    rw [lowerAfter, if_neg sigma, same, ih fun d hd => h d (List.mem_cons_of_mem _ hd)]
    rfl

theorem lower_of_small {t : Text} (h : ∀ c ∈ t, IsSmall c) : lower t = t := lowerAfter_of_small h

theorem lowerAfter_ascii {before t : Text} (h : isAscii t = true) :
    lowerAfter before t = t.map asciiLower := by
  induction t generalizing before with
  | nil => rfl
  | cons c r ih =>
    simp only [isAscii, List.all_cons, Bool.and_eq_true, decide_eq_true_eq] at h
    have sigma : c ≠ 0x3A3 := Nat.ne_of_lt (Nat.lt_trans h.1 (by decide))
    rw [lowerAfter, if_neg sigma, lowerChar_ascii h.1, ih h.2]
    rfl

theorem lower_ascii {t : Text} (h : isAscii t = true) : lower t = t.map asciiLower :=
  lowerAfter_ascii h

theorem asciiLower_cases (c : Nat) :
    (97 ≤ asciiLower c ∧ asciiLower c ≤ 122) ∨ asciiLower c = c := by
  by_cases upper : 65 ≤ c ∧ c ≤ 90
  · have lowered : asciiLower c = c + 32 := if_pos upper
    exact .inl ⟨by rw [lowered]; exact Nat.add_le_add_right upper.1 32,
      by rw [lowered]; exact Nat.add_le_add_right upper.2 32⟩
  · exact .inr (if_neg upper)

theorem isAscii_lower {t : Text} (h : isAscii t = true) : isAscii (lower t) = true := by
  rw [lower_ascii h, isAscii, List.all_map]
  refine List.all_eq_true.2 fun c hc => decide_eq_true (?_ : asciiLower c < 128)
  rcases asciiLower_cases c with letter | same
  · exact Nat.lt_of_le_of_lt letter.2 (by decide)
  · rw [same]
    simpa using List.all_eq_true.1 h c hc

end Detour.Text
