import Detour.Proofs.Text.Splitting
import Detour.Host.Address

/-!
# The characters of addresses

A dotted address has three dots and is otherwise made of digits. A colon address has two colons or
more beside hexadecimal digits and dots. Only a scope may hold characters of any other kind, and an
address never begins with one.

## Main statements

* `Host.isDottedAddress_or_colons` — the two forms of an address.
* `Host.isAddressChar_head` — how an address begins.
-/
namespace Detour.Host

open Text

/-- Dots, colons, and digits of either base. -/
def IsAddressChar (c : Nat) : Prop :=
  c = 46 ∨ (48 ≤ c ∧ c ≤ 58) ∨ (65 ≤ c ∧ c ≤ 70) ∨ (97 ≤ c ∧ c ≤ 102)

theorem isAddressChar_of_hexValue? {c : Nat} (h : (hexValue? c).isSome = true) :
    IsAddressChar c := by
  simp only [hexValue?, Bool.and_eq_true, decide_eq_true_eq] at h
  split at h
  · next digit => exact .inr (.inl ⟨digit.1, Nat.le_succ_of_le digit.2⟩)
  split at h
  · next small => exact .inr (.inr (.inr small))
  split at h
  · next capital => exact .inr (.inr (.inl capital))
  · cases h

theorem isAsciiDigit_iff {c : Nat} : isAsciiDigit c = true ↔ 48 ≤ c ∧ c ≤ 57 := by
  simp [isAsciiDigit]

theorem isDottedAddress_chars {t : Text} (h : isDottedAddress t = true) :
    ∀ c ∈ t, c = 46 ∨ isAsciiDigit c = true := by
  simp only [isDottedAddress, Bool.and_eq_true, List.all_eq_true] at h
  intro c hc
  rw [← joinWith_splitOn 46 t] at hc
  rcases mem_joinWith hc with hc | ⟨p, hp, hc⟩
  · exact .inl (List.mem_singleton.1 hc)
  · have part := h.2 p hp
    simp only [isDottedPart, Bool.and_eq_true, List.all_eq_true] at part
    exact .inr (part.1.1.1.2 c hc)

theorem isAddressChar_of_isAsciiDigit {c : Nat} (h : isAsciiDigit c = true) : IsAddressChar c := by
  have digit := isAsciiDigit_iff.1 h
  exact .inr (.inl ⟨digit.1, Nat.le_succ_of_le digit.2⟩)

theorem isDottedAddress_count {t : Text} (h : isDottedAddress t = true) : t.count 46 = 3 := by
  simp only [isDottedAddress, Bool.and_eq_true, beq_iff_eq, length_splitOn] at h
  exact Nat.succ.inj h.1

theorem not_mem_of_isDottedAddress {t : Text} (h : isDottedAddress t = true) : 58 ∉ t := by
  intro colon
  rcases isDottedAddress_chars h 58 colon with dot | digit
  · cases dot
  · cases digit

/-! ## Colon addresses -/

/-- A part of a colon address, the empty part beside a gap included. -/
def IsPart (p : Text) : Prop := ∀ c ∈ p, IsAddressChar c

theorem isPart_of_isGroup {p : Text} (h : isGroup p = true) : IsPart p := by
  simp only [isGroup, Bool.and_eq_true, List.all_eq_true] at h
  exact fun c hc => isAddressChar_of_hexValue? (h.2 c hc)

theorem isPart_of_isDottedAddress {p : Text} (h : isDottedAddress p = true) : IsPart p := by
  intro c hc
  rcases isDottedAddress_chars h c hc with rfl | digit
  · exact .inl rfl
  · exact isAddressChar_of_isAsciiDigit digit

theorem groupCount?_parts {parts : List Text} {n : Nat} (h : groupCount? parts = some n) :
    (∀ p ∈ parts, IsPart p) ∧ n ≤ parts.length + 1 := by
  induction parts using groupCount?.induct generalizing n with
  | case1 =>
    cases h
    simp
  | case2 last group =>
    cases (by simpa [groupCount?, group] using h : 1 = n)
    simpa using isPart_of_isGroup group
  | case3 last group dotted =>
    cases (by simpa [groupCount?, group, dotted] using h : 2 = n)
    simpa using isPart_of_isDottedAddress dotted
  | case4 last group dotted => simp [groupCount?, group, dotted] at h
  | case5 part rest more group ih =>
    obtain ⟨m, hm, rfl⟩ : ∃ m, groupCount? rest = some m ∧ m + 1 = n := by
      simpa [groupCount?, group] using h
    obtain ⟨parts, count⟩ := ih hm
    exact ⟨by simpa using ⟨isPart_of_isGroup group, parts⟩, by simpa using count⟩
  | case6 part rest more group => simp [groupCount?, group] at h

theorem gap?_eq_some {parts high low : List Text} (h : gap? parts = some (high, low)) :
    parts = high ++ [] :: low ∧ high ≠ [] ∧ low ≠ [] := by
  induction parts using gap?.induct generalizing high with
  | case1 first second rest =>
    cases h
    simp
  | case2 first rest more ih =>
    obtain ⟨a, found, rfl⟩ : ∃ a, gap? rest = some (a, low) ∧ first :: a = high := by
      simpa [gap?] using h
    obtain ⟨parts, -, low⟩ := ih found
    simp [parts, low]
  | case3 => cases h

theorem isPart_of_besideGap {parts : List Text} (h : ∀ p ∈ besideGap parts, IsPart p) :
    ∀ p ∈ parts, IsPart p := by
  unfold besideGap at h
  split at h
  · next empty =>
    subst empty
    simp [IsPart]
  · exact h

theorem isColonAddress_parts {t : Text} (h : isColonAddress t = true) :
    (∀ p ∈ splitOn 58 t, IsPart p) ∧ 3 ≤ (splitOn 58 t).length := by
  unfold isColonAddress at h
  extract_lets parts at h
  split at h
  · obtain ⟨all, count⟩ := groupCount?_parts (beq_iff_eq.1 h)
    exact ⟨all, show 3 ≤ parts.length by omega⟩
  · next high low gap =>
    obtain ⟨split, front, back⟩ := gap?_eq_some gap
    simp only [Bool.and_eq_true, List.all_eq_true, Option.any_eq_true] at h
    obtain ⟨groups, n, count, -⟩ := h
    have highParts := isPart_of_besideGap fun p hp => isPart_of_isGroup (groups p hp)
    have lowParts := isPart_of_besideGap (groupCount?_parts count).1
    have := List.length_pos_iff.2 front
    have := List.length_pos_iff.2 back
    constructor
    · rw [show splitOn 58 t = _ from split]
      simp only [List.mem_append, List.mem_cons]
      rintro p (hp | rfl | hp)
      · exact highParts p hp
      · simp [IsPart]
      · exact lowParts p hp
    · rw [show splitOn 58 t = _ from split, List.length_append, List.length_cons]
      omega

theorem isColonAddress_chars {t : Text} (h : isColonAddress t = true) :
    (∀ c ∈ t, IsAddressChar c) ∧ 2 ≤ t.count 58 := by
  obtain ⟨parts, count⟩ := isColonAddress_parts h
  rw [length_splitOn] at count
  refine ⟨fun c hc => ?_, by omega⟩
  rw [← joinWith_splitOn 58 t] at hc
  rcases mem_joinWith hc with hc | ⟨p, hp, hc⟩
  · rw [List.mem_singleton.1 hc]
    exact .inr (.inl ⟨by decide, by decide⟩)
  · exact parts p hp c hc

/-! ## Addresses -/

/-- An address is dotted, or begins with a colon address that a scope may follow. -/
theorem isDottedAddress_or_colons {t : Text} (h : isAddress t = true) :
    isDottedAddress t = true ∨ ∃ front scope, t = front ++ scope ∧
      (∀ c ∈ scope.head?, c = 37) ∧ (∀ c ∈ front, IsAddressChar c) ∧ 2 ≤ front.count 58 := by
  simp only [isAddress, Bool.and_eq_true, Bool.or_eq_true] at h
  rcases h.2 with dotted | colons
  · exact .inl dotted
  · unfold isScopedAddress at colons
    refine .inr ?_
    split at colons
    · exact ⟨t, [], by simp, by simp, isColonAddress_chars colons⟩
    · next address scope cut =>
      simp only [Bool.and_eq_true] at colons
      exact ⟨address, 37 :: scope, (cut?_eq_some.1 cut).1, by simp,
        isColonAddress_chars colons.2⟩

/-- An address without a colon is dotted. -/
theorem isDottedAddress_of_not_mem {t : Text} (h : isAddress t = true) (colon : 58 ∉ t) :
    isDottedAddress t = true := by
  rcases isDottedAddress_or_colons h with dotted | ⟨front, scope, rfl, -, -, colons⟩
  · exact dotted
  · have present : 58 ∈ front := List.count_pos_iff.1 (by omega)
    exact absurd (List.mem_append_left _ present) colon

/-- An address with one colon has another one. -/
theorem two_le_count_of_isAddress {t : Text} (h : isAddress t = true) (colon : 58 ∈ t) :
    2 ≤ t.count 58 := by
  rcases isDottedAddress_or_colons h with dotted | ⟨front, scope, rfl, -, -, colons⟩
  · exact absurd colon (not_mem_of_isDottedAddress dotted)
  · rw [List.count_append]
    omega

theorem isAddressChar_of_not_mem {t : Text} (h : isAddress t = true) (percent : 37 ∉ t) :
    ∀ c ∈ t, IsAddressChar c := by
  rcases isDottedAddress_or_colons h with dotted | ⟨front, scope, rfl, first, chars, -⟩
  · exact isPart_of_isDottedAddress dotted
  · cases scope with
    | nil => simpa using chars
    | cons c r =>
      cases first c rfl
      simp at percent

theorem isAddressChar_head {t : Text} (h : isAddress t = true) :
    ∃ (c : Nat) (r : Text), t = c :: r ∧ IsAddressChar c := by
  rcases isDottedAddress_or_colons h with dotted | ⟨front, scope, rfl, -, chars, colons⟩
  · cases t with
    | nil => cases dotted
    | cons c r => exact ⟨c, r, rfl, isPart_of_isDottedAddress dotted c List.mem_cons_self⟩
  · cases front with
    | nil => simp at colons
    | cons c r => exact ⟨c, r ++ scope, rfl, chars c List.mem_cons_self⟩

end Detour.Host
