import Detour.Json.Printer
import Detour.Json.Reader
import Detour.Proofs.Text.Utf8
import Mathlib.Tactic.Common

/-!
# Strings in documents

A string is read as the text it was written for. Each character is written for itself, by a letter
after a backslash or by four hexadecimal digits, and one round of reading takes it back.

## Main statements

* `Json.stringRounds_escapeChar` — one character.
* `Json.stringBody_escaped` — all characters up to the closing quote.
-/
namespace Detour.Json

open Text Utf8

/-! ## One character -/

section Rounds

variable {start done rest : Text} {n : Nat}

theorem stringRounds_plain {c : CodePoint} (quote : c ≠ 34) (backslash : c ≠ 92) (high : ¬ c < 32) :
    stringRounds start done (n + 1) (c :: rest) = stringRounds start (c :: done) n rest := by
  simp [stringRounds, backslash, if_neg high]

theorem stringRounds_simple {e c : CodePoint} (h : simpleEscape? e = some c) (unit : e ≠ 117) :
    stringRounds start done (n + 1) (92 :: e :: rest) = stringRounds start (c :: done) n rest := by
  simp [stringRounds, h]

theorem stringRounds_unit {c : CodePoint} {after : Text}
    (h : unicodeEscape (117 :: after) = .ok (c, rest)) :
    stringRounds start done (n + 1) (92 :: 117 :: after) =
      stringRounds start (c :: done) n rest := by
  simp [stringRounds, h]

/-- The digits of a control character make up its code unit. -/
theorem codeUnit?_hexDigits : ∀ c < 32,
    (hexDigits false 4 c).length = 4 ∧ codeUnit? (hexDigits false 4 c) = some c := by
  decide

theorem codeUnit?_append {digits : Text} (h : digits.length = 4) (rest : Text) :
    codeUnit? (digits ++ rest) = codeUnit? digits := by
  rw [codeUnit?, codeUnit?, List.take_left' h, List.take_of_length_le h.le]

/-- No control character is the first half of a pair, so nothing that follows is taken. -/
theorem unicodeEscape_hexDigits {c : Nat} (h : c < 32) (more : rest ≠ []) :
    unicodeEscape (117 :: (hexDigits false 4 c ++ rest)) = .ok (c, rest) := by
  obtain ⟨length, unit⟩ := codeUnit?_hexDigits c h
  have long : ¬ ((hexDigits false 4 c ++ rest).take 5).length < 5 := by
    have := List.length_pos_iff.2 more
    rw [List.length_take, List.length_append]
    omega
  have single : isHighSurrogate c = false := by
    have : ¬ 0xD800 ≤ c := by omega
    simp [isHighSurrogate, this]
  unfold unicodeEscape
  simp only [List.drop_succ_cons, List.drop_zero, if_neg long, codeUnit?_append length, unit,
    List.drop_left' length, single, Bool.false_and]
  split <;> rfl

/-- One round takes back what was written for a character. -/
theorem stringRounds_escapeChar (c : CodePoint) (more : rest ≠ []) :
    stringRounds start done (n + 1) (escapeChar c ++ rest) =
      stringRounds start (c :: done) n rest := by
  unfold escapeChar
  split
  · next h => exact h ▸ stringRounds_simple rfl (by decide)
  split
  · next h => exact h ▸ stringRounds_simple rfl (by decide)
  split
  · next h => exact h ▸ stringRounds_simple rfl (by decide)
  split
  · next h => exact h ▸ stringRounds_simple rfl (by decide)
  split
  · next h => exact h ▸ stringRounds_simple rfl (by decide)
  split
  · next h => exact h ▸ stringRounds_simple rfl (by decide)
  split
  · next h => exact h ▸ stringRounds_simple rfl (by decide)
  split
  · next h => exact stringRounds_unit (unicodeEscape_hexDigits h more)
  · exact stringRounds_plain ‹_› ‹_› ‹_›

end Rounds

/-! ## Whole strings -/

theorem escapeChar_ne_nil (c : CodePoint) : escapeChar c ≠ [] := by
  unfold escapeChar
  repeat' split
  all_goals exact List.cons_ne_nil _ _

theorem length_le_escaped (t : Text) : t.length ≤ (t.flatMap escapeChar).length := by
  induction t with
  | nil => simp
  | cons c r ih =>
    have := List.length_pos_iff.2 (escapeChar_ne_nil c)
    rw [List.flatMap_cons, List.length_append, List.length_cons]
    omega

theorem stringRounds_escaped (start done t rest : Text) {n : Nat} (enough : t.length < n) :
    stringRounds start done n (t.flatMap escapeChar ++ 34 :: rest) =
      .ok (done.reverse ++ t, rest) := by
  induction t generalizing done n with
  | nil =>
    obtain ⟨n, rfl⟩ := Nat.exists_eq_add_one.2 enough
    simp [stringRounds]
  | cons c r ih =>
    obtain ⟨n, rfl⟩ := Nat.exists_eq_add_one.2 (Nat.zero_lt_of_lt enough)
    have enough : r.length < n := Nat.lt_of_succ_lt_succ enough
    rw [List.flatMap_cons, List.append_assoc, stringRounds_escapeChar c (by simp), ih _ enough]
    simp

/-- What was written for the characters of a text is read as that text. -/
theorem stringBody_escaped (t rest : Text) :
    stringBody (t.flatMap escapeChar ++ 34 :: rest) = .ok (t, rest) := by
  have length := length_le_escaped t
  refine stringRounds_escaped _ [] t rest ?_
  rw [List.length_append]
  omega

theorem mem_hexDigits : ∀ c < 32, ∀ d ∈ hexDigits false 4 c, 32 ≤ d ∧ d < 0x80 := by
  decide

/-- Control characters are written with others, and all that are written instead are of ASCII. -/
theorem mem_escapeChar {c d : Nat} (h : d ∈ escapeChar c) : 32 ≤ d ∧ (d = c ∨ d < 0x80) := by
  have ascii (t : Text) (ht : ∀ d ∈ t, 32 ≤ d ∧ d < 0x80) (h : d ∈ t) :
      32 ≤ d ∧ (d = c ∨ d < 0x80) := ⟨(ht d h).1, .inr (ht d h).2⟩
  unfold escapeChar at h
  iterate 7
    split at h
    · exact ascii _ (by decide) h
  split at h
  · next control =>
    rcases List.mem_append.1 h with h | h
    · exact ascii _ (by decide) h
    · exact ascii _ (mem_hexDigits c control) h
  · next high =>
    obtain rfl := List.mem_singleton.1 h
    exact ⟨Nat.not_lt.1 high, .inl rfl⟩

theorem mem_stringText {t : Text} {d : Nat} (h : d ∈ stringText t) :
    32 ≤ d ∧ (d ∈ t ∨ d < 0x80) := by
  have quote : 32 ≤ 34 ∧ (34 ∈ t ∨ 34 < 0x80) := ⟨by decide, .inr (by decide)⟩
  unfold stringText at h
  rcases List.mem_append.1 h with h | h
  · rcases List.mem_cons.1 h with rfl | h
    · exact quote
    · obtain ⟨c, hc, h⟩ := List.mem_flatMap.1 h
      obtain ⟨low, rfl | ascii⟩ := mem_escapeChar h
      · exact ⟨low, .inl hc⟩
      · exact ⟨low, .inr ascii⟩
  · exact List.mem_singleton.1 h ▸ quote

end Detour.Json
