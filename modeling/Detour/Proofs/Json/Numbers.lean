import Detour.Json.Printer
import Detour.Json.Reader
import Detour.Proofs.Text.Numerals
import Detour.Proofs.Text.Splitting
import Mathlib.Tactic.Common

/-!
# Numbers in documents

A number in a document is a sign, digits, a fraction and an exponent; all but the digits may be
missing. Each part is read as far as it goes, so a number is read from its parts if what follows
would not prolong them. Whole numbers and the finite binary64 numbers are written with such parts.

## Main definitions

* `Json.IsWhole`, `Json.IsFraction`, `Json.IsExponent` — the parts of a number.
* `Json.Ends` — what does not prolong a number.

## Main statements

* `Json.readNumber_ofInt` — a whole number, which may be too long.
* `Json.magnitudeText_parts`, `Json.readNumber_toText` — a finite binary64 number.
-/
namespace Detour.Json

open Text

/-! ## Parts of numbers -/

theorem isAsciiDigit_iff {c : Nat} : isAsciiDigit c = true ↔ 48 ≤ c ∧ c ≤ 57 := by
  simp [isAsciiDigit]

/-- At least one digit, and nothing else. -/
structure IsDigits (t : Text) : Prop where
  nonempty : t ≠ []
  digits : ∀ c ∈ t, isAsciiDigit c = true

def IsSign (t : Text) : Prop := t = [] ∨ t = [45]

/-- A zero, or digits that do not start with one. -/
def IsWhole (t : Text) : Prop := t = [48] ∨ IsDigits t ∧ t.head? ≠ some 48

def IsFraction (t : Text) : Prop := t = [] ∨ ∃ ds, t = 46 :: ds ∧ IsDigits ds

def IsExponent (t : Text) : Prop :=
  t = [] ∨ ∃ sign ds, t = 101 :: sign :: ds ∧ (sign = 43 ∨ sign = 45) ∧ IsDigits ds

/-- No digit follows. -/
def EndsDigits (rest : Text) : Prop := ∀ c ∈ rest.head?, isAsciiDigit c = false

/-- Nothing follows that would prolong a number. -/
def Ends (rest : Text) : Prop :=
  ∀ c ∈ rest.head?, isAsciiDigit c = false ∧ c ≠ 46 ∧ c ≠ 101 ∧ c ≠ 69

theorem Ends.endsDigits {rest : Text} (h : Ends rest) : EndsDigits rest := fun c hc => (h c hc).1

theorem IsWhole.isDigits {t : Text} (h : IsWhole t) : IsDigits t := by
  rcases h with rfl | h
  · exact ⟨by decide, by decide⟩
  · exact h.1

theorem IsExponent.endsDigits {t rest : Text} (h : IsExponent t) (ends : EndsDigits rest) :
    EndsDigits (t ++ rest) := by
  rcases h with rfl | ⟨sign, ds, rfl, -⟩
  · exact ends
  · intro c hc
    cases hc
    decide

theorem IsFraction.endsDigits {t rest : Text} (h : IsFraction t) (ends : EndsDigits rest) :
    EndsDigits (t ++ rest) := by
  rcases h with rfl | ⟨ds, rfl, -⟩
  · exact ends
  · intro c hc
    cases hc
    decide

theorem takeWhile_digits {ds rest : Text} (h : ∀ c ∈ ds, isAsciiDigit c = true)
    (ends : EndsDigits rest) : (ds ++ rest).takeWhile isAsciiDigit = ds := by
  have stop : rest.takeWhile isAsciiDigit = [] := by
    cases rest with
    | nil => rfl
    | cons c r => simp [ends c rfl]
  rw [List.takeWhile_append_of_pos h, stop, List.append_nil]

theorem wholeDigits_append {t rest : Text} (h : IsWhole t) (ends : EndsDigits rest) :
    wholeDigits (t ++ rest) = t := by
  rcases h with rfl | ⟨⟨nonempty, digits⟩, zero⟩
  · rfl
  · obtain ⟨c, r, rfl⟩ := List.exists_cons_of_ne_nil nonempty
    have hc : c ≠ 48 := fun e => zero (congrArg some e)
    have first := digits c List.mem_cons_self
    have more := takeWhile_digits (fun d hd => digits d (List.mem_cons_of_mem _ hd)) ends
    rw [List.cons_append, wholeDigits, if_neg hc, if_pos first, more]

theorem fractionPart_append {t rest : Text} (h : IsFraction t) (ends : EndsDigits rest)
    (point : rest.head? ≠ some 46) : fractionPart (t ++ rest) = t := by
  rcases h with rfl | ⟨ds, rfl, nonempty, digits⟩
  · rw [List.nil_append]
    unfold fractionPart
    split
    · exact absurd rfl point
    · rfl
  · have some : ds.isEmpty = false := by simpa using nonempty
    simp [fractionPart, takeWhile_digits digits ends, some]

theorem exponentPart_append {t rest : Text} (h : IsExponent t) (ends : Ends rest) :
    exponentPart (t ++ rest) = t := by
  rcases h with rfl | ⟨sign, ds, rfl, hs, nonempty, digits⟩
  · cases rest with
    | nil => rfl
    | cons c r =>
      obtain ⟨-, -, small, large⟩ := ends c rfl
      simp [exponentPart, small, large]
  · have some : ds.isEmpty = false := by simpa using nonempty
    have run := takeWhile_digits digits ends.endsDigits
    rcases hs with rfl | rfl <;> simp [exponentPart, run, some]

/-! ## Numbers from their parts -/

/-- A sign, digits, a fraction and an exponent. -/
def IsNumber (t : Text) : Prop :=
  ∃ sign whole fraction exponent, t = sign ++ (whole ++ (fraction ++ exponent)) ∧
    IsSign sign ∧ IsWhole whole ∧ IsFraction fraction ∧ IsExponent exponent

theorem IsNumber.mem {t : Text} (h : IsNumber t) {c : Nat} (hc : c ∈ t) :
    isAsciiDigit c = true ∨ c = 43 ∨ c = 45 ∨ c = 46 ∨ c = 101 := by
  obtain ⟨sign, whole, fraction, exponent, rfl, hs, hw, hf, he⟩ := h
  simp only [List.mem_append] at hc
  rcases hc with hc | hc | hc | hc
  · rcases hs with rfl | rfl
    · cases hc
    · simp_all
  · exact .inl (hw.isDigits.digits c hc)
  · rcases hf with rfl | ⟨ds, rfl, hd⟩
    · cases hc
    · rcases List.mem_cons.1 hc with rfl | hc
      · simp
      · exact .inl (hd.digits c hc)
  · rcases he with rfl | ⟨s, ds, rfl, hs, hd⟩
    · cases hc
    · simp only [List.mem_cons] at hc
      rcases hc with rfl | rfl | hc
      · simp
      · rcases hs with rfl | rfl <;> simp
      · exact .inl (hd.digits c hc)

section Parts

variable {sign whole fraction exponent rest : Text}

theorem filter_sign (hs : IsSign sign) (hw : IsDigits whole) (after : Text) :
    ((sign ++ (whole ++ after)).take 1).filter (· == 45) = sign := by
  rcases hs with rfl | rfl
  · obtain ⟨c, r, rfl⟩ := List.exists_cons_of_ne_nil hw.nonempty
    have hc : c ≠ 45 := by
      rintro rfl
      exact absurd (hw.digits 45 List.mem_cons_self) (by decide)
    simp [hc]
  · rfl

/-- A number is read from its parts; without a fraction and an exponent it is whole. -/
theorem readNumber_parts (hs : IsSign sign) (hw : IsWhole whole) (hf : IsFraction fraction)
    (he : IsExponent exponent) (ends : Ends rest) :
    readNumber (sign ++ (whole ++ (fraction ++ (exponent ++ rest)))) =
      if fraction.isEmpty && exponent.isEmpty then
        match readNumeral whole with
        | .error f => .error (.numeral f)
        | .ok n => .ok (ofInt (if sign.isEmpty then n else -(n : Int)), rest)
      else match Binary64.ofText? (sign ++ whole ++ fraction ++ exponent) with
        | some x => .ok (.number (.float x), rest)
        | none =>
          .error (.found .value (sign ++ (whole ++ (fraction ++ (exponent ++ rest))))) := by
  have afterFraction := he.endsDigits ends.endsDigits
  have afterWhole := hf.endsDigits afterFraction
  have point : (exponent ++ rest).head? ≠ some 46 := by
    rcases he with rfl | ⟨s, ds, rfl, -⟩
    · exact fun h => (ends 46 h).2.1 rfl
    · simp
  have digits : whole.isEmpty = false := by simpa using hw.isDigits.nonempty
  have rest₁ : (sign ++ (whole ++ (fraction ++ (exponent ++ rest)))).drop
      (sign.length + whole.length) = fraction ++ (exponent ++ rest) := by
    rw [← List.append_assoc]
    exact List.drop_left' List.length_append
  unfold readNumber
  simp only [filter_sign hs hw.isDigits, List.drop_left, wholeDigits_append hw afterWhole, digits,
    rest₁, fractionPart_append hf afterFraction point, exponentPart_append he ends]
  rfl

end Parts

/-! ## Whole numbers -/

theorem isWhole_ofNat (n : Nat) : IsWhole (ofNat n) := by
  rcases Nat.eq_zero_or_pos n with rfl | positive
  · exact .inl rfl
  · obtain ⟨c, r, e, low, -⟩ := head_ofNat positive
    refine .inr ⟨⟨ofNat_ne_nil n, fun d hd => isAsciiDigit_iff.2 (mem_ofNat hd)⟩, ?_⟩
    rw [e]
    intro h
    cases h
    exact absurd low (by decide)

theorem isNumber_ofInt (n : Int) : IsNumber (Text.ofInt n) := by
  unfold Text.ofInt
  split
  · exact ⟨[45], ofNat n.natAbs, [], [], by simp, .inr rfl, isWhole_ofNat _, .inl rfl, .inl rfl⟩
  · exact ⟨[], ofNat n.natAbs, [], [], by simp, .inl rfl, isWhole_ofNat _, .inl rfl, .inl rfl⟩

/-- A whole number is read back unless it has too many digits. -/
theorem readNumber_ofInt (n : Int) {rest : Text} (ends : Ends rest) :
    readNumber (Text.ofInt n ++ rest) =
      if numeralLimit < (ofNat n.natAbs).length then
        .error (.numeral (.tooLong (ofNat n.natAbs).length))
      else .ok (.number (.int n), rest) := by
  have parts (sign : Text) (hs : IsSign sign) :
      readNumber (sign ++ (ofNat n.natAbs ++ rest)) =
        if numeralLimit < (ofNat n.natAbs).length then
          .error (.numeral (.tooLong (ofNat n.natAbs).length))
        else .ok (ofInt (if sign.isEmpty then n.natAbs else -(n.natAbs : Int)), rest) := by
    have none : IsFraction [] ∧ IsExponent [] := ⟨.inl rfl, .inl rfl⟩
    refine (readNumber_parts hs (isWhole_ofNat n.natAbs) none.1 none.2 ends).trans ?_
    rw [List.isEmpty_nil, Bool.and_self, if_pos rfl, readNumeral_ofNat]
    by_cases long : numeralLimit < (ofNat n.natAbs).length
    · rw [if_pos long, if_pos long]
    · rw [if_neg long, if_neg long]
  unfold Text.ofInt
  split
  · next negative =>
    have value : -(n.natAbs : Int) = n := by omega
    refine (parts [45] (.inr rfl)).trans ?_
    rw [List.isEmpty_cons, if_neg Bool.false_ne_true, value]
    rfl
  · next positive =>
    have value : (n.natAbs : Int) = n := by omega
    refine (parts [] (.inl rfl)).trans ?_
    rw [List.isEmpty_nil, if_pos rfl, value]
    rfl

theorem readNumber_int {n : Int} (short : (ofNat n.natAbs).length ≤ numeralLimit) {rest : Text}
    (ends : Ends rest) : readNumber (Text.ofInt n ++ rest) = .ok (.number (.int n), rest) := by
  rw [readNumber_ofInt n ends, if_neg (Nat.not_lt.2 short)]

/-! ## Binary64 numbers -/

open Binary64

theorem isDigits_zeros_append {ds : Text} (h : IsDigits ds) (n : Nat) :
    IsDigits (repeated n 48 ++ ds) where
  nonempty := by simp [h.nonempty]
  digits c hc := by
    rcases List.mem_append.1 hc with hc | hc
    · rw [List.eq_of_mem_replicate hc]
      decide
    · exact h.digits c hc

theorem isDigits_ofNat (n : Nat) : IsDigits (ofNat n) := (isWhole_ofNat n).isDigits

theorem isExponent_exponentText (p : Int) : IsExponent (exponentText p) := by
  refine .inr ⟨if p < 0 then 45 else 43,
    repeated (2 - (ofNat p.natAbs).length) 48 ++ ofNat p.natAbs, rfl, ?_,
    isDigits_zeros_append (isDigits_ofNat _) _⟩
  split
  · exact .inr rfl
  · exact .inl rfl

/-- Digits that start with a zero are a single one, with the point after it. -/
def Leads (digits : Text) (p : Int) : Prop :=
  IsDigits digits ∧ (digits.head? ≠ some 48 ∨ digits = [48] ∧ p = 0)

/-- The digits before a point that stands after at least one of them. -/
theorem isWhole_take {digits : Text} {p : Int} (h : Leads digits p) {n k : Nat}
    (hn : p = 0 → n = 0) : IsWhole ((digits ++ repeated k 48).take (n + 1)) := by
  obtain ⟨⟨nonempty, hd⟩, lead⟩ := h
  obtain ⟨c, r, rfl⟩ := List.exists_cons_of_ne_nil nonempty
  rcases lead with lead | ⟨single, rfl⟩
  · refine .inr ⟨⟨by simp, fun d hmem => ?_⟩, by simpa using lead⟩
    rcases List.mem_append.1 (List.mem_of_mem_take hmem) with hmem | hmem
    · exact hd d hmem
    · rw [List.eq_of_mem_replicate hmem]
      decide
  · rw [single, hn rfl]
    exact .inl rfl

theorem placePoint_parts {digits : Text} {p : Int} (h : Leads digits p) :
    ∃ whole fraction exponent, placePoint digits p = whole ++ fraction ++ exponent ∧
      IsWhole whole ∧ IsFraction fraction ∧ IsExponent exponent ∧
      ¬ (fraction = [] ∧ exponent = []) := by
  have hd := h.1
  unfold placePoint
  split
  · split
    · refine ⟨[48], 46 :: (repeated (-p - 1).toNat 48 ++ digits), [], ?_, .inl rfl,
        .inr ⟨_, rfl, isDigits_zeros_append hd _⟩, .inl rfl, by simp⟩
      simp [ofString]
    · next small =>
      obtain ⟨n, hn⟩ : ∃ n, (1 + p).toNat = n + 1 := ⟨p.toNat, by omega⟩
      have after : IsDigits (if ((digits ++ repeated (n + 1 - digits.length) 48).drop
          (n + 1)).isEmpty then [48]
          else (digits ++ repeated (n + 1 - digits.length) 48).drop (n + 1)) := by
        split
        · exact ⟨by decide, by decide⟩
        · next some =>
          refine ⟨by simpa using some, fun d hmem => ?_⟩
          rcases List.mem_append.1 (List.mem_of_mem_drop hmem) with hmem | hmem
          · exact hd.digits d hmem
          · rw [List.eq_of_mem_replicate hmem]
            decide
      rw [hn]
      have before := isWhole_take h (n := n) (k := n + 1 - digits.length) (by omega)
      exact ⟨_, _, [], by simp [ofString], before, .inr ⟨_, rfl, after⟩, .inl rfl, by simp⟩
  · next far =>
    have nonzero : p ≠ 0 := by
      rintro rfl
      exact far (by decide)
    have fraction : IsFraction (if digits.length = 1 then [] else 46 :: digits.drop 1) := by
      split
      · exact .inl rfl
      · next several =>
        refine .inr ⟨_, rfl, ?_, fun d hmem => hd.digits d (List.mem_of_mem_drop hmem)⟩
        have := List.length_pos_iff.2 hd.nonempty
        rw [← List.length_pos_iff, List.length_drop]
        omega
    have whole := isWhole_take h (k := 0) (n := 0) (by simp)
    exact ⟨digits.take 1, _, _, rfl, by simpa [repeated] using whole, fraction,
      isExponent_exponentText p, by simp [exponentText]⟩

theorem leads_trimZeros {n : Nat} (positive : 0 < n) (p : Int) :
    Leads (trimZeros (ofNat n)) p := by
  obtain ⟨c, r, e, low, -⟩ := head_ofNat positive
  have hc : c ≠ 48 := by omega
  have kept : c ∈ dropEnd (· == 48) (ofNat n) :=
    (mem_dropEnd (by simpa using hc)).2 (e ▸ List.mem_cons_self)
  obtain ⟨d, first, hd⟩ := List.exists_cons_of_ne_nil (List.ne_nil_of_mem kept)
  obtain ⟨zeros, whole⟩ : dropEnd (· == 48) (ofNat n) <+: ofNat n := List.rdropWhile_prefix _ _
  obtain rfl : d = c := by
    rw [hd, e] at whole
    exact (List.cons.inj whole).1
  have trimmed : trimZeros (ofNat n) = dropEnd (· == 48) (ofNat n) := if_neg (by simp [hd])
  have digits : ∀ b ∈ trimZeros (ofNat n), isAsciiDigit b = true := fun b hb =>
    isAsciiDigit_iff.2 (mem_ofNat ((dropEnd_sublist _ _).mem (trimmed ▸ hb)))
  exact ⟨⟨by simp [trimmed, hd], digits⟩, .inl (by simpa [trimmed, hd] using hc)⟩

/-! ### The shortest decimal -/

theorem onGrid_eq_some {x : Binary64} {a b : Nat} {k : Int} {d : Decimal}
    (h : onGrid x a b k = some d) : ofDecimal false d.digits d.exponent = x := by
  have pick (near other : Nat)
      (h : (if ofDecimal false near k = x then some (⟨near, k⟩ : Decimal)
        else if ofDecimal false other k = x then some ⟨other, k⟩ else none) = some d) :
      ofDecimal false d.digits d.exponent = x := by
    split at h
    · cases h
      assumption
    · split at h
      · cases h
        assumption
      · cases h
  exact pick _ _ h

theorem firstGrid_cases (x : Binary64) (a b : Nat) (power : Int) (tried more : Nat) :
    firstGrid x a b power tried more = ⟨0, 0⟩ ∨
      ofDecimal false (firstGrid x a b power tried more).digits
        (firstGrid x a b power tried more).exponent = x := by
  induction more generalizing tried with
  | zero => exact .inl rfl
  | succ more ih =>
    unfold firstGrid
    split
    · next hg => exact .inr (onGrid_eq_some hg)
    · exact ih (tried + 1)

/-- What reads back as a number other than zero has a digit other than zero. -/
theorem shortest_cases {m : Nat} (nonzero : m ≠ 0) (e : Int) :
    shortest m e = ⟨0, 0⟩ ∨ 0 < (shortest m e).digits := by
  have cases : shortest m e = ⟨0, 0⟩ ∨
      ofDecimal false (shortest m e).digits (shortest m e).exponent = .finite false m e :=
    firstGrid_cases _ _ _ _ 0 17
  refine cases.imp_right fun back => ?_
  refine Nat.pos_of_ne_zero fun none => nonzero ?_
  rw [ofDecimal, if_pos none] at back
  cases back
  rfl

theorem magnitudeText_parts (m : Nat) (e : Int) :
    ∃ whole fraction exponent, magnitudeText m e = whole ++ fraction ++ exponent ∧
      IsWhole whole ∧ IsFraction fraction ∧ IsExponent exponent ∧
      ¬ (fraction = [] ∧ exponent = []) := by
  have zero : IsFraction [46, 48] := .inr ⟨_, rfl, by decide, by decide⟩
  unfold magnitudeText
  split
  · exact ⟨[48], [46, 48], [], rfl, .inl rfl, zero, .inl rfl, by simp⟩
  · next nonzero =>
    refine placePoint_parts ?_
    rcases shortest_cases nonzero e with none | some
    · rw [none]
      exact ⟨⟨by decide, by decide⟩, .inr ⟨by decide, by decide⟩⟩
    · exact leads_trimZeros some _

theorem isNumber_toText (negative : Bool) (m : Nat) (e : Int) :
    IsNumber ((Binary64.finite negative m e).toText spelling) := by
  obtain ⟨whole, fraction, exponent, text, hw, hf, he, -⟩ := magnitudeText_parts m e
  cases negative with
  | true => exact ⟨[45], _, _, _, by simp [toText, text], .inr rfl, hw, hf, he⟩
  | false => exact ⟨[], _, _, _, by simp [toText, text], .inl rfl, hw, hf, he⟩

/-- A finite binary64 number is read as what its text stands for. -/
theorem readNumber_toText (negative : Bool) (m : Nat) (e : Int) {rest : Text} (ends : Ends rest) :
    readNumber ((Binary64.finite negative m e).toText spelling ++ rest) =
      match Binary64.ofText? ((Binary64.finite negative m e).toText spelling) with
      | some x => .ok (.number (.float x), rest)
      | none =>
        .error (.found .value ((Binary64.finite negative m e).toText spelling ++ rest)) := by
  obtain ⟨whole, fraction, exponent, text, hw, hf, he, marked⟩ := magnitudeText_parts m e
  have parts (sign : Text) (hs : IsSign sign) :
      readNumber (sign ++ (magnitudeText m e ++ rest)) =
        match Binary64.ofText? (sign ++ magnitudeText m e) with
        | some x => .ok (.number (.float x), rest)
        | none => .error (.found .value (sign ++ (magnitudeText m e ++ rest))) := by
    have read := readNumber_parts hs hw hf he ends
    rw [if_neg (by simpa using marked)] at read
    rw [text]
    simp only [List.append_assoc] at read ⊢
    exact read
  cases negative with
  | true => exact parts [45] (.inr rfl)
  | false => exact parts [] (.inl rfl)

/-- A finite binary64 number that reads back from its text is read from a document. -/
theorem readNumber_float {negative : Bool} {m : Nat} {e : Int} {rest : Text}
    (back : Binary64.ofText? ((Binary64.finite negative m e).toText spelling) =
      some (.finite negative m e)) (ends : Ends rest) :
    readNumber ((Binary64.finite negative m e).toText spelling ++ rest) =
      .ok (.number (.float (.finite negative m e)), rest) := by
  rw [readNumber_toText negative m e ends, back]

end Detour.Json
