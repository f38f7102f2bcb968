import Detour.Proofs.Json.RoundTrip

/-!
# The limits of reading

A reader goes through a text from its front and leaves a suffix. It gives up, other than for a fault
of syntax, only at a numeral with more digits than are converted or at a container inside as many
others as may be open; so the text has that many digits in a row, or that many opening brackets.

## Main definitions

* `Json.ShortRuns` — texts without a numeral that is too long.
* `Json.openings` — how many containers a text may open.

## Main statements

* `Json.tracks_value` — what is left of a text, or which limit it exceeds.
* `Json.document_found` — a text within the limits has at most a fault of syntax.
-/
namespace Detour.Json

open Text

/-- As many digits as follow each other are converted. -/
def ShortRuns (t : Text) : Prop :=
  ∀ digits, digits <:+: t → (∀ c ∈ digits, isAsciiDigit c = true) → digits.length ≤ numeralLimit

def isOpening (c : CodePoint) : Bool := c == 91 || c == 123

/-- The number of opening brackets, those in strings included. -/
def openings (t : Text) : Nat := t.countP isOpening

/-- Which limit a text exceeds if reading it ends with a fault. -/
def Exceeds (depth : Nat) (t : Text) : Fault → Prop
  | .found .. => True
  | .numeral _ => ¬ ShortRuns t
  | .tooDeep _ => depth < openings t

/-- Reading a text leaves a suffix of it, or tells the limit that it exceeds. -/
def Tracks {α : Type} (depth : Nat) (t : Text) : Except Fault (α × Text) → Prop
  | .ok p => p.2 <:+ t
  | .error f => Exceeds depth t f

section Suffixes

variable {depth : Nat} {s t : Text}

theorem ShortRuns.of_suffix (h : ShortRuns t) (hs : s <:+ t) : ShortRuns s :=
  fun digits inside => h digits (inside.trans hs.isInfix)

theorem openings_le (hs : s <:+ t) : openings s ≤ openings t := hs.sublist.countP_le

theorem openings_cons {c : CodePoint} (opening : isOpening c = true) (r : Text) :
    openings (c :: r) = openings r + 1 := List.countP_cons_of_pos opening

theorem Exceeds.of_suffix {f : Fault} (h : Exceeds depth s f) (hs : s <:+ t) :
    Exceeds depth t f := by
  cases f with
  | found => trivial
  | numeral => exact fun short => h (short.of_suffix hs)
  | tooDeep => exact Nat.lt_of_lt_of_le h (openings_le hs)

/-- Inside a container one level less is left. -/
theorem Exceeds.inside {f : Fault} {c : CodePoint} (h : Exceeds depth t f)
    (opening : isOpening c = true) : Exceeds (depth + 1) (c :: t) f := by
  cases f with
  | found => trivial
  | numeral => exact fun short => h (short.of_suffix (List.suffix_cons c t))
  | tooDeep =>
    show depth + 1 < openings (c :: t)
    rw [openings_cons opening]
    exact Nat.succ_lt_succ h

theorem Tracks.of_suffix {α : Type} {r : Except Fault (α × Text)} (h : Tracks depth s r)
    (hs : s <:+ t) : Tracks depth t r := by
  cases r with
  | ok p => exact List.IsSuffix.trans h hs
  | error f => exact Exceeds.of_suffix h hs

theorem Tracks.inside {α : Type} {r : Except Fault (α × Text)} {c : CodePoint}
    (h : Tracks depth t r) (opening : isOpening c = true) : Tracks (depth + 1) (c :: t) r := by
  cases r with
  | ok p => exact List.IsSuffix.trans h (List.suffix_cons c t)
  | error f => exact Exceeds.inside h opening

theorem skipSpace_suffix (t : Text) : skipSpace t <:+ t := List.dropWhile_suffix _

theorem suffix_of_skipSpace {c : CodePoint} (h : skipSpace t = c :: s) : s <:+ t :=
  (List.suffix_cons c s).trans (h ▸ skipSpace_suffix t)

end Suffixes

/-! ## Strings -/

theorem tracks_unicodeEscape (depth : Nat) (after : Text) :
    Tracks depth after (unicodeEscape after) := by
  have first : (after.drop 1).drop 4 <:+ after :=
    (List.drop_suffix _ _).trans (List.drop_suffix _ _)
  unfold unicodeEscape
  dsimp only
  split
  · trivial
  · split
    · next second hs =>
      have second : second.drop 4 <:+ after := (List.drop_suffix _ _).trans
        ((List.suffix_cons _ _).trans ((List.suffix_cons _ _).trans (hs ▸ first)))
      split
      · split
        · trivial
        · split
          · exact second
          · exact first
      · exact first
    · exact first

theorem tracks_stringRounds (depth : Nat) (start done : Text) (rounds : Nat) (t : Text) :
    Tracks depth t (stringRounds start done rounds t) := by
  induction rounds generalizing done t with
  | zero => trivial
  | succ rounds ih =>
    unfold stringRounds
    split
    · trivial
    · next r => exact List.suffix_cons 34 r
    · trivial
    · next r =>
      have escaped := tracks_unicodeEscape depth (117 :: r)
      generalize unicodeEscape (117 :: r) = e at escaped ⊢
      cases e with
      | error f => exact Exceeds.of_suffix escaped (List.suffix_cons 92 _)
      | ok p =>
        obtain ⟨c, rest⟩ := p
        exact (ih _ rest).of_suffix (List.IsSuffix.trans escaped (List.suffix_cons 92 _))
    · next c r _ =>
      split
      · trivial
      · exact (ih _ r).of_suffix ((List.suffix_cons c r).trans (List.suffix_cons 92 _))
    · next c r _ _ _ _ =>
      split
      · trivial
      · exact (ih _ r).of_suffix (List.suffix_cons c r)

theorem tracks_stringBody (depth : Nat) (t : Text) : Tracks depth t (stringBody t) :=
  tracks_stringRounds depth _ _ _ t

/-! ## Numbers -/

theorem wholeDigits_run (t : Text) :
    wholeDigits t <+: t ∧ ∀ c ∈ wholeDigits t, isAsciiDigit c = true := by
  cases t with
  | nil => simp [wholeDigits]
  | cons c r =>
    rw [wholeDigits]
    split
    · next zero =>
      subst zero
      exact ⟨⟨r, rfl⟩, by simp [isAsciiDigit]⟩
    · split
      · next first =>
        refine ⟨(List.prefix_cons_inj c).2 (List.takeWhile_prefix _), fun d hd => ?_⟩
        rcases List.mem_cons.1 hd with rfl | hd
        · exact first
        · exact List.mem_takeWhile_imp hd
      · simp

theorem readNumeral_eq_error {digits : Text} (h : ∀ c ∈ digits, isAsciiDigit c = true)
    {f : NumeralFault} :
    readNumeral digits = .error f ↔ numeralLimit < digits.length ∧ f = .tooLong digits.length := by
  rw [readNumeral_digits fun c hc => isAsciiDigit_iff.1 (h c hc)]
  split
  · next long => simp [long, eq_comm]
  · next short => simp [short]

theorem tracks_readNumber (depth : Nat) (t : Text) : Tracks depth t (readNumber t) := by
  have dropped (a b c : Nat) : ((t.drop a).drop b).drop c <:+ t :=
    (List.drop_suffix _ _).trans ((List.drop_suffix _ _).trans (List.drop_suffix _ _))
  unfold readNumber
  dsimp only
  generalize ((t.take 1).filter (· == 45)) = sign
  split
  · trivial
  · split
    · split
      · next f failed =>
        obtain ⟨front, digits⟩ := wholeDigits_run (t.drop sign.length)
        have inside := front.isInfix.trans (List.drop_suffix sign.length t).isInfix
        exact fun short => Nat.not_lt.2 (short _ inside digits)
          ((readNumeral_eq_error digits).1 failed).1
      · exact dropped _ _ _
    · split
      · exact dropped _ _ _
      · trivial

/-! ## Values -/

section Items

variable {depth : Nat} {item : Text → Except Fault (Json × Text)}

theorem tracks_arrayRounds (each : ∀ t, Tracks depth t (item t)) (done : List Json) (rounds : Nat)
    (t : Text) : Tracks depth t (arrayRounds item done rounds t) := by
  induction rounds generalizing done t with
  | zero => trivial
  | succ rounds ih =>
    have first := each t
    unfold arrayRounds
    generalize item t = r at first ⊢
    cases r with
    | error f => exact first
    | ok p =>
      obtain ⟨v, rest⟩ := p
      have first : rest <:+ t := first
      dsimp only
      split
      · next r hr => exact (suffix_of_skipSpace hr).trans first
      · next r hr =>
        exact (ih _ _).of_suffix ((skipSpace_suffix r).trans ((suffix_of_skipSpace hr).trans first))
      · trivial

theorem tracks_objectRounds (each : ∀ t, Tracks depth t (item t)) (done : List (Text × Json))
    (rounds : Nat) (t : Text) : Tracks depth t (objectRounds item done rounds t) := by
  induction rounds generalizing done t with
  | zero => trivial
  | succ rounds ih =>
    unfold objectRounds
    split
    · next r =>
      have name := tracks_stringBody depth r
      generalize stringBody r = e at name ⊢
      cases e with
      | error f => exact Exceeds.of_suffix name (List.suffix_cons 34 r)
      | ok p =>
        obtain ⟨name', rest⟩ := p
        have name : rest <:+ r := name
        dsimp only
        split
        · next after hc =>
          -- what follows the colon
          have colon : skipSpace after <:+ 34 :: r := (skipSpace_suffix after).trans
            ((suffix_of_skipSpace hc).trans (name.trans (List.suffix_cons 34 r)))
          have value := (each (skipSpace after)).of_suffix colon
          generalize item (skipSpace after) = e at value ⊢
          cases e with
          | error f => exact value
          | ok p =>
            obtain ⟨v, rest⟩ := p
            have value : rest <:+ 34 :: r := value
            dsimp only
            split
            · next r hr => exact (suffix_of_skipSpace hr).trans value
            · next r hr =>
              exact (ih _ _).of_suffix
                ((skipSpace_suffix r).trans ((suffix_of_skipSpace hr).trans value))
            · trivial
        · trivial
    · trivial

end Items

theorem tracks_scalar (depth : Nat) (t : Text) :
    Tracks depth t (match word? t with
      | some result => .ok result
      | none => readNumber t) := by
  split
  · next result hw =>
    obtain ⟨⟨w, v⟩, -, rfl⟩ := Option.map_eq_some_iff.1 hw
    exact List.drop_suffix _ _
  · exact tracks_readNumber depth t

/-- A container is not opened at all, or its items are read with one level less. -/
theorem tracks_container {depth : Nat} {c : CodePoint} {r : Text}
    (opening : isOpening c = true) (refused : value 0 (c :: r) = .error (.tooDeep (c == 123)))
    (inside : ∀ d, depth = d + 1 → Tracks d r (value (d + 1) (c :: r))) :
    Tracks depth (c :: r) (value depth (c :: r)) := by
  cases depth with
  | zero =>
    rw [refused]
    show 0 < openings (c :: r)
    rw [openings_cons opening]
    exact Nat.succ_pos _
  | succ depth => exact (inside depth rfl).inside opening

/-- One value is read, or a limit exceeded; the induction is on the containers that may be open. -/
theorem tracks_value (depth : Nat) (t : Text) : Tracks depth t (value depth t) := by
  induction depth using Nat.strongRecOn generalizing t with
  | ind depth ih =>
    cases t with
    | nil =>
      unfold value
      exact tracks_scalar depth []
    | cons c r =>
      by_cases quote : c = 34
      · subst quote
        rw [value_quote]
        have string := tracks_stringBody depth r
        generalize stringBody r = e at string ⊢
        cases e with
        | error f => exact Exceeds.of_suffix string (List.suffix_cons 34 r)
        | ok p => exact List.IsSuffix.trans string (List.suffix_cons 34 r)
      by_cases brace : c = 123
      · subst brace
        refine tracks_container rfl ((value.eq_def 0 (123 :: r)).trans rfl) fun d hd => ?_
        have each := ih d (hd ▸ Nat.lt_succ_self d)
        rw [value_brace]
        split
        · next rest hr => exact suffix_of_skipSpace hr
        · exact (tracks_objectRounds each [] _ _).of_suffix (skipSpace_suffix r)
      by_cases bracket : c = 91
      · subst bracket
        refine tracks_container rfl ((value.eq_def 0 (91 :: r)).trans rfl) fun d hd => ?_
        have each := ih d (hd ▸ Nat.lt_succ_self d)
        rw [value_bracket]
        split
        · next rest hr => exact suffix_of_skipSpace hr
        · exact (tracks_arrayRounds each [] _ _).of_suffix (skipSpace_suffix r)
      · rw [value_scalar quote brace bracket]
        exact tracks_scalar depth (c :: r)

/-- A text within the limits has at most a fault of syntax. -/
theorem document_found {t : Text} (short : ShortRuns t) (shallow : openings t ≤ nestingLimit)
    {f : Fault} (h : document t = .error f) : ∃ cause rest, f = .found cause rest := by
  have tracked := (tracks_value nestingLimit (skipSpace t)).of_suffix (skipSpace_suffix t)
  unfold document at h
  split at h
  · cases h
    exact ⟨_, _, rfl⟩
  · generalize value nestingLimit (skipSpace t) = r at tracked h
    cases r with
    | error g =>
      obtain rfl := Except.error.inj h
      cases g with
      | found cause rest => exact ⟨cause, rest, rfl⟩
      | numeral => exact absurd short tracked
      | tooDeep => exact absurd shallow (Nat.not_le.2 tracked)
    | ok p =>
      obtain ⟨v, rest⟩ := p
      dsimp only at h
      split at h
      · cases h
      · cases h
        exact ⟨_, _, rfl⟩

/-! ## The limits are met -/

/-- As many opening brackets as may not be open are too many, whatever follows them. -/
theorem value_brackets (depth : Nat) (rest : Text) :
    value depth (List.replicate (depth + 1) 91 ++ rest) = .error (.tooDeep false) := by
  induction depth with
  | zero => exact (value.eq_def 0 (91 :: rest)).trans rfl
  | succ depth ih =>
    rw [List.replicate_succ, List.cons_append, value_bracket]
    generalize hr : List.replicate (depth + 1) 91 ++ rest = r at ih
    obtain ⟨s, rfl⟩ : ∃ s, r = 91 :: s := ⟨List.replicate depth 91 ++ rest, by
      rw [← hr, List.replicate_succ, List.cons_append]⟩
    rw [skipSpace_cons (by decide)]
    simp [arrayRounds, ih]

/-- A limit that is met at the first character ends the reading. -/
theorem document_eq_error {c : Nat} {r : Text} {f : Fault} (dark : 32 < c) (mark : c ≠ 0xFEFF)
    (h : value nestingLimit (c :: r) = .error f) : document (c :: r) = .error f := by
  unfold document
  rw [if_neg (by simpa using mark), skipSpace_cons dark, h]

theorem document_brackets (rest : Text) :
    document (List.replicate (nestingLimit + 1) 91 ++ rest) = .error (.tooDeep false) := by
  have met := value_brackets nestingLimit rest
  rw [List.replicate_succ, List.cons_append] at met ⊢
  exact document_eq_error (by decide) (by decide) met

/-- A numeral alone is refused if it is too long. -/
theorem document_digits {digits : Text} (h : IsWhole digits) (long : numeralLimit < digits.length) :
    document digits = .error (.numeral (.tooLong digits.length)) := by
  have failed := (readNumeral_eq_error h.isDigits.digits).2 ⟨long, rfl⟩
  have none : IsFraction [] ∧ IsExponent [] := ⟨.inl rfl, .inl rfl⟩
  have sign : IsSign [] := .inl rfl
  have ends : Ends [] := nofun
  have read := readNumber_parts sign h none.1 none.2 ends
  have word := word?_number sign h.isDigits []
  obtain ⟨c, r, rfl⟩ := List.exists_cons_of_ne_nil h.isDigits.nonempty
  have digit := isAsciiDigit_iff.1 (h.isDigits.digits c List.mem_cons_self)
  refine document_eq_error (by omega) (by omega) ?_
  rw [value_scalar (by omega) (by omega) (by omega)]
  simp only [List.nil_append, List.append_nil] at read word
  rw [word]
  simpa [failed] using read

end Detour.Json
