import Detour.Proofs.Target.Parts

/-!
# Spellings of targets

A host is written alone, in brackets, or either way with a colon and perhaps a port behind it. A
text that is split is one of these spellings, character for character but for its outer blanks, with
one exception: what stands behind the closing bracket without a colon is dropped.

## Main definitions

* `Target.Spelling` — the texts for a host and the text of a port.
* `Target.PortText` — the texts for a port.

## Main statements

* `Target.Cut.spelling` — a cut is a spelling, or drops something.
* `Target.split_accounts_iff` — which texts are split without loss.
-/
namespace Detour.Target

open Text

/-- The ways to write a host and a port, given by its text; without a port that is empty. -/
inductive Spelling (host : Text) : Text → Text → Prop
  | bare : Spelling host [] host
  | colon (port : Text) : Spelling host port (host ++ 58 :: port)
  | brackets : Spelling host [] (91 :: (host ++ [93]))
  | bracketsColon (port : Text) : Spelling host port (91 :: (host ++ 93 :: 58 :: port))

/-- No text for no port, and decimal digits for a number from 1 to 65535. -/
inductive PortText : Text → Option Nat → Prop
  | none : PortText [] none
  | digits {text : Text} {values : List Nat} (present : text ≠ [])
      (decimal : text.map decimalValue? = values.map some) (positive : 1 ≤ digitsValue values)
      (bound : digitsValue values ≤ 65535) : PortText text (some (digitsValue values))

/-- Something that does not begin with a colon stands behind the host in brackets. -/
def DropsRest (host value : Text) : Prop :=
  ∃ rest, value = 91 :: (host ++ 93 :: rest) ∧ rest ≠ [] ∧ rest.head? ≠ some 58

variable {input host text value : Text} {port : Option Nat}

theorem Cut.spelling (h : Cut value host text) :
    Spelling host text value ∨ DropsRest host value := by
  cases h with
  | whole => exact .inl .bare
  | colon => exact .inl (.colon text)
  | @brackets host rest closing noColon =>
    by_cases none : rest = []
    · subst none
      exact .inl .brackets
    · exact .inr ⟨rest, rfl, none, noColon⟩
  | bracketsColon => exact .inl (.bracketsColon text)

/-- A text does not go on with a colon where it would have to begin with a bracket. -/
theorem append_colon_ne (host text rest : Text) : host ++ 58 :: text ≠ 91 :: (host ++ rest) := by
  induction host with
  | nil => simp
  | cons c r ih =>
    intro same
    obtain ⟨rfl, same⟩ := List.cons.inj same
    exact ih same

/-- What is dropped is in none of the spellings. -/
theorem DropsRest.not_spelling (h : DropsRest host value) (text : Text) :
    ¬ Spelling host text value := by
  obtain ⟨rest, rfl, present, noColon⟩ := h
  intro spelled
  generalize whole : 91 :: (host ++ 93 :: rest) = value at spelled
  cases spelled with
  | bare =>
    have length := congrArg List.length whole
    simp only [List.length_cons, List.length_append] at length
    omega
  | colon => exact append_colon_ne host text _ whole.symm
  | brackets => exact present (by simpa using whole)
  | bracketsColon =>
    have same : rest = 58 :: text := by simpa using whole
    simp [same] at noColon

theorem portText_of_readPort (h : readPort input text = .ok port) : PortText text port := by
  rcases readPort_eq_ok.1 h with ⟨rfl, rfl⟩ | ⟨n, rfl, positive, bound, present, -, read⟩
  · exact .none
  · obtain ⟨values, decimal, rfl⟩ := decimal_of_readNumeral read
    exact .digits present decimal positive (Nat.le_of_lt_succ bound)

/-- A text that is split into a host and a port is one of their spellings, unless it has something
that does not begin with a colon behind the host in brackets. A host without colons, brackets and
outer blanks that is written with a port, in brackets or not, is split into the two. -/
theorem split_accounts_iff (input host : Text) :
    (∀ raw port, splitHostPort input = .ok (raw, port) →
      ((∃ text, Spelling raw text (strip input) ∧ PortText text port) ↔
        ¬ DropsRest raw (strip input))) ∧
    (58 ∉ host → 91 ∉ host → 93 ∉ host → strip host = host → ∀ n, 1 ≤ n → n ≤ 65535 →
      splitHostPort (host ++ 58 :: ofNat n) = .ok (host, some n) ∧
      splitHostPort (91 :: (host ++ 93 :: 58 :: ofNat n)) = .ok (host, some n)) := by
  refine ⟨fun raw port h => ?_, fun colon opening closing trimmed n positive bound => ?_⟩
  · obtain ⟨text, parts, read⟩ := splitHostPort_eq_ok.1 h
    constructor
    · rintro ⟨text, spelled, -⟩ drops
      exact drops.not_spelling text spelled
    · intro kept
      have spelled := (splitParts_eq_ok.1 parts).spelling.resolve_right kept
      exact ⟨text, spelled, portText_of_readPort read⟩
  · have blanks : ∀ c ∈ ofNat n, isBlank c = false := fun c => isBlank_ofNat
    have first : ∀ c ∈ host.head?, isBlank c = false ∧ c ≠ 91 := fun c hc =>
      ⟨(strip_eq_self_iff.1 trimmed).1 c hc, ne_of_mem_of_not_mem (List.mem_of_head? hc) opening⟩
    have read (input : Text) := readPort_ofNat input positive (Nat.lt_succ_of_le bound)
    have bare := splitParts_colon first colon (colon_not_mem_ofNat n) blanks
    have bracketed := splitParts_brackets closing blanks
    exact ⟨splitHostPort_eq_ok.2 ⟨_, bare, read _⟩, splitHostPort_eq_ok.2 ⟨_, bracketed, read _⟩⟩

/-- An address with a port, and a name in both ways to write it. -/
theorem split_accounts_iff_ports :
    splitHostPort " [::1]:443\n" = .ok ("::1", some 443) ∧
    Spelling "::1" "443" (strip " [::1]:443\n") ∧ PortText "443" (some 443) ∧
    ¬ DropsRest "::1" (strip " [::1]:443\n") ∧
    (58 ∉ ofString "localhost" ∧ 91 ∉ ofString "localhost" ∧ 93 ∉ ofString "localhost" ∧
      strip "localhost" = "localhost" ∧ 1 ≤ 8080 ∧ 8080 ≤ 65535) ∧
    splitHostPort "localhost:8080" = .ok ("localhost", some 8080) ∧
    splitHostPort "[localhost]:8080" = .ok ("localhost", some 8080) := by
  obtain ⟨texts, hosts⟩ := split_accounts_iff " [::1]:443\n" "localhost"
  have read : splitHostPort " [::1]:443\n" = .ok ("::1", some 443) := by decide +kernel
  have spelled : Spelling "::1" "443" (strip " [::1]:443\n") := .bracketsColon (ofString "443")
  have digits : (ofString "443").map decimalValue? = List.map some [4, 4, 3] := by decide +kernel
  have port : PortText "443" (some 443) := .digits (by decide) digits (by decide) (by decide)
  have plain : 58 ∉ ofString "localhost" ∧ 91 ∉ ofString "localhost" ∧ 93 ∉ ofString "localhost" ∧
      strip "localhost" = "localhost" ∧ 1 ≤ 8080 ∧ 8080 ≤ 65535 := by decide
  obtain ⟨colon, opening, closing, trimmed, low, high⟩ := plain
  exact ⟨read, spelled, port, (texts _ _ read).1 ⟨_, spelled, port⟩,
    ⟨colon, opening, closing, trimmed, low, high⟩,
    hosts colon opening closing trimmed 8080 low high⟩

/-- A port behind a bracket and no colon is dropped. -/
theorem split_drops_behindBracket :
    splitHostPort "[::1]443" = .ok ("::1", none) ∧
    ¬ ∃ text, Spelling "::1" text (strip "[::1]443") ∧ PortText text none := by
  have drops : DropsRest "::1" (strip "[::1]443") :=
    ⟨ofString "443", by decide, by decide, by decide⟩
  exact ⟨by decide +kernel, fun ⟨text, spelled, _⟩ => drops.not_spelling text spelled⟩

end Detour.Target
