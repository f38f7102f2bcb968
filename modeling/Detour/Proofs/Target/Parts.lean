import Detour.Proofs.Host.Canonical
import Detour.Proofs.Text.Numerals
import Detour.Target

/-!
# The parts of a target

A target is read part by part: the text is cut into the texts of a host and of a port, the port is
read as a number, and the host is brought to its canonical form.

## Main statements

* `Target.splitHostPort_eq_ok`, `Target.parse_eq_ok` — the parts of a target that was read.
* `Target.readPort_eq_ok` — the ports.
* `Target.splitParts_eq_ok` — how a text is cut.
* `Target.splitParts_host`, `Target.splitParts_colon`, `Target.splitParts_brackets` — the ways a
  target is written.
-/
namespace Detour.Target

open Text Host

variable {encode : Encoder} {input raw text : Text} {port : Option Nat}

/-- The target with a host in canonical form. -/
def ofHost (port : Option Nat) (host : Text) : Target where
  host := host
  port := port.map Int.ofNat
  domain := registeredDomain host

theorem splitHostPort_eq_ok :
    splitHostPort input = .ok (raw, port) ↔
      ∃ text, splitParts input = .ok (raw, text) ∧ readPort input text = .ok port := by
  constructor
  · intro h
    obtain ⟨⟨raw', text⟩, parts, h⟩ := ok_of_bind h
    obtain ⟨port', read, h⟩ := ok_of_bind h
    cases h
    exact ⟨text, ok_of_mapError parts, read⟩
  · rintro ⟨text, parts, read⟩
    rw [splitHostPort, parts]
    exact congrArg (· >>= fun port => .ok (raw, port)) read

theorem parse_of_parts (parts : splitParts input = .ok (raw, text))
    (read : readPort input text = .ok port) :
    parse encode input = ((normalize encode raw).mapError .ofHost).map (ofHost port) := by
  rw [parse, splitHostPort_eq_ok.2 ⟨text, parts, read⟩]
  change ((normalize encode raw).mapError _ >>= fun host => .ok (ofHost port host)) = _
  cases normalize encode raw <;> rfl

theorem parse_of_splitParts_error {fault : Target.Fault} (parts : splitParts input = .error fault) :
    parse encode input = .error (.rejected fault) := by
  rw [parse, splitHostPort, parts]
  rfl

theorem parse_of_readPort_error {e : ParseError} (parts : splitParts input = .ok (raw, text))
    (read : readPort input text = .error e) : parse encode input = .error e := by
  have split : splitHostPort input = .error e := by
    rw [splitHostPort, parts]
    exact congrArg (· >>= fun port => .ok (raw, port)) read
  rw [parse, split]
  rfl

theorem parse_eq_ok {t : Target} :
    parse encode input = .ok t ↔ ∃ raw text port host,
      splitParts input = .ok (raw, text) ∧ readPort input text = .ok port ∧
      normalize encode raw = .ok host ∧ t = ofHost port host := by
  constructor
  · intro h
    obtain ⟨⟨raw, port⟩, split, h⟩ := ok_of_bind h
    obtain ⟨text, parts, read⟩ := splitHostPort_eq_ok.1 split
    obtain ⟨host, hhost, h⟩ := ok_of_bind h
    cases h
    exact ⟨raw, text, port, host, parts, read, ok_of_mapError hhost, rfl⟩
  · rintro ⟨raw, text, port, host, parts, read, hhost, rfl⟩
    rw [parse_of_parts parts read, hhost]
    rfl

/-! ## Ports -/

theorem readPort_eq_ok :
    readPort input text = .ok port ↔
      (text = [] ∧ port = none) ∨ ∃ n, port = some n ∧ 0 < n ∧ n < 65536 ∧
        text ≠ [] ∧ text.all isDigit = true ∧ readNumeral text = .ok n := by
  unfold readPort
  by_cases none : text = []
  · simp [none, eq_comm]
  have present : text.isEmpty = false := by simpa using none
  by_cases digits : text.all isDigit = true
  · simp only [present, digits, none]
    cases readNumeral text with
    | error fault => simp
    | ok n =>
      by_cases range : 0 < n ∧ n < 65536
      · simp [range, none, eq_comm]
      · have outside : (decide (0 < n) && decide (n < 65536)) = false := by simpa using range
        simp [outside]
        omega
  · simp [present, digits, none]

/-- The number of a port is read from its own text. -/
theorem readPort_ofNat (input : Text) {n : Nat} (positive : 0 < n) (h : n < 65536) :
    readPort input (ofNat n) = .ok (some n) := by
  refine readPort_eq_ok.2 (.inr ⟨n, rfl, positive, h, ofNat_ne_nil n, isDigit_ofNat n, ?_⟩)
  have short := length_ofNat_le (k := 5) (by decide) (lt_trans h (by decide))
  rw [readNumeral_ofNat, if_neg]
  exact not_lt_of_ge (le_trans short (by decide))

theorem isBlank_ofNat {n : Nat} {c : CodePoint} (h : c ∈ ofNat n) : isBlank c = false := by
  have digit := mem_ofNat h
  exact isBlank_ascii ⟨lt_of_lt_of_le (by decide) digit.1, lt_of_le_of_lt digit.2 (by decide)⟩

theorem colon_not_mem_ofNat (n : Nat) : 58 ∉ ofNat n :=
  fun colon => absurd (mem_ofNat colon).2 (by decide)

/-! ## The ways a target is written -/

/-- How a text without outer blanks is cut into the texts of a host and of a port. -/
inductive Cut : Text → Text → Text → Prop
  | whole {value : Text} (first : value.head? ≠ some 91) (colons : value.count 58 ≠ 1) :
      Cut value value []
  | colon {host text : Text} (first : (host ++ 58 :: text).head? ≠ some 91) (before : 58 ∉ host)
      (behind : 58 ∉ text) : Cut (host ++ 58 :: text) host text
  | brackets {host rest : Text} (closing : 93 ∉ host) (noColon : rest.head? ≠ some 58) :
      Cut (91 :: (host ++ 93 :: rest)) host []
  | bracketsColon {host text : Text} (closing : 93 ∉ host) :
      Cut (91 :: (host ++ 93 :: 58 :: text)) host text

theorem splitParts_eq_ok :
    splitParts input = .ok (raw, text) ↔ Cut (strip input) raw text := by
  unfold splitParts
  generalize strip input = value
  dsimp only
  constructor
  · intro h
    split at h
    · split at h
      · cases h
      · next inner closed port cut =>
        cases h
        obtain ⟨rfl, closing⟩ := cut?_eq_some.1 cut
        exact .bracketsColon closing
      · next inner closed rest noColon cut =>
        cases h
        obtain ⟨rfl, closing⟩ := cut?_eq_some.1 cut
        refine .brackets closing fun first => ?_
        obtain ⟨r, rfl⟩ := List.head?_eq_some_iff.1 first
        exact noColon r rfl
    · next first =>
      have first : value.head? ≠ some 91 := fun bracket =>
        (List.head?_eq_some_iff.1 bracket).elim first
      split at h
      · next one =>
        obtain ⟨front, back, rfl⟩ := List.append_of_mem (List.count_pos_iff.1 (one ▸ Nat.one_pos))
        rw [List.count_append, List.count_cons_self] at one
        have before : 58 ∉ front := List.count_eq_zero.1 (by omega)
        have behind : 58 ∉ back := List.count_eq_zero.1 (by omega)
        rw [cut?_eq_some.2 ⟨rfl, before⟩] at h
        cases h
        exact .colon first before behind
      · next colons =>
        cases h
        exact .whole first colons
  · intro h
    cases h with
    | whole first colons =>
      split
      · simp at first
      · rw [if_neg colons]
    | colon first before behind =>
      have one : (raw ++ 58 :: text).count 58 = 1 := by
        rw [List.count_append, List.count_cons_self, List.count_eq_zero.2 before,
          List.count_eq_zero.2 behind]
      split
      · next bracket =>
        rw [bracket] at first
        simp at first
      · rw [if_pos one, cut?_eq_some.2 ⟨rfl, before⟩]
        rfl
    | @brackets host rest closing noColon =>
      simp only [cut?_eq_some.2 ⟨rfl, closing⟩]
      split
      · next cut => cases cut
      · next cut =>
        cases cut
        simp at noColon
      · next cut =>
        cases cut
        rfl
    | bracketsColon closing => simp only [cut?_eq_some.2 ⟨rfl, closing⟩]

/-- A host without port. -/
theorem splitParts_host {c : Nat} {r : Text} (blank : isBlank c = false) (bracket : c ≠ 91)
    (colons : (c :: r).count 58 ≠ 1) : splitParts (c :: r) = .ok (strip (c :: r), []) := by
  obtain ⟨r', kept⟩ := strip_cons blank r
  refine splitParts_eq_ok.2 (.whole ?_ ?_)
  · simp [kept, bracket]
  · rwa [count_strip (by decide)]

theorem strip_append {front back : Text} (first : ∀ c ∈ front.head?, isBlank c = false)
    (hf : front ≠ []) (last : ∀ c ∈ back, isBlank c = false) (hb : back ≠ []) :
    strip (front ++ back) = front ++ back := by
  refine strip_eq_self_iff.2 ⟨?_, fun c hc => last c (List.mem_of_getLast? ?_)⟩
  · rwa [List.head?_append_of_ne_nil _ hf]
  · rwa [List.getLast?_append_of_ne_nil _ hb] at hc

/-- A port behind the only colon. -/
theorem splitParts_colon {host : Text} (first : ∀ c ∈ host.head?, isBlank c = false ∧ c ≠ 91)
    (colon : 58 ∉ host) (digits : 58 ∉ text) (last : ∀ c ∈ text, isBlank c = false) :
    splitParts (host ++ 58 :: text) = .ok (host, text) := by
  have sign : ∀ c ∈ 58 :: text, isBlank c = false := by simpa [isBlank] using last
  have whole : strip (host ++ 58 :: text) = host ++ 58 :: text ∧
      (host ++ 58 :: text).head? ≠ some 91 := by
    cases host with
    | nil => exact ⟨strip_of_not_blank sign, by simp⟩
    | cons c r =>
      obtain ⟨blank, bracket⟩ := first c rfl
      exact ⟨strip_append (by simpa using blank) (by simp) sign (by simp), by simpa using bracket⟩
  rw [splitParts_eq_ok, whole.1]
  exact .colon whole.2 colon digits

/-- A port behind a host in brackets. -/
theorem splitParts_brackets {host : Text} (bracket : 93 ∉ host)
    (last : ∀ c ∈ text, isBlank c = false) :
    splitParts (91 :: (host ++ 93 :: 58 :: text)) = .ok (host, text) := by
  have whole : strip (91 :: host ++ 93 :: 58 :: text) = 91 :: host ++ 93 :: 58 :: text :=
    strip_append (by simp [isBlank]) (by simp) (by simpa [isBlank] using last) (by simp)
  rw [splitParts_eq_ok, ← List.cons_append, whole]
  exact .bracketsColon bracket

end Detour.Target
