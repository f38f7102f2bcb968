import Detour.Proofs.Target.Parts

/-!
# Refused targets

A text that names no target is rejected for a documented cause, with one exception: the digits of
its port pass as digits but cannot be read as a number, because one of them has no decimal value or
because there are too many. The failure is then another one. An encoder that does not refuse a name
but fails would be a second exception.

## Main statements

* `Target.settled_or_unreadablePort` — what becomes of a text, with an encoder that only refuses.
* `Target.raises_valueError_iff`, `Target.raises_validationError_iff` — which failure it is.
-/
namespace Detour

open Text

namespace Text

/-- A text of digits is no number if one of them has no decimal value, or if there are too many. -/
def Unreadable (digits : Text) : Prop :=
  numeralLimit < digits.length ∨ ∃ c ∈ digits, decimalValue? c = none

theorem mapM_eq_none {α β : Type} {f : α → Option β} {as : List α} :
    as.mapM f = none ↔ ∃ a ∈ as, f a = none := by
  induction as with
  | nil => simp
  | cons a r ih =>
    rw [List.mapM_cons]
    cases first : f a with
    | none => simp [first]
    | some b =>
      cases rest : r.mapM f with
      | none => simpa [first, rest] using ih.1 rest
      | some bs =>
        have readable : ¬ ∃ a ∈ r, f a = none := fun h => by rw [ih.2 h] at rest; cases rest
        simpa [first, rest] using readable

theorem readNumeral_eq_error {digits : Text} :
    (∃ fault, readNumeral digits = .error fault) ↔ Unreadable digits := by
  unfold readNumeral Unreadable
  by_cases undecimal : ∃ c ∈ digits, decimalValue? c = none
  · simp only [mapM_eq_none.2 undecimal, undecimal, or_true, iff_true]
    split
    · exact ⟨_, rfl⟩
    · exact ⟨_, rfl⟩
  · have decimal : ∀ o ∈ digits.map decimalValue?, o.isSome = true := by
      rintro _ ho
      obtain ⟨c, hc, rfl⟩ := List.mem_map.1 ho
      exact Option.isSome_iff_ne_none.2 fun none => undecimal ⟨c, hc, none⟩
    obtain ⟨values, hvalues⟩ := Option.ne_none_iff_exists'.1 (mt mapM_eq_none.1 undecimal)
    simp only [List.takeWhile_eq_self_iff.2 decimal, List.length_map, hvalues, undecimal, or_false]
    by_cases long : numeralLimit < digits.length
    · simp [long]
    · simp [long]

end Text

namespace Target

/-- The port of a text passes as a text of digits but is no number. -/
def UnreadablePort (input : Text) : Prop :=
  ∃ host port, splitParts input = .ok (host, port) ∧ port ≠ [] ∧ port.all isDigit = true ∧
    Unreadable port

instance (digits : Text) : Decidable (Unreadable digits) := inferInstanceAs (Decidable (_ ∨ _))

instance (input : Text) : Decidable (UnreadablePort input) :=
  match parts : splitParts input with
  | .error _ => isFalse (by simp [UnreadablePort, parts])
  | .ok (_, port) =>
    decidable_of_iff (port ≠ [] ∧ port.all isDigit = true ∧ Unreadable port)
      (by simp [UnreadablePort, parts])

variable {encode : Host.Encoder} {input : Text}

theorem readPort_numeral (input port : Text) :
    (∃ fault, readPort input port = .error (.numeral fault)) ↔
      port ≠ [] ∧ port.all isDigit = true ∧ Unreadable port := by
  rw [← readNumeral_eq_error]
  unfold readPort
  by_cases none : port = []
  · simp [none]
  have present : port.isEmpty = false := by simpa using none
  by_cases digits : port.all isDigit = true
  · simp only [present, digits, ne_eq, none]
    cases readNumeral port with
    | error fault => simp
    | ok n =>
      simp only [Bool.false_eq_true, Bool.not_true, if_false]
      split <;> simp
  · simp [present, digits]

/-- The port does not depend on the host, nor on its encoder. -/
theorem parse_numeral (encode : Host.Encoder) :
    (∃ fault, parse encode input = .error (.numeral fault)) ↔ UnreadablePort input := by
  unfold UnreadablePort
  cases parts : splitParts input with
  | error fault => simp [parse_of_splitParts_error parts]
  | ok pair =>
    obtain ⟨raw, text⟩ := pair
    have unreadable := readPort_numeral input text
    cases read : readPort input text with
    | error e => simpa [parse_of_readPort_error parts read, read] using unreadable
    | ok port =>
      have readable : ¬ (text ≠ [] ∧ text.all isDigit = true ∧ Unreadable text) := by
        rw [← unreadable, read]
        simp
      rw [parse_of_parts parts read]
      cases Host.normalize encode raw with
      | ok host => simpa [Except.mapError, Except.map] using readable
      | error refusal =>
        cases refusal <;> simpa [Except.mapError, Except.map, ParseError.ofHost] using readable

/-- A port is refused, or is no number. -/
theorem readPort_ne_failed (input port : Text) (failure : Failure) :
    readPort input port ≠ .error (.failed failure) := by
  unfold readPort
  split
  · nofun
  split
  · nofun
  split
  · nofun
  · split <;> nofun

theorem parse_ne_failed (refuses : encode.OnlyRefuses) (input : Text) (failure : Failure) :
    parse encode input ≠ .error (.failed failure) := by
  intro failed
  cases parts : splitParts input with
  | error fault => simp [parse_of_splitParts_error parts] at failed
  | ok pair =>
    obtain ⟨raw, text⟩ := pair
    cases read : readPort input text with
    | error e =>
      obtain rfl : e = .failed failure := by simpa [parse_of_readPort_error parts read] using failed
      exact readPort_ne_failed _ _ _ read
    | ok port =>
      rw [parse_of_parts parts read] at failed
      cases normal : Host.normalize encode raw with
      | ok host => simp [normal, Except.mapError, Except.map] at failed
      | error refusal =>
        cases refusal with
        | rejected fault => simp [normal, Except.mapError, Except.map, ParseError.ofHost] at failed
        | failed failure => exact Host.normalize_ne_failed refuses _ _ normal

/-- A text names a target, or is rejected for a documented cause. -/
def Settled (encode : Host.Encoder) (input : Text) : Prop :=
  (∃ t, parse encode input = .ok t) ∨ ∃ fault, parse encode input = .error (.rejected fault)

/-- A text is settled, or has a port that is no number. -/
theorem settled_or_unreadablePort (refuses : encode.OnlyRefuses) (input : Text) :
    Settled encode input ∨ UnreadablePort input := by
  rw [← parse_numeral encode]
  cases read : parse encode input with
  | ok t => exact .inl (.inl ⟨t, read⟩)
  | error e =>
    cases e with
    | rejected fault => exact .inl (.inr ⟨fault, read⟩)
    | numeral fault => exact .inr ⟨fault, rfl⟩
    | failed failure => exact absurd read (parse_ne_failed refuses input failure)

/-- A port that is no number settles nothing. -/
theorem Settled.readable (h : Settled encode input) : ¬ UnreadablePort input := by
  rw [← parse_numeral encode]
  rintro ⟨fault, failed⟩
  rcases h with ⟨t, read⟩ | ⟨other, rejected⟩
  · rw [read] at failed
    cases failed
  · rw [rejected] at failed
    cases failed

/-! ## Kinds of failures -/

/-- Reading a text ends by a failure of a kind. -/
def Raises (encode : Host.Encoder) (input kind : Text) : Prop :=
  ∃ e, parse encode input = .error e ∧ e.toFailure.kind = kind

instance (encode : Host.Encoder) (input kind : Text) : Decidable (Raises encode input kind) :=
  match read : parse encode input with
  | .ok _ => isFalse (by simp [Raises, read])
  | .error e => decidable_of_iff (e.toFailure.kind = kind) (by simp [Raises, read])

theorem raises_valueError_iff (refuses : encode.OnlyRefuses) :
    Raises encode input "ValueError" ↔ UnreadablePort input := by
  rw [← parse_numeral encode]
  constructor
  · rintro ⟨e, refused, kind⟩
    cases e with
    | rejected fault => exact absurd kind (by decide : ("ValidationError" : Text) ≠ "ValueError")
    | numeral fault => exact ⟨fault, refused⟩
    | failed failure => exact absurd refused (parse_ne_failed refuses input failure)
  · rintro ⟨fault, refused⟩
    exact ⟨_, refused, rfl⟩

theorem raises_validationError_iff (refuses : encode.OnlyRefuses) :
    Raises encode input "ValidationError" ↔
      ∃ fault, parse encode input = .error (.rejected fault) := by
  constructor
  · rintro ⟨e, refused, kind⟩
    cases e with
    | rejected fault => exact ⟨fault, refused⟩
    | numeral fault => exact absurd kind (by decide : ("ValueError" : Text) ≠ "ValidationError")
    | failed failure => exact absurd refused (parse_ne_failed refuses input failure)
  · rintro ⟨fault, refused⟩
    exact ⟨_, refused, rfl⟩

end Target
end Detour
