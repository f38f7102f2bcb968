import Detour.Proofs.Text.Splitting
import Detour.Target

/-!
# Encoders of international names

What hosts rely on an encoder for. An international name is written in ASCII label by label, with
small letters, digits and hyphens; dots stand between the labels, and one may stand at the end. A
name that cannot be written so is refused.

## Main definitions

* `Host.Encoder.Lawful` — what the names of an encoder are made of.
* `Host.Encoder.OnlyRefuses` — the encoder fails in no other way.

## Main statements

* `Host.mem_registeredDomain` — the characters of a registered domain.
-/
namespace Detour

open Text

theorem ok_of_bind {ε α β : Type} {x : Except ε α} {f : α → Except ε β} {b : β}
    (h : (x >>= f) = .ok b) : ∃ a, x = .ok a ∧ f a = .ok b := by
  cases x with
  | error e => cases h
  | ok a => exact ⟨a, rfl, h⟩

theorem ok_of_mapError {ε φ α : Type} {x : Except ε α} {f : ε → φ} {a : α}
    (h : x.mapError f = .ok a) : x = .ok a := by
  cases x with
  | error e => cases h
  | ok b => exact congrArg Except.ok (Except.ok.inj h)

/-- Whether a computation gives a value can be decided without looking at its errors. -/
instance decidableEqOk {ε α : Type} [DecidableEq α] (x : Except ε α) (a : α) :
    Decidable (x = .ok a) :=
  match x with
  | .ok b => decidable_of_iff (b = a) (by simp)
  | .error _ => isFalse nofun

namespace Host

/-- Small letters, digits and the hyphen. -/
def IsNameChar (c : Nat) : Prop := (97 ≤ c ∧ c ≤ 122) ∨ (48 ≤ c ∧ c ≤ 57) ∨ c = 45

instance (c : Nat) : Decidable (IsNameChar c) := inferInstanceAs (Decidable (_ ∨ _))

namespace Encoder

/-- The names of an encoder are not empty, and have labels of small letters, digits and hyphens. -/
structure Lawful (encode : Encoder) : Prop where
  present : ∀ {host name : Text}, encode host = .ok name → name ≠ []
  chars : ∀ {host name : Text}, encode host = .ok name → ∀ c ∈ name, IsNameChar c ∨ c = 46

/-- What cannot be encoded is refused. -/
def OnlyRefuses (encode : Encoder) : Prop := ∀ host failure, encode host ≠ .error (.failed failure)

/-- The encoder that knows some names and refuses all others. -/
def ofTable (names : Table Text Text) : Encoder := fun host =>
  match names.get? host with
  | some name => .ok name
  | none => .error (.refused "Unknown name")

theorem lawful_ofTable {names : Table Text Text}
    (each : ∀ m ∈ names, m.2 ≠ [] ∧ ∀ c ∈ m.2, IsNameChar c ∨ c = 46) : (ofTable names).Lawful := by
  have known {host name : Text} (h : ofTable names host = .ok name) : ∃ m ∈ names, m.2 = name := by
    unfold ofTable at h
    split at h
    · next found =>
      cases h
      exact ⟨_, Table.mem_of_get? found, rfl⟩
    · cases h
  constructor
  · intro host name h
    obtain ⟨m, hm, rfl⟩ := known h
    exact (each m hm).1
  · intro host name h
    obtain ⟨m, hm, rfl⟩ := known h
    exact (each m hm).2

theorem onlyRefuses_ofTable (names : Table Text Text) : (ofTable names).OnlyRefuses := by
  intro host failure h
  unfold ofTable at h
  split at h <;> cases h

/-- An encoder that knows a name with an umlaut, one that ends in an ideographic full stop, and one
with wide digits and a wide dot. -/
def sample : Encoder :=
  ofTable [("b\u00fccher.example", "xn--bcher-kva.example"), ("example.com\u3002", "example.com."),
    ("a.\uff11\uff10.0\uff0e0.1", "a.10.0.0.1")]

theorem lawful_sample : sample.Lawful := lawful_ofTable (by decide)

end Encoder

/-- Besides dots the registered domain has no characters but those of the host. -/
theorem mem_registeredDomain {host : Text} {c : CodePoint} (h : c ∈ registeredDomain host) :
    c = 46 ∨ c ∈ host := by
  unfold registeredDomain at h
  extract_lets labels at h
  split at h
  · cases h
  · rcases mem_joinWith h with h | ⟨p, hp, hc⟩
    · exact .inl (List.mem_singleton.1 h)
    · exact .inr (mem_of_mem_splitOn (List.mem_of_mem_drop hp) c hc).1

end Host
end Detour
