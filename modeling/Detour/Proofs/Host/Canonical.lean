import Detour.Proofs.Host.Addresses
import Detour.Proofs.Host.Encoders
import Detour.Proofs.Text.LowerCase

/-!
# The canonical form of a host

A host that was read is an address, or is made of small letters, digits, hyphens, underscores and
dots, for the names of an encoder are made of such characters. Reading it again gives the same host
unless it ends in a dot or a blank: dots are taken off before a name is encoded, and encoding turns
the full stops of other scripts into dots; a scope may end in a blank that dots stood behind.

## Main statements

* `Host.normalize_eq_ok` — the ways to a canonical host.
* `Host.normalize_chars`, `Host.normalize_ne_nil` — what canonical hosts consist of.
* `Host.normalize_normalized` — which of them are read as themselves.
-/
namespace Detour.Host

open Text

/-- The text of a host without its outer blanks and the dots after it. -/
def trimmed (host : Text) : Text := dropEnd (· == 46) (strip host)

/-- Neither dot nor blank stands at the end. -/
def IsTrimmed (host : Text) : Prop := ∀ c ∈ host.getLast?, c ≠ 46 ∧ isBlank c = false

instance (host : Text) : Decidable (IsTrimmed host) :=
  inferInstanceAs (Decidable (∀ c ∈ host.getLast?, c ≠ 46 ∧ isBlank c = false))

/-- What becomes of a trimmed host in lower case. -/
inductive Canonical (encode : Encoder) (host : Text) : Text → Prop
  | address (literal : isAddress host = true) : Canonical encode host host
  | name (literal : isAddress host = false) (allowed : ∀ c ∈ host, isForbidden c = false)
      (colon : 58 ∉ host) (ascii : isAscii host = true) : Canonical encode host host
  | encoded {name : Text} (literal : isAddress host = false)
      (allowed : ∀ c ∈ host, isForbidden c = false) (colon : 58 ∉ host)
      (ascii : isAscii host = false) (encoding : encode host = .ok name) :
      Canonical encode host name

variable {encode : Encoder} {raw host : Text}

theorem normalize_eq_ok :
    normalize encode raw = .ok host ↔
      lower (trimmed raw) ≠ [] ∧ Canonical encode (lower (trimmed raw)) host := by
  unfold normalize
  rw [show dropEnd (· == 46) (strip raw) = trimmed raw from rfl]
  generalize lower (trimmed raw) = lowered
  dsimp only
  constructor
  · intro h
    split at h
    · cases h
    next present =>
    refine ⟨by simpa using present, ?_⟩
    split at h
    · next literal =>
      cases h
      exact .address literal
    next literal =>
    split at h
    · cases h
    next allowed =>
    simp only [Bool.or_eq_true, List.any_eq_true, List.contains_iff_mem, not_or, not_exists,
      not_and, Bool.not_eq_true] at allowed literal
    split at h
    · next ascii =>
      cases h
      exact .name literal allowed.1 allowed.2 ascii
    · next ascii =>
      exact .encoded literal allowed.1 allowed.2 (by simpa using ascii) (ok_of_mapError h)
  · rintro ⟨present, canonical⟩
    have present : lowered.isEmpty = false := by simpa using present
    cases canonical with
    | address literal => simp [present, literal]
    | name literal allowed colon ascii =>
      have allowed : host.any isForbidden = false := by simpa using allowed
      simp [present, literal, allowed, colon, ascii]
    | encoded literal allowed colon ascii encoding =>
      have allowed : lowered.any isForbidden = false := by simpa using allowed
      simp [present, literal, allowed, colon, ascii, encoding, Except.mapError]

/-- With an encoder that only refuses, a host is canonical or has a fault of its own. -/
theorem normalize_ne_failed (refuses : encode.OnlyRefuses) (raw : Text) (failure : Failure) :
    normalize encode raw ≠ .error (.failed failure) := by
  have encoding (host : Text) :
      (encode host).mapError (Refusal.ofEncoding host) ≠ .error (.failed failure) := by
    cases encoded : encode host with
    | ok name => nofun
    | error fault =>
      cases fault with
      | refused reason => nofun
      | failed other => exact absurd encoded (refuses host other)
  unfold normalize
  dsimp only
  split
  · nofun
  split
  · nofun
  split
  · nofun
  split
  · nofun
  · exact encoding _

/-! ## Characters -/

/-- Small letters, digits, the hyphen, the underscore and the dot. -/
def IsHostChar (c : Nat) : Prop :=
  (97 ≤ c ∧ c ≤ 122) ∨ (48 ≤ c ∧ c ≤ 57) ∨ c = 45 ∨ c = 46 ∨ c = 95

instance (c : Nat) : Decidable (IsHostChar c) := inferInstanceAs (Decidable (_ ∨ _))

theorem isHostChar_of_not_isForbidden :
    ∀ c < 128, isForbidden c = false → c ≠ 58 → ¬ (65 ≤ c ∧ c ≤ 90) → IsHostChar c := by
  decide +kernel

theorem isForbidden_of_isHostChar : ∀ c < 128, IsHostChar c → isForbidden c = false := by
  decide +kernel

theorem IsHostChar.lt {c : Nat} (h : IsHostChar c) : c < 128 := by
  unfold IsHostChar at h
  omega

theorem IsHostChar.visible {c : Nat} (h : IsHostChar c) : 32 < c ∧ c < 127 := by
  unfold IsHostChar at h
  omega

theorem IsHostChar.isSmall {c : Nat} (h : IsHostChar c) : IsSmall c := by
  unfold IsHostChar at h
  exact isSmall_ascii (by omega) (by omega)

theorem isHostChar_of_isNameChar {c : Nat} (h : IsNameChar c ∨ c = 46) : IsHostChar c := by
  unfold IsNameChar at h
  unfold IsHostChar
  omega

theorem not_capital_of_isSmall {c : Nat} (h : IsSmall c) : ¬ (65 ≤ c ∧ c ≤ 90) := by
  intro capital
  have same : [c + 32] = [c] := by
    rw [← h.1, lowerChar_ascii (by omega), asciiLower, if_pos capital]
  have : c + 32 = c := List.head_eq_of_cons_eq same
  omega

theorem isAscii_of_isHostChar {t : Text} (h : ∀ c ∈ t, IsHostChar c) : isAscii t = true :=
  List.all_eq_true.2 fun c hc => decide_eq_true (h c hc).lt

/-- A name holds no other character than those of a host, nor does a name that was encoded. -/
theorem Canonical.chars (lawful : encode.Lawful) {lowered : Text}
    (h : Canonical encode lowered host) (small : ∀ c ∈ lowered, IsSmall c) :
    isAddress host = true ∨ ∀ c ∈ host, IsHostChar c := by
  cases h with
  | address literal => exact .inl literal
  | name literal allowed colon ascii =>
    refine .inr fun c hc => ?_
    have low : c < 128 := by simpa using List.all_eq_true.1 ascii c hc
    refine isHostChar_of_not_isForbidden c low (allowed c hc) ?_
      (not_capital_of_isSmall (small c hc))
    rintro rfl
    exact colon hc
  | encoded literal allowed colon ascii encoding =>
    exact .inr fun c hc => isHostChar_of_isNameChar (lawful.chars encoding c hc)

/-- A host is an address or made of the characters of host names. -/
theorem normalize_chars (lawful : encode.Lawful) (h : normalize encode raw = .ok host) :
    isAddress host = true ∨ ∀ c ∈ host, IsHostChar c :=
  (normalize_eq_ok.1 h).2.chars lawful fun _ => small_of_mem_lower

/-- A canonical host stays as it is in lower case. -/
theorem normalize_small (lawful : encode.Lawful) (h : normalize encode raw = .ok host) :
    ∀ c ∈ host, IsSmall c := by
  obtain ⟨-, canonical⟩ := normalize_eq_ok.1 h
  cases canonical with
  | address => exact fun c => small_of_mem_lower
  | name => exact fun c => small_of_mem_lower
  | encoded _ _ _ _ encoding =>
    exact fun c hc => (isHostChar_of_isNameChar (lawful.chars encoding c hc)).isSmall

/-! ## What a canonical host begins with -/

theorem normalize_ne_nil (lawful : encode.Lawful) (h : normalize encode raw = .ok host) :
    host ≠ [] := by
  obtain ⟨present, canonical⟩ := normalize_eq_ok.1 h
  cases canonical with
  | address => exact present
  | name => exact present
  | encoded _ _ _ _ encoding => exact lawful.present encoding

theorem front_isHostChar {c : Nat} (h : IsHostChar c) : isBlank c = false ∧ c ≠ 91 := by
  unfold IsHostChar at h
  exact ⟨isBlank_ascii (by omega), by omega⟩

theorem front_isAddressChar {c : Nat} (h : IsAddressChar c) : isBlank c = false ∧ c ≠ 91 := by
  unfold IsAddressChar at h
  exact ⟨isBlank_ascii (by omega), by omega⟩

/-- A host begins with no blank and with no bracket. -/
theorem normalize_head (lawful : encode.Lawful) (h : normalize encode raw = .ok host) :
    ∃ (c : Nat) (r : Text), host = c :: r ∧ isBlank c = false ∧ c ≠ 91 := by
  rcases normalize_chars lawful h with literal | chars
  · obtain ⟨c, r, rfl, char⟩ := isAddressChar_head literal
    exact ⟨c, r, rfl, front_isAddressChar char⟩
  · cases host with
    | nil => exact absurd rfl (normalize_ne_nil lawful h)
    | cons c r =>
      have char := chars c List.mem_cons_self
      exact ⟨c, r, rfl, front_isHostChar char⟩

/-! ## Reading a canonical host again -/

theorem trimmed_eq_self_iff {t : Text} (front : ∀ c ∈ t.head?, isBlank c = false) :
    trimmed t = t ↔ IsTrimmed t := by
  constructor
  · intro h
    have stripped : strip t = t := by
      refine (strip_sublist t).antisymm ?_
      calc t = trimmed t := h.symm
        List.Sublist _ (strip t) := dropEnd_sublist _ _
    rw [trimmed, stripped, dropEnd_eq_self_iff] at h
    exact fun c hc => ⟨by simpa using h c hc, (strip_eq_self_iff.1 stripped).2 c hc⟩
  · intro h
    have stripped : strip t = t := strip_eq_self_iff.2 ⟨front, fun c hc => (h c hc).2⟩
    rw [trimmed, stripped, dropEnd_eq_self_iff]
    exact fun c hc => by simpa using (h c hc).1

theorem mem_trimmed {t : Text} {c : CodePoint} (blank : isBlank c = false) (dot : c ≠ 46) :
    c ∈ trimmed t ↔ c ∈ t := by
  rw [trimmed, mem_dropEnd (by simpa using dot), mem_strip blank]

theorem trimmed_subset (t : Text) : trimmed t ⊆ t :=
  ((dropEnd_sublist _ _).trans (strip_sublist t)).subset

/-- A host that was read loses its outer blanks and last dots when it is read again, or is refused
for want of anything else. -/
theorem normalize_again (lawful : encode.Lawful) {again : Text}
    (h : normalize encode raw = .ok host) (second : normalize encode host = .ok again) :
    again = trimmed host := by
  obtain ⟨-, canonical⟩ := normalize_eq_ok.1 second
  have small : lower (trimmed host) = trimmed host :=
    lower_of_small fun c hc => normalize_small lawful h c (trimmed_subset host hc)
  rw [small] at canonical
  cases canonical with
  | address => rfl
  | name => rfl
  | encoded _ _ colon ascii _ =>
    -- only a scope has characters beyond ASCII, and colons stand before it
    exfalso
    have name : (∀ c ∈ host, IsHostChar c) → False := fun chars => by
      rw [isAscii_of_isHostChar fun c hc => chars c (trimmed_subset host hc)] at ascii
      cases ascii
    rw [mem_trimmed (by decide) (by decide)] at colon
    rcases normalize_chars lawful h with literal | chars
    · have dotted := isDottedAddress_of_not_mem literal colon
      refine name fun c hc => ?_
      rcases isDottedAddress_chars dotted c hc with rfl | digit
      · decide
      · exact .inr (.inl (isAsciiDigit_iff.1 digit))
    · exact name chars

/-- A host that was read is read as itself unless a dot or a blank ends it. -/
theorem normalize_normalized (lawful : encode.Lawful) (h : normalize encode raw = .ok host) :
    normalize encode host = .ok host ↔ IsTrimmed host := by
  obtain ⟨first, rest, hfirst, blank, -⟩ := normalize_head lawful h
  rw [← trimmed_eq_self_iff (by simp [hfirst, blank])]
  constructor
  · exact fun second => (normalize_again lawful h second).symm
  · intro whole
    have small : lower host = host := lower_of_small (normalize_small lawful h)
    rw [normalize_eq_ok, whole, small]
    refine ⟨normalize_ne_nil lawful h, ?_⟩
    by_cases literal : isAddress host = true
    · exact .address literal
    · have chars := (normalize_chars lawful h).resolve_left literal
      refine .name (by simpa using literal)
        (fun c hc => isForbidden_of_isHostChar c (chars c hc).lt (chars c hc))
        (fun colon => absurd (chars 58 colon) (by decide)) (isAscii_of_isHostChar chars)

theorem normalize_strip (encode : Encoder) (raw : Text) :
    normalize encode (strip raw) = normalize encode raw := by
  rw [normalize, strip_strip, normalize]

/-- Signs of a canonical host come from the text it was read from. -/
theorem mem_of_mem_normalize (lawful : encode.Lawful) (h : normalize encode raw = .ok host)
    {c : Nat} (hc : c ∈ host) (ascii : c < 128) (sign : ¬ IsHostChar c) : c ∈ raw := by
  obtain ⟨-, canonical⟩ := normalize_eq_ok.1 h
  have lowered (hc : c ∈ lower (trimmed raw)) : c ∈ raw :=
    trimmed_subset raw (mem_of_mem_lower hc ascii fun letter => sign (.inl letter))
  cases canonical with
  | address => exact lowered hc
  | name => exact lowered hc
  | encoded _ _ _ _ encoding =>
    exact absurd (isHostChar_of_isNameChar (lawful.chars encoding c hc)) sign

/-- The host of a text in ASCII ends in no dot and no blank, unless it has a scope. -/
theorem isTrimmed_of_ascii (lawful : encode.Lawful) (h : normalize encode raw = .ok host)
    (ascii : isAscii raw = true) (scope : 37 ∉ raw) : IsTrimmed host := by
  have ascii : isAscii (trimmed raw) = true :=
    List.all_eq_true.2 fun c hc => List.all_eq_true.1 ascii c (trimmed_subset raw hc)
  have kept : ∀ c ∈ (lower (trimmed raw)).getLast?, c ≠ 46 := by
    rintro _ hc rfl
    rw [lower_ascii ascii, List.getLast?_map, Option.mem_def, Option.map_eq_some_iff] at hc
    obtain ⟨d, hd, dot⟩ := hc
    rcases asciiLower_cases d with letter | same
    · rw [dot] at letter
      exact absurd letter.1 (by decide)
    · rw [same] at dot
      subst dot
      simpa using dropEnd_getLast? (· == 46) (strip raw) 46 hd
  have visible : ∀ c ∈ host, isBlank c = false := by
    rcases normalize_chars lawful h with literal | chars
    · have percent : 37 ∉ host := fun percent =>
        scope (mem_of_mem_normalize lawful h percent (by decide) (by decide))
      exact fun c hc => (front_isAddressChar (isAddressChar_of_not_mem literal percent c hc)).1
    · exact fun c hc => (front_isHostChar (chars c hc)).1
  have last : ∀ c ∈ host.getLast?, c ≠ 46 := by
    obtain ⟨-, canonical⟩ := normalize_eq_ok.1 h
    cases canonical with
    | address => exact kept
    | name => exact kept
    | encoded _ _ _ wide _ =>
      rw [isAscii_lower ascii] at wide
      cases wide
  exact fun c hc => ⟨last c hc, visible c (List.mem_of_getLast? hc)⟩

end Detour.Host
