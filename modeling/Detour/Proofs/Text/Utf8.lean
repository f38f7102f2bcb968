import Detour.Proofs.Text.Splitting
import Detour.Text.Utf8

/-!
# Texts and octets

Writing a text takes each of its characters for itself, so octets are split where their text is.
Reading with escapes loses nothing: what is read is written back as the same octets. The texts that
come from reading can be taken apart and put together again at any character but an escape.

## Main statements

* `Utf8.encodeEscaping_eq_ok` — which texts are written, and how.
* `Utf8.encodeEscaping_decodeEscaping` — octets that are read are written back.
* `Utf8.Readable.split`, `Utf8.Readable.join` — texts that come from reading.
* `Utf8.encode_of_scalar`, `Utf8.decode_eq_ok` — strict writing and reading.
-/
namespace Detour.Utf8

open Text

/-! ## Writing -/

/-- The octets of a single character. -/
def charOctets (c : CodePoint) : Octets :=
  if isEscape c then [UInt8.ofNat (c - 0xDC00)] else encodeChar c

/-- The octets of the characters of a text, one after the other. -/
def octets (t : Text) : Octets := t.flatMap charOctets

/-- All surrogates among the characters are escapes. -/
def Encodable (t : Text) : Prop := ∀ c ∈ t, isSurrogate c = true → isEscape c = true

instance (t : Text) : Decidable (Encodable t) := inferInstanceAs (Decidable (∀ c ∈ t, _ → _))

/-- The characters are code points of Unicode. -/
def IsUnicode (t : Text) : Prop := ∀ c ∈ t, c < 0x110000

instance (t : Text) : Decidable (IsUnicode t) := inferInstanceAs (Decidable (∀ c ∈ t, _))

@[simp] theorem octets_nil : octets [] = [] := rfl

@[simp] theorem octets_cons (c : CodePoint) (t : Text) :
    octets (c :: t) = charOctets c ++ octets t := rfl

@[simp] theorem octets_append (a b : Text) : octets (a ++ b) = octets a ++ octets b :=
  List.flatMap_append

theorem isSurrogate_iff {c : Nat} : isSurrogate c = true ↔ 0xD800 ≤ c ∧ c ≤ 0xDFFF := by
  simp [isSurrogate]

theorem isEscape_iff {c : Nat} : isEscape c = true ↔ 0xDC80 ≤ c ∧ c ≤ 0xDCFF := by
  simp [isEscape]

theorem isSurrogate_of_isEscape {c : CodePoint} (h : isEscape c = true) : isSurrogate c = true := by
  rw [isEscape_iff] at h
  rw [isSurrogate_iff]
  omega

/-- The characters are written one by one, unless one of them is a surrogate but no escape. -/
theorem encodeFrom_eq_ok {t : Text} {position : Nat} {o : Octets} :
    encodeFrom true position t = .ok o ↔ Encodable t ∧ o = octets t := by
  induction t generalizing position o with
  | nil =>
    simp only [encodeFrom, Except.ok.injEq, Encodable, octets_nil]
    exact ⟨fun h => ⟨fun c hc => absurd hc List.not_mem_nil, h.symm⟩, fun h => h.2.symm⟩
  | cons c r ih =>
    have tail (f : Octets → Octets) :
        (encodeFrom true (position + 1) r).map f = .ok o ↔ Encodable r ∧ o = f (octets r) := by
      cases hr : encodeFrom true (position + 1) r with
      | error e =>
        have wrong : ¬ Encodable r := fun hr' => by
          rw [ih.2 ⟨hr', rfl⟩] at hr
          cases hr
        simp [Except.map, wrong]
      | ok o' =>
        obtain ⟨encodable, rfl⟩ := ih.1 hr
        simp [Except.map, encodable, eq_comm]
    have split : Encodable (c :: r) ↔ (isSurrogate c = true → isEscape c = true) ∧ Encodable r := by
      simp [Encodable]
    rw [encodeFrom, split]
    by_cases surrogate : isSurrogate c = true
    · by_cases escape : isEscape c = true
      · simp [surrogate, escape, tail, charOctets]
      · simp [surrogate, escape]
    · have escape : ¬ isEscape c = true := fun h => surrogate (isSurrogate_of_isEscape h)
      simp [surrogate, escape, tail, charOctets]

theorem encodeEscaping_eq_ok {t : Text} {o : Octets} :
    encodeEscaping t = .ok o ↔ Encodable t ∧ o = octets t := encodeFrom_eq_ok

/-- An octet that goes on with a character. -/
def trailing (n : Nat) : UInt8 := UInt8.ofNat (0x80 + n % 64)

/-- A character takes one to four octets. -/
theorem encodeChar_cases (c : Nat) :
    (c < 0x80 ∧ encodeChar c = [UInt8.ofNat c]) ∨
    (0x80 ≤ c ∧ c < 0x800 ∧ encodeChar c = [UInt8.ofNat (0xC0 + c / 64), trailing c]) ∨
    (0x800 ≤ c ∧ c < 0x10000 ∧
      encodeChar c = [UInt8.ofNat (0xE0 + c / 4096), trailing (c / 64), trailing c]) ∨
    (0x10000 ≤ c ∧ encodeChar c =
      [UInt8.ofNat (0xF0 + c / 262144), trailing (c / 4096), trailing (c / 64), trailing c]) := by
  rcases Nat.lt_or_ge c 0x80 with h | h₁
  · exact .inl ⟨h, if_pos h⟩
  have n₁ : ¬ c < 0x80 := by omega
  rcases Nat.lt_or_ge c 0x800 with h | h₂
  · exact .inr (.inl ⟨h₁, h, by simp only [encodeChar, n₁, h, if_false, if_true, trailing]⟩)
  have n₂ : ¬ c < 0x800 := by omega
  rcases Nat.lt_or_ge c 0x10000 with h | h₃
  · exact .inr (.inr (.inl
      ⟨h₂, h, by simp only [encodeChar, n₁, n₂, h, if_false, if_true, trailing]⟩))
  have n₃ : ¬ c < 0x10000 := by omega
  exact .inr (.inr (.inr ⟨h₃, by simp only [encodeChar, n₁, n₂, n₃, if_false, trailing]⟩))

theorem charOctets_of_not_isEscape {c : CodePoint} (h : ¬ isEscape c = true) :
    charOctets c = encodeChar c := if_neg h

theorem charOctets_ascii {c : Nat} (h : c < 0x80) : charOctets c = [UInt8.ofNat c] := by
  rw [charOctets_of_not_isEscape (by rw [isEscape_iff]; omega)]
  exact if_pos h

theorem toNat_ofNat {n : Nat} (h : n < 256) : (UInt8.ofNat n).toNat = n := by
  rw [UInt8.toNat_ofNat', Nat.mod_eq_of_lt h]

theorem toNat_trailing (n : Nat) : (trailing n).toNat = 0x80 + n % 64 := toNat_ofNat (by omega)

/-- A character beyond ASCII is written with octets beyond ASCII. -/
theorem charOctets_high {c : Nat} (low : 0x80 ≤ c) (high : c < 0x110000) :
    ∀ b ∈ charOctets c, 0x80 ≤ b.toNat := by
  have tail (n : Nat) : 0x80 ≤ (trailing n).toNat := by
    rw [toNat_trailing]
    omega
  have lead {n : Nat} (h : 0x80 ≤ n) (hn : n < 256) : 0x80 ≤ (UInt8.ofNat n).toNat := by
    rwa [toNat_ofNat hn]
  unfold charOctets
  split
  · next escape =>
    rw [isEscape_iff] at escape
    simp only [List.mem_singleton, forall_eq]
    exact lead (by omega) (by omega)
  · rcases encodeChar_cases c with ⟨h, -⟩ | ⟨-, h, e⟩ | ⟨-, h, e⟩ | ⟨-, e⟩
    · omega
    · simp only [e, List.forall_mem_cons, tail, List.not_mem_nil, false_imp_iff, implies_true,
        and_true]
      exact lead (by omega) (by omega)
    · simp only [e, List.forall_mem_cons, tail, List.not_mem_nil, false_imp_iff, implies_true,
        and_true]
      exact lead (by omega) (by omega)
    · simp only [e, List.forall_mem_cons, tail, List.not_mem_nil, false_imp_iff, implies_true,
        and_true]
      exact lead (by omega) (by omega)

/-- An octet of ASCII is written for its own character alone. -/
theorem eq_of_mem_charOctets {c s : Nat} (high : c < 0x110000) (ascii : s < 0x80)
    (h : UInt8.ofNat s ∈ charOctets c) : c = s := by
  by_cases hc : c < 0x80
  · rw [charOctets_ascii hc, List.mem_singleton] at h
    have := congrArg UInt8.toNat h
    simp only [UInt8.toNat_ofNat'] at this
    omega
  · have := charOctets_high (by omega) high _ h
    simp only [UInt8.toNat_ofNat'] at this
    omega

theorem mem_octets_ascii {t : Text} {s : Nat} (unicode : IsUnicode t) (ascii : s < 0x80) :
    UInt8.ofNat s ∈ octets t ↔ s ∈ t := by
  constructor
  · intro h
    obtain ⟨c, hc, h⟩ := List.mem_flatMap.1 h
    exact eq_of_mem_charOctets (unicode c hc) ascii h ▸ hc
  · intro h
    refine List.mem_flatMap.2 ⟨s, h, ?_⟩
    rw [charOctets_ascii ascii]
    exact List.mem_singleton_self _

theorem charOctets_ne_nil (c : CodePoint) : charOctets c ≠ [] := by
  unfold charOctets
  split
  · exact List.cons_ne_nil _ _
  · rcases encodeChar_cases c with ⟨-, e⟩ | ⟨-, -, e⟩ | ⟨-, -, e⟩ | ⟨-, e⟩ <;> simp [e]

theorem octets_eq_nil {t : Text} : octets t = [] ↔ t = [] := by
  cases t with
  | nil => simp
  | cons c r => simp [charOctets_ne_nil]

/-- What stands before the first separator stays in the first piece. -/
theorem splitOn_append_of_not_mem {s : UInt8} {x : Octets} (h : s ∉ x) (y : Octets) :
    List.splitOn s (x ++ y) = (List.splitOn s y).modifyHead (x ++ ·) := by
  induction x with
  | nil =>
    rw [List.nil_append]
    exact (congrFun List.modifyHead_id _).symm
  | cons b x ih =>
    have hb : ¬ b = s := by
      rintro rfl
      exact h List.mem_cons_self
    rw [List.cons_append, List.splitOn_cons_eq_if_modifyHead, if_neg (by simpa using hb),
      ih fun hx => h (List.mem_cons_of_mem _ hx), List.modifyHead_modifyHead]
    rfl

/-- Octets are split at a sign of ASCII where their text is. -/
theorem splitOn_octets {t : Text} {s : Nat} (unicode : IsUnicode t) (ascii : s < 0x80) :
    List.splitOn (UInt8.ofNat s) (octets t) = (List.splitOn s t).map octets := by
  induction t with
  | nil => rfl
  | cons c r ih =>
    have ih := ih fun d hd => unicode d (List.mem_cons_of_mem _ hd)
    obtain ⟨p, ps, hp⟩ := List.exists_cons_of_ne_nil (List.splitOn_ne_nil s r)
    rw [List.splitOn_cons_eq_if_modifyHead]
    by_cases hc : c = s
    · subst hc
      rw [octets_cons, charOctets_ascii ascii, List.singleton_append,
        List.splitOn_cons_eq_if_modifyHead]
      simpa using ih
    · have absent : UInt8.ofNat s ∉ charOctets c := fun h =>
        hc (eq_of_mem_charOctets (unicode c List.mem_cons_self) ascii h)
      rw [octets_cons, splitOn_append_of_not_mem absent, if_neg (by simpa using hc), ih, hp]
      rfl

/-! ## Reading a single character -/

/-- The characters with octets of their own: all of Unicode but the surrogates. -/
def IsScalar (c : Nat) : Prop := c < 0x110000 ∧ ¬ (0xD800 ≤ c ∧ c ≤ 0xDFFF)

instance (c : Nat) : Decidable (IsScalar c) := inferInstanceAs (Decidable (_ ∧ _))

theorem isScalar_of_ascii {c : Nat} (h : c < 0x80) : IsScalar c := ⟨by omega, by omega⟩

theorem IsScalar.not_isEscape {c : CodePoint} (h : IsScalar c) : ¬ isEscape c = true := by
  rw [isEscape_iff]
  unfold IsScalar at h
  omega

theorem isContinuation_iff {b : UInt8} :
    isContinuation b = true ↔ 0x80 ≤ b.toNat ∧ b.toNat ≤ 0xBF := by
  simp [isContinuation, UInt8.le_iff_toNat_le]

/-- The second octet of a character goes on with it; after some first octets not all that go on are
second ones. -/
theorem isSecond_iff {a b : UInt8} :
    isSecond a b = true ↔ (0x80 ≤ b.toNat ∧ b.toNat ≤ 0xBF) ∧
      (a.toNat = 0xE0 → 0xA0 ≤ b.toNat) ∧ (a.toNat = 0xED → b.toNat ≤ 0x9F) ∧
      (a.toNat = 0xF0 → 0x90 ≤ b.toNat) ∧ (a.toNat = 0xF4 → b.toNat ≤ 0x8F) := by
  simp only [isSecond, secondBounds, ← UInt8.toNat_inj]
  split_ifs <;> simp only [Bool.and_eq_true, decide_eq_true_eq, UInt8.le_iff_toNat_le] <;>
    simp at * <;> omega

theorem isContinuation_of_isSecond {a b : UInt8} (h : isSecond a b = true) :
    isContinuation b = true :=
  isContinuation_iff.2 (isSecond_iff.1 h).1

section Front

variable {a b c d : UInt8} {rest : Octets}

theorem front_one (h : a.toNat < 0x80) : front a rest = .character a.toNat 0 :=
  if_pos (UInt8.lt_iff_toNat_lt.2 h)

theorem not_lead_ascii (h : 0xC2 ≤ a.toNat) : ¬ a < 0x80 := by
  rw [UInt8.lt_iff_toNat_lt]
  simp
  omega

theorem lead_allowed (low : 0xC2 ≤ a.toNat) (high : a.toNat ≤ 0xF4) :
    ¬ (decide (a < 0xC2) || decide (0xF4 < a)) = true := by
  simp [UInt8.lt_iff_toNat_lt]
  omega

theorem front_two (low : 0xC2 ≤ a.toNat) (high : a.toNat < 0xE0) (hb : isSecond a b = true) :
    front a (b :: rest) = .character (a.toNat % 32 * 64 + b.toNat % 64) 1 := by
  have two : a < 0xE0 := UInt8.lt_iff_toNat_lt.2 high
  rw [front.eq_def, if_neg (not_lead_ascii low), if_neg (lead_allowed low (by omega))]
  simp [hb, two, low6]

theorem front_three (low : 0xE0 ≤ a.toNat) (high : a.toNat < 0xF0) (hb : isSecond a b = true)
    (hc : isContinuation c = true) :
    front a (b :: c :: rest) =
      .character ((a.toNat % 16 * 64 + b.toNat % 64) * 64 + c.toNat % 64) 2 := by
  have two : ¬ a < 0xE0 := by rw [UInt8.lt_iff_toNat_lt]; simpa using low
  have three : a < 0xF0 := UInt8.lt_iff_toNat_lt.2 high
  rw [front.eq_def, if_neg (not_lead_ascii (by omega)), if_neg (lead_allowed (by omega) (by omega))]
  simp [hb, hc, two, three, low6]

theorem front_four (low : 0xF0 ≤ a.toNat) (high : a.toNat ≤ 0xF4) (hb : isSecond a b = true)
    (hc : isContinuation c = true) (hd : isContinuation d = true) :
    front a (b :: c :: d :: rest) = .character
      (((a.toNat % 8 * 64 + b.toNat % 64) * 64 + c.toNat % 64) * 64 + d.toNat % 64) 3 := by
  have two : ¬ a < 0xE0 := by rw [UInt8.lt_iff_toNat_lt]; simp; omega
  have three : ¬ a < 0xF0 := by rw [UInt8.lt_iff_toNat_lt]; simpa using low
  rw [front.eq_def, if_neg (not_lead_ascii (by omega)), if_neg (lead_allowed (by omega) high)]
  simp [hb, hc, hd, two, three, low6]

end Front

/-- At the front stands a character of one to four octets, or a fault. -/
theorem front_cases (a : UInt8) (rest : Octets) :
    a.toNat < 0x80 ∨
    (∃ b r, rest = b :: r ∧ 0xC2 ≤ a.toNat ∧ a.toNat < 0xE0 ∧ isSecond a b = true) ∨
    (∃ b c r, rest = b :: c :: r ∧ 0xE0 ≤ a.toNat ∧ a.toNat < 0xF0 ∧ isSecond a b = true ∧
      isContinuation c = true) ∨
    (∃ b c d r, rest = b :: c :: d :: r ∧ 0xF0 ≤ a.toNat ∧ a.toNat ≤ 0xF4 ∧
      isSecond a b = true ∧ isContinuation c = true ∧ isContinuation d = true) ∨
    (0x80 ≤ a.toNat ∧ ∃ cause more, front a rest = .fault cause more ∧ more ≤ rest.length ∧
      ∀ b ∈ rest.take more, isContinuation b = true) := by
  unfold front
  split
  · next ascii =>
    exact .inl (UInt8.lt_iff_toNat_lt.1 ascii)
  next high =>
  have high : 0x80 ≤ a.toNat := by
    rw [UInt8.lt_iff_toNat_lt] at high
    simpa using high
  have fault (cause : DecodeCause) (more : Nat) {f : Front} (hf : f = .fault cause more)
      (long : more ≤ rest.length) (tail : ∀ b ∈ rest.take more, isContinuation b = true) :
      0x80 ≤ a.toNat ∧ ∃ cause more, f = .fault cause more ∧ more ≤ rest.length ∧
        ∀ b ∈ rest.take more, isContinuation b = true := ⟨high, cause, more, hf, long, tail⟩
  split
  · exact .inr (.inr (.inr (.inr (fault _ _ rfl (Nat.zero_le _) (by simp)))))
  next lead =>
  simp only [Bool.or_eq_true, decide_eq_true_eq, UInt8.lt_iff_toNat_lt, not_or, not_lt] at lead
  obtain ⟨low, most⟩ := lead
  have low : 0xC2 ≤ a.toNat := low
  have most : a.toNat ≤ 0xF4 := most
  match rest with
  | [] => exact .inr (.inr (.inr (.inr (fault _ _ rfl (Nat.zero_le _) (by simp)))))
  | b :: rest =>
  dsimp only
  by_cases hb : isSecond a b = true
  swap
  · simp only [hb, Bool.not_false, if_true]
    exact .inr (.inr (.inr (.inr (fault _ _ rfl (Nat.zero_le _) (by simp)))))
  have second := isContinuation_of_isSecond hb
  simp only [hb, Bool.not_true, Bool.false_eq_true, if_false]
  split
  · next two =>
    exact .inr (.inl ⟨b, rest, rfl, low, UInt8.lt_iff_toNat_lt.1 two, hb⟩)
  next two =>
  have two : 0xE0 ≤ a.toNat := by
    rw [UInt8.lt_iff_toNat_lt] at two
    simpa using two
  match rest with
  | [] => exact .inr (.inr (.inr (.inr (fault _ _ rfl (by simp) (by simpa using second)))))
  | c :: rest =>
  dsimp only
  by_cases hc : isContinuation c = true
  swap
  · simp only [hc, Bool.not_false, if_true]
    exact .inr (.inr (.inr (.inr (fault _ _ rfl (by simp) (by simpa using second)))))
  simp only [hc, Bool.not_true, Bool.false_eq_true, if_false]
  split
  · next three =>
    exact .inr (.inr (.inl ⟨b, c, rest, rfl, two, UInt8.lt_iff_toNat_lt.1 three, hb, hc⟩))
  next three =>
  have three : 0xF0 ≤ a.toNat := by
    rw [UInt8.lt_iff_toNat_lt] at three
    simpa using three
  match rest with
  | [] => exact .inr (.inr (.inr (.inr (fault _ _ rfl (by simp) (by simp [second, hc])))))
  | d :: rest =>
  dsimp only
  by_cases hd : isContinuation d = true
  · exact .inr (.inr (.inr (.inl ⟨b, c, d, rest, rfl, three, most, hb, hc, hd⟩)))
  · simp only [hd, Bool.not_false, if_true]
    exact .inr (.inr (.inr (.inr (fault _ _ rfl (by simp) (by simp [second, hc])))))

/-- A character at the front has its own octets there. -/
theorem front_character {a : UInt8} {rest : Octets} {c : CodePoint} {more : Nat}
    (h : front a rest = .character c more) :
    IsScalar c ∧ ∃ tail r, rest = tail ++ r ∧ tail.length = more ∧ encodeChar c = a :: tail := by
  have small := UInt8.toNat_lt a
  have octet {b : UInt8} {n : Nat} (h : n = b.toNat) : UInt8.ofNat n = b := by
    rw [h, UInt8.ofNat_toNat]
  rcases front_cases a rest with one | ⟨b, r, rfl, low, high, hb⟩ |
    ⟨b, d, r, rfl, low, high, hb, hd⟩ | ⟨b, d, e, r, rfl, low, high, hb, hd, he⟩ |
    ⟨-, cause, more', hf, -⟩
  · rw [front_one one] at h
    obtain ⟨rfl, rfl⟩ := Front.character.inj h
    refine ⟨⟨by omega, by omega⟩, [], rest, rfl, rfl, ?_⟩
    exact (if_pos one).trans (by rw [octet rfl])
  · rw [front_two low high hb] at h
    obtain ⟨rfl, rfl⟩ := Front.character.inj h
    rw [isSecond_iff] at hb
    refine ⟨⟨by omega, by omega⟩, [b], r, rfl, rfl, ?_⟩
    rcases encodeChar_cases (a.toNat % 32 * 64 + b.toNat % 64) with
      ⟨h, -⟩ | ⟨-, -, e⟩ | ⟨h, -⟩ | ⟨h, -⟩ <;> try omega
    rw [e, trailing, octet (b := a) (by omega), octet (b := b) (by omega)]
  · rw [front_three low high hb hd] at h
    obtain ⟨rfl, rfl⟩ := Front.character.inj h
    rw [isSecond_iff] at hb
    rw [isContinuation_iff] at hd
    refine ⟨⟨by omega, by omega⟩, [b, d], r, rfl, rfl, ?_⟩
    rcases encodeChar_cases ((a.toNat % 16 * 64 + b.toNat % 64) * 64 + d.toNat % 64) with
      ⟨h, -⟩ | ⟨-, h, -⟩ | ⟨-, -, e⟩ | ⟨h, -⟩ <;> try omega
    rw [e, trailing, trailing, octet (b := a) (by omega), octet (b := b) (by omega),
      octet (b := d) (by omega)]
  · rw [front_four low high hb hd he] at h
    obtain ⟨rfl, rfl⟩ := Front.character.inj h
    rw [isSecond_iff] at hb
    rw [isContinuation_iff] at hd he
    refine ⟨⟨by omega, by omega⟩, [b, d, e], r, rfl, rfl, ?_⟩
    rcases encodeChar_cases
        (((a.toNat % 8 * 64 + b.toNat % 64) * 64 + d.toNat % 64) * 64 + e.toNat % 64) with
      ⟨h, -⟩ | ⟨-, h, -⟩ | ⟨-, h, -⟩ | ⟨-, e'⟩ <;> try omega
    rw [e', trailing, trailing, trailing, octet (b := a) (by omega), octet (b := b) (by omega),
      octet (b := d) (by omega), octet (b := e) (by omega)]
  · rw [hf] at h
    cases h

/-- The octets of a character are read as that character, whatever follows. -/
theorem front_encodeChar {c : Nat} (h : IsScalar c) :
    ∃ a tail, encodeChar c = a :: tail ∧ isContinuation a = false ∧
      ∀ o, front a (tail ++ o) = .character c tail.length := by
  obtain ⟨most, surrogate⟩ := h
  have lead {n : Nat} (low : 0xC0 ≤ n) (high : n < 256) :
      isContinuation (UInt8.ofNat n) = false := by
    rw [← Bool.not_eq_true, isContinuation_iff, toNat_ofNat high]
    omega
  have goes (n : Nat) : isContinuation (trailing n) = true := by
    rw [isContinuation_iff, toNat_trailing]
    omega
  rcases encodeChar_cases c with ⟨h, e⟩ | ⟨low, high, e⟩ | ⟨low, high, e⟩ | ⟨low, e⟩
  · have first := toNat_ofNat (n := c) (by omega)
    refine ⟨_, _, e, ?_, fun o => ?_⟩
    · rw [← Bool.not_eq_true, isContinuation_iff, first]
      omega
    · rw [front_one (by omega), first]
      rfl
  · have first := toNat_ofNat (n := 0xC0 + c / 64) (by omega)
    refine ⟨_, _, e, lead (by omega) (by omega), fun o => ?_⟩
    have second : isSecond (UInt8.ofNat (0xC0 + c / 64)) (trailing c) = true := by
      rw [isSecond_iff, first, toNat_trailing]
      omega
    have value : (0xC0 + c / 64) % 32 * 64 + (0x80 + c % 64) % 64 = c := by omega
    rw [List.singleton_append, front_two (by omega) (by omega) second, first, toNat_trailing, value]
    rfl
  · have first := toNat_ofNat (n := 0xE0 + c / 4096) (by omega)
    refine ⟨_, _, e, lead (by omega) (by omega), fun o => ?_⟩
    have second : isSecond (UInt8.ofNat (0xE0 + c / 4096)) (trailing (c / 64)) = true := by
      rw [isSecond_iff, first, toNat_trailing]
      omega
    have value : ((0xE0 + c / 4096) % 16 * 64 + (0x80 + c / 64 % 64) % 64) * 64 +
        (0x80 + c % 64) % 64 = c := by omega
    rw [List.cons_append, List.singleton_append,
      front_three (by omega) (by omega) second (goes _), first, toNat_trailing, toNat_trailing,
      value]
    rfl
  · have first := toNat_ofNat (n := 0xF0 + c / 262144) (by omega)
    refine ⟨_, _, e, lead (by omega) (by omega), fun o => ?_⟩
    have second : isSecond (UInt8.ofNat (0xF0 + c / 262144)) (trailing (c / 4096)) = true := by
      rw [isSecond_iff, first, toNat_trailing]
      omega
    have value : (((0xF0 + c / 262144) % 8 * 64 + (0x80 + c / 4096 % 64) % 64) * 64 +
        (0x80 + c / 64 % 64) % 64) * 64 + (0x80 + c % 64) % 64 = c := by omega
    rw [List.cons_append, List.cons_append, List.singleton_append,
      front_four (by omega) (by omega) second (goes _) (goes _), first, toNat_trailing,
      toNat_trailing, toNat_trailing, value]
    rfl

/-- A fault at the front takes octets beyond ASCII. -/
theorem front_fault {a : UInt8} {rest : Octets} {cause : DecodeCause} {more : Nat}
    (h : front a rest = .fault cause more) :
    more ≤ rest.length ∧ ∀ b ∈ a :: rest.take more, 0x80 ≤ b.toNat := by
  rcases front_cases a rest with one | ⟨b, r, rfl, low, high, hb⟩ |
    ⟨b, d, r, rfl, low, high, hb, hd⟩ | ⟨b, d, e, r, rfl, low, high, hb, hd, he⟩ |
    ⟨high, cause', more', hf, long, tail⟩
  · rw [front_one one] at h
    cases h
  · rw [front_two low high hb] at h
    cases h
  · rw [front_three low high hb hd] at h
    cases h
  · rw [front_four low high hb hd he] at h
    cases h
  · rw [hf] at h
    obtain ⟨-, rfl⟩ := Front.fault.inj h
    refine ⟨long, fun b hb => ?_⟩
    rcases List.mem_cons.1 hb with rfl | hb
    · exact high
    · exact (isContinuation_iff.1 (tail b hb)).1

/-- Octets that begin no character leave a fault before them as it is. -/
theorem front_append_fault {a : UInt8} {x y : Octets} {cause : DecodeCause} {more : Nat}
    (stop : ∀ b ∈ y.head?, isContinuation b = false) (h : front a x = .fault cause more) :
    ∃ cause, front a (x ++ y) = .fault cause more := by
  cases y with
  | nil => exact ⟨cause, by rwa [List.append_nil]⟩
  | cons e y =>
    have notNext : isContinuation e = false := stop e rfl
    have notSecond : isSecond a e = false := by
      rw [← Bool.not_eq_true]
      intro he
      rw [isContinuation_of_isSecond he] at notNext
      cases notNext
    revert h
    rcases x with _ | ⟨b, _ | ⟨c, _ | ⟨d, x⟩⟩⟩ <;>
      simp only [front, List.nil_append, List.cons_append, notNext, notSecond, Bool.not_false,
        if_true] <;>
      split_ifs <;> simp

/-! ## Reading with escapes -/

theorem decodeEscaping_nil : decodeEscaping [] = [] := by
  rw [decodeEscaping, decodeWith]

theorem decodeEscaping_of_character {a : UInt8} {rest : Octets} {c : CodePoint} {more : Nat}
    (h : front a rest = .character c more) :
    decodeEscaping (a :: rest) = c :: decodeEscaping (rest.drop more) := by
  rw [decodeEscaping, decodeWith, h]
  rfl

theorem decodeEscaping_of_fault {a : UInt8} {rest : Octets} {cause : DecodeCause} {more : Nat}
    (h : front a rest = .fault cause more) :
    decodeEscaping (a :: rest) =
      (a :: rest.take more).map escapeOctet ++ decodeEscaping (rest.drop more) := by
  rw [decodeEscaping, decodeWith, h]
  rfl

theorem decodeEscaping_encodeChar_append {c : CodePoint} (h : IsScalar c) (o : Octets) :
    decodeEscaping (encodeChar c ++ o) = c :: decodeEscaping o := by
  obtain ⟨a, tail, e, -, hf⟩ := front_encodeChar h
  rw [e, List.cons_append, decodeEscaping_of_character (hf o), List.drop_left]

/-- Reading can stop and start again before an octet that does not go on with a character. -/
theorem decodeEscaping_append {x y : Octets} (stop : ∀ b ∈ y.head?, isContinuation b = false) :
    decodeEscaping (x ++ y) = decodeEscaping x ++ decodeEscaping y := by
  induction hn : x.length using Nat.strong_induction_on generalizing x with
  | _ n ih =>
  cases x with
  | nil => rw [List.nil_append, decodeEscaping_nil, List.nil_append]
  | cons a r =>
    have next (more : Nat) : decodeEscaping (r.drop more ++ y) =
        decodeEscaping (r.drop more) ++ decodeEscaping y := by
      refine ih _ ?_ rfl
      rw [← hn, List.length_drop, List.length_cons]
      omega
    cases hf : front a r with
    | character c more =>
      obtain ⟨scalar, tail, s, rfl, rfl, e⟩ := front_character hf
      obtain ⟨a', tail', e', -, hf'⟩ := front_encodeChar scalar
      obtain ⟨rfl, rfl⟩ := List.cons.inj (e.symm.trans e')
      rw [decodeEscaping_of_character hf, List.drop_left, List.cons_append, List.append_assoc,
        decodeEscaping_of_character (hf' (s ++ y)), List.drop_left]
      have := next tail.length
      rw [List.drop_left] at this
      rw [this, List.cons_append]
    | fault cause more =>
      obtain ⟨long, -⟩ := front_fault hf
      obtain ⟨cause', hf'⟩ := front_append_fault stop hf
      rw [decodeEscaping_of_fault hf, List.cons_append, decodeEscaping_of_fault hf',
        List.take_append_of_le_length long, List.drop_append_of_le_length long, next,
        List.append_assoc]

theorem charOctets_escapeOctet {b : UInt8} (h : 0x80 ≤ b.toNat) :
    isEscape (escapeOctet b) = true ∧ charOctets (escapeOctet b) = [b] := by
  have small := UInt8.toNat_lt b
  have escape : isEscape (0xDC00 + b.toNat) = true := by
    rw [isEscape_iff]
    omega
  refine ⟨escape, ?_⟩
  rw [charOctets, escapeOctet, if_pos escape, Nat.add_sub_cancel_left, UInt8.ofNat_toNat]

theorem octets_map_escapeOctet {o : Octets} (h : ∀ b ∈ o, 0x80 ≤ b.toNat) :
    Encodable (o.map escapeOctet) ∧ octets (o.map escapeOctet) = o := by
  induction o with
  | nil => exact ⟨by simp [Encodable], rfl⟩
  | cons b r ih =>
    obtain ⟨escape, one⟩ := charOctets_escapeOctet (h b List.mem_cons_self)
    obtain ⟨encodable, all⟩ := ih fun d hd => h d (List.mem_cons_of_mem _ hd)
    refine ⟨?_, ?_⟩
    · intro c hc
      rcases List.mem_cons.1 hc with rfl | hc
      · exact fun _ => escape
      · exact encodable c hc
    · rw [List.map_cons, octets_cons, one, all, List.singleton_append]

/-- What is read is made of scalars and escapes, and is written as it was. -/
theorem octets_decodeEscaping (o : Octets) :
    Encodable (decodeEscaping o) ∧ octets (decodeEscaping o) = o := by
  induction hn : o.length using Nat.strong_induction_on generalizing o with
  | _ n ih =>
  cases o with
  | nil => exact decodeEscaping_nil ▸ ⟨by simp [Encodable], rfl⟩
  | cons a r =>
    have next (more : Nat) := ih (r.drop more).length (by
      rw [← hn, List.length_drop, List.length_cons]
      omega) (r.drop more) rfl
    cases hf : front a r with
    | character c more =>
      obtain ⟨scalar, tail, s, rfl, rfl, e⟩ := front_character hf
      have next := next tail.length
      rw [List.drop_left] at next
      rw [decodeEscaping_of_character hf, List.drop_left]
      refine ⟨?_, ?_⟩
      · intro d hd
        rcases List.mem_cons.1 hd with rfl | hd
        · intro surrogate
          rw [isSurrogate_iff] at surrogate
          exact absurd surrogate scalar.2
        · exact next.1 d hd
      · rw [octets_cons, next.2, charOctets_of_not_isEscape scalar.not_isEscape, e,
          List.cons_append]
    | fault cause more =>
      obtain ⟨long, high⟩ := front_fault hf
      obtain ⟨encodable, same⟩ := octets_map_escapeOctet high
      rw [decodeEscaping_of_fault hf]
      refine ⟨?_, ?_⟩
      · intro d hd
        rcases List.mem_append.1 hd with hd | hd
        · exact encodable d hd
        · exact (next more).1 d hd
      · rw [octets_append, same, (next more).2, List.cons_append, List.take_append_drop]

theorem encodeEscaping_decodeEscaping (o : Octets) :
    encodeEscaping (decodeEscaping o) = .ok o := by
  rw [encodeEscaping_eq_ok]
  exact ⟨(octets_decodeEscaping o).1, (octets_decodeEscaping o).2.symm⟩

/-! ## Texts that come from reading -/

/-- The texts that some octets are read as. -/
def Readable (t : Text) : Prop := ∃ o, decodeEscaping o = t

theorem Readable.encodable {t : Text} (h : Readable t) : Encodable t := by
  obtain ⟨o, rfl⟩ := h
  exact (octets_decodeEscaping o).1

theorem Readable.decode_octets {t : Text} (h : Readable t) : decodeEscaping (octets t) = t := by
  obtain ⟨o, rfl⟩ := h
  rw [(octets_decodeEscaping o).2]

theorem readable_nil : Readable [] := ⟨[], decodeEscaping_nil⟩

theorem head_encodeChar {c : CodePoint} (h : IsScalar c) (o : Octets) :
    ∀ b ∈ (encodeChar c ++ o).head?, isContinuation b = false := by
  obtain ⟨a, tail, e, stop, -⟩ := front_encodeChar h
  simp [e, stop]

/-- Octets whose text has a character that is no escape are cut there. -/
theorem exists_octets_of_decodeEscaping {o : Octets} {a b : Text} {c : CodePoint}
    (h : decodeEscaping o = a ++ c :: b) (hc : ¬ isEscape c = true) :
    IsScalar c ∧ ∃ x y, o = x ++ (encodeChar c ++ y) ∧ decodeEscaping y = b := by
  induction hn : o.length using Nat.strong_induction_on generalizing o a with
  | _ n ih =>
  cases o with
  | nil =>
    rw [decodeEscaping_nil] at h
    simp at h
  | cons e r =>
    -- what is left of the octets is cut, and what was passed is put before
    have next (more : Nat) (a' : Text) (h : decodeEscaping (r.drop more) = a' ++ c :: b) :
        IsScalar c ∧ ∃ x y, e :: r = x ++ (encodeChar c ++ y) ∧ decodeEscaping y = b := by
      obtain ⟨scalar, x, y, hr, hy⟩ := ih _ (by
        rw [← hn, List.length_drop, List.length_cons]
        omega) h rfl
      refine ⟨scalar, e :: r.take more ++ x, y, ?_, hy⟩
      rw [List.append_assoc, ← hr, List.cons_append, List.take_append_drop]
    cases hf : front e r with
    | character d more =>
      rw [decodeEscaping_of_character hf] at h
      cases a with
      | nil =>
        obtain ⟨rfl, hb⟩ := List.cons.inj h
        obtain ⟨scalar, tail, s, rfl, rfl, enc⟩ := front_character hf
        rw [List.drop_left] at hb
        exact ⟨scalar, [], s, by rw [enc]; rfl, hb⟩
      | cons f a => exact next more a (List.cons.inj h).2
    | fault cause more =>
      obtain ⟨-, high⟩ := front_fault hf
      rw [decodeEscaping_of_fault hf] at h
      rcases List.append_eq_append_iff.1 h with ⟨a', -, ha⟩ | ⟨s, hs, ha⟩
      · exact next more a' ha
      · cases s with
        | nil => exact next more [] ha.symm
        | cons f s =>
          obtain ⟨rfl, -⟩ := List.cons.inj ha
          have mem : c ∈ (e :: r.take more).map escapeOctet := by rw [hs]; simp
          obtain ⟨octet, ho, rfl⟩ := List.mem_map.1 mem
          exact absurd (charOctets_escapeOctet (high octet ho)).1 hc

/-- A text that comes from reading is taken apart at a character that is no escape. -/
theorem Readable.split {a b : Text} {c : CodePoint} (h : Readable (a ++ c :: b))
    (hc : ¬ isEscape c = true) : Readable a ∧ Readable b ∧ IsScalar c := by
  obtain ⟨o, ho⟩ := h
  obtain ⟨scalar, x, y, rfl, hy⟩ := exists_octets_of_decodeEscaping ho hc
  rw [decodeEscaping_append (head_encodeChar scalar y), decodeEscaping_encodeChar_append scalar,
    hy] at ho
  exact ⟨⟨x, List.append_cancel_right ho⟩, ⟨y, hy⟩, scalar⟩

/-- What is read are characters of Unicode. -/
theorem Readable.isUnicode {t : Text} (h : Readable t) : IsUnicode t := by
  intro c hc
  by_cases escape : isEscape c = true
  · rw [isEscape_iff] at escape
    exact lt_of_le_of_lt escape.2 (by decide)
  · obtain ⟨a, b, rfl⟩ := List.append_of_mem hc
    exact (h.split escape).2.2.1

/-- Texts that come from reading are put together with a scalar between them. -/
theorem Readable.join {a b : Text} {c : CodePoint} (ha : Readable a) (hb : Readable b)
    (hc : IsScalar c) : Readable (a ++ c :: b) := by
  obtain ⟨x, rfl⟩ := ha
  obtain ⟨y, rfl⟩ := hb
  refine ⟨x ++ (encodeChar c ++ y), ?_⟩
  rw [decodeEscaping_append (head_encodeChar hc y), decodeEscaping_encodeChar_append hc]

theorem readable_of_ascii {t : Text} (h : ∀ c ∈ t, c < 0x80) : Readable t := by
  induction t with
  | nil => exact readable_nil
  | cons c r ih =>
    have scalar := isScalar_of_ascii (h c List.mem_cons_self)
    exact readable_nil.join (ih fun d hd => h d (List.mem_cons_of_mem _ hd)) scalar

/-! ## Strict writing and reading -/

theorem IsScalar.not_isSurrogate {c : CodePoint} (h : IsScalar c) : ¬ isSurrogate c = true := by
  rw [isSurrogate_iff]
  exact h.2

theorem encodeFrom_of_scalar {t : Text} (h : ∀ c ∈ t, IsScalar c) (position : Nat) :
    encodeFrom false position t = .ok (octets t) := by
  induction t generalizing position with
  | nil => rfl
  | cons c r ih =>
    have scalar := h c List.mem_cons_self
    rw [encodeFrom, if_neg scalar.not_isSurrogate, ih fun d hd => h d (List.mem_cons_of_mem _ hd),
      octets_cons, charOctets_of_not_isEscape scalar.not_isEscape]
    rfl

theorem encode_of_scalar {t : Text} (h : ∀ c ∈ t, IsScalar c) : encode t = .ok (octets t) :=
  encodeFrom_of_scalar h 0

theorem decodeFrom_octets {t : Text} (h : ∀ c ∈ t, IsScalar c) (position : Nat) :
    decodeFrom position (octets t) = .ok t := by
  induction t generalizing position with
  | nil => rw [octets_nil, decodeFrom]
  | cons c r ih =>
    have scalar := h c List.mem_cons_self
    obtain ⟨a, tail, e, -, hf⟩ := front_encodeChar scalar
    rw [octets_cons, charOctets_of_not_isEscape scalar.not_isEscape, e, List.cons_append,
      decodeFrom, hf]
    dsimp only
    rw [List.drop_left, ih fun d hd => h d (List.mem_cons_of_mem _ hd)]
    rfl

/-- What is read strictly is a text of scalars whose octets are there. -/
theorem decodeFrom_eq_ok {o : Octets} {t : Text} {position : Nat}
    (h : decodeFrom position o = .ok t) : (∀ c ∈ t, IsScalar c) ∧ o = octets t := by
  induction hn : o.length using Nat.strong_induction_on generalizing o t position with
  | _ n ih =>
  cases o with
  | nil =>
    rw [decodeFrom] at h
    obtain rfl := Except.ok.inj h
    exact ⟨fun c hc => absurd hc List.not_mem_nil, rfl⟩
  | cons a r =>
    rw [decodeFrom] at h
    cases hf : front a r with
    | fault cause more => simp [hf] at h
    | character c more =>
      obtain ⟨scalar, tail, s, rfl, rfl, e⟩ := front_character hf
      simp only [hf, List.drop_left] at h
      cases rest : decodeFrom (position + tail.length + 1) s with
      | error f => simp [rest, Except.map] at h
      | ok u =>
        obtain rfl : c :: u = t := by simpa [rest, Except.map] using h
        obtain ⟨scalars, rfl⟩ := ih _ (by
          rw [← hn, List.length_cons, List.length_append]
          omega) rest rfl
        refine ⟨List.forall_mem_cons.2 ⟨scalar, scalars⟩, ?_⟩
        rw [octets_cons, charOctets_of_not_isEscape scalar.not_isEscape, e, List.cons_append]

/-- A text of scalars is written, and what is written is read as that text. -/
theorem decode_octets {t : Text} (h : ∀ c ∈ t, IsScalar c) : decode (octets t) = .ok t :=
  decodeFrom_octets h 0

/-- Octets are read strictly if they are those of a text of scalars. -/
theorem decode_eq_ok {o : Octets} {t : Text} :
    decode o = .ok t ↔ (∀ c ∈ t, IsScalar c) ∧ o = octets t := by
  refine ⟨decodeFrom_eq_ok, ?_⟩
  rintro ⟨scalar, rfl⟩
  exact decode_octets scalar

end Detour.Utf8
