import Detour.International.Encoder
import Detour.Proofs.Host.Encoders

/-!
# The encoder that the program is run with

The encoder for a selection of characters is lawful: its names have labels of small letters, digits
and hyphens, for labels are checked or encoded; and it fails in no other way than by refusing.

## Main statements

* `International.toAscii_chars`, `International.toAscii_ne_nil` — what an encoded name consists of.
* `International.encoder_lawful`, `International.encoder_onlyRefuses`.
-/
namespace Detour

open Text Host

/-- What all results of a function have in common holds of every member of a list of results. -/
theorem forall_mem_of_mapM {ε α β : Type} {f : α → Except ε β} {P : β → Prop}
    (result : ∀ a b, f a = .ok b → P b) {as : List α} {bs : List β} (h : as.mapM f = .ok bs) :
    ∀ b ∈ bs, P b := by
  induction as generalizing bs with
  | nil =>
    cases h
    simp
  | cons a r ih =>
    rw [List.mapM_cons] at h
    obtain ⟨b, hb, h⟩ := ok_of_bind h
    obtain ⟨cs, hcs, h⟩ := ok_of_bind h
    cases h
    intro d hd
    rcases List.mem_cons.1 hd with rfl | hd
    · exact result a _ hb
    · exact ih hcs d hd

namespace Punycode

theorem digitChar_isNameChar {d : Nat} (h : d < 36) : IsNameChar (digitChar d) := by
  unfold digitChar IsNameChar
  split <;> omega

theorem writeDelta_chars (bias k q : Nat) : ∀ c ∈ writeDelta bias k q, IsNameChar c := by
  have low := one_le_threshold bias k
  have high := threshold_le bias k
  induction k, q using writeDelta.induct bias with
  | case1 k q t small =>
    intro c hc
    rw [writeDelta, if_pos small, List.mem_singleton] at hc
    subst hc
    exact digitChar_isNameChar (by omega)
  | case2 k q t large ih =>
    intro c hc
    rw [writeDelta, if_neg large] at hc
    rcases List.mem_cons.1 hc with rfl | hc
    · have digit := Nat.mod_lt (q - threshold bias k) (y := 36 - threshold bias k) (by omega)
      exact digitChar_isNameChar (by omega)
    · exact ih (one_le_threshold _ _) (threshold_le _ _) c hc

theorem writeDeltas_chars (first : Bool) (bias count : Nat) (deltas : List Nat) :
    ∀ c ∈ writeDeltas first bias count deltas, IsNameChar c := by
  induction deltas generalizing first bias count with
  | nil => simp [writeDeltas]
  | cons d ds ih =>
    intro c hc
    rcases List.mem_append.1 hc with hc | hc
    · exact writeDelta_chars bias 36 d c hc
    · exact ih _ _ _ c hc

/-- Besides its ASCII characters an encoded label holds nothing but characters of names. -/
theorem encode_chars (t : Text) : ∀ c ∈ encode t, (c ∈ t ∧ c < 128) ∨ IsNameChar c := by
  intro c hc
  rcases List.mem_append.1 hc with hc | hc
  · split at hc
    · cases hc
    · rcases List.mem_append.1 hc with hc | hc
      · rw [List.mem_filter, decide_eq_true_iff] at hc
        exact .inl hc
      · rw [List.mem_singleton] at hc
        exact .inr (.inr (.inr hc))
  · exact .inr (writeDeltas_chars _ _ _ _ c hc)

end Punycode

namespace International

open Punycode

/-- A character of ASCII that may stand in a label whatever its neighbours are, or may not. -/
theorem labelClass_ascii {c : Nat} (h : c < 128) :
    (IsNameChar c ∧ (property c).labelClass = .valid) ∨ (property c).labelClass = .other := by
  simp only [property, if_pos h, asciiProperty, IsNameChar]
  split
  · next hc =>
    simp only [Bool.or_eq_true, decide_eq_true_eq, beq_iff_eq] at hc
    rcases hc with (small | digit) | hyphen
    · exact .inl ⟨.inl small, rfl⟩
    · exact .inl ⟨.inr (.inl digit), rfl⟩
    · exact .inl ⟨.inr (.inr hyphen), rfl⟩
  · exact .inr rfl

theorem checkCharacters_ascii {label before rest : Text}
    (h : checkCharacters label before rest = .ok ()) : ∀ c ∈ rest, c < 128 → IsNameChar c := by
  induction rest generalizing before with
  | nil => simp
  | cons d r ih =>
    unfold checkCharacters at h
    have next (h : checkCharacters label (d :: before) r = .ok ()) (hd : d < 128 → IsNameChar d) :
        ∀ c ∈ d :: r, c < 128 → IsNameChar c := by
      intro c hc
      rcases List.mem_cons.1 hc with rfl | hc
      · exact hd
      · exact ih h c hc
    split at h
    · next valid =>
      refine next h fun hd => ?_
      rcases labelClass_ascii hd with name | other
      · exact name.1
      · rw [valid] at other
        cases other
    · next joiner =>
      split at h
      · exact next h fun hd => by rcases labelClass_ascii hd with ⟨-, c⟩ | c <;> simp [c] at joiner
      · cases h
    · next contextual =>
      split at h
      · exact next h fun hd => by
          rcases labelClass_ascii hd with ⟨-, c⟩ | c <;> simp [c] at contextual
      · cases h
    · cases h

/-- The ASCII characters of a label that passes are characters of names. -/
theorem check_ascii {label : Text} (h : check label = .ok ()) :
    ∀ c ∈ label, c < 128 → IsNameChar c := by
  have passed := ok_of_mapError h
  cases label with
  | nil => simp
  | cons first r =>
    unfold checkLabel at passed
    repeat' split at passed
    all_goals try cases passed
    obtain ⟨u, checked, -⟩ := ok_of_bind passed
    exact checkCharacters_ascii checked

theorem checkEncoded_chars {content : Text} (h : checkEncoded content = .ok ()) :
    ∀ c ∈ content, IsNameChar c := by
  unfold checkEncoded at h
  split at h
  · cases h
  split at h
  · cases h
  split at h
  · cases h
  next label _ =>
  split at h
  · cases h
  next canonical =>
  have canonical : Punycode.encode label = content := by simpa using canonical
  intro c hc
  rcases encode_chars label c (canonical ▸ hc) with ⟨hl, ascii⟩ | name
  · exact check_ascii h c hl ascii
  · exact name

theorem encodedMark_chars : ∀ c ∈ encodedMark, IsNameChar c := by
  unfold IsNameChar
  decide

theorem checkAscii_chars {label : Text} (ascii : isAscii label = true)
    (h : checkAscii label = .ok ()) : ∀ c ∈ label, IsNameChar c := by
  unfold checkAscii at h
  intro c hc
  split at h
  · next marked =>
    obtain ⟨rest, rfl⟩ := List.isPrefixOf_iff_prefix.1 marked
    rcases List.mem_append.1 hc with hc | hc
    · exact encodedMark_chars c hc
    · exact checkEncoded_chars h c hc
  · exact check_ascii h c hc (by simpa using List.all_eq_true.1 ascii c hc)

/-- An encoded label holds characters of names only. -/
theorem encodeLabel_chars {label encoded : Text} (h : encodeLabel label = .ok encoded) :
    ∀ c ∈ encoded, IsNameChar c := by
  unfold encodeLabel at h
  split at h
  · cases h
  split at h
  · next ascii =>
    obtain ⟨u, checked, h⟩ := ok_of_bind h
    split at h
    · cases h
    · cases h
      exact checkAscii_chars ascii checked
  · obtain ⟨u, checked, h⟩ := ok_of_bind h
    dsimp only at h
    split at h
    · cases h
    · cases h
      intro c hc
      rcases List.mem_append.1 hc with hc | hc
      · exact encodedMark_chars c hc
      · rcases encode_chars label c hc with ⟨hl, ascii⟩ | name
        · exact check_ascii checked c hl ascii
        · exact name

/-- Besides dots an encoded name holds characters of names only. -/
theorem toAscii_chars {host name : Text} (h : toAscii host = .ok name) :
    ∀ c ∈ name, IsNameChar c ∨ c = 46 := by
  unfold toAscii at h
  split at h
  · cases h
  obtain ⟨mapped, -, h⟩ := ok_of_bind h
  obtain ⟨⟨parts, trailing⟩, -, h⟩ := ok_of_bind h
  obtain ⟨encoded, labels, h⟩ := ok_of_bind h
  have chars := forall_mem_of_mapM (fun _ _ => encodeLabel_chars) labels
  have ended : ∀ p ∈ if trailing then encoded ++ [[]] else encoded, ∀ c ∈ p, IsNameChar c := by
    split
    · simpa [or_imp, forall_and] using chars
    · exact chars
  dsimp only at h
  generalize (if trailing = true then encoded ++ [[]] else encoded) = parts at h ended
  generalize (if trailing = true then 254 else 253) = limit at h
  split at h
  · cases h
  · cases h
    intro c hc
    rcases mem_joinWith hc with hc | ⟨p, hp, hc⟩
    · exact .inr (List.mem_singleton.1 hc)
    · exact .inl (ended p hp c hc)

theorem checkAscii_ne_nil {label : Text} (h : checkAscii label = .ok ()) : label ≠ [] := by
  rintro rfl
  cases h

theorem encodeLabel_ne_nil {label encoded : Text} (h : encodeLabel label = .ok encoded) :
    encoded ≠ [] := by
  unfold encodeLabel at h
  split at h
  · cases h
  split at h
  · obtain ⟨u, checked, h⟩ := ok_of_bind h
    split at h
    · cases h
    · cases h
      exact checkAscii_ne_nil checked
  · obtain ⟨u, checked, h⟩ := ok_of_bind h
    dsimp only at h
    split at h
    · cases h
    · cases h
      simp [encodedMark, ofString]

theorem nameLabels_ne_nil {name : Text} {parts : List Text} {trailing : Bool}
    (h : nameLabels name = .ok (parts, trailing)) : parts ≠ [] := by
  unfold nameLabels at h
  split at h
  · cases h
  extract_lets all at h
  have present : all ≠ [] := splitOn_ne_nil 46 _
  split at h
  · cases h
  next several =>
  split at h
  · next last =>
    obtain ⟨front, split⟩ := List.getLast?_eq_some_iff.1 last
    have front : all.dropLast ≠ [] := by
      rw [split, List.dropLast_concat]
      rintro rfl
      exact several split
    cases h
    exact front
  · obtain ⟨rfl, -⟩ := Prod.mk.inj (Except.ok.inj h)
    exact present

theorem toAscii_ne_nil {host name : Text} (h : toAscii host = .ok name) : name ≠ [] := by
  unfold toAscii at h
  split at h
  · cases h
  obtain ⟨mapped, -, h⟩ := ok_of_bind h
  obtain ⟨⟨parts, trailing⟩, labels, h⟩ := ok_of_bind h
  obtain ⟨encoded, encodes, h⟩ := ok_of_bind h
  cases parts with
  | nil => exact absurd rfl (nameLabels_ne_nil labels)
  | cons label rest =>
    rw [List.mapM_cons] at encodes
    obtain ⟨first, hfirst, encodes⟩ := ok_of_bind encodes
    obtain ⟨others, -, encodes⟩ := ok_of_bind encodes
    cases encodes
    have present := encodeLabel_ne_nil hfirst
    have joins : joinWith [46] (if trailing then first :: others ++ [[]] else first :: others)
        ≠ [] := by
      split <;> exact joinWith_ne_nil _ present _
    dsimp only at h
    generalize joinWith [46] _ = joined at h joins
    generalize (if trailing = true then 254 else 253) = limit at h
    split at h
    · cases h
    · cases h
      exact joins

/-- The laws hold of the encoder that the program is run with. -/
theorem encoder_lawful : encoder.Lawful where
  present h := toAscii_ne_nil (ok_of_mapError h)
  chars h := toAscii_chars (ok_of_mapError h)

theorem encoder_onlyRefuses : encoder.OnlyRefuses := by
  intro host failure h
  unfold encoder at h
  cases encoded : toAscii host <;> simp [encoded, Except.mapError] at h

end International
end Detour
