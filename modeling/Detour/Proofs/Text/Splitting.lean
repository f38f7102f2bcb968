import Detour.Text.Basic
import Mathlib.Data.List.DropRight

/-!
# Splitting and joining texts

Texts are split as lists are, and a piece holds no separator. Once its outer blanks are taken off,
a text stays as it is.

## Main statements

* `Text.splitOn_eq` — the splitting of texts is that of lists.
* `Text.strip_strip`, `Text.strip_of_not_blank` — texts without outer blanks.
-/
namespace Detour.Text

theorem splitOn_eq (sep : CodePoint) (t : Text) : splitOn sep t = List.splitOn sep t := by
  induction t with
  | nil => rfl
  | cons c r ih =>
    rw [splitOn, List.splitOn_cons_eq_if_modifyHead, ih]
    by_cases hc : c = sep
    · simp [hc]
    · obtain ⟨p, ps, hs⟩ := List.exists_cons_of_ne_nil (List.splitOn_ne_nil sep r)
      simp [hc, hs]

/-- Characters of a piece are characters of the text, and no separators. -/
theorem mem_of_mem_splitOn {sep : CodePoint} {t p : Text} (h : p ∈ splitOn sep t) :
    ∀ c ∈ p, c ∈ t ∧ c ≠ sep := by
  rw [splitOn_eq] at h
  induction t generalizing p with
  | nil =>
    rw [List.splitOn_nil, List.mem_singleton] at h
    simp [h]
  | cons d r ih =>
    rw [List.splitOn_cons_eq_if_modifyHead] at h
    obtain ⟨q, qs, hs⟩ := List.exists_cons_of_ne_nil (List.splitOn_ne_nil sep r)
    rw [hs] at h ih
    have kept {p : Text} (hp : p ∈ q :: qs) (c : CodePoint) (hc : c ∈ p) : c ∈ d :: r ∧ c ≠ sep :=
      ⟨List.mem_cons_of_mem _ (ih hp c hc).1, (ih hp c hc).2⟩
    by_cases hd : d = sep
    · rw [if_pos (beq_iff_eq.2 hd)] at h
      rcases List.mem_cons.1 h with rfl | h
      · simp
      · exact kept h
    · rw [if_neg (by simpa using hd), List.modifyHead_cons] at h
      rcases List.mem_cons.1 h with rfl | h
      · intro c hc
        rcases List.mem_cons.1 hc with rfl | hc
        · exact ⟨List.mem_cons_self, hd⟩
        · exact kept List.mem_cons_self c hc
      · exact kept (List.mem_cons_of_mem _ h)

/-- A character of a joined text is one of a separator or of a part. -/
theorem mem_joinWith {sep : Text} {parts : List Text} {c : CodePoint}
    (h : c ∈ joinWith sep parts) : c ∈ sep ∨ ∃ p ∈ parts, c ∈ p := by
  induction parts with
  | nil => cases h
  | cons p ps ih =>
    by_cases hps : ps = []
    · subst hps
      exact .inr ⟨p, List.mem_cons_self, by simpa [joinWith] using h⟩
    · rw [joinWith, List.intercalate_cons_of_ne_nil hps, List.mem_append, List.mem_append] at h
      rcases h with (h | h) | h
      · exact .inr ⟨p, List.mem_cons_self, h⟩
      · exact .inl h
      · rcases ih h with hs | ⟨q, hq, hc⟩
        · exact .inl hs
        · exact .inr ⟨q, List.mem_cons_of_mem _ hq, hc⟩

theorem joinWith_ne_nil (sep : Text) {p : Text} (h : p ≠ []) (ps : List Text) :
    joinWith sep (p :: ps) ≠ [] := by
  cases ps <;> simp [joinWith, h]

theorem joinWith_append (sep : Text) {front back : List Text} (hf : front ≠ []) (hb : back ≠ []) :
    joinWith sep (front ++ back) = joinWith sep front ++ sep ++ joinWith sep back := by
  induction front with
  | nil => exact absurd rfl hf
  | cons p ps ih =>
    by_cases hps : ps = []
    · subst hps
      rw [joinWith, List.singleton_append, List.intercalate_cons_of_ne_nil hb]
      simp [joinWith]
    · rw [joinWith, List.cons_append, List.intercalate_cons_of_ne_nil (by simp [hps]), joinWith,
        List.intercalate_cons_of_ne_nil hps]
      simpa [joinWith] using ih hps

theorem joinWith_concat (sep : Text) {parts : List Text} (h : parts ≠ []) (p : Text) :
    joinWith sep (parts ++ [p]) = joinWith sep parts ++ sep ++ p := by
  rw [joinWith_append sep h (by simp)]
  simp [joinWith]

theorem joinWith_splitOn (sep : CodePoint) (t : Text) : joinWith [sep] (splitOn sep t) = t := by
  rw [joinWith, splitOn_eq, List.intercalate_splitOn]

/-- Pieces that end with the separator each, where no piece holds it. -/
theorem splitOn_terminated {sep : CodePoint} {pieces : List Text} (h : ∀ p ∈ pieces, sep ∉ p) :
    splitOn sep (pieces.flatMap (· ++ [sep])) = pieces ++ [[]] := by
  rw [splitOn_eq]
  induction pieces with
  | nil => rfl
  | cons p r ih =>
    rw [List.flatMap_cons, List.append_assoc, List.singleton_append,
      List.splitOn_append_cons_self_of_not_mem (h p List.mem_cons_self),
      ih fun q hq => h q (List.mem_cons_of_mem _ hq)]
    rfl

theorem length_splitOn (sep : CodePoint) (t : Text) :
    (splitOn sep t).length = t.count sep + 1 := by
  rw [splitOn_eq]
  induction t with
  | nil => rfl
  | cons c r ih =>
    rw [List.splitOn_cons_eq_if_modifyHead, List.count_cons]
    split <;> simp [ih]

/-! ## Cutting at a character -/

theorem cut?_eq_some {c : CodePoint} {t front back : Text} :
    cut? c t = some (front, back) ↔ t = front ++ c :: back ∧ c ∉ front := by
  induction t generalizing front back with
  | nil => simp [cut?]
  | cons d r ih =>
    by_cases hd : d = c
    · cases front with
      | nil => simp [cut?, hd]
      | cons e f => simp +contextual [cut?, hd]
    · cases front with
      | nil => simp [cut?, hd]
      | cons e f =>
        simp only [cut?, if_neg hd, Option.map_eq_some_iff, Prod.exists, Prod.mk.injEq, ih,
          List.cons_append, List.cons.injEq, List.mem_cons, not_or]
        constructor
        · rintro ⟨a, b, ⟨rfl, front⟩, ⟨rfl, rfl⟩, rfl⟩
          exact ⟨⟨rfl, rfl⟩, Ne.symm hd, front⟩
        · rintro ⟨⟨rfl, rfl⟩, -, front⟩
          exact ⟨f, back, ⟨rfl, front⟩, ⟨rfl, rfl⟩, rfl⟩

/-! ## Outer blanks -/

/-- Blank characters are among the signs up to the space, or beyond ASCII up to U+3000. -/
theorem isBlank_bounds {c : Nat} (h : isBlank c = true) : c ≤ 32 ∨ (0x85 ≤ c ∧ c ≤ 0x3000) := by
  simp only [isBlank, Bool.or_eq_true, Bool.and_eq_true, decide_eq_true_eq, beq_iff_eq] at h
  rcases h with (((((((((h | h) | rfl) | rfl) | rfl) | h) | rfl) | rfl) | rfl) | rfl) | rfl
  · exact .inl (le_trans h.2 (by decide))
  · exact .inl (le_trans h.2 (by decide))
  any_goals decide
  exact .inr ⟨le_trans (by decide) h.1, le_trans h.2 (by decide)⟩

theorem isBlank_ascii {c : Nat} (h : 32 < c ∧ c < 127) : isBlank c = false := by
  rw [← Bool.not_eq_true]
  intro blank
  have bounds := isBlank_bounds blank
  omega

theorem strip_eq (t : Text) : strip t = List.rdropWhile isBlank (List.dropWhile isBlank t) := rfl

theorem dropEnd_sublist (p : CodePoint → Bool) (t : Text) : (dropEnd p t).Sublist t :=
  (List.rdropWhile_prefix p t).sublist

theorem strip_sublist (t : Text) : (strip t).Sublist t :=
  (dropEnd_sublist isBlank _).trans (List.dropWhile_suffix isBlank).sublist

theorem strip_subset (t : Text) : strip t ⊆ t := (strip_sublist t).subset

theorem count_dropWhile {p : CodePoint → Bool} {c : CodePoint} (kept : p c = false) (t : Text) :
    (t.dropWhile p).count c = t.count c := by
  induction t with
  | nil => rfl
  | cons d r ih =>
    rw [List.dropWhile_cons]
    split
    · next dropped =>
      have other : d ≠ c := by
        rintro rfl
        rw [dropped] at kept
        cases kept
      rw [ih, List.count_cons_of_ne other]
    · rfl

theorem count_dropEnd {p : CodePoint → Bool} {c : CodePoint} (kept : p c = false) (t : Text) :
    (dropEnd p t).count c = t.count c := by
  rw [dropEnd, List.count_reverse, count_dropWhile kept, List.count_reverse]

theorem count_strip {c : CodePoint} (kept : isBlank c = false) (t : Text) :
    (strip t).count c = t.count c := by
  rw [strip, count_dropEnd kept, count_dropWhile kept]

theorem mem_dropEnd {p : CodePoint → Bool} {c : CodePoint} (kept : p c = false) {t : Text} :
    c ∈ dropEnd p t ↔ c ∈ t := by
  rw [← List.count_pos_iff, count_dropEnd kept, List.count_pos_iff]

theorem mem_strip {c : CodePoint} (kept : isBlank c = false) {t : Text} : c ∈ strip t ↔ c ∈ t := by
  rw [← List.count_pos_iff, count_strip kept, List.count_pos_iff]

/-- A first character that is not blank stays the first one. -/
theorem strip_cons {c : CodePoint} (kept : isBlank c = false) (r : Text) :
    ∃ r', strip (c :: r) = c :: r' := by
  have front : strip (c :: r) <+: c :: r := by
    rw [strip_eq, List.dropWhile_cons_of_neg (by simp [kept])]
    exact List.rdropWhile_prefix _ _
  rcases List.prefix_cons_iff.1 front with none | ⟨r', split, -⟩
  · have present := (mem_strip kept).2 (List.mem_cons_self (a := c) (l := r))
    rw [none] at present
    cases present
  · exact ⟨r', split⟩

theorem dropEnd_eq_self_iff {p : CodePoint → Bool} {t : Text} :
    dropEnd p t = t ↔ ∀ c ∈ t.getLast?, p c = false := by
  rw [show dropEnd p t = List.rdropWhile p t from rfl, List.rdropWhile_eq_self_iff]
  rcases List.eq_nil_or_concat t with rfl | ⟨r, c, rfl⟩ <;> simp

theorem dropEnd_getLast? (p : CodePoint → Bool) (t : Text) :
    ∀ c ∈ (dropEnd p t).getLast?, p c = false :=
  dropEnd_eq_self_iff.1 (List.rdropWhile_idempotent p t)

theorem strip_eq_self_iff {t : Text} :
    strip t = t ↔ (∀ c ∈ t.head?, isBlank c = false) ∧ ∀ c ∈ t.getLast?, isBlank c = false := by
  constructor
  · intro h
    have whole : List.dropWhile isBlank t = t := by
      refine (List.dropWhile_suffix isBlank).eq_of_length_le ?_
      have shorter := (List.rdropWhile_prefix isBlank (List.dropWhile isBlank t)).length_le
      rwa [← strip_eq, h] at shorter
    refine ⟨?_, dropEnd_eq_self_iff.1 (by rwa [strip, whole] at h)⟩
    cases t with
    | nil => simp
    | cons c r => simpa using List.dropWhile_eq_self_iff.1 whole
  · rintro ⟨front, last⟩
    have whole : List.dropWhile isBlank t = t := by
      cases t with
      | nil => rfl
      | cons c r => simp [front c rfl]
    rw [strip, whole, dropEnd_eq_self_iff.2 last]

theorem strip_of_not_blank {t : Text} (h : ∀ c ∈ t, isBlank c = false) : strip t = t :=
  strip_eq_self_iff.2
    ⟨fun c hc => h c (List.mem_of_head? hc), fun c hc => h c (List.mem_of_getLast? hc)⟩

theorem strip_strip (t : Text) : strip (strip t) = strip t := by
  rw [strip_eq t]
  have kept := List.rdropWhile_prefix isBlank (List.dropWhile isBlank t)
  have front : List.dropWhile isBlank (List.rdropWhile isBlank (List.dropWhile isBlank t)) =
      List.rdropWhile isBlank (List.dropWhile isBlank t) := by
    rw [List.dropWhile_eq_self_iff]
    intro hs
    -- what was stripped begins like the text without its first blanks
    rw [kept.getElem hs]
    exact List.dropWhile_get_zero_not isBlank t (lt_of_lt_of_le hs kept.length_le)
  rw [strip_eq, front, List.rdropWhile_idempotent]

end Detour.Text
