import Detour.DomainList.Storage
import Detour.Proofs.Text.Utf8

/-!
# Names in files

A name survives in a file if it is a line of its own: not empty, without outer blanks and line ends,
and with octets that are read as this name. All names that are read from a file are like that, also
those with octets that are no UTF-8; and a file that such names are written to gives them back.

## Main statements

* `DomainList.Storable` — the names that survive.
* `DomainList.storable_of_mem_decode` — names from a file.
* `DomainList.decode_encode` — names to a file and back.
-/
namespace Detour.DomainList

open Text Utf8

/-- A name that a line of a file gives back. -/
structure Storable (n : Text) : Prop where
  nonempty : n ≠ []
  stripped : strip n = n
  lineFeed : 10 ∉ n
  carriageReturn : 13 ∉ n
  readable : Readable n

theorem not_isEscape_of_isBlank {c : Nat} (h : isBlank c = true) : ¬ isEscape c = true := by
  have bounds := isBlank_bounds h
  rw [isEscape_iff]
  omega

theorem storable_of_ascii {n : Text} (nonempty : n ≠ []) (h : ∀ c ∈ n, 32 < c ∧ c < 127) :
    Storable n where
  nonempty := nonempty
  stripped := strip_of_not_blank fun c hc => isBlank_ascii (h c hc)
  lineFeed := fun hc => absurd (h 10 hc).1 (by decide)
  carriageReturn := fun hc => absurd (h 13 hc).1 (by decide)
  readable := readable_of_ascii fun c hc => lt_trans (h c hc).2 (by decide)

/-! ## Reading -/

theorem readable_of_mem_splitOn {t p : Text} {s : Nat} (h : Readable t) (hs : ¬ isEscape s = true)
    (hp : p ∈ List.splitOn s t) : Readable p := by
  induction hn : t.length using Nat.strong_induction_on generalizing t with
  | _ n ih =>
  by_cases hm : s ∈ t
  · obtain ⟨a, b, rfl, ha⟩ := List.eq_append_cons_of_mem hm
    obtain ⟨first, rest, -⟩ := h.split hs
    rw [List.splitOn_append_cons_self_of_not_mem ha] at hp
    rcases List.mem_cons.1 hp with rfl | hp
    · exact first
    · exact ih b.length (by simp [← hn]; omega) rest hp rfl
  · rw [List.splitOn_eq_singleton hm, List.mem_singleton] at hp
    exact hp ▸ h

theorem readable_dropWhile {t : Text} (h : Readable t) : Readable (t.dropWhile isBlank) := by
  induction t with
  | nil => exact h
  | cons c r ih =>
    by_cases blank : isBlank c = true
    · rw [List.dropWhile_cons_of_pos blank]
      have split : Readable ([] ++ c :: r) := h
      exact ih (split.split (not_isEscape_of_isBlank blank)).2.1
    · rw [List.dropWhile_cons_of_neg blank]
      exact h

theorem readable_rdropWhile {t : Text} (h : Readable t) : Readable (t.rdropWhile isBlank) := by
  induction t using List.reverseRecOn with
  | nil => exact h
  | append_singleton r c ih =>
    by_cases blank : isBlank c = true
    · rw [List.rdropWhile_concat_pos _ _ _ blank]
      exact ih (h.split (not_isEscape_of_isBlank blank)).1
    · rw [List.rdropWhile_concat_neg _ _ _ blank]
      exact h

theorem readable_strip {t : Text} (h : Readable t) : Readable (strip t) := by
  rw [strip_eq]
  exact readable_rdropWhile (readable_dropWhile h)

theorem unifyLineEnds_cons {c : CodePoint} (h : c ≠ 13) (r : Text) :
    unifyLineEnds (c :: r) = c :: unifyLineEnds r := by
  simp [unifyLineEnds, h]

theorem unifyLineEnds_append {a : Text} (h : 13 ∉ a) (r : Text) :
    unifyLineEnds (a ++ r) = a ++ unifyLineEnds r := by
  induction a with
  | nil => rfl
  | cons c a ih =>
    obtain ⟨hc, ha⟩ := not_or.1 (List.mem_cons.not.1 h)
    rw [List.cons_append, unifyLineEnds_cons (Ne.symm hc), ih ha]
    rfl

/-- A carriage return takes a line feed after it along. -/
theorem unifyLineEnds_return (b : Text) :
    ∃ rest, (b = rest ∨ b = 10 :: rest) ∧ unifyLineEnds (13 :: b) = 10 :: unifyLineEnds rest := by
  cases b with
  | nil => exact ⟨[], .inl rfl, rfl⟩
  | cons c r =>
    by_cases hc : c = 10
    · subst hc
      exact ⟨r, .inr rfl, rfl⟩
    · exact ⟨c :: r, .inl rfl, by simp [unifyLineEnds, hc]⟩

theorem unifyLineEnds_of_not_mem {t : Text} (h : 13 ∉ t) : unifyLineEnds t = t := by
  have whole := unifyLineEnds_append h []
  simpa [unifyLineEnds] using whole

theorem readable_unifyLineEnds {t : Text} (h : Readable t) :
    Readable (unifyLineEnds t) ∧ 13 ∉ unifyLineEnds t := by
  induction hn : t.length using Nat.strong_induction_on generalizing t with
  | _ n ih =>
  by_cases hm : (13 : CodePoint) ∈ t
  · obtain ⟨a, b, rfl, ha⟩ := List.eq_append_cons_of_mem hm
    obtain ⟨first, after, -⟩ := h.split (by decide)
    obtain ⟨rest, hb, unified⟩ := unifyLineEnds_return b
    have next : Readable rest ∧ rest.length ≤ b.length := by
      rcases hb with rfl | rfl
      · exact ⟨after, le_refl _⟩
      · have split : Readable ([] ++ 10 :: rest) := after
        exact ⟨(split.split (by decide)).2.1, by simp⟩
    have shorter := next.2
    obtain ⟨readable, free⟩ := ih rest.length (by simp [← hn]; omega) next.1 rfl
    rw [unifyLineEnds_append ha, unified]
    refine ⟨first.join readable (isScalar_of_ascii (by decide)), ?_⟩
    simpa [ha] using free
  · rw [unifyLineEnds_of_not_mem hm]
    exact ⟨h, hm⟩

/-- Whatever a file holds, the names that are read from it survive in a file. -/
theorem storable_of_mem_decode {content : Octets} {n : Text} (h : n ∈ decode content) :
    Storable n := by
  unfold decode at h
  obtain ⟨line, nonempty⟩ := List.mem_filter.1 h
  obtain ⟨p, hp, rfl⟩ := List.mem_map.1 line
  obtain ⟨readable, free⟩ := readable_unifyLineEnds ⟨content, rfl⟩
  have chars := mem_of_mem_splitOn hp
  rw [splitOn_eq] at hp
  exact {
    nonempty := by simpa using nonempty
    stripped := strip_strip p
    lineFeed := fun hc => (chars 10 (strip_subset p hc)).2 rfl
    carriageReturn := fun hc => free (chars 13 (strip_subset p hc)).1
    readable := readable_strip (readable_of_mem_splitOn readable (by decide) hp) }

/-! ## Writing -/

section Writing

variable {names : List Text}

theorem mem_sorted {n : Text} : n ∈ sorted names ↔ n ∈ names := List.mem_mergeSort

theorem splitOn_lines (h : ∀ n ∈ names, 10 ∉ n) :
    List.splitOn 10 (lines names) = names ++ [[]] :=
  (splitOn_eq 10 _).symm.trans (splitOn_terminated h)

theorem readable_lines (h : ∀ n ∈ names, Readable n) : Readable (lines names) := by
  induction names with
  | nil => exact readable_nil
  | cons n r ih =>
    have next : lines (n :: r) = n ++ 10 :: lines r := by simp [lines]
    rw [next]
    exact (h n List.mem_cons_self).join (ih fun m hm => h m (List.mem_cons_of_mem _ hm))
      (isScalar_of_ascii (by decide))

theorem not_mem_lines (h : ∀ n ∈ names, 13 ∉ n) : 13 ∉ lines names := by
  intro hm
  obtain ⟨n, hn, hc⟩ := List.mem_flatMap.1 hm
  rcases List.mem_append.1 hc with hc | hc
  · exact h n hn hc
  · exact absurd (List.mem_singleton.1 hc) (by decide)

/-- Lines that are storable names are read as these names. -/
theorem decode_octets_lines (h : ∀ n ∈ names, Storable n) :
    decode (octets (lines names)) = names := by
  have readable := readable_lines fun n hn => (h n hn).readable
  have stripped : names.map strip = names :=
    (List.map_congr_left fun n hn => (h n hn).stripped).trans (List.map_id _)
  have kept : names.filter (· ≠ []) = names := by
    rw [List.filter_eq_self]
    intro n hn
    simpa using (h n hn).nonempty
  have last : strip [] = [] := rfl
  rw [decode, readable.decode_octets,
    unifyLineEnds_of_not_mem (not_mem_lines fun n hn => (h n hn).carriageReturn), splitOn_eq,
    splitOn_lines fun n hn => (h n hn).lineFeed]
  simp only [List.map_append, stripped, List.map_singleton, last, List.filter_append, kept]
  simp

/-- A file that storable names are written to gives back these names, in ascending order. -/
theorem decode_encode (h : ∀ n ∈ names, Storable n) :
    ∃ content, encode names = .ok content ∧ decode content = sorted names := by
  have h : ∀ n ∈ sorted names, Storable n := fun n hn => h n (mem_sorted.1 hn)
  have readable := readable_lines fun n hn => (h n hn).readable
  exact ⟨octets (lines (sorted names)), encodeEscaping_eq_ok.2 ⟨readable.encodable, rfl⟩,
    decode_octets_lines h⟩

/-! ### One name among others -/

/-- What stands before a line feed does not touch what stands after it. -/
theorem unifyLineEnds_lineFeed (a r : Text) :
    ∃ b, unifyLineEnds (a ++ 10 :: r) = b ++ 10 :: unifyLineEnds r := by
  induction hn : a.length using Nat.strong_induction_on generalizing a with
  | _ n ih =>
  by_cases hm : (13 : CodePoint) ∈ a
  · obtain ⟨front, back, rfl, free⟩ := List.eq_append_cons_of_mem hm
    have shorter : back.length < n := by simp [← hn]; omega
    rw [List.append_assoc, unifyLineEnds_append free, List.cons_append]
    cases back with
    | nil => exact ⟨front, rfl⟩
    | cons c back =>
      by_cases hc : c = 10
      · subst hc
        obtain ⟨b, hb⟩ := ih back.length (by simp at shorter; omega) back rfl
        exact ⟨front ++ 10 :: b, by simp [unifyLineEnds, hb]⟩
      · obtain ⟨b, hb⟩ := ih (c :: back).length shorter (c :: back) rfl
        rw [List.cons_append] at hb ⊢
        exact ⟨front ++ 10 :: b, by simp [unifyLineEnds, hc, hb]⟩
  · exact ⟨a, by rw [unifyLineEnds_append hm, unifyLineEnds_cons (by decide)]⟩

theorem decodeEscaping_octets_append {n : Text} (scalar : ∀ c ∈ n, IsScalar c) (o : Octets) :
    decodeEscaping (octets n ++ o) = n ++ decodeEscaping o := by
  induction n with
  | nil => rfl
  | cons c r ih =>
    have first := scalar c List.mem_cons_self
    rw [octets_cons, charOctets_of_not_isEscape first.not_isEscape, List.append_assoc,
      decodeEscaping_encodeChar_append first, ih fun d hd => scalar d (List.mem_cons_of_mem _ hd)]
    rfl

theorem octets_lineFeed (t : Text) : octets (10 :: t) = encodeChar 10 ++ octets t := rfl

/-- Lines are read one by one: those before a name end where it begins. -/
theorem decodeEscaping_lines {n : Text} (scalar : ∀ c ∈ n, IsScalar c) (nonempty : n ≠ [])
    (front back : List Text) :
    ∃ before after, (before = [] ∨ ∃ b, before = b ++ [10]) ∧
      decodeEscaping (octets (lines (front ++ n :: back))) = before ++ (n ++ 10 :: after) := by
  have lineFeed : IsScalar 10 := isScalar_of_ascii (by decide)
  have split : lines (front ++ n :: back) = lines front ++ (n ++ 10 :: lines back) := by
    simp [lines]
  obtain ⟨c, r, rfl⟩ := List.exists_cons_of_ne_nil nonempty
  have first := scalar c List.mem_cons_self
  have stop : ∀ b ∈ (octets (c :: r ++ 10 :: lines back)).head?, isContinuation b = false := by
    rw [List.cons_append, octets_cons, charOctets_of_not_isEscape first.not_isEscape]
    exact head_encodeChar first _
  refine ⟨decodeEscaping (octets (lines front)), decodeEscaping (octets (lines back)), ?_, ?_⟩
  · rcases List.eq_nil_or_concat front with rfl | ⟨init, m, rfl⟩
    · exact .inl decodeEscaping_nil
    · have last : lines (init.concat m) = lines init ++ m ++ [10] := by simp [lines]
      refine .inr ⟨decodeEscaping (octets (lines init ++ m)), ?_⟩
      rw [last, octets_append, octets_lineFeed, decodeEscaping_append (head_encodeChar lineFeed _),
        decodeEscaping_encodeChar_append lineFeed, octets_nil, decodeEscaping_nil]
  · rw [split, octets_append, decodeEscaping_append stop, octets_append,
      decodeEscaping_octets_append scalar, octets_lineFeed,
      decodeEscaping_encodeChar_append lineFeed]

/-- A name without escapes that is storable is read from every file it is written to, whatever the
other names are. -/
theorem mem_decode_of_mem {n : Text} {content : Octets} (storable : Storable n)
    (scalar : ∀ c ∈ n, IsScalar c) (member : n ∈ names) (written : encode names = .ok content) :
    n ∈ decode content := by
  obtain ⟨front, back, split⟩ := List.append_of_mem (mem_sorted.2 member)
  obtain ⟨-, rfl⟩ := encodeEscaping_eq_ok.1 written
  obtain ⟨before, after, ended, text⟩ :=
    decodeEscaping_lines scalar storable.nonempty front back
  have line : n ++ 10 :: unifyLineEnds after = unifyLineEnds (n ++ 10 :: after) := by
    rw [unifyLineEnds_append storable.carriageReturn, unifyLineEnds_cons (by decide)]
  have piece (rest : Text) : n ∈ List.splitOn 10 (n ++ 10 :: rest) := by
    rw [List.splitOn_append_cons_self_of_not_mem storable.lineFeed]
    exact List.mem_cons_self
  have member : n ∈ splitOn 10 (unifyLineEnds (before ++ (n ++ 10 :: after))) := by
    rw [splitOn_eq]
    rcases ended with rfl | ⟨b, rfl⟩
    · rw [List.nil_append, ← line]
      exact piece _
    · obtain ⟨u, hu⟩ := unifyLineEnds_lineFeed b (n ++ 10 :: after)
      rw [List.append_assoc, List.singleton_append, hu, ← line, List.splitOn_append_cons_self]
      exact List.mem_append_right _ (piece _)
  rw [decode, split, text, List.mem_filter]
  exact ⟨List.mem_map.2 ⟨n, member, storable.stripped⟩, by simpa using storable.nonempty⟩

end Writing

end Detour.DomainList
