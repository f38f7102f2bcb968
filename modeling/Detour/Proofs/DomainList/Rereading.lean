import Mathlib.Data.List.Permutation
import Detour.Proofs.DomainList.Contents

/-!
# Lists that are read again

What was stored is read again as the same names in ascending order, if every name survives in a file
and not otherwise. All names that come from a file survive, whatever its octets are; so a list that
is read and stored loses nothing, and where its lines stand as they are read, they only change their
order.

## Main statements

* `Text.sorted_perm`, `Text.pairwise_sorted` — the order of stored names.
* `DomainList.load_store_iff` — stored names are read again.
* `DomainList.rewrite_lossless` — a list that is read can be stored and read again.
-/
namespace Detour

namespace Text

/-! ## Ascending order -/

/-- Texts are ordered by their first difference. -/
theorem atMost_iff {s t : Text} : atMost s t = true ↔ s = t ∨ List.Lex (· < ·) s t := by
  induction s generalizing t with
  | nil => cases t <;> simp [atMost]
  | cons a s ih =>
    cases t with
    | nil => simp [atMost]
    | cons b t =>
      simp only [atMost, Bool.or_eq_true, Bool.and_eq_true, decide_eq_true_eq, beq_iff_eq, ih,
        List.cons_lex_cons_iff, List.cons.injEq]
      grind

theorem atMost_total (s t : Text) : atMost s t = true ∨ atMost t s = true := by
  induction s generalizing t with
  | nil => exact .inl rfl
  | cons a s ih =>
    cases t with
    | nil => exact .inr rfl
    | cons b t =>
      have rest := ih t
      grind [atMost]

theorem atMost_trans {s t u : Text} (hst : atMost s t = true) (htu : atMost t u = true) :
    atMost s u = true := by
  induction s generalizing t u with
  | nil => rfl
  | cons a s ih =>
    cases t with
    | nil => cases hst
    | cons b t =>
      cases u with
      | nil => cases htu
      | cons c u => grind [atMost]

theorem sorted_perm (names : List Text) : (sorted names).Perm names := List.mergeSort_perm _ _

theorem atMost_antisymm {s t : Text} (hst : atMost s t = true) (hts : atMost t s = true) :
    s = t := by
  induction s generalizing t with
  | nil =>
    cases t with
    | nil => rfl
    | cons b t => cases hts
  | cons a s ih =>
    cases t with
    | nil => cases hst
    | cons b t => grind [atMost]

theorem pairwise_atMost_sorted (names : List Text) :
    (sorted names).Pairwise fun s t => atMost s t = true := by
  have trans (s t u : Text) : atMost s t = true → atMost t u = true → atMost s u = true :=
    atMost_trans
  have total (s t : Text) : (atMost s t || atMost t s) = true := by simpa using atMost_total s t
  exact List.pairwise_mergeSort trans total names

/-- No name stands after one that it comes before. -/
theorem pairwise_sorted (names : List Text) :
    (sorted names).Pairwise fun s t => s = t ∨ List.Lex (· < ·) s t :=
  (pairwise_atMost_sorted names).imp atMost_iff.1

/-- Without repetitions, each name comes before the next. -/
theorem pairwise_lex_sorted {names : List Text} (nodup : names.Nodup) :
    (sorted names).Pairwise (List.Lex (· < ·)) := by
  have distinct : (sorted names).Nodup := (sorted_perm names).nodup_iff.2 nodup
  exact (distinct.and (pairwise_sorted names)).imp fun h => h.2.resolve_left h.1

/-- The order of a set of names does not depend on how its members are listed. -/
theorem sorted_congr {s t : List Text} (hs : s.Nodup) (ht : t.Nodup)
    (same : ∀ n, n ∈ s ↔ n ∈ t) : sorted s = sorted t := by
  have perm : (sorted s).Perm (sorted t) :=
    (sorted_perm s).trans (((List.perm_ext_iff_of_nodup hs ht).2 same).trans (sorted_perm t).symm)
  exact perm.eq_of_pairwise (fun _ _ _ _ => atMost_antisymm) (pairwise_atMost_sorted s)
    (pairwise_atMost_sorted t)

end Text

namespace DomainList

open Files Text Utf8 Disk

/-! ## Storing, then reading -/

/-- A name survives in a file if it is a line without outer blanks, and its octets are read as the
name. -/
theorem storable_iff {n : Text} : Storable n ↔ n ≠ [] ∧ strip n = n ∧ 10 ∉ n ∧ 13 ∉ n ∧
    (encodeEscaping n).map decodeEscaping = .ok n := by
  have readable : Readable n ↔ (encodeEscaping n).map decodeEscaping = .ok n := by
    constructor
    · intro h
      rw [encodeEscaping_eq_ok.2 ⟨h.encodable, rfl⟩]
      exact congrArg Except.ok h.decode_octets
    · intro h
      cases written : encodeEscaping n with
      | error e =>
        rw [written] at h
        cases h
      | ok o =>
        rw [written] at h
        exact ⟨o, Except.ok.inj h⟩
  constructor
  · intro h
    exact ⟨h.nonempty, h.stripped, h.lineFeed, h.carriageReturn, readable.1 h.readable⟩
  · rintro ⟨nonempty, stripped, lineFeed, carriageReturn, same⟩
    exact ⟨nonempty, stripped, lineFeed, carriageReturn, readable.2 same⟩

/-- A file that names are written to gives back the sorted names just if all of them survive. -/
theorem decode_encode_iff {names : List Text} {content : Octets}
    (written : encode names = .ok content) :
    decode content = sorted names ↔ ∀ n ∈ names, Storable n := by
  constructor
  · intro same n hn
    exact storable_of_mem_decode (same ▸ mem_sorted.2 hn)
  · intro storable
    obtain ⟨content', written', same⟩ := decode_encode storable
    obtain rfl := Except.ok.inj (written.symm.trans written')
    exact same

section Disks

variable {path : Path} {d : Disk} {content : Octets}

/-- A list whose file is there is read unless that is refused. -/
theorem load_of_content (file : d.content path = .ok content)
    (opened : d.refusal? .openFile [path.text] = none) :
    (load path d).1 = .ok (decode content) := by
  have read := read_allowed opened
  have there : d.exists? path = .ok true := by
    unfold Disk.content at file
    rw [exists?, status]
    cases located : d.locate path.text with
    | error e =>
      rw [located] at file
      cases file
    | ok place =>
      rw [located] at file
      cases found : d.tree.node? place.location with
      | none => simp [Tree.read, found] at file
      | some node => simp [found]
  rw [load, there]
  dsimp only
  rw [read, file]

/-- The file of a list that was stored has the octets of the names. -/
theorem content_of_store (proper : path.Proper) (working : d.HasWorking) {names : List Text}
    (done : (store path names d).1 = .ok ()) :
    ∃ content, encode names = .ok content ∧ (store path names d).2.content path = .ok content := by
  obtain ⟨l, content, encoded, leads, there⟩ := leadsTo_of_store proper working done
  exact ⟨content, encoded, leads.content there⟩

end Disks

/-- A list that was stored is read as its names in ascending order, each as often as it was given,
if every name survives in a file; otherwise it is read as something else. -/
theorem load_store_iff {text : Text} (unicode : IsUnicode text) {d : Disk}
    (working : d.HasWorking) {names : List Text}
    (done : (store (.ofText text) names d).1 = .ok ())
    (opened : (store (.ofText text) names d).2.refusal? .openFile [(Path.ofText text).text] =
      none) :
    (sorted names).Perm names ∧
    ((sorted names).Pairwise fun s t => s = t ∨ List.Lex (· < ·) s t) ∧
    ((load (.ofText text) (store (.ofText text) names d).2).1 = .ok (sorted names) ↔
      ∀ n ∈ names, n ≠ [] ∧ strip n = n ∧ 10 ∉ n ∧ 13 ∉ n ∧
        (encodeEscaping n).map decodeEscaping = .ok n) := by
  obtain ⟨content, written, file⟩ := content_of_store (Path.proper_ofText unicode) working done
  refine ⟨sorted_perm names, pairwise_sorted names, ?_⟩
  simp only [← storable_iff]
  rw [load_of_content file opened, Except.ok.injEq]
  exact decode_encode_iff written

/-- Names with a line separator and a next line inside, with octets of a character that breaks off,
and one name twice. -/
def mixedNames : List Text :=
  ["b", [0x61, 0x2028, 0x62], [0xDCE2, 0xDC82], "b", [0x61, 0x85, 0x7A]]

theorem load_store_iff_mixed :
    (store (.ofText "/lists/blocked") mixedNames (diskOf "old.org" [])).1 = .ok () ∧
      (load (.ofText "/lists/blocked")
        (store (.ofText "/lists/blocked") mixedNames (diskOf "old.org" [])).2).1 =
        .ok [[0x61, 0x85, 0x7A], [0x61, 0x2028, 0x62], "b", "b", [0xDCE2, 0xDC82]] := by
  have done : (store (.ofText "/lists/blocked") mixedNames (diskOf "old.org" [])).1 = .ok () := by
    cbv
  have opened : (store (.ofText "/lists/blocked") mixedNames (diskOf "old.org" [])).2.refusal?
      .openFile [(Path.ofText "/lists/blocked").text] = none := by cbv
  have order : sorted mixedNames =
      [[0x61, 0x85, 0x7A], [0x61, 0x2028, 0x62], "b", "b", [0xDCE2, 0xDC82]] := by cbv
  have survive : ∀ n ∈ mixedNames, n ≠ [] ∧ strip n = n ∧ 10 ∉ n ∧ 13 ∉ n ∧
      (encodeEscaping n).map decodeEscaping = .ok n := by decide +kernel
  obtain ⟨-, -, same⟩ := load_store_iff (by decide) (by decide) done opened
  exact ⟨done, order ▸ same.2 survive⟩

/-! ## Reading, then storing -/

/-- The octets of some lines, each with a line feed at its end. -/
def joinLines (ls : List Octets) : Octets := ls.flatMap (· ++ [10])

/-- A line that is read as it stands: it has no line end inside, is not blank, and has no outer
blanks. -/
structure PlainLine (l : Octets) : Prop where
  lineFeed : 10 ∉ l
  carriageReturn : 13 ∉ l
  notBlank : isBlankText (decodeEscaping l) = false
  stripped : strip (decodeEscaping l) = decodeEscaping l

theorem octets_lines (names : List Text) : octets (lines names) = joinLines (names.map octets) := by
  induction names with
  | nil => rfl
  | cons n r ih =>
    have next : lines (n :: r) = n ++ 10 :: lines r := by simp [lines]
    rw [next, octets_append, octets_lineFeed, ih]
    simp [joinLines, encodeChar]

theorem map_octets_decodeEscaping (ls : List Octets) :
    (ls.map decodeEscaping).map octets = ls := by
  rw [List.map_map]
  exact (List.map_congr_left fun l _ => (octets_decodeEscaping l).2).trans (List.map_id ls)

theorem PlainLine.storable {l : Octets} (h : PlainLine l) : Storable (decodeEscaping l) := by
  have readable : Readable (decodeEscaping l) := ⟨l, rfl⟩
  have absent {s : Nat} (ascii : s < 0x80) (free : UInt8.ofNat s ∉ l) : s ∉ decodeEscaping l := by
    rw [← mem_octets_ascii readable.isUnicode ascii, (octets_decodeEscaping l).2]
    exact free
  have nonempty : decodeEscaping l ≠ [] := by
    intro empty
    have blank := h.notBlank
    rw [empty] at blank
    cases blank
  exact ⟨nonempty, h.stripped, absent (by decide) h.lineFeed, absent (by decide) h.carriageReturn,
    readable⟩

/-- Plain lines are read as they stand. -/
theorem decode_joinLines {ls : List Octets} (plain : ∀ l ∈ ls, PlainLine l) :
    decode (joinLines ls) = ls.map decodeEscaping := by
  have storable : ∀ n ∈ ls.map decodeEscaping, Storable n := by
    intro n hn
    obtain ⟨l, hl, rfl⟩ := List.mem_map.1 hn
    exact (plain l hl).storable
  have read := decode_octets_lines storable
  rwa [octets_lines, map_octets_decodeEscaping] at read

/-- A list that is read, whatever its octets are, can be written, and what is written is read as the
same names in ascending order. If its lines are plain, they are only put in another order. -/
theorem rewrite_lossless {text : Text} (unicode : IsUnicode text) {d : Disk}
    (working : d.HasWorking) {content : Octets} (file : d.content (.ofText text) = .ok content)
    (opened : d.refusal? .openFile [(Path.ofText text).text] = none) :
    (load (.ofText text) d).1 = .ok (decode content) ∧
    ∃ stored, encode (decode content) = .ok stored ∧
      decode stored = sorted (decode content) ∧
      (∀ ls, (∀ l ∈ ls, PlainLine l) → content = joinLines ls →
        ∃ ls', ls'.Perm ls ∧ stored = joinLines ls') ∧
      ∀ e, store (.ofText text) (decode content) (load (.ofText text) d).2 = (.ok (), e) →
        e.content (.ofText text) = .ok stored ∧
        (e.refusal? .openFile [(Path.ofText text).text] = none →
          (load (.ofText text) e).1 = .ok (sorted (decode content))) := by
  have storable : ∀ n ∈ decode content, Storable n := fun n hn => storable_of_mem_decode hn
  obtain ⟨stored, written, same⟩ := decode_encode storable
  refine ⟨load_of_content file opened, stored, written, same, ?_, ?_⟩
  · rintro ls plain rfl
    obtain ⟨-, rfl⟩ := encodeEscaping_eq_ok.1 written
    refine ⟨_, ?_, octets_lines _⟩
    have back : (decode (joinLines ls)).map octets = ls := by
      rw [decode_joinLines plain, map_octets_decodeEscaping]
    have perm := (sorted_perm (decode (joinLines ls))).map octets
    rwa [back] at perm
  · intro e done
    have working' : (load (.ofText text) d).2.HasWorking := by
      have kept := (load_sameFiles (.ofText text) d).working
      unfold HasWorking at working ⊢
      rwa [kept]
    obtain ⟨content', written', there⟩ := content_of_store (Path.proper_ofText unicode) working'
      (congrArg Prod.fst done)
    obtain rfl := Except.ok.inj (written.symm.trans written')
    rw [done] at there
    exact ⟨there, fun again => by rw [load_of_content there again, same]⟩

/-- Lines with an encoded surrogate, with a character that breaks off at the end, and with an octet
that begins none. -/
def illFormedLines : List Octets := [[0xED, 0xA0, 0x80], [0x62, 0xE2, 0x82], [0x62], [0xFF]]

/-- A disk with one list of these lines. -/
def illFormedDisk : Disk where
  tree := ⟨[([octets "lists"], .directory),
    ([octets "lists", octets "blocked"], .file (joinLines illFormedLines))]⟩

theorem plainLine_illFormed : ∀ l ∈ illFormedLines, PlainLine l := by
  have free : ∀ l ∈ illFormedLines, 10 ∉ l ∧ 13 ∉ l := by decide
  have read : ∀ l ∈ illFormedLines, isBlankText (decodeEscaping l) = false ∧
      strip (decodeEscaping l) = decodeEscaping l := by decide +kernel
  exact fun l hl => ⟨(free l hl).1, (free l hl).2, (read l hl).1, (read l hl).2⟩

theorem rewrite_lossless_illFormed :
    ∃ e ls, store (.ofText "/lists/blocked") (decode (joinLines illFormedLines))
        (load (.ofText "/lists/blocked") illFormedDisk).2 = (.ok (), e) ∧
      ls.Perm illFormedLines ∧ e.content (.ofText "/lists/blocked") = .ok (joinLines ls) ∧
      (load (.ofText "/lists/blocked") e).1 =
        .ok [[0x62], [0x62, 0xDCE2, 0xDC82], [0xDCED, 0xDCA0, 0xDC80], [0xDCFF]] := by
  have done : (store (.ofText "/lists/blocked") (decode (joinLines illFormedLines))
      (load (.ofText "/lists/blocked") illFormedDisk).2).1 = .ok () := by cbv
  have unicode : IsUnicode ("/lists/blocked" : Text) := by decide
  have file : illFormedDisk.content (.ofText "/lists/blocked") =
      .ok (joinLines illFormedLines) := by cbv
  have order : sorted (decode (joinLines illFormedLines)) =
      [[0x62], [0x62, 0xDCE2, 0xDC82], [0xDCED, 0xDCA0, 0xDC80], [0xDCFF]] := by cbv
  obtain ⟨-, stored, -, -, lines, again⟩ :=
    rewrite_lossless unicode (by decide) file rfl
  obtain ⟨ls, perm, rfl⟩ := lines _ plainLine_illFormed rfl
  obtain ⟨there, reread⟩ := again _ (Prod.ext done rfl)
  refine ⟨_, ls, Prod.ext done rfl, perm, there, order ▸ reread ?_⟩
  cbv

end DomainList
end Detour
