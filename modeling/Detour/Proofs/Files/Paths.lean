import Detour.Proofs.Files.Walking
import Detour.Proofs.Text.Numerals

/-!
# Paths and their texts

A path is read from a text part by part, and its text leads where its parts say: to a place that
does not depend on the files.

## Main statements

* `Path.ofText_text` — the text of a path is read as that path.
* `Path.place`, `Path.way` — where a path leads, and by way of which directories.
* `Path.Proper.of_locate` — following the text of a path.
-/
namespace Detour.Files

open Text Utf8

theorem Tree.splitNames_eq (o : Octets) : splitNames o = List.splitOn 47 o := by
  induction o with
  | nil => rfl
  | cons b r ih =>
    rw [splitNames, List.splitOn_cons_eq_if_modifyHead, ih]
    by_cases hb : b = 47
    · simp [hb]
    · obtain ⟨p, ps, hp⟩ := List.exists_cons_of_ne_nil (List.splitOn_ne_nil 47 r)
      simp [hb, hp]

/-- The names in the octets of a text are those between its slashes. -/
theorem Tree.names_octets {t : Text} (unicode : IsUnicode t) :
    names (octets t) = ((List.splitOn 47 t).filter (· ≠ [])).map octets := by
  have split := splitOn_octets unicode (s := 47) (by decide)
  rw [names, splitNames_eq, show (47 : UInt8) = UInt8.ofNat 47 from rfl, split, List.filter_map]
  congr 1
  refine List.filter_congr fun p _ => ?_
  simp [octets_eq_nil]

theorem pathOctets_eq_ok {t : Text} {o : Octets} :
    pathOctets t = .ok o ↔ Encodable t ∧ 0 ∉ o ∧ o = octets t := by
  unfold pathOctets
  cases he : encodeEscaping t with
  | error e =>
    have wrong : ¬ Encodable t := fun h => by
      rw [encodeEscaping_eq_ok.2 ⟨h, rfl⟩] at he
      cases he
    simp [wrong]
  | ok o' =>
    obtain ⟨encodable, rfl⟩ := encodeEscaping_eq_ok.1 he
    by_cases null : (0 : UInt8) ∈ octets t
    · simp only [List.contains_iff_mem, null, if_true]
      constructor
      · intro h
        cases h
      · rintro ⟨-, absent, rfl⟩
        exact absurd null absent
    · simp only [List.contains_iff_mem, null, if_false, Except.ok.injEq]
      constructor
      · rintro rfl
        exact ⟨encodable, null, rfl⟩
      · rintro ⟨-, -, rfl⟩
        rfl

namespace Path

/-- What a part of a path is like. -/
def IsPart (t : Text) : Prop := t ≠ [] ∧ t ≠ [46] ∧ 47 ∉ t ∧ IsUnicode t

/-- A path like those that are read from a text. -/
def Proper (p : Path) : Prop := ∀ part ∈ p.parts, IsPart part

theorem proper_ofText {t : Text} (unicode : IsUnicode t) : (ofText t).Proper := by
  intro part hp
  obtain ⟨piece, kept⟩ := List.mem_filter.1 hp
  simp only [ne_eq, Bool.and_eq_true, decide_eq_true_eq] at kept
  have chars := mem_of_mem_splitOn piece
  exact ⟨kept.1, kept.2, fun h => (chars 47 h).2 rfl, fun c hc => unicode c (chars c hc).1⟩

theorem Proper.parent {p : Path} (h : p.Proper) : p.parent.Proper :=
  fun part hp => h part (List.dropLast_subset _ hp)

theorem Proper.child {p : Path} (h : p.Proper) {name : Text} (part : IsPart name) :
    (p.child name).Proper := by
  intro q hq
  rcases List.mem_append.1 hq with hq | hq
  · exact h q hq
  · exact List.mem_singleton.1 hq ▸ part

theorem mem_text {p : Path} {c : CodePoint} (h : c ∈ p.text) :
    c = 46 ∨ c = 47 ∨ ∃ part ∈ p.parts, c ∈ part := by
  unfold text at h
  split at h
  · exact .inl (List.mem_singleton.1 h)
  · rcases List.mem_append.1 h with h | h
    · revert h
      cases p.root <;> simp +contextual [rootText]
    · rcases mem_joinWith h with h | part
      · exact .inr (.inl (List.mem_singleton.1 h))
      · exact .inr (.inr part)

theorem Proper.isUnicode_text {p : Path} (h : p.Proper) : IsUnicode p.text := by
  intro c hc
  rcases mem_text hc with rfl | rfl | ⟨part, hp, hc⟩
  · decide
  · decide
  · exact (h part hp).2.2.2 c hc

/-- The pieces of the text of a path are its parts. -/
theorem Proper.splitOn_text {p : Path} (h : p.Proper) (hp : ¬ (p.root = .relative ∧ p.parts = [])) :
    (List.splitOn 47 p.text).filter (· ≠ []) = p.parts := by
  have kept : p.parts.filter (· ≠ []) = p.parts := by
    rw [List.filter_eq_self]
    intro part hp
    simpa using (h part hp).1
  have pieces : (List.splitOn 47 (joinWith [47] p.parts)).filter (· ≠ []) = p.parts := by
    by_cases none : p.parts = []
    · rw [none]
      rfl
    · rw [joinWith, List.splitOn_intercalate 47 (fun part hp => (h part hp).2.2.1) none, kept]
  have text : p.text = rootText p.root ++ joinWith [47] p.parts := by
    unfold Path.text
    rw [if_neg (by simpa using hp)]
  rw [text]
  cases p.root <;> simpa [rootText, List.splitOn_cons_eq_if_modifyHead] using pieces

/-- The number of slashes that a text begins with. -/
theorem rootOf_text {p : Path} (h : p.Proper) (hp : ¬ (p.root = .relative ∧ p.parts = [])) :
    rootOf p.text = p.root := by
  have none : (joinWith [47] p.parts).takeWhile (· == 47) = [] := by
    cases hparts : p.parts with
    | nil => rfl
    | cons part rest =>
      have first := h part (by rw [hparts]; exact List.mem_cons_self)
      obtain ⟨c, r, rfl⟩ := List.exists_cons_of_ne_nil first.1
      have hc : c ≠ 47 := fun e => first.2.2.1 (e ▸ List.mem_cons_self)
      cases rest <;> simp [joinWith, List.intercalate_cons_cons, hc]
  have text : p.text = rootText p.root ++ joinWith [47] p.parts := by
    unfold Path.text
    rw [if_neg (by simpa using hp)]
  rw [text]
  cases p.root <;> simp [rootText, rootOf, none]

/-- The text of a path is read as that path. -/
theorem ofText_text {p : Path} (h : p.Proper) : ofText p.text = p := by
  by_cases hp : p.root = .relative ∧ p.parts = []
  · obtain ⟨root, parts⟩ := p
    obtain ⟨rfl, rfl⟩ := hp
    rfl
  · have kept : p.parts.filter (· ≠ [46]) = p.parts := by
      rw [List.filter_eq_self]
      intro part hp
      simpa using (h part hp).2.1
    have parts : (ofText p.text).parts = p.parts := by
      have pieces := congrArg (List.filter (· ≠ [46])) (h.splitOn_text hp)
      rw [List.filter_filter, kept] at pieces
      rw [ofText, splitOn_eq]
      refine Eq.trans (List.filter_congr fun q _ => ?_) pieces
      simp [Bool.and_comm]
    have root : (ofText p.text).root = p.root := rootOf_text h hp
    calc ofText p.text = ⟨(ofText p.text).root, (ofText p.text).parts⟩ := rfl
      _ = p := by rw [root, parts]

/-! ## Places -/

/-- The names of a path, as the file system has them. -/
def names (p : Path) : List Octets := p.parts.map octets

/-- Where the names of a path start. -/
def start (p : Path) (working : Location) : Location :=
  if p.root = .relative then working else []

/-- Where a path leads if all goes well; two dots take back the name before them. -/
def place (p : Path) (working : Location) : Place := Tree.destination (p.start working) p.names

/-- The locations that a path passes. -/
def way (p : Path) (working : Location) : List Location := Tree.way (p.start working) p.names

theorem Proper.text_ne_nil {p : Path} (h : p.Proper) : p.text ≠ [] := by
  intro empty
  have hp := ofText_text h
  rw [empty] at hp
  rw [← hp] at empty
  exact absurd empty (by decide)

theorem rootOf_eq_relative {t : Text} : rootOf t = .relative ↔ t.head? ≠ some 47 := by
  cases t with
  | nil => simp [rootOf]
  | cons c r =>
    by_cases hc : c = 47
    · subst hc
      simp only [rootOf, List.takeWhile_cons, BEq.rfl, if_true, List.length_cons, List.head?_cons,
        ne_eq, not_true_eq_false, iff_false]
      split <;> simp_all
    · simp [rootOf, hc]

/-- The octets of a text begin with a slash if the text does. -/
theorem head?_octets {t : Text} (unicode : IsUnicode t) :
    (octets t).head? = some 47 ↔ t.head? = some 47 := by
  cases t with
  | nil => simp
  | cons c r =>
    obtain ⟨b, o, ho⟩ := List.exists_cons_of_ne_nil (charOctets_ne_nil c)
    simp only [octets_cons, ho, List.cons_append, List.head?_cons, Option.some.injEq]
    constructor
    · rintro rfl
      refine eq_of_mem_charOctets (s := 47) (unicode c List.mem_cons_self) (by decide) ?_
      rw [ho]
      exact List.mem_cons_self
    · rintro rfl
      rw [charOctets_ascii (by decide)] at ho
      exact (List.cons.inj ho).1.symm

/-- Following the text of a path is following its names. -/
theorem Proper.locateOctets_text {p : Path} (h : p.Proper) (t : Tree) (working : Location) :
    t.locateOctets working (octets p.text) =
      if Tree.pathLimit ≤ (octets p.text).length then .error .nameTooLong
      else t.walk (p.start working) p.names := by
  unfold Tree.locateOctets
  rw [if_neg (by simpa [octets_eq_nil] using h.text_ne_nil), Tree.names_octets h.isUnicode_text]
  split
  · rfl
  by_cases hp : p.root = .relative ∧ p.parts = []
  · obtain ⟨root, parts⟩ := p
    obtain ⟨rfl, rfl⟩ := hp
    rfl
  · rw [h.splitOn_text hp]
    have relative : (octets p.text).head? = some 47 ↔ ¬ p.root = .relative := by
      rw [head?_octets h.isUnicode_text, ← rootOf_text h hp, rootOf_eq_relative, not_not]
    by_cases hr : p.root = .relative
    · rw [if_neg fun hs => relative.1 hs hr, start, if_pos hr]
      rfl
    · rw [if_pos (relative.2 hr), start, if_neg hr]
      rfl

/-- Following a path whose text the file system takes. -/
theorem Proper.locate_of_sent {p : Path} (h : p.Proper) {o : Octets}
    (sent : pathOctets p.text = .ok o) (t : Tree) (working : Location) :
    t.locate working p.text = Tree.reported p.text
      (if Tree.pathLimit ≤ o.length then .error .nameTooLong
        else t.walk (p.start working) p.names) := by
  obtain ⟨-, -, rfl⟩ := pathOctets_eq_ok.1 sent
  unfold Tree.locate
  rw [sent, ← h.locateOctets_text]
  rfl

/-- The file system takes the text of the path, and no name in it is too long. -/
def Usable (p : Path) : Prop :=
  ∃ o, pathOctets p.text = .ok o ∧ o.length < Tree.pathLimit ∧
    ∀ n ∈ p.names, n.length ≤ Tree.nameLimit

/-- A path leads to its place if anywhere, and then passes directories only. -/
theorem Proper.of_locate {p : Path} (h : p.Proper) {t : Tree} {working : Location} {place : Place}
    (hl : t.locate working p.text = .ok place) :
    p.Usable ∧ (∀ l ∈ p.way working, t.node? l = some .directory) ∧ place = p.place working := by
  cases sent : pathOctets p.text with
  | error f =>
    rw [Tree.locate, sent] at hl
    cases hl
  | ok o =>
    rw [h.locate_of_sent sent] at hl
    split at hl
    · cases hl
    next short =>
    cases hw : t.walk (p.start working) p.names with
    | error cause =>
      rw [hw] at hl
      cases hl
    | ok q =>
      rw [hw] at hl
      cases hl
      obtain ⟨names, passed, hp⟩ := Tree.walk_eq_ok.1 hw
      exact ⟨⟨o, sent, Nat.not_le.1 short, names⟩, passed, hp⟩

theorem Proper.locate_eq_ok {p : Path} (h : p.Proper) {d : Disk} {place : Place}
    (hl : d.locate p.text = .ok place) :
    (∀ l ∈ p.way d.working, d.tree.node? l = some .directory) ∧ place = p.place d.working :=
  (h.of_locate hl).2

/-- What an entry is called is the name of its path. -/
theorem name_of_place {p : Path} {working parent : Location} {n : Octets}
    (h : p.place working = .entry parent n) : n = octets p.name := by
  have last := Tree.getLast?_of_destination h
  rw [names, List.getLast?_map] at last
  unfold name
  cases hp : p.parts.getLast? with
  | none =>
    rw [hp] at last
    cases last
  | some part =>
    rw [hp] at last
    rw [List.getLastD_eq_getLast?, hp]
    exact (Option.some.inj last).symm

/-- Dots are taken back without new parts. -/
theorem mem_foldDots {parts : List Text} {part : Text} (h : part ∈ foldDots parts) :
    part ∈ parts := by
  have fold (parts done : List Text)
      (h : part ∈ parts.foldl
        (fun done p => if p = [46, 46] then done.dropLast else done ++ [p]) done) :
      part ∈ done ∨ part ∈ parts := by
    induction parts generalizing done with
    | nil => exact .inl h
    | cons p r ih =>
      rcases ih _ h with h | h
      · dsimp only at h
        split at h
        · exact .inl (List.dropLast_subset _ h)
        · rcases List.mem_append.1 h with h | h
          · exact .inl h
          · exact .inr (List.mem_cons.2 (.inl (List.mem_singleton.1 h)))
      · exact .inr (List.mem_cons_of_mem _ h)
  rcases fold parts [] h with h | h
  · cases h
  · exact h

theorem Proper.absolute {p base : Path} (h : p.Proper) (hb : base.Proper) :
    (p.absolute base).Proper := by
  intro part hp
  have hp := mem_foldDots hp
  split at hp
  · rcases List.mem_append.1 hp with hp | hp
    · exact hb part hp
    · exact h part hp
  · exact h part hp

theorem root_absolute {p base : Path} (h : base.root ≠ .relative) :
    (p.absolute base).root ≠ .relative := by
  unfold Path.absolute
  dsimp only
  split
  · exact h
  · next hr => exact hr

end Path

/-! ## Temporary files -/

/-- What a file or a directory can be called. -/
def IsName (n : Octets) : Prop := n ≠ [] ∧ n ≠ [46] ∧ n ≠ [46, 46] ∧ 47 ∉ n ∧ 0 ∉ n

instance (n : Octets) : Decidable (IsName n) := inferInstanceAs (Decidable (_ ∧ _))

namespace Disk

/-- A disk that is seen from a directory with a name, and so are the directories around it. -/
def HasWorking (d : Disk) : Prop := ∀ n ∈ d.working, IsName n

instance (d : Disk) : Decidable d.HasWorking := inferInstanceAs (Decidable (∀ n ∈ d.working, _))

theorem HasWorking.proper {d : Disk} (h : d.HasWorking) : d.workingPath.Proper := by
  intro part hp
  obtain ⟨n, hn, rfl⟩ := List.mem_map.1 hp
  have readable : Readable (decodeEscaping n) := ⟨n, rfl⟩
  have same := (octets_decodeEscaping n).2
  obtain ⟨nonempty, one, -, slash, -⟩ := h n hn
  refine ⟨?_, ?_, ?_, readable.isUnicode⟩
  · intro e
    rw [e] at same
    exact nonempty same.symm
  · intro e
    rw [e] at same
    exact one same.symm
  · intro hs
    rw [← mem_octets_ascii readable.isUnicode (by decide), same] at hs
    exact slash hs

/-- The directory that temporary files for a path are made in. -/
def temporaryDirectory (d : Disk) (path : Path) : Path :=
  (Path.ofText path.parent.text).absolute d.workingPath

/-- The path of a temporary file. -/
def temporaryPath (d : Disk) (path : Path) (n : Nat) : Path :=
  (d.temporaryDirectory path).child (temporaryName path.name n)

theorem mem_temporaryName {name : Text} {n : Nat} {c : CodePoint} (h : c ∈ temporaryName name n) :
    c ∈ name ∨ (c ≠ 47 ∧ c ≠ 0 ∧ c < 0x80) := by
  have sign {s : Text} (hs : ∀ c ∈ s, c ≠ 47 ∧ c ≠ 0 ∧ c < 0x80) (hc : c ∈ s) :
      c ∈ name ∨ (c ≠ 47 ∧ c ≠ 0 ∧ c < 0x80) := .inr (hs c hc)
  unfold temporaryName temporaryStart at h
  rcases List.mem_append.1 h with h | h
  · rcases List.mem_append.1 h with h | h
    · rcases List.mem_append.1 h with h | h
      · rcases List.mem_append.1 h with h | h
        · rcases List.mem_append.1 h with h | h
          · exact sign (by decide) h
          · exact .inl h
        · exact sign (by decide) h
      · rw [List.eq_of_mem_replicate h]
        exact .inr (by decide)
    · have digit := mem_ofNat h
      exact .inr ⟨by rintro rfl; simp at digit, by rintro rfl; simp at digit,
        lt_of_le_of_lt digit.2 (by decide)⟩
  · exact sign (by decide) h

/-- A temporary file has a longer name than the file it is for. -/
theorem length_temporaryName (name : Text) (n : Nat) :
    (octets name).length + 6 ≤ (octets (temporaryName name n)).length := by
  have first : (octets (ofString ".")).length = 1 := by decide
  have last : (octets temporaryEnd).length = 4 := by decide
  simp only [temporaryName, temporaryStart, octets_append, List.length_append, first, last]
  omega

theorem isPart_temporaryName {name : Text} (slash : 47 ∉ name) (unicode : IsUnicode name)
    (n : Nat) : Path.IsPart (temporaryName name n) := by
  have long := length_temporaryName name n
  refine ⟨?_, ?_, ?_, ?_⟩
  · intro e
    simp [e] at long
  · intro e
    rw [e] at long
    simp [charOctets_ascii] at long
  · intro h
    rcases mem_temporaryName h with h | h
    · exact slash h
    · exact h.1 rfl
  · intro c hc
    rcases mem_temporaryName hc with hc | hc
    · exact unicode c hc
    · exact lt_trans hc.2.2 (by decide)

theorem name_chars {path : Path} (h : path.Proper) : 47 ∉ path.name ∧ IsUnicode path.name := by
  unfold Path.name
  rw [List.getLastD_eq_getLast?]
  cases hp : path.parts.getLast? with
  | none => exact ⟨List.not_mem_nil, fun c hc => absurd hc List.not_mem_nil⟩
  | some part => exact (h part (List.mem_of_getLast? hp)).2.2

section Temporary

variable {d : Disk} {path : Path}

theorem HasWorking.temporaryDirectory (working : d.HasWorking) (h : path.Proper) :
    (d.temporaryDirectory path).Proper ∧ (d.temporaryDirectory path).root ≠ .relative :=
  ⟨(Path.proper_ofText h.parent.isUnicode_text).absolute working.proper,
    Path.root_absolute Root.noConfusion⟩

theorem HasWorking.temporaryPath (working : d.HasWorking) (h : path.Proper) (n : Nat) :
    (d.temporaryPath path n).Proper := by
  obtain ⟨slash, unicode⟩ := name_chars h
  exact (working.temporaryDirectory h).1.child (isPart_temporaryName slash unicode n)

/-- A name in a directory, as a text. -/
theorem inside_text {q : Path} (h : q.Proper) (root : q.root ≠ .relative) (name : Text) :
    inside q.text name = (q.child name).text := by
  have text (parts : List Text) :
      Path.text ⟨q.root, parts⟩ = Path.rootText q.root ++ joinWith [47] parts := by
    simp [Path.text, root]
  have whole : q.text = Path.rootText q.root ++ joinWith [47] q.parts := text q.parts
  rw [whole, Path.child, text, inside]
  by_cases hp : q.parts = []
  · rw [hp]
    cases hr : q.root with
    | relative => exact absurd hr root
    | single => simp [Path.rootText, joinWith]
    | double => simp [Path.rootText, joinWith]
  · have ends : (Path.rootText q.root ++ joinWith [47] q.parts).getLast? ≠ some 47 := by
      -- the last part has characters, and none of them is a slash
      have part := h _ (List.getLast_mem hp)
      have parts := List.dropLast_append_getLast hp
      generalize q.parts.getLast hp = last at part parts
      have ends : ∃ x : Text, joinWith [47] (q.parts.dropLast ++ [last]) = x ++ last := by
        by_cases none : q.parts.dropLast = []
        · exact ⟨[], by simp [none, joinWith]⟩
        · exact ⟨_, joinWith_concat _ none last⟩
      obtain ⟨x, hx⟩ := ends
      intro e
      rw [← parts, hx, ← List.append_assoc, List.getLast?_append_of_ne_nil _ part.1] at e
      exact part.2.2.1 (List.mem_of_getLast? e)
    rw [if_neg ends, joinWith_concat _ hp]
    simp

end Temporary

end Disk
end Detour.Files
