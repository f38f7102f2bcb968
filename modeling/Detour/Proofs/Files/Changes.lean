import Detour.Proofs.Files.Paths

/-!
# What operations change

Each operation on a disk is described by the tree it leaves. Making directories only adds some on
the way to a path, a temporary file comes where nothing was, and everything else replaces or removes
a single file.

## Main statements

* `Disk.makeDirectories_makes`, `Disk.createTemporary_cases` — what is added.
* `Disk.rename_cases`, `Disk.remove_cases`, `Disk.discard_cases` — what is replaced or removed.
-/
namespace Detour.Files

open Text Utf8

/-- The location of the file or directory that a path names; none for a path that ends in dots. -/
def Path.target? (p : Path) (working : Location) : Option Location :=
  match p.place working with
  | .entry parent n => some (parent ++ [n])
  | .directory _ => none

theorem Path.target?_of_entry {p : Path} {working parent : Location} {n : Octets}
    (h : p.place working = .entry parent n) : p.target? working = some (parent ++ [n]) := by
  rw [target?, h]

theorem Path.exists_entry_of_target? {p : Path} {working l : Location}
    (h : p.target? working = some l) :
    ∃ parent, p.place working = .entry parent (octets p.name) ∧ l = parent ++ [octets p.name] := by
  unfold target? at h
  split at h
  · next parent n hp =>
    cases h
    obtain rfl := name_of_place hp
    exact ⟨parent, hp, rfl⟩
  · cases h

/-- A path or a beginning of it names the location. -/
def Path.Along (p : Path) (working l : Location) : Prop :=
  ∃ q : Path, q.root = p.root ∧ q.parts <+: p.parts ∧ q.target? working = some l

namespace Tree

variable {t u v : Tree}

/-- The second tree has the nodes of the first and more directories, at some locations. -/
def Makes (t u : Tree) (P : Location → Prop) : Prop :=
  ∀ l, u.node? l = t.node? l ∨ (t.node? l = none ∧ u.node? l = some .directory ∧ P l)

theorem Makes.refl (t : Tree) (P : Location → Prop) : Makes t t P := fun _ => .inl rfl

theorem Makes.trans {P : Location → Prop} (h : Makes t u P) (g : Makes u v P) : Makes t v P := by
  intro l
  rcases h l with h | ⟨hn, hd, hp⟩
  · rcases g l with g | ⟨gn, gd, gp⟩
    · exact .inl (g.trans h)
    · exact .inr ⟨h ▸ gn, gd, gp⟩
  · rcases g l with g | ⟨gn, gd, gp⟩
    · exact .inr ⟨hn, g.trans hd, hp⟩
    · rw [hd] at gn
      cases gn

theorem Makes.mono {P Q : Location → Prop} (h : Makes t u P) (hpq : ∀ l, P l → Q l) :
    Makes t u Q := fun l => (h l).imp_right fun ⟨hn, hd, hp⟩ => ⟨hn, hd, hpq l hp⟩

theorem Makes.keepsDirectories {P : Location → Prop} (h : Makes t u P) : KeepsDirectories t u := by
  intro l hl
  rcases h l with h | ⟨hn, -, -⟩
  · rw [h, hl]
  · rw [hn] at hl
    cases hl

/-- New directories are no files. -/
theorem Makes.file? {P : Location → Prop} (h : Makes t u P) (l : Location) :
    u.file? l = t.file? l := by
  rcases h l with h | ⟨hn, hd, -⟩
  · exact file?_congr h
  · unfold Tree.file?
    rw [hn, hd]

theorem makes_put {l : Location} {P : Location → Prop} (free : t.node? l = none) (hp : P l) :
    Makes t (t.put l .directory) P := by
  have hl : l ≠ [] := by
    rintro rfl
    cases free
  intro m
  by_cases hm : m = l
  · subst hm
    exact .inr ⟨free, node?_put_self hl, hp⟩
  · exact .inl (node?_put_of_ne hm)

/-- Putting a file where no directory is keeps all directories. -/
theorem keepsDirectories_put {l : Location} {n : Node} (h : t.node? l ≠ some .directory) :
    KeepsDirectories t (t.put l n) := by
  intro m hm
  have hml : m ≠ l := by
    rintro rfl
    exact h hm
  rw [node?_put_of_ne hml, hm]

theorem keepsDirectories_erase {l : Location} (h : t.node? l ≠ some .directory) :
    KeepsDirectories t (t.erase l) := by
  intro m hm
  have hml : m ≠ l := by
    rintro rfl
    exact h hm
  rw [node?_erase_of_ne hml, hm]

theorem KeepsDirectories.trans (h : KeepsDirectories t u) (g : KeepsDirectories u v) :
    KeepsDirectories t v := fun l hl => g l (h l hl)

theorem ne_nil_of_node? {l : Location} (h : t.node? l ≠ some .directory) : l ≠ [] := by
  rintro rfl
  exact h rfl

theorem ne_nil_of_file {l : Location} {content : Octets} (h : t.node? l = some (.file content)) :
    l ≠ [] := ne_nil_of_node? (t := t) (by simp [h])

theorem makeDirectory_eq_ok {p : Place} :
    t.makeDirectory p = .ok u ↔ ∃ parent n, p = .entry parent n ∧
      t.node? (parent ++ [n]) = none ∧ u = t.put (parent ++ [n]) .directory := by
  cases p with
  | directory l => simp [makeDirectory]
  | entry parent n =>
    cases hn : t.node? (parent ++ [n]) <;> simp [makeDirectory, Place.location, hn, eq_comm]

theorem create_eq_ok {p : Place} :
    t.create p = .ok u ↔ ∃ parent n, p = .entry parent n ∧
      t.node? (parent ++ [n]) = none ∧ u = t.put (parent ++ [n]) (.file []) := by
  cases p with
  | directory l => simp [create]
  | entry parent n =>
    cases hn : t.node? (parent ++ [n]) <;> simp [create, Place.location, hn, eq_comm]

theorem removeEntry_eq_ok {p : Place} :
    t.removeEntry p = .ok u ↔ ∃ parent n content, p = .entry parent n ∧
      t.node? (parent ++ [n]) = some (.file content) ∧ u = t.erase (parent ++ [n]) := by
  cases p with
  | directory l => simp [removeEntry]
  | entry parent n =>
    cases hn : t.node? (parent ++ [n]) with
    | none => simp [removeEntry, Place.location, hn]
    | some node => cases node <;> simp [removeEntry, Place.location, hn, eq_comm]

theorem rename_eq_ok {source target : Place} :
    t.rename source target = .ok u ↔ ∃ parent n content, target = .entry parent n ∧
      t.node? source.location = some (.file content) ∧
      t.node? (parent ++ [n]) ≠ some .directory ∧
      u = (t.erase source.location).put (parent ++ [n]) (.file content) := by
  cases target with
  | directory l => simp [rename]
  | entry parent n =>
    have target : Place.location (.entry parent n) = parent ++ [n] := rfl
    cases hs : t.node? source.location with
    | none => simp [rename, hs]
    | some node =>
      cases node with
      | directory => simp [rename, hs]
      | file content =>
        cases hn : t.node? (parent ++ [n]) with
        | none => simp [rename, target, hs, hn, eq_comm]
        | some node => cases node <;> simp [rename, target, hs, hn, eq_comm]

end Tree

namespace Disk

variable {d : Disk}

theorem change_cases (d : Disk) (path : Text) (f : Place → Except Cause Tree) :
    (∃ e, d.change path f = (.error e, d)) ∨
    ∃ place u, d.locate path = .ok place ∧ f place = .ok u ∧
      d.change path f = (.ok (), { d with tree := u }) := by
  unfold change
  cases hl : d.locate path with
  | error e => exact .inl ⟨e, rfl⟩
  | ok place =>
    dsimp only
    cases hf : f place with
    | error cause => exact .inl ⟨_, rfl⟩
    | ok u => exact .inr ⟨place, u, rfl, hf, rfl⟩

theorem change_eq_ok {path : Text} {f : Place → Except Cause Tree} {place : Place} {u : Tree}
    (hl : d.locate path = .ok place) (hf : f place = .ok u) :
    d.change path f = (.ok (), { d with tree := u }) := by
  rw [change, hl]
  simp only [hf]

/-! ## Directories -/

theorem makeDirectory_makes (d : Disk) {path : Path} (h : path.Proper) :
    ∃ u, (d.makeDirectory path).2 = { d with tree := u } ∧
      d.tree.Makes u fun l => path.target? d.working = some l := by
  have same : ∃ u, d = { d with tree := u } ∧
      d.tree.Makes u fun l => path.target? d.working = some l := ⟨d.tree, rfl, .refl _ _⟩
  unfold makeDirectory
  rcases d.change_cases path.text d.tree.makeDirectory with ⟨e, hc⟩ | ⟨place, u, hl, hm, hc⟩
  · rw [hc]
    dsimp only
    split
    · split <;> exact same
    · exact same
  · rw [hc]
    refine ⟨u, rfl, ?_⟩
    obtain ⟨parent, n, rfl, free, rfl⟩ := Tree.makeDirectory_eq_ok.1 hm
    exact Tree.makes_put free (Path.target?_of_entry (h.locate_eq_ok hl).2.symm)

theorem makeDirectoriesFrom_makes (root : Root) (parts : List Text) (d : Disk)
    (h : Path.Proper ⟨root, parts⟩) :
    ∃ u, (makeDirectoriesFrom root parts d).2 = { d with tree := u } ∧
      d.tree.Makes u (Path.Along ⟨root, parts.reverse⟩ d.working) := by
  have here (parts : List Text) (d : Disk) (h : Path.Proper ⟨root, parts⟩) :
      ∃ u, (d.makeDirectory ⟨root, parts.reverse⟩).2 = { d with tree := u } ∧
        d.tree.Makes u (Path.Along ⟨root, parts.reverse⟩ d.working) := by
    have proper : Path.Proper ⟨root, parts.reverse⟩ :=
      fun part hp => h part (List.mem_reverse.1 hp)
    obtain ⟨u, hu, makes⟩ := d.makeDirectory_makes proper
    exact ⟨u, hu, makes.mono fun l hl => ⟨_, rfl, List.prefix_refl _, hl⟩⟩
  induction parts generalizing d with
  | nil => exact here [] d h
  | cons part above ih =>
    have first := here (part :: above) d h
    have h' : Path.Proper ⟨root, above⟩ := fun q hq => h q (List.mem_cons_of_mem _ hq)
    unfold makeDirectoriesFrom
    dsimp only
    split
    · next hd =>
      rw [hd] at first
      exact first
    · next e d₁ hd =>
      rw [hd] at first
      split
      · -- the directory above was missing: it is made, and then this one is tried again
        obtain ⟨u₁, rfl, makes₁⟩ := first
        obtain ⟨u₂, hu₂, makes₂⟩ := ih { d with tree := u₁ } h'
        have makes₂ := makes₁.trans (makes₂.mono fun l ⟨q, hr, hq, hl⟩ =>
          ⟨q, hr, hq.trans (by simp), hl⟩)
        split
        · next ha =>
          rw [ha] at hu₂
          subst hu₂
          obtain ⟨u₃, hu₃, makes₃⟩ := here (part :: above) { d with tree := u₂ } h
          exact ⟨u₃, hu₃, makes₂.trans makes₃⟩
        · next ha =>
          rw [ha] at hu₂
          exact ⟨u₂, hu₂, makes₂⟩
      · exact first

/-- Making the directory of a path adds directories along the path at most. -/
theorem makeDirectories_makes (d : Disk) {path : Path} (h : path.Proper) :
    ∃ u, (d.makeDirectories path).2 = { d with tree := u } ∧
      d.tree.Makes u (path.Along d.working) := by
  obtain ⟨u, hu, makes⟩ := makeDirectoriesFrom_makes path.root path.parts.reverse d
    fun part hp => h part (List.mem_reverse.1 hp)
  rw [List.reverse_reverse] at makes
  exact ⟨u, hu, makes⟩

/-! ## Temporary files -/

theorem createFrom_cases (directory name : Text) (n tries : Nat) (d : Disk) :
    (∃ e, createFrom directory name n tries d = (.error e, d)) ∨
    ∃ m parent k, d.locate (inside directory (temporaryName name m)) = .ok (.entry parent k) ∧
      d.tree.node? (parent ++ [k]) = none ∧
      createFrom directory name n tries d = (.ok (inside directory (temporaryName name m)),
        { d with tree := d.tree.put (parent ++ [k]) (.file []) }) := by
  induction tries generalizing n with
  | zero => exact .inl ⟨_, rfl⟩
  | succ tries ih =>
    unfold createFrom
    dsimp only
    rcases d.change_cases (inside directory (temporaryName name n)) d.tree.create with
      ⟨e, hc⟩ | ⟨place, u, hl, hf, hc⟩
    · rw [hc]
      dsimp only
      split
      · exact ih (n + 1)
      · exact .inl ⟨e, rfl⟩
    · rw [hc]
      obtain ⟨parent, k, rfl, free, rfl⟩ := Tree.create_eq_ok.1 hf
      exact .inr ⟨n, parent, k, hl, free, rfl⟩

/-- The disk with the request for a temporary file for a path on record. -/
def requesting (d : Disk) (path : Path) : Disk :=
  d.recording .createTemporary [path.parent.text, temporaryStart path.name, temporaryEnd]

/-- Making a temporary file changes nothing, or adds a file under a name that was free. -/
theorem createTemporary_cases {path : Path} (h : path.Proper) (working : d.HasWorking) :
    (∃ e, d.createTemporary path.parent.text path.name = (.error e, d.requesting path)) ∨
    ∃ n parent, d.locate (d.temporaryPath path n).text =
        .ok (.entry parent (octets (temporaryName path.name n))) ∧
      d.tree.node? (parent ++ [octets (temporaryName path.name n)]) = none ∧
      d.createTemporary path.parent.text path.name = (.ok (d.temporaryPath path n).text,
        { d.requesting path with
          tree := d.tree.put (parent ++ [octets (temporaryName path.name n)]) (.file []) }) := by
  obtain ⟨proper, root⟩ := working.temporaryDirectory h
  have text (n : Nat) : inside (d.temporaryDirectory path).text (temporaryName path.name n) =
      (d.temporaryPath path n).text := inside_text proper root _
  unfold createTemporary
  cases hr : d.refusal? .createTemporary
      [path.parent.text, temporaryStart path.name, temporaryEnd] with
  | some refusal => exact .inl ⟨_, attempt_refused hr⟩
  | none =>
    rw [attempt_allowed hr]
    rcases createFrom_cases (d.temporaryDirectory path).text path.name 0 temporaryTries
      (d.requesting path) with ⟨e, hc⟩ | ⟨n, parent, k, hl, free, hc⟩
    · exact .inl ⟨e, hc⟩
    · rw [text] at hl hc
      obtain ⟨-, place⟩ := (working.temporaryPath h n).locate_eq_ok (d := d) hl
      have name : (d.temporaryPath path n).name = temporaryName path.name n := by
        simp [Path.name, temporaryPath, Path.child]
      obtain rfl : k = octets (temporaryName path.name n) := by
        rw [← name]
        exact Path.name_of_place place.symm
      exact .inr ⟨n, parent, hl, free, hc⟩

/-! ## Single files -/

/-- The disk with a file of some content at a location. -/
def holding (d : Disk) (l : Location) (content : Octets) : Disk :=
  { d with tree := d.tree.put l (.file content) }

theorem write_eq_ok {path : Path} {place : Place} (hl : d.locate path.text = .ok place)
    (file : d.tree.node? place.location ≠ some .directory) (content : Octets) :
    d.write path content = (.ok (), d.holding place.location content) := by
  refine change_eq_ok hl ?_
  unfold Tree.write
  split
  · next hn => exact absurd hn file
  · rfl

/-- Where one content can be written, any can be, and is then found. -/
theorem write_content {path : Path} {old : Octets} (h : (d.write path old).1 = .ok ())
    (content : Octets) : (d.write path content).1 = .ok () ∧
      (d.write path content).2.content path = .ok content := by
  rcases d.change_cases path.text (d.tree.write old) with ⟨e, hc⟩ | ⟨place, u, hl, hw, -⟩
  · rw [write, hc] at h
    cases h
  · have file : d.tree.node? place.location ≠ some .directory := by
      intro hn
      simp [Tree.write, hn] at hw
    have found : (d.holding place.location content).locate path.text = .ok place :=
      (Tree.keepsDirectories_put file).locate hl
    have there : (d.holding place.location content).tree.node? place.location =
        some (.file content) := Tree.node?_put_self (Tree.ne_nil_of_node? file)
    rw [write_eq_ok hl file]
    refine ⟨rfl, ?_⟩
    simp only [Disk.content, found, Tree.read, there, Tree.reported_ok]

/-- Renaming changes nothing, or moves the content of a file to where no directory is. -/
theorem rename_cases (d : Disk) (temporary target : Text) :
    (∃ e, d.rename temporary target = (.error e, d.recording .replace [temporary, target])) ∨
    ∃ source parent n content, d.refusal? .replace [temporary, target] = none ∧
      d.locate temporary = .ok source ∧ d.locate target = .ok (.entry parent n) ∧
      d.tree.node? source.location = some (.file content) ∧
      d.tree.node? (parent ++ [n]) ≠ some .directory ∧
      d.rename temporary target = (.ok (), { d.recording .replace [temporary, target] with
        tree := (d.tree.erase source.location).put (parent ++ [n]) (.file content) }) := by
  unfold rename
  cases hr : d.refusal? .replace [temporary, target] with
  | some refusal => exact .inl ⟨_, attempt_refused hr⟩
  | none =>
    rw [attempt_allowed hr, (recording_sameFiles d _ _).locate, (recording_sameFiles d _ _).locate]
    cases hs : d.locate temporary with
    | error e => exact .inl ⟨_, rfl⟩
    | ok source =>
      cases ht : d.locate target with
      | error e => cases e <;> exact .inl ⟨_, rfl⟩
      | ok place =>
        dsimp only
        cases hm : (d.recording .replace [temporary, target]).tree.rename source place with
        | error cause => exact .inl ⟨_, rfl⟩
        | ok u =>
          obtain ⟨parent, n, content, rfl, file, free, rfl⟩ := Tree.rename_eq_ok.1 hm
          exact .inr ⟨source, parent, n, content, rfl, rfl, rfl, file, free, rfl⟩

theorem rename_eq_ok {temporary target : Text} {source : Place} {parent : Location} {n : Octets}
    {content : Octets} (allowed : d.refusal? .replace [temporary, target] = none)
    (hs : d.locate temporary = .ok source) (ht : d.locate target = .ok (.entry parent n))
    (file : d.tree.node? source.location = some (.file content))
    (free : d.tree.node? (parent ++ [n]) ≠ some .directory) :
    (d.rename temporary target).1 = .ok () := by
  have moved := Tree.rename_eq_ok.2 ⟨parent, n, content, rfl, file, free, rfl⟩
  unfold rename
  rw [attempt_allowed allowed, (recording_sameFiles d _ _).locate,
    (recording_sameFiles d _ _).locate, hs, ht]
  simp only [(recording_sameFiles d _ _).tree, moved]

/-- Removing changes nothing, or takes away one file. -/
theorem attempt_removeEntry_cases (d : Disk) (operation : Operation) (path : Text) :
    (∃ e, d.attempt operation [path] (fun d => d.change path d.tree.removeEntry) =
      (.error e, d.recording operation [path])) ∨
    ∃ parent n content, d.refusal? operation [path] = none ∧
      d.locate path = .ok (.entry parent n) ∧
      d.tree.node? (parent ++ [n]) = some (.file content) ∧
      d.attempt operation [path] (fun d => d.change path d.tree.removeEntry) =
        (.ok (), { d.recording operation [path] with tree := d.tree.erase (parent ++ [n]) }) := by
  cases hr : d.refusal? operation [path] with
  | some refusal => exact .inl ⟨_, attempt_refused hr⟩
  | none =>
    rw [attempt_allowed hr]
    rcases (d.recording operation [path]).change_cases path
      (d.recording operation [path]).tree.removeEntry with ⟨e, hc⟩ | ⟨place, u, hl, hf, hc⟩
    · exact .inl ⟨e, hc⟩
    · obtain ⟨parent, n, content, rfl, file, rfl⟩ := Tree.removeEntry_eq_ok.1 hf
      exact .inr ⟨parent, n, content, rfl, hl, file, hc⟩

theorem attempt_removeEntry_eq_ok {operation : Operation} {path : Text} {parent : Location}
    {n content : Octets} (allowed : d.refusal? operation [path] = none)
    (hl : d.locate path = .ok (.entry parent n))
    (file : d.tree.node? (parent ++ [n]) = some (.file content)) :
    d.attempt operation [path] (fun d => d.change path d.tree.removeEntry) =
      (.ok (), { d.recording operation [path] with tree := d.tree.erase (parent ++ [n]) }) := by
  rw [attempt_allowed allowed]
  exact change_eq_ok hl (Tree.removeEntry_eq_ok.2 ⟨parent, n, content, rfl, file, rfl⟩)

theorem remove_cases (d : Disk) (path : Text) :
    (∃ e, d.remove path = (.error e, d.recording .remove [path])) ∨
    ∃ parent n content, d.refusal? .remove [path] = none ∧
      d.locate path = .ok (.entry parent n) ∧
      d.tree.node? (parent ++ [n]) = some (.file content) ∧
      d.remove path =
        (.ok (), { d.recording .remove [path] with tree := d.tree.erase (parent ++ [n]) }) :=
  d.attempt_removeEntry_cases .remove path

theorem discard_cases (d : Disk) (path : Text) :
    (∃ e, d.discard path = (.error e, d.recording .discard [path])) ∨
    ∃ parent n content, d.refusal? .discard [path] = none ∧
      d.locate path = .ok (.entry parent n) ∧
      d.tree.node? (parent ++ [n]) = some (.file content) ∧
      d.discard path =
        (.ok (), { d.recording .discard [path] with tree := d.tree.erase (parent ++ [n]) }) :=
  d.attempt_removeEntry_cases .discard path

end Disk
end Detour.Files
