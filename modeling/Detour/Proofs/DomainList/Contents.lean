import Detour.DomainSet
import Detour.Proofs.DomainList.Debris
import Detour.Proofs.DomainList.Encoding
import Detour.Proofs.Files.Naming

/-!
# Lists and their files

The file of a list holds a set if reading the list gives the names of the set; if there is no file,
the set is empty. Storing a set without fault makes the file hold it, and changes no file but that
one, as long as the other file is neither passed on the way nor called like a temporary file.

## Main statements

* `DomainList.Holds` — the file of a list holds a set.
* `DomainList.Holds.load_eq` — then reading the list gives the names of the set.
* `DomainList.store_keeps` — what storing leaves alone, whether or not it succeeds.
* `DomainList.holds_store`, `DomainList.Holds.store_other` — what storing does to files.
* `DomainList.isReported_of_store` — storing to a path that can be sent never fails unreported.
-/
namespace Detour.DomainList

open Files Text Utf8 Disk

/-- The file that the path names has the names of the set, or it is missing and the set is empty. -/
inductive Holds (path : Path) (s : DomainSet) (d : Disk) : Prop
  | file {l : Location} {content : Octets} (leads : LeadsTo path d l)
      (there : d.tree.node? l = some (.file content)) (same : ∀ n, n ∈ decode content ↔ n ∈ s)
  | missing (absent : ∀ l, path.target? d.working = some l → d.tree.node? l = none)
      (empty : ∀ n, n ∉ s)

/-- The file that the path names can be read, or it is missing. -/
def ReadableOrMissing (path : Path) (d : Disk) : Prop :=
  (∃ content, d.content path = .ok content) ∨
    ∀ l, path.target? d.working = some l → d.tree.node? l = none

section Reading

variable {path : Path} {s : DomainSet} {d : Disk}

theorem leadsTo_of_target {place : Place} {l : Location} (h : path.Proper)
    (hl : d.locate path.text = .ok place) (target : path.target? d.working = some l) :
    LeadsTo path d l := by
  obtain ⟨parent, hp, rfl⟩ := Path.exists_entry_of_target? target
  obtain ⟨-, same⟩ := h.locate_eq_ok hl
  exact ⟨place, hl, target, by rw [same, hp]; rfl⟩

theorem ReadableOrMissing.holds {l : Location} (h : path.Proper)
    (target : path.target? d.working = some l) (found : ReadableOrMissing path d) :
    ∃ s, Holds path s d := by
  rcases found with ⟨content, hc⟩ | absent
  · refine ⟨.ofList (decode content), ?_⟩
    unfold Disk.content at hc
    cases hl : d.locate path.text with
    | error e =>
      rw [hl] at hc
      cases hc
    | ok place =>
      obtain ⟨place', hl', same, rfl⟩ := leadsTo_of_target h hl target
      obtain rfl := Except.ok.inj (hl.symm.trans hl')
      simp only [hl, Tree.read] at hc
      cases there : d.tree.node? place.location with
      | none => simp [there] at hc
      | some node =>
        cases node with
        | directory => simp [there] at hc
        | file old =>
          obtain rfl : old = content := by simpa [there] using hc
          exact .file ⟨place, hl, target, rfl⟩ there fun n => DomainSet.mem_ofList.symm
  · exact ⟨.empty, .missing absent DomainSet.not_mem_empty⟩

theorem readableOrMissing_of_absent {l : Location} (target : path.target? d.working = some l)
    (absent : d.tree.node? l = none) : ReadableOrMissing path d := by
  refine .inr fun m hm => ?_
  obtain rfl := Option.some.inj (target.symm.trans hm)
  exact absent

theorem Holds.congr {s' : DomainSet} (h : Holds path s d) (same : ∀ n, n ∈ s ↔ n ∈ s') :
    Holds path s' d := by
  cases h with
  | file leads there hs => exact .file leads there fun n => (hs n).trans (same n)
  | missing absent empty => exact .missing absent fun n hn => empty n ((same n).2 hn)

/-- What a file holds survives in a file. -/
theorem Holds.storable (h : Holds path s d) : ∀ n ∈ s, Storable n := by
  intro n hn
  cases h with
  | file leads there same => exact storable_of_mem_decode ((same n).2 hn)
  | missing absent empty => exact absurd hn (empty n)

/-- Reading a list gives the names of the set that its file holds. -/
theorem Holds.load_eq {l : Location} (holds : Holds path s d) (h : path.Proper)
    (usable : path.Usable) (target : path.target? d.working = some l)
    (opened : d.refusal? .openFile [path.text] = none) :
    ∃ names, (load path d).1 = .ok names ∧ ∀ n, n ∈ names ↔ n ∈ s := by
  cases holds with
  | file leads there same =>
    refine ⟨_, ?_, same⟩
    have content := leads.content there
    obtain ⟨place, hl, -, rfl⟩ := leads
    have found : d.exists? path = .ok true := by
      rw [exists?, status, hl]
      simp [there]
    have read := read_allowed opened
    rw [content] at read
    rw [load, found]
    dsimp only
    rw [read]
  | missing absent empty =>
    refine ⟨[], ?_, fun n => by simp [empty n]⟩
    have gone : d.exists? path = .ok false := by
      rcases h.exists?_cases usable d with hf | ⟨place, hl, he⟩
      · exact hf
      · obtain ⟨place', hl', -, same⟩ := leadsTo_of_target h hl target
        obtain rfl := Except.ok.inj (hl.symm.trans hl')
        rw [he, same, absent l target]
        rfl
    rw [load, gone]

end Reading

/-! ## Frames -/

section Frames

variable {path other : Path} {s : DomainSet} {d : Disk}

/-- A file goes on holding its set if no directory goes away and nobody touches it. -/
theorem Holds.keeps (h : Holds path s d) {u : Tree} (kept : d.tree.KeepsDirectories u)
    (same : ∀ l, path.target? d.working = some l → u.node? l = d.tree.node? l)
    (calls : List Call) : Holds path s { d with tree := u, calls } := by
  cases h with
  | file leads there hs =>
    have target := leads
    obtain ⟨-, -, target, -⟩ := target
    exact .file (leads.keeps kept calls) ((same _ target).trans there) hs
  | missing absent empty =>
    exact .missing (fun l hl => (same l hl).trans (absent l hl)) empty

theorem Holds.sameFiles {e : Disk} (h : Holds path s d) (same : d.SameFiles e) :
    Holds path s e := by
  obtain ⟨tree, working, calls, refuses⟩ := e
  obtain ⟨rfl, rfl, rfl⟩ := same
  exact h.keeps (fun l hl => hl) (fun l _ => rfl) calls

/-- A location that storing a list does not touch: it is not the file of the list, no directory that
may be made for it, and not called like a temporary file for it. -/
structure Spares (other : Path) (working l : Location) : Prop where
  different : other.target? working ≠ some l
  notPassed : l ∉ other.way working
  notTemporary : ¬ IsTemporary other.name l

/-- The directories along the parent of a path are passed on the way. -/
theorem mem_way_of_along {working l : Location} (h : path.parent.Along working l) :
    l ∈ path.way working := by
  obtain ⟨q, root, ⟨more, hq⟩, target⟩ := h
  obtain ⟨parent, hp, rfl⟩ := Path.exists_entry_of_target? target
  have start : q.start working = path.start working := by
    unfold Path.start
    rw [root]
    rfl
  by_cases parts : path.parts = []
  · -- a path without parts names nothing
    have none : q.parts = [] := by
      have hq : q.parts ++ more = path.parts.dropLast := hq
      rw [parts, List.dropLast_nil] at hq
      exact (List.append_eq_nil_iff.1 hq).1
    rw [Path.place, Path.names, none] at hp
    cases hp
  · have whole : path.names = q.names ++ (more ++ [path.parts.getLast parts]).map octets := by
      have hq : q.parts ++ more = path.parts.dropLast := hq
      rw [Path.names, Path.names, ← List.map_append, ← List.append_assoc, hq,
        List.dropLast_append_getLast]
    rw [Path.place, start] at hp
    rw [Path.way, whole]
    exact Tree.mem_way_of_destination hp (by simp)

/-- Storing a list keeps all directories, and changes no location but its own file, the directories
that are made for it and, unless it succeeds, a free name that is called like a temporary file. -/
theorem store_keeps (h : other.Proper) (working : d.HasWorking) (names : List Text) :
    ∃ u calls, (store other names d).2 = { d with tree := u, calls } ∧
      d.tree.KeepsDirectories u ∧
      ∀ l, other.target? d.working ≠ some l → l ∉ other.way d.working →
        (d.tree.node? l = none → IsTemporary other.name l → (store other names d).1 = .ok ()) →
        u.node? l = d.tree.node? l := by
  obtain ⟨u, calls, hd, kept, frame⟩ := store_frame h working names
  refine ⟨u, calls, hd, kept, fun l apart passed done => ?_⟩
  rcases frame l apart fun free isTemp => .inl (done free isTemp) with same | ⟨-, -, along⟩
  · exact same
  · exact absurd (mem_way_of_along along) passed

/-- Storing a list keeps all directories and whatever it spares. -/
theorem store_spares (h : other.Proper) (working : d.HasWorking) (names : List Text) :
    ∃ u calls, (store other names d).2 = { d with tree := u, calls } ∧
      d.tree.KeepsDirectories u ∧
      ∀ l, Spares other d.working l → u.node? l = d.tree.node? l := by
  obtain ⟨u, calls, hd, kept, same⟩ := store_keeps h working names
  exact ⟨u, calls, hd, kept, fun l spared => same l spared.different spared.notPassed
    fun _ isTemp => absurd isTemp spared.notTemporary⟩

/-- Storing a list without fault leaves no temporary file behind, so it only changes its own file
and the directories that are made for it. -/
theorem store_done_spares (h : other.Proper) (working : d.HasWorking) {names : List Text}
    (done : (store other names d).1 = .ok ()) :
    ∃ u calls, (store other names d).2 = { d with tree := u, calls } ∧
      d.tree.KeepsDirectories u ∧
      ∀ l, other.target? d.working ≠ some l → l ∉ other.way d.working →
        u.node? l = d.tree.node? l := by
  obtain ⟨u, calls, hd, kept, same⟩ := store_keeps h working names
  exact ⟨u, calls, hd, kept, fun l apart passed => same l apart passed fun _ _ => done⟩

/-- Storing one list does not change what the file of another holds. -/
theorem Holds.store_other (holds : Holds path s d) (h : other.Proper) (working : d.HasWorking)
    (spared : ∀ l, path.target? d.working = some l → Spares other d.working l)
    (names : List Text) : Holds path s (store other names d).2 := by
  obtain ⟨u, calls, hd, kept, same⟩ := store_spares h working names
  rw [hd]
  exact holds.keeps kept (fun l hl => same l (spared l hl)) calls

/-- Storing one list without fault does not change what the file of another holds, even if that is
called like a temporary file. -/
theorem Holds.store_done_other (holds : Holds path s d) (h : other.Proper) (working : d.HasWorking)
    (apart : ∀ l, path.target? d.working = some l →
      other.target? d.working ≠ some l ∧ l ∉ other.way d.working)
    {names : List Text} (done : (store other names d).1 = .ok ()) :
    Holds path s (store other names d).2 := by
  obtain ⟨u, calls, hd, kept, same⟩ := store_done_spares h working done
  rw [hd]
  exact holds.keeps kept (fun l hl => same l (apart l hl).1 (apart l hl).2) calls

end Frames

/-! ## Storing -/

section Storing

variable {path : Path} {s : DomainSet} {d : Disk}

/-- A set that was stored without fault is what the file holds. -/
theorem holds_store (h : path.Proper) (working : d.HasWorking) (storable : ∀ n ∈ s, Storable n)
    (done : (store path s.names d).1 = .ok ()) : Holds path s (store path s.names d).2 := by
  obtain ⟨l, content, encoded, leads, there⟩ := leadsTo_of_store h working done
  obtain ⟨content', encoded', decoded⟩ := decode_encode storable
  obtain rfl := Except.ok.inj (encoded.symm.trans encoded')
  refine .file leads there fun n => ?_
  rw [decoded, mem_sorted]
  exact DomainSet.mem_def.symm

theorem isSystem_of_prepare {e : Files.Fault} (h : path.Proper) (sendable : path.Sendable)
    (working : d.HasWorking) (failed : (prepare path d).1 = .error e) : e.isSystem = true := by
  obtain ⟨made, hd, -⟩ := d.makeDirectories_makes h.parent
  unfold prepare at failed
  split at failed
  · next hm =>
    cases failed
    exact isSystem_of_makeDirectories h.parent sendable.parent (congrArg Prod.fst hm)
  · next d' hm =>
    rw [hm] at hd
    subst hd
    have working' : HasWorking { d with tree := made } := working
    exact isSystem_of_createTemporary h sendable working' failed

/-- Where the path has octets that are not null, a failure to store is always reported as one of the
list. -/
theorem isReported_of_store {names : List Text} {f : Fault} (h : path.Proper)
    (sendable : path.Sendable) (working : d.HasWorking)
    (failed : (store path names d).1 = .error f) : f.isReported = true := by
  unfold store at failed
  split at failed
  · next e d' hp =>
    have system := isSystem_of_prepare h sendable working (congrArg Prod.fst hp)
    rw [if_pos system] at failed
    cases failed
    rfl
  · split at failed
    · cases failed
    · cases failed
      rfl

end Storing

end Detour.DomainList
