import Detour.DomainList.Storage

/-!
# Reading from a disk

Reading leaves the files alone: only the record of calls grows. So what a disk tells about a path is
the same before and after any number of reads, and reading a list ends in one of four ways.

## Main statements

* `Disk.SameFiles` — two disks that differ in their calls alone.
* `DomainList.load_cases` — how reading a list ends.
-/
namespace Detour

open Files

/-- Results that may fail are compared like what they hold. -/
instance decidableEqResult {ε α : Type} [DecidableEq ε] [DecidableEq α] : DecidableEq (Except ε α)
  | .ok a, .ok b => decidable_of_iff (a = b) (by simp)
  | .error e, .error f => decidable_of_iff (e = f) (by simp)
  | .ok _, .error _ => .isFalse (by simp)
  | .error _, .ok _ => .isFalse (by simp)

namespace Files.Tree

variable {α : Type} (path : Text)

@[simp] theorem reported_ok (a : α) : reported path (.ok a) = .ok a := rfl

@[simp] theorem reported_error (cause : Cause) :
    reported path (.error cause : Except Cause α) = .error (.system cause path none) := rfl

end Files.Tree

namespace Files.Disk

/-- The same files, seen from the same directory, under the same refusals. -/
structure SameFiles (d e : Disk) : Prop where
  tree : e.tree = d.tree
  working : e.working = d.working
  refuses : e.refuses = d.refuses

theorem SameFiles.refl (d : Disk) : SameFiles d d := ⟨rfl, rfl, rfl⟩

theorem SameFiles.trans {d e f : Disk} (h : SameFiles d e) (g : SameFiles e f) : SameFiles d f :=
  ⟨g.tree.trans h.tree, g.working.trans h.working, g.refuses.trans h.refuses⟩

theorem SameFiles.locate {d e : Disk} (h : SameFiles d e) (path : Text) :
    e.locate path = d.locate path := by
  simp only [Disk.locate, h.tree, h.working]

theorem SameFiles.status {d e : Disk} (h : SameFiles d e) (path : Text) :
    e.status path = d.status path := by
  simp only [Disk.status, h.locate, h.tree]

theorem SameFiles.exists? {d e : Disk} (h : SameFiles d e) (path : Path) :
    e.exists? path = d.exists? path := by
  simp only [Disk.exists?, h.status]

theorem SameFiles.content {d e : Disk} (h : SameFiles d e) (path : Path) :
    e.content path = d.content path := by
  simp only [Disk.content, h.locate, h.tree]

/-- The disk with one more call on record. -/
def recording (d : Disk) (operation : Operation) (arguments : List Text) : Disk :=
  { d with calls := ⟨operation, arguments⟩ :: d.calls }

theorem recording_sameFiles (d : Disk) (operation : Operation) (arguments : List Text) :
    SameFiles d (d.recording operation arguments) := ⟨rfl, rfl, rfl⟩

/-- Why the next call would be refused, if it is of this kind. -/
def refusal? (d : Disk) (operation : Operation) (arguments : List Text) : Option Refusal :=
  d.refuses (⟨operation, arguments⟩ :: d.calls)

section Attempts

variable {α : Type} {d : Disk} {operation : Operation} {arguments : List Text}
  {f : Disk → Except Fault α × Disk}

theorem attempt_refused {refusal : Refusal} (h : d.refusal? operation arguments = some refusal) :
    d.attempt operation arguments f =
      (.error (.refused refusal), d.recording operation arguments) := by
  simp only [refusal?] at h
  simp only [attempt, consult, h, recording]

theorem attempt_allowed (h : d.refusal? operation arguments = none) :
    d.attempt operation arguments f = f (d.recording operation arguments) := by
  simp only [refusal?] at h
  simp only [attempt, consult, h, recording]

end Attempts

theorem read_refused {d : Disk} {path : Path} {refusal : Refusal}
    (h : d.refusal? .openFile [path.text] = some refusal) :
    d.read path = (.error (.refused refusal), d.recording .openFile [path.text]) :=
  attempt_refused h

theorem read_allowed {d : Disk} {path : Path} (h : d.refusal? .openFile [path.text] = none) :
    d.read path = (d.content path, d.recording .openFile [path.text]) := by
  unfold read
  rw [attempt_allowed h, (recording_sameFiles d _ _).content]

theorem read_sameFiles (d : Disk) (path : Path) : SameFiles d (d.read path).2 := by
  cases h : d.refusal? .openFile [path.text] with
  | some refusal => exact read_refused h ▸ recording_sameFiles d _ _
  | none => exact read_allowed h ▸ recording_sameFiles d _ _

/-- What is there is found. -/
theorem locate_of_exists {d : Disk} {path : Path} (h : d.exists? path = .ok true) :
    ∃ place node, d.locate path.text = .ok place ∧ d.tree.node? place.location = some node := by
  unfold exists? status at h
  cases hl : d.locate path.text with
  | ok place =>
    rw [hl] at h
    obtain ⟨node, hn⟩ := Option.isSome_iff_exists.1 (Except.ok.inj h)
    exact ⟨place, node, rfl, hn⟩
  | error e =>
    rw [hl] at h
    cases e with
    | system cause p t => cases cause <;> simp [Fault.isSystem] at h
    | _ => simp [Fault.isSystem] at h

/-- What is there can only fail to be read for a reason of the file system. -/
theorem isSystem_of_content_error {d : Disk} {path : Path} {e : Fault}
    (there : d.exists? path = .ok true) (h : d.content path = .error e) : e.isSystem = true := by
  obtain ⟨place, node, hl, -⟩ := locate_of_exists there
  unfold content at h
  rw [hl] at h
  cases hr : d.tree.read place with
  | ok octets => simp [hr] at h
  | error cause =>
    simp only [hr, Tree.reported_error, Except.error.injEq] at h
    subst h
    rfl

theorem isSystem_of_read_error {d : Disk} {path : Path} {e : Fault}
    (there : d.exists? path = .ok true) (h : (d.read path).1 = .error e) : e.isSystem = true := by
  cases hr : d.refusal? .openFile [path.text] with
  | some refusal =>
    rw [read_refused hr] at h
    cases h
    rfl
  | none =>
    rw [read_allowed hr] at h
    exact isSystem_of_content_error there h

end Files.Disk

namespace DomainList

/-- Reading a list fails where the disk cannot tell whether there is one, gives nothing where there
is none, and else gives the names in the file or a reported failure. -/
theorem load_cases (path : Path) (d : Disk) :
    (∃ e, d.exists? path = .error e ∧ (load path d).1 = .error (.escaped e)) ∨
    (d.exists? path = .ok false ∧ (load path d).1 = .ok []) ∨
    (d.exists? path = .ok true ∧
      ∃ content, (d.read path).1 = .ok content ∧ (load path d).1 = .ok (decode content)) ∨
    (d.exists? path = .ok true ∧
      ∃ e, (d.read path).1 = .error e ∧ (load path d).1 = .error (.unreadable path e)) := by
  unfold load
  match he : d.exists? path with
  | .error e => exact .inl ⟨e, rfl, rfl⟩
  | .ok false => exact .inr (.inl ⟨rfl, rfl⟩)
  | .ok true =>
    refine .inr (.inr ?_)
    cases hr : d.read path with
    | mk r d' =>
      cases r with
      | ok content => exact .inl ⟨rfl, content, rfl, rfl⟩
      | error e =>
        have system := Disk.isSystem_of_read_error he (e := e) (by rw [hr])
        exact .inr ⟨rfl, e, rfl, by simp [system]⟩

theorem load_sameFiles (path : Path) (d : Disk) : Disk.SameFiles d (load path d).2 := by
  have same := Disk.read_sameFiles d path
  unfold load
  split
  · exact .refl d
  · exact .refl d
  · split <;> next h => exact (h ▸ same :)

end DomainList
end Detour
