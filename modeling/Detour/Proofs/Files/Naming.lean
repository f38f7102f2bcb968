import Detour.Proofs.Files.Changes

/-!
# Paths that name files

A path names a file if it leads to one in some tree. Then the file system takes its text, and the
disk can always tell whether the file is there. What is done along such a path only fails for
reasons that the file system has, never because of the path.

## Main statements

* `Path.Names` — a path and the location of the file it names.
* `Path.Proper.exists?_cases` — the disk can tell whether something is there.
* `Disk.isSystem_of_makeDirectories`, `Disk.isSystem_of_createTemporary` — how operations fail.
-/
namespace Detour.Files

open Text Utf8

namespace Path

/-- The path leads to a file at the location, or would do so in another tree. -/
def Names (p : Path) (working l : Location) : Prop :=
  ∃ (t : Tree) (parent : Location) (n : Octets),
    t.locate working p.text = .ok (.entry parent n) ∧ l = parent ++ [n]

theorem Names.usable {p : Path} (h : p.Proper) {working l : Location} (names : p.Names working l) :
    p.Usable ∧ p.target? working = some l := by
  obtain ⟨t, parent, n, hl, rfl⟩ := names
  obtain ⟨usable, -, place⟩ := h.of_locate hl
  exact ⟨usable, target?_of_entry place.symm⟩

/-- The parts have octets, and none of them is null. -/
def Sendable (p : Path) : Prop := ∀ part ∈ p.parts, Encodable part ∧ 0 ∉ part

instance (p : Path) : Decidable p.Sendable :=
  inferInstanceAs (Decidable (∀ part ∈ p.parts, _ ∧ _))

theorem Sendable.parent {p : Path} (h : p.Sendable) : p.parent.Sendable :=
  fun part hp => h part (List.dropLast_subset _ hp)

theorem Proper.sent {p : Path} (h : p.Proper) (sendable : p.Sendable) :
    pathOctets p.text = .ok (octets p.text) := by
  refine pathOctets_eq_ok.2 ⟨fun c hc => ?_, fun null => ?_, rfl⟩
  · rcases mem_text hc with rfl | rfl | ⟨part, hp, hc⟩
    · decide
    · decide
    · exact (sendable part hp).1 c hc
  · have null : 0 ∈ p.text := (mem_octets_ascii h.isUnicode_text (by decide)).1 null
    rcases mem_text null with hz | hz | ⟨part, hp, hz⟩
    · cases hz
    · cases hz
    · exact (sendable part hp).2 hz

theorem Proper.sendable {p : Path} (h : p.Proper) (usable : p.Usable) : p.Sendable := by
  obtain ⟨o, sent, -, -⟩ := usable
  obtain ⟨encodable, null, rfl⟩ := pathOctets_eq_ok.1 sent
  intro part hp
  have chars (c : CodePoint) (hc : c ∈ part) : c ∈ p.text := by
    rw [← ofText_text h] at hp
    exact (mem_of_mem_splitOn (List.mem_filter.1 hp).1 c hc).1
  refine ⟨fun c hc => encodable c (chars c hc), fun hz => null ?_⟩
  exact (mem_octets_ascii h.isUnicode_text (by decide)).2 (chars 0 hz)

/-- Whether something is where a path leads can always be told. -/
theorem Proper.status_cases {p : Path} (h : p.Proper) (usable : p.Usable) (d : Disk) :
    d.status p.text = .ok none ∨
    ∃ place, d.locate p.text = .ok place ∧
      d.status p.text = .ok (d.tree.node? place.location) := by
  obtain ⟨o, sent, short, names⟩ := usable
  cases hl : d.locate p.text with
  | ok place => exact .inr ⟨place, rfl, by rw [Disk.status, hl]⟩
  | error e =>
    have walked := hl
    rw [Disk.locate, h.locate_of_sent sent, if_neg (Nat.not_le.2 short)] at walked
    cases hw : d.tree.walk (p.start d.working) p.names with
    | ok place =>
      rw [hw] at walked
      cases walked
    | error cause =>
      rw [hw] at walked
      cases walked
      rcases Tree.walk_error names hw with rfl | rfl
      · exact .inl (by rw [Disk.status, hl])
      · exact .inl (by rw [Disk.status, hl])

theorem Proper.exists?_cases {p : Path} (h : p.Proper) (usable : p.Usable) (d : Disk) :
    d.exists? p = .ok false ∨
    ∃ place, d.locate p.text = .ok place ∧
      d.exists? p = .ok (d.tree.node? place.location).isSome := by
  unfold Disk.exists?
  rcases h.status_cases usable d with hs | ⟨place, hl, hs⟩
  · exact .inl (by rw [hs]; rfl)
  · exact .inr ⟨place, hl, by rw [hs]⟩

end Path

namespace Disk

variable {d : Disk} {e : Fault}

/-! ## Faults of the file system -/

theorem isSystem_of_locate {t : Text} {o : Octets} (sent : pathOctets t = .ok o)
    (h : d.locate t = .error e) : e.isSystem = true := by
  unfold locate Tree.locate at h
  rw [sent] at h
  simp only [bind, Except.bind, Tree.reported] at h
  cases hw : d.tree.locateOctets d.working o with
  | ok place =>
    rw [hw] at h
    cases h
  | error cause =>
    rw [hw] at h
    cases h
    rfl

theorem isSystem_of_change {t : Text} {o : Octets} (sent : pathOctets t = .ok o)
    {f : Place → Except Cause Tree} (h : (d.change t f).1 = .error e) : e.isSystem = true := by
  unfold change at h
  split at h
  · next hl =>
    cases h
    exact isSystem_of_locate sent hl
  · split at h
    · cases h
      rfl
    · cases h

theorem isSystem_of_isDirectory {p : Path} (h : d.isDirectory p = .error e) :
    e.isSystem = true := by
  unfold isDirectory at h
  split at h
  · cases h
  · split at h
    · next system =>
      cases h
      exact system
    · cases h

theorem isSystem_of_makeDirectory {p : Path} {o : Octets} (sent : pathOctets p.text = .ok o)
    (h : (d.makeDirectory p).1 = .error e) : e.isSystem = true := by
  unfold makeDirectory at h
  split at h
  · cases h
  · next e' d' hc =>
    have system : e'.isSystem = true := isSystem_of_change sent (congrArg Prod.fst hc)
    rw [if_pos system] at h
    split at h
    · next hd =>
      cases h
      exact isSystem_of_isDirectory hd
    · cases h
    · cases h
      exact system

theorem isSystem_of_makeDirectoriesFrom {root : Root} {parts : List Text}
    (h : Path.Proper ⟨root, parts⟩) (sendable : Path.Sendable ⟨root, parts⟩)
    (failed : (makeDirectoriesFrom root parts d).1 = .error e) : e.isSystem = true := by
  have here {parts : List Text} {d : Disk} {e : Fault} (h : Path.Proper ⟨root, parts⟩)
      (sendable : Path.Sendable ⟨root, parts⟩)
      (failed : (d.makeDirectory ⟨root, parts.reverse⟩).1 = .error e) : e.isSystem = true := by
    have proper : Path.Proper ⟨root, parts.reverse⟩ :=
      fun part hp => h part (List.mem_reverse.1 hp)
    have sent := proper.sent fun part hp => sendable part (List.mem_reverse.1 hp)
    exact isSystem_of_makeDirectory sent failed
  induction parts generalizing d e with
  | nil => exact here h sendable failed
  | cons part above ih =>
    unfold makeDirectoriesFrom at failed
    dsimp only at failed
    split at failed
    · cases failed
    · next e' d' hd =>
      split at failed
      · split at failed
        · exact here h sendable failed
        · next ha =>
          cases failed
          exact ih (fun q hq => h q (List.mem_cons_of_mem _ hq))
            (fun q hq => sendable q (List.mem_cons_of_mem _ hq)) (congrArg Prod.fst ha)
      · cases failed
        exact here h sendable (congrArg Prod.fst hd)

theorem isSystem_of_makeDirectories {path : Path} (h : path.Proper) (sendable : path.Sendable)
    (failed : (d.makeDirectories path).1 = .error e) : e.isSystem = true := by
  have proper : Path.Proper ⟨path.root, path.parts.reverse⟩ :=
    fun part hp => h part (List.mem_reverse.1 hp)
  exact isSystem_of_makeDirectoriesFrom proper
    (fun part hp => sendable part (List.mem_reverse.1 hp)) failed

theorem isSystem_of_createFrom {directory name : Text}
    (sent : ∀ n, ∃ o, pathOctets (inside directory (temporaryName name n)) = .ok o)
    {n tries : Nat} (failed : (createFrom directory name n tries d).1 = .error e) :
    e.isSystem = true := by
  induction tries generalizing n d with
  | zero =>
    cases failed
    rfl
  | succ tries ih =>
    unfold createFrom at failed
    dsimp only at failed
    split at failed
    · cases failed
    · next hc =>
      split at failed
      · exact ih failed
      · cases failed
        obtain ⟨o, ho⟩ := sent n
        exact isSystem_of_change ho (congrArg Prod.fst hc)

/-! ## Temporary files -/

theorem HasWorking.sendable (h : d.HasWorking) : d.workingPath.Sendable := by
  intro part hp
  obtain ⟨n, hn, rfl⟩ := List.mem_map.1 hp
  have readable : Readable (decodeEscaping n) := ⟨n, rfl⟩
  obtain ⟨-, -, -, -, null⟩ := h n hn
  refine ⟨readable.encodable, fun hz => null ?_⟩
  have hz := (mem_octets_ascii readable.isUnicode (by decide)).2 hz
  rwa [(octets_decodeEscaping n).2] at hz

theorem HasWorking.sendable_temporaryPath (working : d.HasWorking) {path : Path}
    (h : path.Proper) (sendable : path.Sendable) (n : Nat) :
    (d.temporaryPath path n).Sendable := by
  intro part hp
  rcases List.mem_append.1 hp with hp | hp
  · -- a part of the directory comes from the path or from the working directory
    have hp := Path.mem_foldDots hp
    rw [Path.ofText_text h.parent] at hp
    split at hp
    · rcases List.mem_append.1 hp with hp | hp
      · exact working.sendable part hp
      · exact sendable.parent part hp
    · exact sendable.parent part hp
  · rw [List.mem_singleton.1 hp]
    have name (c : CodePoint) (hc : c ∈ path.name) :
        (isSurrogate c = true → isEscape c = true) ∧ c ≠ 0 := by
      unfold Path.name at hc
      rw [List.getLastD_eq_getLast?] at hc
      cases last : path.parts.getLast? with
      | none =>
        rw [last] at hc
        cases hc
      | some part =>
        rw [last] at hc
        obtain ⟨encodable, null⟩ := sendable part (List.mem_of_getLast? last)
        exact ⟨encodable c hc, fun e => null (e ▸ hc)⟩
    refine ⟨fun c hc => ?_, fun hz => ?_⟩
    · rcases mem_temporaryName hc with hc | ⟨-, -, ascii⟩
      · exact (name c hc).1
      · intro surrogate
        have low := (isSurrogate_iff.1 surrogate).1
        exact absurd (lt_of_le_of_lt low ascii) (by decide)
    · rcases mem_temporaryName hz with hz | ⟨-, null, -⟩
      · exact (name 0 hz).2 rfl
      · exact null rfl

theorem isSystem_of_createTemporary {path : Path} (h : path.Proper) (sendable : path.Sendable)
    (working : d.HasWorking)
    (failed : (d.createTemporary path.parent.text path.name).1 = .error e) :
    e.isSystem = true := by
  obtain ⟨proper, root⟩ := working.temporaryDirectory h
  have sent (n : Nat) : ∃ o, pathOctets (inside (d.temporaryDirectory path).text
      (temporaryName path.name n)) = .ok o := by
    rw [inside_text proper root]
    exact ⟨_, (working.temporaryPath h n).sent (working.sendable_temporaryPath h sendable n)⟩
  unfold createTemporary at failed
  cases hr : d.refusal? .createTemporary
      [path.parent.text, temporaryStart path.name, temporaryEnd] with
  | some refusal =>
    rw [attempt_refused hr] at failed
    cases failed
    rfl
  | none =>
    rw [attempt_allowed hr] at failed
    exact isSystem_of_createFrom sent failed

end Disk
end Detour.Files
