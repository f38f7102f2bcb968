import Detour.Proofs.Files.Reading
import Detour.Proofs.Text.Utf8
import Mathlib.Tactic.Common

/-!
# Where paths lead

The names of a path decide where it can lead; the files only decide whether it does. So a path goes
on leading to its place as long as no directory goes away.

## Main statements

* `Tree.destination`, `Tree.way` — the place that names lead to, and the directories they pass.
* `Tree.walk_eq_ok` — following names goes through if all they pass are directories.
* `Tree.KeepsDirectories.locate` — a path that leads somewhere goes on doing so.
-/
namespace Detour.Files

open Text Utf8

/-! ## Nodes -/

namespace Tree

variable {t u : Tree} {l m : Location} {n : Node}

theorem node?_put_self (h : l ≠ []) : (t.put l n).node? l = some n := by
  simp [node?, put, h]

theorem node?_put_of_ne (h : m ≠ l) : (t.put l n).node? m = t.node? m := by
  unfold node? put
  split
  · rfl
  · exact Table.get?_put_of_ne h n t.nodes

theorem node?_erase_self (h : l ≠ []) : (t.erase l).node? l = none := by
  simp [node?, erase, h]

theorem node?_erase_of_ne (h : m ≠ l) : (t.erase l).node? m = t.node? m := by
  unfold node? erase
  split
  · rfl
  · exact Table.get?_erase_of_ne h t.nodes

/-- The content of the file at a location, if there is one. -/
def file? (t : Tree) (l : Location) : Option Octets :=
  match t.node? l with
  | some (.file content) => some content
  | _ => none

theorem file?_congr (h : u.node? l = t.node? l) : u.file? l = t.file? l := by
  rw [file?, file?, h]

/-! ## Names -/

/-- Where names lead from a directory if all goes well. -/
def destination (here : Location) : List Octets → Place
  | [] => .directory here
  | name :: rest =>
    if name = [46] then destination here rest
    else if name = [46, 46] then destination here.dropLast rest
    else match rest with
      | [] => .entry here name
      | _ => destination (here ++ [name]) rest

/-- The locations that names pass on their way from a directory. -/
def way (here : Location) : List Octets → List Location
  | [] => []
  | name :: rest =>
    if name = [46] then way here rest
    else if name = [46, 46] then way here.dropLast rest
    else match rest with
      | [] => []
      | _ => (here ++ [name]) :: way (here ++ [name]) rest

/-- Names lead to their destination if none is too long and all they pass are directories. -/
theorem walk_eq_ok {here : Location} {names : List Octets} {p : Place} :
    t.walk here names = .ok p ↔
      (∀ n ∈ names, n.length ≤ nameLimit) ∧
      (∀ l ∈ way here names, t.node? l = some .directory) ∧ p = destination here names := by
  have dots : 1 ≤ nameLimit ∧ 2 ≤ nameLimit := by decide
  induction names generalizing here with
  | nil => simp [walk, way, destination, eq_comm]
  | cons name rest ih =>
    unfold walk way destination
    by_cases one : name = [46]
    · subst one
      simp [ih, dots.1]
    by_cases two : name = [46, 46]
    · subst two
      simp [ih, dots.2]
    rw [if_neg one, if_neg two, if_neg one, if_neg two, if_neg one, if_neg two]
    by_cases long : nameLimit < name.length
    · rw [if_pos long]
      simp [Nat.not_le.2 long]
    rw [if_neg long]
    cases rest with
    | nil => simp [Nat.not_lt.1 long, eq_comm]
    | cons next rest =>
      dsimp only
      cases hn : t.node? (here ++ [name]) with
      | none => simp [hn]
      | some node =>
        cases node with
        | file content => simp [hn]
        | directory =>
          refine (@ih (here ++ [name])).trans ?_
          simp [hn, Nat.not_lt.1 long]

/-- If no name is too long, names can only miss their destination because something on the way is
missing or is no directory. -/
theorem walk_error {here : Location} {names : List Octets} {cause : Cause}
    (short : ∀ n ∈ names, n.length ≤ nameLimit) (h : t.walk here names = .error cause) :
    cause = .noEntry ∨ cause = .notDirectory := by
  induction names generalizing here with
  | nil => cases h
  | cons name rest ih =>
    have ih {here : Location} := @ih here fun n hn => short n (List.mem_cons_of_mem _ hn)
    unfold walk at h
    rw [if_neg (Nat.not_lt.2 (short name List.mem_cons_self))] at h
    split at h
    · exact ih h
    split at h
    · exact ih h
    split at h
    · cases h
    · split at h
      · exact .inl (Except.error.inj h).symm
      · exact .inr (Except.error.inj h).symm
      · exact ih h

/-- What an entry is called is the last of the names that lead to it. -/
theorem getLast?_of_destination {here parent : Location} {names : List Octets} {n : Octets}
    (h : destination here names = .entry parent n) : names.getLast? = some n := by
  induction names generalizing here with
  | nil => cases h
  | cons name rest ih =>
    have next {here : Location} (h : destination here rest = .entry parent n) :
        (name :: rest).getLast? = some n := by
      rw [List.getLast?_cons, ih h]
      rfl
    unfold destination at h
    split at h
    · exact next h
    split at h
    · exact next h
    split at h
    · cases h
      rfl
    · exact next h

/-- A part of the names leads to a location that all of them pass. -/
theorem mem_way_of_destination {here parent : Location} {names more : List Octets} {n : Octets}
    (h : destination here names = .entry parent n) (hm : more ≠ []) :
    parent ++ [n] ∈ way here (names ++ more) := by
  induction names generalizing here with
  | nil => cases h
  | cons name rest ih =>
    unfold destination at h
    rw [List.cons_append, way.eq_def]
    dsimp only
    split at h
    · next one =>
      rw [if_pos one]
      exact ih h
    next one =>
    rw [if_neg one]
    split at h
    · next two =>
      rw [if_pos two]
      exact ih h
    next two =>
    rw [if_neg two]
    obtain ⟨next, others, hr⟩ := List.exists_cons_of_ne_nil
      (show rest ++ more ≠ [] by simp [hm])
    simp only [hr]
    rw [← hr]
    split at h
    · cases h
      exact List.mem_cons_self
    · exact List.mem_cons_of_mem _ (ih h)

/-- No directory goes away. -/
def KeepsDirectories (t u : Tree) : Prop :=
  ∀ l, t.node? l = some .directory → u.node? l = some .directory

theorem KeepsDirectories.walk {here : Location} {names : List Octets} {p : Place}
    (h : KeepsDirectories t u) (hw : t.walk here names = .ok p) : u.walk here names = .ok p := by
  obtain ⟨short, passed, hp⟩ := walk_eq_ok.1 hw
  exact walk_eq_ok.2 ⟨short, fun l hl => h l (passed l hl), hp⟩

theorem KeepsDirectories.locate {working : Location} {path : Text} {p : Place}
    (h : KeepsDirectories t u) (hl : t.locate working path = .ok p) :
    u.locate working path = .ok p := by
  unfold Tree.locate at hl ⊢
  cases ho : pathOctets path with
  | error f =>
    rw [ho] at hl
    cases hl
  | ok o =>
    rw [ho] at hl
    simp only [bind, Except.bind, reported, locateOctets] at hl ⊢
    split at hl
    · cases hl
    next nonempty =>
    split at hl
    · cases hl
    next short =>
    rw [if_neg nonempty, if_neg short]
    cases hw : t.walk (if o.head? = some 47 then [] else working) (names o) with
    | error cause =>
      rw [hw] at hl
      cases hl
    | ok q =>
      rw [hw] at hl
      rw [h.walk hw]
      exact hl

end Tree
end Detour.Files
