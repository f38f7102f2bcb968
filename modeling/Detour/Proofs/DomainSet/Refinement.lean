import Detour.DomainSet
import Detour.Proofs.DomainList.Rereading
import Mathlib.Data.Finset.Card
import Mathlib.Data.Finset.SDiff

/-!
# Sets of names as mathematical sets

A set of names is held as a list, but nothing that it answers depends on how it came about: after
any changes it answers as the finite set that the same unions and differences make. What is taken
out comes in the order in which the names were first asked for, and something is taken out just if
the set is another one afterwards.

## Main definitions

* `DomainSet.Change` — what can be done to a set, as a union or a difference.
* `DomainSet.members` — the finite set that is held.

## Main statements

* `DomainSet.members_after`, `DomainSet.members_run` — one change, and any changes.
* `DomainSet.removeAll_pairwise` — the order of what is taken out.
* `DomainSet.run_answers` — what a set answers after any changes.
-/
namespace Detour.DomainSet

open Text

/-! ## Changes -/

inductive Change
  | add (name : Text)
  | addAll (names : List Text)
  | delete (name : Text)
  | discardAll (names : List Text)

def after (s : DomainSet) : Change → DomainSet
  | .add name => s.insert name
  | .addAll names => s.insertAll names
  | .delete name => s.erase name
  | .discardAll names => (s.removeAll names).2

def run (s : DomainSet) (changes : List Change) : DomainSet := changes.foldl after s

/-- A change of a mathematical set. -/
def Change.on (m : Finset Text) : Change → Finset Text
  | .add name => m ∪ {name}
  | .addAll names => m ∪ names.toFinset
  | .delete name => m \ {name}
  | .discardAll names => m \ names.toFinset

def members (s : DomainSet) : Finset Text := ⟨s.names, s.nodup⟩

variable {s : DomainSet}

@[simp] theorem mem_members {n : Text} : n ∈ s.members ↔ n ∈ s := Iff.rfl

@[simp] theorem members_ofList (names : List Text) : (ofList names).members = names.toFinset := by
  ext n
  simp

/-- A change does to the members what it does to a mathematical set. -/
theorem members_after (s : DomainSet) (c : Change) : (s.after c).members = c.on s.members := by
  ext n
  cases c with
  | add name => simp [after, Change.on]
  | addAll names => simp [after, Change.on]
  | delete name => simp [after, Change.on]
  | discardAll names => simp [after, Change.on]

theorem members_run (s : DomainSet) (changes : List Change) :
    (s.run changes).members = changes.foldl Change.on s.members := by
  induction changes generalizing s with
  | nil => rfl
  | cons c rest ih =>
    calc (s.run (c :: rest)).members = ((s.after c).run rest).members := rfl
      _ = rest.foldl Change.on (s.after c).members := ih (s.after c)
      _ = (c :: rest).foldl Change.on s.members := by rw [members_after, List.foldl_cons]

/-! ## Lists of members -/

/-- A list has every member of a set once, in some order. -/
structure Enumerates (l : List Text) (m : Finset Text) : Prop where
  nodup : l.Nodup
  mem_iff : ∀ n, n ∈ l ↔ n ∈ m
  length_eq : l.length = m.card

theorem Enumerates.of_toFinset {l : List Text} {m : Finset Text} (nodup : l.Nodup)
    (h : l.toFinset = m) : Enumerates l m := by
  subst h
  exact ⟨nodup, fun n => List.mem_toFinset.symm, (List.toFinset_card_of_nodup nodup).symm⟩

theorem enumerates_names (s : DomainSet) : Enumerates s.names s.members :=
  ⟨s.nodup, fun _ => Iff.rfl, rfl⟩

theorem Enumerates.perm {l l' : List Text} {m : Finset Text} (h : Enumerates l m)
    (same : l'.Perm l) : Enumerates l' m :=
  ⟨same.nodup_iff.2 h.nodup, fun n => same.mem_iff.trans (h.mem_iff n),
    same.length_eq.trans h.length_eq⟩

theorem enumerates_toSortedList (s : DomainSet) : Enumerates s.toSortedList s.members :=
  s.enumerates_names.perm (sorted_perm s.names)

/-! ## What is taken out -/

/-- The distinct members of a list come in the order of their first occurrence in it. -/
theorem pairwise_distinct (l : List Text) :
    (distinct l).Pairwise fun a b => l.idxOf a < l.idxOf b := by
  induction l with
  | nil => exact .nil
  | cons n r ih =>
    -- a name other than the first one is found one place later than in the rest
    have later {a : Text} (h : a ≠ n) : (n :: r).idxOf a = r.idxOf a + 1 :=
      List.idxOf_cons_ne r h.symm
    refine List.pairwise_cons.2 ⟨fun b hb => ?_, ?_⟩
    · have other : b ≠ n := by simpa using (List.mem_filter.1 hb).2
      rw [List.idxOf_cons_self, later other]
      exact Nat.succ_pos _
    · refine (ih.filter _).imp_of_mem fun {a b} ha hb before => ?_
      have first : a ≠ n := by simpa using (List.mem_filter.1 ha).2
      have second : b ≠ n := by simpa using (List.mem_filter.1 hb).2
      rw [later first, later second]
      exact Nat.succ_lt_succ before

theorem removeAll_pairwise (s : DomainSet) (names : List Text) :
    (s.removeAll names).1.Pairwise fun a b => names.idxOf a < names.idxOf b :=
  (pairwise_distinct names).filter _

/-- What is taken out are the members that are gone. -/
theorem enumerates_removeAll (s : DomainSet) (names : List Text) :
    Enumerates (s.removeAll names).1
      (s.members \ (s.after (.discardAll names)).members) := by
  refine .of_toFinset ?_ ?_
  · exact (removeAll_pairwise s names).imp fun before => by
      rintro rfl
      exact Nat.lt_irrefl _ before
  · ext n
    rw [members_after]
    simp [mem_removeAll_fst, Change.on, and_comm]

/-- Nothing is taken out just if the set stays the same. -/
theorem removeAll_eq_nil_iff (s : DomainSet) (names : List Text) :
    (s.removeAll names).1 = [] ↔ (s.after (.discardAll names)).members = s.members := by
  rw [← List.length_eq_zero_iff, (enumerates_removeAll s names).length_eq, Finset.card_eq_zero,
    Finset.sdiff_eq_empty_iff_subset, members_after]
  exact ⟨fun kept => Finset.Subset.antisymm Finset.sdiff_subset kept, fun same => same.ge⟩

/-! ## What a set answers -/

/-- After any changes, a set that was made from any names answers as the finite set that the same
unions and differences make of these names: for a name, for a value of any type, for its size and
for its members. What is asked to be discarded then is taken out if it is there, each name once and
in the order of first occurrence, and nothing is taken out just if nothing changes. -/
theorem run_answers (names : List Text) (changes : List Change) :
    let s := (ofList names).run changes
    let m := changes.foldl Change.on names.toFinset
    (∀ n, s.contains n = true ↔ n ∈ m) ∧
    (∀ v, s.containsValue v = true ↔ ∃ n ∈ m, v = .string n) ∧
    s.size = m.card ∧
    (Enumerates s.names m ∧ Enumerates s.toSortedList m) ∧
    ∀ asked, ∃ removed s', s.removeAll asked = (removed, s') ∧
      s'.members = m \ asked.toFinset ∧
      Enumerates removed (m \ s'.members) ∧
      removed.Pairwise (fun a b => asked.idxOf a < asked.idxOf b) ∧
      (removed = [] ↔ s'.members = m) := by
  intro s m
  have same : s.members = m := by
    rw [members_run, members_ofList]
  have has (n : Text) : s.contains n = true ↔ n ∈ m := by
    rw [contains_eq_true, ← same, mem_members]
  refine ⟨has, fun v => ?_, ?_, ⟨?_, ?_⟩, fun asked => ?_⟩
  · cases v with
    | string n => simp [containsValue, has]
    | _ => simp [containsValue]
  · rw [← same]
    rfl
  · exact same ▸ s.enumerates_names
  · exact same ▸ s.enumerates_toSortedList
  · refine ⟨_, _, rfl, ?_, ?_, s.removeAll_pairwise asked, ?_⟩
    · exact same ▸ s.members_after (.discardAll asked)
    · exact same ▸ s.enumerates_removeAll asked
    · exact same ▸ s.removeAll_eq_nil_iff asked

end Detour.DomainSet
