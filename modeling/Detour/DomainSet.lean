import Detour.Json.Value
import Detour.Text.Digits

/-!
# Sets of domain names

A set is a list of names without repetitions. Adding a name that is present and erasing one that is
absent change nothing.
-/
namespace Detour

open Text

structure DomainSet where
  names : List Text
  nodup : names.Nodup := by simp
  deriving Repr

namespace DomainSet

/-- The members in the order of their first occurrence. -/
def distinct : List Text → List Text
  | [] => []
  | n :: r => n :: (distinct r).filter (· ≠ n)

def empty : DomainSet := { names := [] }

instance : Membership Text DomainSet := ⟨fun s n => n ∈ s.names⟩

instance (n : Text) (s : DomainSet) : Decidable (n ∈ s) := inferInstanceAs (Decidable (n ∈ s.names))

def contains (s : DomainSet) (n : Text) : Bool := n ∈ s

/-- Only a text can be a member. -/
def containsValue (s : DomainSet) : Json → Bool
  | .string n => s.contains n
  | _ => false

def insert (s : DomainSet) (n : Text) : DomainSet :=
  if h : n ∈ s.names then s else ⟨n :: s.names, List.nodup_cons.2 ⟨h, s.nodup⟩⟩

def insertAll (s : DomainSet) (names : List Text) : DomainSet := names.foldl insert s

def ofList (names : List Text) : DomainSet := empty.insertAll names

def erase (s : DomainSet) (n : Text) : DomainSet :=
  ⟨s.names.filter (· ≠ n), s.nodup.filter _⟩

/-- The set without the given names. -/
def without (s : DomainSet) (names : List Text) : DomainSet :=
  ⟨s.names.filter (· ∉ names), s.nodup.filter _⟩

/-- The given names that are present, each once, and the set without them. -/
def removeAll (s : DomainSet) (names : List Text) : List Text × DomainSet :=
  let removed := (distinct names).filter (· ∈ s)
  (removed, s.without removed)

def size (s : DomainSet) : Nat := s.names.length

def toSortedList (s : DomainSet) : List Text := sorted s.names

def display (s : DomainSet) : Text := "ConcurrentDomainSet(size=" ++ ofNat s.size ++ ")"

theorem mem_def {n : Text} {s : DomainSet} : n ∈ s ↔ n ∈ s.names := Iff.rfl

@[simp] theorem not_mem_empty (n : Text) : n ∉ empty := by simp [empty, mem_def]

@[simp] theorem mem_insert {n m : Text} {s : DomainSet} : n ∈ s.insert m ↔ n = m ∨ n ∈ s := by
  unfold insert
  split
  · next h =>
    refine ⟨Or.inr, ?_⟩
    rintro (rfl | h')
    · exact h
    · exact h'
  · simp [mem_def]

@[simp] theorem mem_erase {n m : Text} {s : DomainSet} : n ∈ s.erase m ↔ n ∈ s ∧ n ≠ m := by
  simp [mem_def, erase]

@[simp] theorem mem_without {n : Text} {s : DomainSet} {names : List Text} :
    n ∈ s.without names ↔ n ∈ s ∧ n ∉ names := by
  simp [mem_def, without]

@[simp] theorem contains_eq_true {n : Text} {s : DomainSet} : s.contains n = true ↔ n ∈ s := by
  simp [contains]

@[simp] theorem contains_eq_false {n : Text} {s : DomainSet} :
    s.contains n = false ↔ n ∉ s := by
  simp [contains]

@[simp] theorem mem_insertAll {n : Text} {s : DomainSet} {names : List Text} :
    n ∈ s.insertAll names ↔ n ∈ s ∨ n ∈ names := by
  unfold insertAll
  induction names generalizing s with
  | nil => simp
  | cons m r ih =>
    rw [List.foldl_cons, ih, mem_insert, List.mem_cons, or_comm (a := n = m), or_assoc]

@[simp] theorem mem_ofList {n : Text} {names : List Text} : n ∈ ofList names ↔ n ∈ names := by
  simp [ofList]

@[simp] theorem mem_distinct {n : Text} {names : List Text} : n ∈ distinct names ↔ n ∈ names := by
  induction names with
  | nil => simp [distinct]
  | cons m r ih =>
    by_cases h : n = m
    · simp [distinct, h]
    · simp [distinct, h, ih]

theorem mem_removeAll_fst {n : Text} {s : DomainSet} {names : List Text} :
    n ∈ (s.removeAll names).1 ↔ n ∈ names ∧ n ∈ s := by
  simp [removeAll]

@[simp] theorem mem_removeAll_snd {n : Text} {s : DomainSet} {names : List Text} :
    n ∈ (s.removeAll names).2 ↔ n ∈ s ∧ n ∉ names := by
  simp only [removeAll, mem_without, List.mem_filter, mem_distinct, decide_eq_true_eq]
  constructor
  · rintro ⟨hs, h⟩
    exact ⟨hs, fun hn => h ⟨hn, hs⟩⟩
  · rintro ⟨hs, h⟩
    exact ⟨hs, fun hn => h hn.1⟩

/-- Nothing is taken out of a set that has none of the names. -/
theorem removeAll_fst_isEmpty {s : DomainSet} {names : List Text} :
    (s.removeAll names).1.isEmpty = true ↔ ∀ n ∈ names, n ∉ s := by
  rw [List.isEmpty_iff, List.eq_nil_iff_forall_not_mem]
  simp only [mem_removeAll_fst, not_and]

theorem erase_of_not_mem {n : Text} {s : DomainSet} (h : n ∉ s) : s.erase n = s := by
  have kept : s.names.filter (· ≠ n) = s.names := by
    rw [List.filter_eq_self]
    intro m hm
    have : m ≠ n := by
      rintro rfl
      exact h hm
    simpa using this
  simp only [erase, kept]

end DomainSet
end Detour
