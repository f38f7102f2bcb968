import Detour.Proofs.Log.History
import Detour.Proofs.Log.Outline

/-!
# What is logged about failures

Errors are accepted at any level. The data about a failure are texts under names of their own, none
of which is sensitive, so that they are logged as they are.

## Main definitions

* `Logger.failureNames` — the names in the data about a failure.

## Main statements

* `Logger.mem_failureMembers` — the data about a failure.
* `Logger.entryOf_plain`, `Logger.entryOf_failureMessage` — nothing is masked.
* `Logger.accepted_errors` — each error has an entry.
-/
namespace Detour.Logger

open Log Text

/-! ## Data -/

theorem mem_codeMembers {code : Option Text} {m : Text × Json} :
    m ∈ codeMembers code ↔ ∃ t ∈ code, m = (ofString "error_code", Json.string t) := by
  cases code <;> simp [codeMembers]

theorem mem_failureMembers {failure : Option Failure} {path : Option Json} {m : Text × Json} :
    m ∈ failureMembers failure path ↔
      (∃ f ∈ failure, m = (ofString "error_message", Json.string f.text) ∨
        m = (ofString "error_type", Json.string f.kind) ∨
        ∃ code ∈ f.code?, m = (ofString "error_code", Json.string code)) ∨
      ∃ p ∈ path, m = (ofString "file_path", p) := by
  rw [failureMembers, List.mem_append]
  refine or_congr ?_ ?_
  · cases failure <;> simp [causeMembers, mem_codeMembers]
  · cases path <;> simp [pathMembers]

def failureNames : List Text := ["error_message", "error_type", "error_code", "file_path"]

theorem name_mem_failureNames {failure : Option Failure} {path : Option Json} {m : Text × Json}
    (h : m ∈ failureMembers failure path) : m.1 ∈ failureNames := by
  obtain ⟨f, -, rfl | rfl | ⟨code, -, rfl⟩⟩ | ⟨p, -, rfl⟩ := mem_failureMembers.1 h <;>
    simp [failureNames]

/-! ## Entries -/

/-- Data without sensitive keys are logged as they are, unless they are empty. -/
theorem entryOf_plain {m : Message} (some : m.data.isTruthy = true)
    (plain : ∀ key ∈ keys m.data, isSensitive key = false) (timestamp : Text) :
    entryOf timestamp m = ⟨timestamp, m.level, m.component, m.message, m.data⟩ := by
  have data : mask (orEmpty m.data) = m.data := by
    rw [orEmpty, if_pos some]
    exact mask_of_maskValue_eq (maskValue_plain m.data plain)
  rw [entryOf, data]

/-- The keys in an object of leaves are its names. -/
theorem mem_names_of_mem_memberKeys {members : List (Text × Json)}
    (leaves : ∀ m ∈ members, keys m.2 = []) {key : Text} (h : key ∈ memberKeys members) :
    key ∈ members.map Prod.fst := by
  induction members with
  | nil => exact h
  | cons m r ih =>
    obtain ⟨leaf, leaves⟩ := List.forall_mem_cons.1 leaves
    rw [memberKeys, leaf, List.nil_append] at h
    rcases List.mem_cons.1 h with rfl | h
    · exact List.mem_cons_self
    · exact List.mem_cons_of_mem _ (ih leaves h)

theorem entryOf_failureMessage (timestamp component message : Text) (failure : Failure)
    (path : Option Text) :
    entryOf timestamp (failureMessage component message failure path) =
      ⟨timestamp, .error, component, message,
        .object (failureMembers (some failure) (path.map .string))⟩ := by
  have known : ∀ key ∈ failureNames, isSensitive key = false := by decide +kernel
  refine entryOf_plain rfl (fun key hk => known key ?_) timestamp
  have name := mem_names_of_mem_memberKeys (fun m hm => ?_) hk
  · obtain ⟨m, hm, rfl⟩ := List.mem_map.1 name
    exact name_mem_failureNames hm
  · obtain ⟨f, -, rfl | rfl | ⟨code, -, rfl⟩⟩ | ⟨p, hp, rfl⟩ := mem_failureMembers.1 hm
    · rfl
    · rfl
    · rfl
    · obtain ⟨t, -, rfl⟩ := Option.map_eq_some_iff.1 hp
      rfl

/-! ## Histories -/

/-- Errors are accepted at any level; the `i`th of them comes at `clock i`. -/
theorem accepted_errors {α : Type} (message : α → Message) (error : ∀ a, (message a).level = .error)
    (xs : List α) (level : Level) (clock : Nat → Text) :
    accepted level ((xs.map message).mapIdx fun i m => .log (clock i) m) =
      xs.mapIdx fun i a => entryOf (clock i) (message a) := by
  have highest : level.severity ≤ Level.error.severity := by cases level <;> decide
  have entry (a : α) (timestamp : Text) :
      Call.entryAt? level (.log timestamp (message a)) = some (entryOf timestamp (message a)) := by
    simp [Call.entryAt?, Call.reaches, Call.request?, error, highest]
  induction xs generalizing clock with
  | nil => rfl
  | cons a xs ih =>
    rw [List.map_cons, List.mapIdx_cons, List.mapIdx_cons, accepted,
      List.filterMap_cons_some (entry a (clock 0))]
    exact congrArg (List.cons _) (ih fun i => clock (i + 1))

end Detour.Logger
