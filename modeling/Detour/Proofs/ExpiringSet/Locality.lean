import Detour.Proofs.ExpiringSet.Refinement

/-!
# Names in an expiring set do not disturb each other

When a live name expires is not changed by dropping what has expired, nor by adding another name,
even if that makes a sweep due. What comes of adding a name depends on that name alone.

## Main definitions

* `ExpiringSet.expiry?` — when a live name expires.

## Main statements

* `ExpiringSet.expiry?_add_of_ne` — adding a name leaves the others alone.
* `ExpiringSet.add_same` — two sets that agree on a name take it up in the same way.
-/
namespace Detour.ExpiringSet

open Text

/-- When a live name expires; none for a name that is not live. -/
def expiry? (s : ExpiringSet) (now : Number) (name : Text) : Option Number :=
  (s.expiries.get? name).filter (isBefore now)

section Expiry

variable {s s' : ExpiringSet} {now : Number} {name other : Text}

theorem isLive_eq_isSome (s : ExpiringSet) (now : Number) (name : Text) :
    s.isLive now name = (s.expiry? now name).isSome := by
  unfold isLive expiry?
  cases s.expiries.get? name with
  | none => rfl
  | some expiry => cases h : isBefore now expiry <;> simp [Option.filter, h]

theorem expiry?_eq_some_iff (nodup : s.expiries.keys.Nodup) {expiry : Number} :
    s.expiry? now name = some expiry ↔
      (name, expiry) ∈ s.expiries ∧ isBefore now expiry = true := by
  rw [expiry?, Option.filter_eq_some_iff, Table.get?_eq_some_iff nodup]

/-- Dropping what has expired leaves the live names as they are. -/
theorem Reclaims.expiry?_eq (r : Reclaims now s s') (nodup : s.expiries.keys.Nodup)
    (name : Text) : s'.expiry? now name = s.expiry? now name := by
  ext expiry
  rw [expiry?_eq_some_iff (r.nodup nodup), expiry?_eq_some_iff nodup]
  obtain ⟨-, keep, left, running⟩ := r
  rw [left, List.mem_filter]
  constructor
  · rintro ⟨⟨there, -⟩, before⟩
    exact ⟨there, before⟩
  · rintro ⟨there, before⟩
    exact ⟨⟨there, running _ there before⟩, before⟩

/-- What an addition leaves: the set as it was where the name is live, or else the name with a new
expiry, less what a sweep drops. -/
theorem add_reclaims {new : Bool} (added : s.add now name = some (new, s')) :
    (s.isLive now name = true ∧ new = false ∧ s' = s) ∨
    (s.isLive now name = false ∧ new = true ∧ ∃ expiry,
      now.add? (.float s.lifetime) = some expiry ∧
      Reclaims now { s with expiries := s.expiries.put name expiry, inserted := s.inserted + 1 }
        s') := by
  rw [add_eq] at added
  split at added
  · next live =>
    cases added
    exact .inl ⟨live, rfl, rfl⟩
  · next ended =>
    obtain ⟨expiry, sum, done⟩ := Option.map_eq_some_iff.1 added
    cases done
    exact .inr ⟨Bool.eq_false_iff.2 ended, rfl, expiry, sum, sweep_reclaims⟩

theorem lifetime_add {new : Bool} (added : s.add now name = some (new, s')) :
    s'.lifetime = s.lifetime := by
  rcases add_reclaims added with ⟨-, -, rfl⟩ | ⟨-, -, expiry, -, swept⟩
  · rfl
  · exact swept.lifetime

theorem nodup_add {new : Bool} (added : s.add now name = some (new, s'))
    (nodup : s.expiries.keys.Nodup) : s'.expiries.keys.Nodup := by
  rcases add_reclaims added with ⟨-, -, rfl⟩ | ⟨-, -, expiry, -, swept⟩
  · exact nodup
  · exact swept.nodup (Table.nodup_keys_put nodup)

/-- Adding a name leaves the others alone, although it may make a sweep due. -/
theorem expiry?_add_of_ne {new : Bool} (added : s.add now name = some (new, s'))
    (nodup : s.expiries.keys.Nodup) (h : other ≠ name) :
    s'.expiry? now other = s.expiry? now other := by
  rcases add_reclaims added with ⟨-, -, rfl⟩ | ⟨-, -, expiry, -, swept⟩
  · rfl
  · rw [swept.expiry?_eq (Table.nodup_keys_put nodup), expiry?, Table.get?_put_of_ne h, expiry?]

/-- A name that was added expires when it did, or its time starts now. -/
theorem expiry?_add_self {new : Bool} (added : s.add now name = some (new, s'))
    (nodup : s.expiries.keys.Nodup) : s'.expiry? now name =
      (s.expiry? now name).or ((now.add? (.float s.lifetime)).filter (isBefore now)) := by
  rcases add_reclaims added with ⟨live, -, rfl⟩ | ⟨ended, -, expiry, sum, swept⟩
  · rw [isLive_eq_isSome] at live
    rw [Option.or_of_isSome live]
  · have none : s.expiry? now name = none := by simpa [isLive_eq_isSome] using ended
    rw [swept.expiry?_eq (Table.nodup_keys_put nodup), expiry?, Table.get?_put_self, none, sum,
      Option.none_or]

/-- Two sets that agree on a name take it up in the same way, and agree on it afterwards. -/
theorem add_same (lifetime : s'.lifetime = s.lifetime)
    (expiry : s'.expiry? now name = s.expiry? now name) (nodup : s.expiries.keys.Nodup)
    (nodup' : s'.expiries.keys.Nodup) :
    (s.add now name = none ∧ s'.add now name = none) ∨
    ∃ new t t', s.add now name = some (new, t) ∧ s'.add now name = some (new, t') ∧
      t'.lifetime = t.lifetime ∧ t'.expiry? now name = t.expiry? now name := by
  have answer : (s'.add now name).map Prod.fst = (s.add now name).map Prod.fst := by
    simp only [add_eq, isLive_eq_isSome, lifetime, expiry]
    split
    · rfl
    · cases now.add? (.float s.lifetime) <;> rfl
  cases added : s.add now name with
  | none =>
    rw [added, Option.map_none, Option.map_eq_none_iff] at answer
    exact .inl ⟨rfl, answer⟩
  | some r =>
    obtain ⟨new, t⟩ := r
    rw [added, Option.map_some, Option.map_eq_some_iff] at answer
    obtain ⟨⟨_, t'⟩, added', rfl⟩ := answer
    refine .inr ⟨_, t, t', rfl, added', ?_, ?_⟩
    · rw [lifetime_add added', lifetime, lifetime_add added]
    · rw [expiry?_add_self added' nodup', expiry, lifetime, expiry?_add_self added nodup]

end Expiry

end Detour.ExpiringSet
