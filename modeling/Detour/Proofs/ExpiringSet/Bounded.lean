import Detour.Proofs.ExpiringSet.Refinement

/-!
# How much is in store

What has expired stays in store until it is looked up or swept away. It does not pile up, however
many names are added and even if none of them is looked up again: what is in store was live at the
latest full sweep or was inserted since, and the insertions between two sweeps are counted. Lookups
only take away. The clock may go back, for a sweep goes by its own reading.

## Main definitions

* `ExpiringSet.sweeps` — the calls that make a full sweep.
* `ExpiringSet.liveAtSweeps` — how many names were live at the sweeps.

## Main statements

* `ExpiringSet.Bounded.after`, `ExpiringSet.run_bounded` — what calls keep in bounds.
* `ExpiringSet.stored_run_le` — the bound after any calls.
-/
namespace Detour.ExpiringSet

open Text

/-! ## Sweeps -/

/-- Whether a call makes a full sweep: on demand, or because it inserts a name and that makes the
sweep due. -/
def sweeps (s : ExpiringSet) (c : Call) : Bool :=
  match c.request with
  | .purge => true
  | .add name =>
    (s.add c.now name).any Prod.fst && s.sweepEvery.le (.int (s.inserted + 1 : Nat))
  | _ => false

/-- How many names were live at each full sweep among some calls. A sweep drops nothing that is
live, so they are counted when it is over. -/
def liveAtSweeps (s : ExpiringSet) : List Call → List Nat
  | [] => []
  | c :: r =>
    let rest := (s.after c).liveAtSweeps r
    if s.sweeps c then (s.after c).size c.now :: rest else rest

section Sweeping

variable {s : ExpiringSet} {now : Number}

/-- A sweep drops nothing that is live. -/
theorem size_purge (s : ExpiringSet) (now : Number) : (s.purge now).2.size now = s.size now := by
  simp only [size, live, purge, List.filter_filter, Table.keys, List.length_map]
  congr 1
  refine List.filter_congr fun e _ => ?_
  cases before : isBefore now e.2 with
  | false => rfl
  | true =>
    have running : isOver now e.2 = false := Number.not_le_of_lt before
    simp [running]

/-- Where all expiries can be compared with the time, only what is live outlasts a sweep. -/
theorem stored_purge (numbers : ∀ e ∈ s.expiries, e.2 ≠ .float .nan) (told : now ≠ .float .nan) :
    (s.purge now).2.stored = s.size now := by
  simp only [stored, size, live, purge, Table.keys, List.length_map]
  congr 1
  refine List.filter_congr fun e he => ?_
  exact Number.not_le_eq_lt told (numbers e he)

end Sweeping

/-- What is stored has no entry but some of those that were there, and nothing else differs. -/
def Drops (s s' : ExpiringSet) : Prop :=
  ∃ keep, s' = { s with expiries := s.expiries.filter keep }

theorem has_drops (s : ExpiringSet) (now : Number) (name : Text) : Drops s (s.has now name).2 := by
  have nothing : Drops s s := ⟨fun _ => true, by simp⟩
  unfold has
  split
  · exact nothing
  · split
    · exact nothing
    · exact ⟨_, rfl⟩

theorem containsValue_drops (s : ExpiringSet) (now : Number) (v : Json) :
    Drops s (s.containsValue now v).2 := by
  cases v with
  | string name => exact has_drops s now name
  | _ => exact ⟨fun _ => true, by simp [containsValue]⟩

/-! ## The bound -/

/-- The store has no more names than were live at some time and have been inserted since, no
insertion has made a sweep due, and all expiries can be compared with times. -/
structure Bounded (s : ExpiringSet) (live : Nat) : Prop where
  few : s.stored ≤ s.inserted + live
  notDue : s.sweepEvery.le (.int s.inserted) = false
  numbers : ∀ e ∈ s.expiries, e.2 ≠ .float .nan

section Bounds

variable {s s' : ExpiringSet} {now : Number} {live : Nat}

/-- A sweep that is not due after some insertions is not due without any. -/
theorem Bounded.notDue_zero (h : Bounded s live) : s.sweepEvery.le (.int 0) = false := by
  rw [Bool.eq_false_iff]
  intro due
  have order : (Number.int 0).le (.int s.inserted) = true := Number.le_int.2 (by omega)
  have notDue := h.notDue
  rw [Number.le_trans due order] at notDue
  cases notDue

theorem Bounded.drops (h : Bounded s live) (d : Drops s s') : Bounded s' live := by
  obtain ⟨keep, rfl⟩ := d
  have fewer : (s.expiries.filter keep).length ≤ s.expiries.length := List.length_filter_le _ _
  exact ⟨fewer.trans h.few, h.notDue, fun e he => h.numbers e (List.mem_filter.1 he).1⟩

/-- After a sweep the count starts anew. -/
theorem bounded_purge (notDue : s.sweepEvery.le (.int 0) = false)
    (numbers : ∀ e ∈ s.expiries, e.2 ≠ .float .nan) (told : now ≠ .float .nan) :
    Bounded (s.purge now).2 ((s.purge now).2.size now) := by
  refine ⟨?_, notDue, fun e he => numbers e (List.mem_filter.1 he).1⟩
  rw [stored_purge numbers told, size_purge]
  exact Nat.le_add_left _ _

/-- An insertion adds one to the count, unless it is what makes the sweep due. -/
theorem Bounded.insert (h : Bounded s live) (finite : s.lifetime.isFinite = true)
    (told : now ≠ .float .nan) (name : Text) {expiry : Number}
    (sum : now.add? (.float s.lifetime) = some expiry)
    (grown : s' = { s with expiries := s.expiries.put name expiry, inserted := s.inserted + 1 }) :
    Bounded (s'.sweep now)
      (if s'.sweepEvery.le (.int s'.inserted) then (s'.sweep now).size now else live) := by
  have few : s'.stored ≤ s'.inserted + live := by
    have one := Table.length_put_le name expiry s.expiries
    have few : s.expiries.length ≤ s.inserted + live := h.few
    subst grown
    show (s.expiries.put name expiry).length ≤ s.inserted + 1 + live
    omega
  have numbers : ∀ e ∈ s'.expiries, e.2 ≠ .float .nan := by
    intro e he
    subst grown
    rcases Table.mem_put he with rfl | old
    · exact Number.add?_ne_nan told finite sum
    · exact h.numbers e old
  have zero : s'.sweepEvery.le (.int 0) = false := by
    subst grown
    exact h.notDue_zero
  unfold sweep
  split
  · exact bounded_purge zero numbers told
  · next notDue => exact ⟨few, Bool.eq_false_iff.2 notDue, numbers⟩

/-- A call keeps the settings. -/
theorem settings_after (s : ExpiringSet) (c : Call) :
    (s.after c).lifetime = s.lifetime ∧ (s.after c).sweepEvery = s.sweepEvery := by
  have dropped {s' : ExpiringSet} (d : Drops s s') :
      s'.lifetime = s.lifetime ∧ s'.sweepEvery = s.sweepEvery := by
    obtain ⟨keep, rfl⟩ := d
    exact ⟨rfl, rfl⟩
  obtain ⟨now, request⟩ := c
  cases request with
  | add name =>
    simp only [after, add_eq]
    split
    · exact ⟨rfl, rfl⟩
    · cases now.add? (.float s.lifetime) with
      | none => exact ⟨rfl, rfl⟩
      | some expiry =>
        simp only [Option.map_some, Option.getD_some, sweep]
        split <;> exact ⟨rfl, rfl⟩
  | has name => exact dropped (has_drops s now name)
  | contains v => exact dropped (containsValue_drops s now v)
  | purge => exact ⟨rfl, rfl⟩
  | snapshot => exact ⟨rfl, rfl⟩
  | size => exact ⟨rfl, rfl⟩
  | stored => exact ⟨rfl, rfl⟩

/-- What a call makes of the bound: a sweep sets it to what is live, any other call keeps it. -/
theorem Bounded.after (h : Bounded s live) (finite : s.lifetime.isFinite = true) (c : Call)
    (told : c.now ≠ .float .nan) :
    Bounded (s.after c) (if s.sweeps c then (s.after c).size c.now else live) := by
  obtain ⟨now, request⟩ := c
  cases request with
  | add name =>
    simp only [ExpiringSet.after, sweeps, add_eq]
    split
    · simpa using h
    · cases sum : now.add? (.float s.lifetime) with
      | none => simpa using h
      | some expiry =>
        simp only [Option.map_some, Option.getD_some, Option.any_some, Bool.true_and]
        exact h.insert finite told name sum rfl
  | has name => exact h.drops (has_drops s now name)
  | contains v => exact h.drops (containsValue_drops s now v)
  | purge => exact bounded_purge h.notDue_zero h.numbers told
  | snapshot => exact h
  | size => exact h
  | stored => exact h

end Bounds

/-! ## Any calls -/

section Runs

variable {s : ExpiringSet} {live : Nat}

/-- Through any calls the store is bounded by what was live at the latest sweep. -/
theorem run_bounded {calls : List Call} (h : Bounded s live) (finite : s.lifetime.isFinite = true)
    (told : ∀ c ∈ calls, c.now ≠ .float .nan) :
    (s.run calls).sweepEvery = s.sweepEvery ∧
      Bounded (s.run calls) ((s.liveAtSweeps calls).getLast?.getD live) := by
  induction calls generalizing s live with
  | nil => exact ⟨rfl, h⟩
  | cons c r ih =>
    obtain ⟨lifetime, sweepEvery⟩ := s.settings_after c
    have first := h.after finite c (told c List.mem_cons_self)
    have later : ∀ x ∈ r, x.now ≠ .float .nan := fun x hx => told x (List.mem_cons_of_mem _ hx)
    obtain ⟨kept, rest⟩ := ih first (lifetime ▸ finite) later
    refine ⟨kept.trans sweepEvery, ?_⟩
    have latest : (s.liveAtSweeps (c :: r)).getLast?.getD live =
        ((s.after c).liveAtSweeps r).getLast?.getD
          (if s.sweeps c then (s.after c).size c.now else live) := by
      simp only [liveAtSweeps]
      split
      · rw [List.getLast?_cons, Option.getD_some]
      · rfl
    rw [latest]
    exact rest

/-- The interval of the sweeps of a new set is not below one, and nothing is counted yet. -/
theorem sweepEvery_of_create {lifetime sweepEvery : Json}
    (fresh : create lifetime sweepEvery = .ok s) :
    s.sweepEvery.lt (.int 1) = false ∧ s.inserted = 0 := by
  have checked {n : Number} (h : sweepOf sweepEvery = .ok n) : n.lt (.int 1) = false := by
    unfold sweepOf at h
    split at h
    · cases h
    · split at h
      · cases h
      · next low =>
        cases h
        exact Bool.eq_false_iff.2 low
  unfold create at fresh
  split at fresh
  · cases accepted : sweepOf sweepEvery with
    | error f =>
      rw [accepted] at fresh
      cases fresh
    | ok n =>
      rw [accepted] at fresh
      cases fresh
      exact ⟨checked accepted, rfl⟩
  · split at fresh <;> cases fresh
  · cases fresh

/-- A new set holds nothing, and no sweep is due. -/
theorem bounded_of_create {lifetime sweepEvery : Json}
    (fresh : create lifetime sweepEvery = .ok s) : Bounded s 0 := by
  obtain ⟨-, empty⟩ := eq_of_create fresh
  obtain ⟨low, none⟩ := sweepEvery_of_create fresh
  refine ⟨?_, ?_, ?_⟩
  · rw [stored, empty]
    exact Nat.zero_le _
  · rw [none, Bool.eq_false_iff]
    intro due
    have before := Number.lt_of_le_of_lt due (Number.lt_int.2 Int.zero_lt_one)
    rw [low] at before
    cases before
  · intro e he
    rw [empty] at he
    cases he

/-- After any calls at any readings of the clock the store has no more names than were live at some
sweep and have been inserted since, which are fewer than the interval of the sweeps. -/
theorem stored_run_le {lifetime sweepEvery : Json}
    (fresh : create lifetime sweepEvery = .ok s) (finite : s.lifetime.isFinite = true)
    {calls : List Call} (told : ∀ c ∈ calls, c.now ≠ .float .nan) :
    let most := (s.liveAtSweeps calls).max?.getD 0
    (∃ since : Nat, (s.run calls).stored ≤ since + most ∧
      s.sweepEvery.le (.int since) = false) ∧
    ∀ n : Int, s.sweepEvery = .int n → ((s.run calls).stored : Int) ≤ n - 1 + most := by
  intro most
  obtain ⟨sweepEvery, few, notDue, -⟩ := run_bounded (bounded_of_create fresh) finite told
  rw [sweepEvery] at notDue
  have latest : (s.liveAtSweeps calls).getLast?.getD 0 ≤ most := by
    cases last : (s.liveAtSweeps calls).getLast? with
    | none => exact Nat.zero_le _
    | some size => exact List.le_max?_getD_of_mem (List.mem_of_getLast? last)
  refine ⟨⟨(s.run calls).inserted, by omega, notDue⟩, ?_⟩
  intro n interval
  have since : ((s.run calls).inserted : Int) < n := by
    rw [interval, Bool.eq_false_iff, Ne, Number.le_int] at notDue
    omega
  omega

/-- Names that come once and are never looked up, at readings of a clock that also goes back: two
names were live at both sweeps, and two more have come since, so that the bound is reached. -/
theorem stored_run_le_churn :
    let calls : List Call := [⟨.int 0, .add "a.com"⟩, ⟨.int 20, .add "b.com"⟩,
      ⟨.int 21, .add "c.com"⟩, ⟨.int 22, .purge⟩, ⟨.int 5, .add "d.com"⟩, ⟨.int 60, .add "e.com"⟩,
      ⟨.int 70, .snapshot⟩]
    let s : ExpiringSet := { lifetime := .ofInt 10, sweepEvery := .int 3 }
    create (.ofInt 10) (.ofInt 3) = .ok s ∧ s.lifetime.isFinite = true ∧
      (∀ c ∈ calls, c.now ≠ .float .nan) ∧ s.liveAtSweeps calls = [2, 2] ∧
      ((s.run calls).stored : Int) ≤ 3 - 1 + 2 ∧ (s.run calls).stored = 4 := by
  intro calls s
  have fresh : create (.ofInt 10) (.ofInt 3) = .ok s := by decide +kernel
  have finite : s.lifetime.isFinite = true := by decide +kernel
  have told : ∀ c ∈ calls, c.now ≠ .float .nan := by decide +kernel
  have sizes : s.liveAtSweeps calls = [2, 2] := by decide +kernel
  have bound := (stored_run_le fresh finite told).2 3 rfl
  rw [sizes] at bound
  exact ⟨fresh, finite, told, sizes, bound, by decide +kernel⟩

end Runs

end Detour.ExpiringSet
