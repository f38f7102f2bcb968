import Detour.Lock

/-!
# What every step preserves about a lock

The counters of a lock agree with those that hold it and those that wait for it, and a party sleeps
only while it may not enter. A party that enters lets nobody else in, and neither does a reader that
leaves others behind; whoever else leaves wakes everybody. So no step, and no look of a party that
was woken, leaves anybody asleep who may enter.

## Main definitions

* `Lock.Step` and `Lock.act` — what a party does, before anybody else looks.
* `Lock.parties` — those that hold and those that wait.
* `Lock.Sound` — the invariant.

## Main statements

* `Lock.Sound.act` — it is preserved by every step.
* `Lock.Sound.lookAt` — and by every look.
-/
namespace Detour

namespace Lock

/-- What a party does. -/
inductive Step
  | request (name : Text) (side : Side)
  | release (name : Text)
  deriving DecidableEq, Repr

/-- The waiters in the form of the holders. -/
def parked (l : Lock) : Table Text Side := l.waiters.map fun w => (w.name, w.side)

/-- All who have asked for the lock and not left it. -/
def parties (l : Lock) : Table Text Side := l.holders ++ l.parked

/-- A party asks for the lock if it neither holds it nor waits for it, and leaves if it holds it. -/
def Allows (l : Lock) : Step → Prop
  | .request name _ => name ∉ l.parties.keys
  | .release name => name ∈ l.holders.keys

instance (l : Lock) : DecidablePred l.Allows
  | .request name _ => inferInstanceAs (Decidable (name ∉ l.parties.keys))
  | .release name => inferInstanceAs (Decidable (name ∈ l.holders.keys))

/-- What a step changes before anybody else looks. -/
def act (l : Lock) : Step → Lock
  | .request name side => l.request name side
  | .release name => l.leave name

/-! ## Who may enter -/

theorem mayEnter_reader_iff {l : Lock} :
    l.mayEnter .reader = true ↔ l.writer = false ∧ l.writersWaiting = 0 := by
  simp [mayEnter]

theorem mayEnter_writer_iff {l : Lock} :
    l.mayEnter .writer = true ↔ l.writer = false ∧ l.readers = 0 := by
  simp [mayEnter]

@[simp] theorem mayEnter_waiters (l : Lock) (ws : List Waiter) (side : Side) :
    { l with waiters := ws }.mayEnter side = l.mayEnter side := by
  cases side <;> rfl

/-- Who enters lets nobody else in. -/
theorem mayEnter_enter {l : Lock} {other : Side} (out : l.mayEnter other = false) (name : Text)
    (side : Side) : (l.enter name side).mayEnter other = false := by
  cases side with
  | reader => cases other <;> simp_all [enter, mayEnter]
  | writer => cases other <;> simp [enter, mayEnter]

theorem mayEnter_come {l : Lock} {other : Side} (out : l.mayEnter other = false) (name : Text)
    (side : Side) : (l.come name side).mayEnter other = false := by
  cases side with
  | reader => simpa [come] using out
  | writer => cases other <;> simp_all [come, mayEnter]

@[simp] theorem waiters_enter (l : Lock) (name : Text) (side : Side) :
    (l.enter name side).waiters = l.waiters := by
  cases side <;> rfl

@[simp] theorem holders_enter (l : Lock) (name : Text) (side : Side) :
    (l.enter name side).holders = l.holders ++ [(name, side)] := by
  cases side <;> rfl

@[simp] theorem holders_quit (l : Lock) (name : Text) (side : Side) :
    (l.quit name side).holders = l.holders.erase name := by
  cases side <;> rfl

@[simp] theorem waiters_quit (l : Lock) (name : Text) (side : Side) :
    (l.quit name side).waiters = l.waiters := by
  cases side <;> rfl

@[simp] theorem holders_notify (l : Lock) (side : Side) :
    (l.notify side).holders = l.holders := by
  unfold notify
  split <;> rfl

@[simp] theorem parked_notify (l : Lock) (side : Side) : (l.notify side).parked = l.parked := by
  unfold notify
  split
  · simp [wakeAll, parked]
  · rfl

/-! ## The parties -/

theorem parties_come (l : Lock) (name : Text) (side : Side) :
    (l.come name side).parties = l.parties ++ [(name, side)] := by
  simp [come, parties, parked]

/-- A party that looks stays among the parties. -/
theorem parties_lookAt {l : Lock} {before after : List Waiter} {w : Waiter}
    (there : l.waiters = before ++ w :: after) :
    (l.lookAt before w after).parties.Perm l.parties := by
  unfold lookAt parties parked
  split
  · simp only [holders_enter, waiters_enter, there, List.map_append, List.map_cons,
      List.append_assoc, List.singleton_append]
    exact List.perm_middle.symm.append_left _
  · simp [there]

/-! ## The invariant -/

/-- The counters agree with the parties, and nobody is there twice. -/
structure Counted (l : Lock) : Prop where
  reading : l.writer = false → l.readers = l.holders.length ∧ ∀ h ∈ l.holders, h.2 = .reader
  writing : l.writer = true → l.readers = 0 ∧ ∃ name, l.holders = [(name, .writer)]
  waiting : l.writersWaiting = l.waiters.countP (·.side == .writer)
  apart : l.parties.keys.Nodup

/-- A party sleeps only while it may not enter. -/
structure Sound (l : Lock) : Prop extends Counted l where
  asleep : ∀ w ∈ l.waiters, w.awake = false → l.mayEnter w.side = false

theorem sound_free : Sound free where
  reading _ := ⟨rfl, by simp [free]⟩
  writing h := by cases h
  waiting := rfl
  apart := List.nodup_nil
  asleep := by simp [free]

namespace Counted

variable {l : Lock} {name : Text} {side : Side}

theorem nodup_holders (h : Counted l) : l.holders.keys.Nodup :=
  h.apart.sublist ((List.sublist_append_left _ _).map _)

/-- Who holds does not wait. -/
theorem not_mem_parked (h : Counted l) (holds : (name, side) ∈ l.holders) :
    name ∉ l.parked.keys := by
  have apart := h.apart
  rw [parties, Table.keys, List.map_append, List.nodup_append] at apart
  exact fun waits => apart.2.2 name (List.mem_map.2 ⟨_, holds, rfl⟩) name waits rfl

/-- A writer that holds is the only holder. -/
theorem alone (h : Counted l) (holds : (name, .writer) ∈ l.holders) :
    l.writer = true ∧ l.holders = [(name, .writer)] := by
  cases flag : l.writer with
  | false => cases (h.reading flag).2 _ holds
  | true =>
    obtain ⟨-, other, only⟩ := h.writing flag
    rw [only, List.mem_singleton] at holds
    exact ⟨rfl, by rw [only, ← holds]⟩

theorem writer_eq_false (h : Counted l) (holds : (name, .reader) ∈ l.holders) :
    l.writer = false := by
  rw [Bool.eq_false_iff]
  intro flag
  obtain ⟨-, other, only⟩ := h.writing flag
  simp [only] at holds

/-- A writer may enter if nobody holds. -/
theorem mayEnter_writer (h : Counted l) : l.mayEnter .writer = true ↔ l.holders = [] := by
  rw [mayEnter_writer_iff]
  constructor
  · rintro ⟨flag, none⟩
    rw [← List.length_eq_zero_iff, ← (h.reading flag).1, none]
  · intro nobody
    have flag : l.writer = false := by
      rw [Bool.eq_false_iff]
      intro flag
      obtain ⟨-, other, only⟩ := h.writing flag
      simp [nobody] at only
    exact ⟨flag, by simp [(h.reading flag).1, nobody]⟩

/-- A reader may not enter while a writer holds or waits, and only then. -/
theorem mayEnter_reader (h : Counted l) :
    l.mayEnter .reader = false ↔ ∃ writer, (writer, .writer) ∈ l.parties := by
  rw [Bool.eq_false_iff, Ne, mayEnter_reader_iff]
  constructor
  · intro out
    cases flag : l.writer with
    | true =>
      obtain ⟨-, writer, only⟩ := h.writing flag
      exact ⟨writer, List.mem_append_left _ (by simp [only])⟩
    | false =>
      have some : 0 < l.waiters.countP (·.side == .writer) := by
        rw [← h.waiting]
        exact Nat.pos_of_ne_zero fun none => out ⟨flag, none⟩
      obtain ⟨w, hw, side⟩ := List.countP_pos_iff.1 some
      exact ⟨w.name, List.mem_append_right _ (List.mem_map.2 ⟨w, hw, by simpa using side⟩)⟩
  · rintro ⟨writer, there⟩ ⟨flag, none⟩
    rcases List.mem_append.1 there with holds | waits
    · rw [(h.alone holds).1] at flag
      cases flag
    · obtain ⟨w, hw, same⟩ := List.mem_map.1 waits
      have other := List.countP_eq_zero.1 (h.waiting.symm.trans none) w hw
      simp [(Prod.mk.inj same).2] at other

theorem leave_eq (h : Counted l) (holds : (name, side) ∈ l.holders) :
    l.leave name = (l.quit name side).notify side := by
  rw [leave, (Table.get?_eq_some_iff h.nodup_holders).2 holds]

theorem parties_leave (h : Counted l) (holds : (name, side) ∈ l.holders) :
    (l.leave name).parties = l.parties.erase name := by
  rw [h.leave_eq holds, parties, parties, holders_notify, parked_notify, holders_quit,
    Table.erase_append, Table.erase_of_not_mem (h.not_mem_parked holds)]
  simp [parked]

theorem wakeAll (h : Counted l) : Sound l.wakeAll where
  reading := h.reading
  writing := h.writing
  waiting := by simpa [Lock.wakeAll, List.countP_map, Function.comp_def] using h.waiting
  apart := by
    have same : l.wakeAll.parties = l.parties := by simp [Lock.wakeAll, parties, parked]
    rw [same]
    exact h.apart
  asleep := by simp [Lock.wakeAll]

/-- Who comes is counted, and is awake. -/
theorem come (h : Counted l) (new : name ∉ l.parties.keys) : Counted (l.come name side) where
  reading := h.reading
  writing := h.writing
  waiting := by cases side <;> simp [Lock.come, h.waiting]
  apart := by
    rw [parties_come, Table.keys, List.map_append]
    exact (List.perm_append_singleton _ _).nodup_iff.2 (List.nodup_cons.2 ⟨new, h.apart⟩)

theorem quit (h : Counted l) (holds : (name, side) ∈ l.holders) : Counted (l.quit name side) := by
  have fewer : l.holders.length = (Table.erase name l.holders).length + 1 :=
    (Table.perm_cons_erase h.nodup_holders holds).length_eq
  have apart : (l.quit name side).parties.keys.Nodup :=
    h.apart.sublist (by
      simp only [parties, parked, holders_quit, waiters_quit]
      exact (List.filter_sublist.append_right _).map _)
  cases side with
  | reader =>
    obtain ⟨count, readers⟩ := h.reading (h.writer_eq_false holds)
    have count' : l.readers - 1 = (Table.erase name l.holders).length := by omega
    exact {
      reading _ := ⟨count', fun e he => readers e (List.mem_filter.1 he).1⟩
      writing flag := absurd flag (by simp [Lock.quit, h.writer_eq_false holds])
      waiting := h.waiting
      apart }
  | writer =>
    obtain ⟨flag, only⟩ := h.alone holds
    exact {
      reading _ := by simp [Lock.quit, only, Table.erase, (h.writing flag).1]
      writing flag := by cases flag
      waiting := h.waiting
      apart }

theorem lookAt (h : Counted l) {before after : List Waiter} {w : Waiter}
    (there : l.waiters = before ++ w :: after) : Counted (l.lookAt before w after) := by
  have apart : (l.lookAt before w after).parties.keys.Nodup :=
    ((parties_lookAt there).map _).nodup_iff.2 h.apart
  have count := h.waiting
  rw [there, List.countP_append, List.countP_cons] at count
  unfold Lock.lookAt at apart ⊢
  split at apart
  · next may =>
    rw [if_pos may]
    cases side : w.side with
    | reader =>
      rw [side, mayEnter_reader_iff] at may
      obtain ⟨readers, all⟩ := h.reading may.1
      exact {
        reading _ := ⟨by simp [enter, readers], by simpa [enter, or_imp, forall_and] using all⟩
        writing flag := absurd flag (by simp [enter, may.1])
        waiting := by simpa [enter, side] using count
        apart := side ▸ apart }
    | writer =>
      rw [side] at may
      have nobody := h.mayEnter_writer.1 may
      exact {
        reading flag := by cases flag
        writing _ := ⟨(mayEnter_writer_iff.1 may).2, w.name, by simp [enter, nobody]⟩
        waiting := by simp [enter, side, count]
        apart := side ▸ apart }
  · next may =>
    rw [if_neg may]
    exact {
      reading := h.reading
      writing := h.writing
      waiting := by simpa [List.countP_cons] using count
      apart }

end Counted

namespace Sound

variable {l : Lock} {name : Text} {side : Side}

theorem come (h : Sound l) (new : name ∉ l.parties.keys) : Sound (l.come name side) where
  toCounted := h.toCounted.come new
  asleep w hw sleeps := by
    rcases List.mem_append.1 hw with old | last
    · exact mayEnter_come (h.asleep w old sleeps) name side
    · cases List.mem_singleton.1 last
      cases sleeps

/-- Who looks enters, or sleeps because it may not. -/
theorem lookAt (h : Sound l) {before after : List Waiter} {w : Waiter}
    (there : l.waiters = before ++ w :: after) : Sound (l.lookAt before w after) where
  toCounted := h.toCounted.lookAt there
  asleep v hv sleeps := by
    -- whoever slept before still may not enter: the one that looks makes no room
    have old (hv : v ∈ before ++ after) : l.mayEnter v.side = false := by
      refine h.asleep v ?_ sleeps
      rw [there]
      exact (List.sublist_cons_self w after).append_left before |>.subset hv
    unfold Lock.lookAt at hv ⊢
    split at hv
    · next may =>
      rw [if_pos may]
      rw [waiters_enter] at hv
      exact mayEnter_enter (by simpa using old hv) w.name w.side
    · next may =>
      rw [if_neg may, mayEnter_waiters]
      rcases List.mem_append.1 hv with first | rest
      · exact old (List.mem_append_left _ first)
      · rcases List.mem_cons.1 rest with rfl | last
        · simpa using may
        · exact old (List.mem_append_right _ last)

/-- A reader that is not the last one to leave lets nobody in; whoever else leaves wakes all. -/
theorem leave (h : Sound l) (holds : (name, side) ∈ l.holders) : Sound (l.leave name) := by
  rw [h.leave_eq holds, notify]
  split
  · exact (h.quit holds).wakeAll
  · next some =>
    refine ⟨h.quit holds, fun w hw sleeps => ?_⟩
    cases side with
    | writer => exact absurd (.inl rfl) some
    | reader =>
      -- other readers stay: a writer still finds them, and nothing changes for a reader
      have others : l.readers - 1 ≠ 0 := fun last => some (.inr last)
      have out := h.asleep w (by simpa using hw) sleeps
      cases same : w.side with
      | reader => simpa [quit, mayEnter, same] using out
      | writer => simp [quit, mayEnter, others]

theorem act (h : Sound l) {s : Step} (allowed : l.Allows s) : Sound (l.act s) := by
  cases s with
  | request name side => exact (h.come allowed).lookAt rfl
  | release name =>
    obtain ⟨⟨_, side⟩, holds, rfl⟩ := List.mem_map.1 allowed
    exact h.leave holds

end Sound

end Lock
end Detour
