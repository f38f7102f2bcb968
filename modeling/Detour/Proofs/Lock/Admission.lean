import Detour.Proofs.Lock.Invariant

/-!
# Who holds a lock, and who waits for it

The parties come and leave, and those that were woken look, in any order. When nothing moves any
more, whoever waits does so for a reason: somebody holds the lock, and a reader waits for a writer
only. A writer that waits is passed by no reader, and nobody gets lost.

## Main definitions

* `Lock.Run` — the steps of the parties, with looks in between in any order.
* `Lock.outstanding` — the requests of a run that have not been released.
* `Lock.Orderly` — who holds and who waits when nothing moves any more.

## Main statements

* `Lock.Run.sound`, `Lock.Run.parties_perm` — a run keeps the counters right, and loses no party.
* `Lock.Run.queued` — no reader enters after a writer has come and before it has left.
* `Lock.settle_run` — the looks come to an end.
* `Lock.run_orderly` — a lock is orderly after every run.
-/
namespace Detour

namespace Lock

/-- A step, after which all look who were woken. -/
def play (l : Lock) : Step → Lock
  | .request name side => l.request name side
  | .release name => l.release name

/-- What may become of a lock while some steps are taken: in between, any party that is awake may
look. -/
inductive Run (l : Lock) : List Step → Lock → Prop
  | start : Run l [] l
  | step {steps : List Step} {m : Lock} (run : Run l steps m) (s : Step) (allowed : m.Allows s) :
      Run l (steps ++ [s]) (m.act s)
  | look {steps : List Step} {m : Lock} {before after : List Waiter} {w : Waiter}
      (run : Run l steps m) (there : m.waiters = before ++ w :: after) (awake : w.awake = true) :
      Run l steps (m.lookAt before w after)

/-- Nothing moves any more. -/
def Settled (l : Lock) : Prop := ∀ w ∈ l.waiters, w.awake = false

instance (l : Lock) : Decidable l.Settled := inferInstanceAs (Decidable (∀ w ∈ l.waiters, _))

/-- A step is entered in the list of those who have asked for the lock and not left it. -/
def book (asked : Table Text Side) : Step → Table Text Side
  | .request name side => asked ++ [(name, side)]
  | .release name => asked.erase name

/-- The requests that have not been released, by the steps alone. -/
def outstanding (steps : List Step) : Table Text Side := steps.foldl book []

/-! ## Locks where nothing moves -/

namespace Sound

variable {l : Lock} {name : Text}

/-- If nothing moves any more, a reader waits for a writer only. -/
theorem writer_of_reader_waits (h : Sound l) (settled : l.Settled)
    (waits : (name, .reader) ∈ l.parked) : ∃ writer, (writer, .writer) ∈ l.parties := by
  obtain ⟨w, hw, same⟩ := List.mem_map.1 waits
  have out := h.asleep w hw (settled w hw)
  rw [(Prod.mk.inj same).2] at out
  exact h.mayEnter_reader.1 out

/-- If nothing moves any more, no writer waits unless somebody holds the lock. -/
theorem holders_ne_nil (h : Sound l) (settled : l.Settled) (waits : (name, .writer) ∈ l.parked) :
    l.holders ≠ [] := by
  obtain ⟨w, hw, same⟩ := List.mem_map.1 waits
  have out := h.asleep w hw (settled w hw)
  rw [(Prod.mk.inj same).2, Bool.eq_false_iff, Ne, h.mayEnter_writer] at out
  exact out

/-- So nobody waits while nobody holds: a reader would wait for a writer that waits. -/
theorem parked_eq_nil (h : Sound l) (settled : l.Settled) (nobody : l.holders = []) :
    l.parked = [] := by
  have absent (writer : Text) : (writer, .writer) ∉ l.parked := fun waits =>
    h.holders_ne_nil settled waits nobody
  refine List.eq_nil_iff_forall_not_mem.2 fun party waits => ?_
  obtain ⟨name, side⟩ := party
  cases side with
  | writer => exact absent name waits
  | reader =>
    obtain ⟨writer, there⟩ := h.writer_of_reader_waits settled waits
    rw [parties, nobody, List.nil_append] at there
    exact absent writer there

end Sound

/-! ## Runs -/

theorem book_perm {t u : Table Text Side} (h : t.Perm u) (s : Step) :
    (book t s).Perm (book u s) := by
  cases s with
  | request name side => exact h.append_right _
  | release name => exact h.filter _

theorem parties_act {l : Lock} (h : Counted l) {s : Step} (allowed : l.Allows s) :
    (l.act s).parties.Perm (book l.parties s) := by
  cases s with
  | request name side =>
    have looked := parties_lookAt (l := l.come name side) rfl
    rwa [parties_come] at looked
  | release name =>
    obtain ⟨⟨_, side⟩, holds, rfl⟩ := List.mem_map.1 allowed
    exact .of_eq (h.parties_leave holds)

/-- A reader that holds after somebody looked did so before if no reader may enter. -/
theorem mem_holders_of_lookAt {l : Lock} {before after : List Waiter} {w : Waiter}
    (out : l.mayEnter .reader = false) {name : Text}
    (holds : (name, .reader) ∈ (l.lookAt before w after).holders) :
    (name, .reader) ∈ l.holders := by
  unfold lookAt at holds
  split at holds
  · next may =>
    rw [holders_enter, List.mem_append, List.mem_singleton] at holds
    rcases holds with old | new
    · exact old
    · rw [← (Prod.mk.inj new).2, out] at may
      cases may
  · exact holds

theorem mem_book {t : Table Text Side} {name : Text} {side : Side} {s : Step}
    (there : (name, side) ∈ t) (stays : .release name ≠ s) : (name, side) ∈ book t s := by
  cases s with
  | request other side => exact List.mem_append_left _ there
  | release other =>
    have apart : name ≠ other := fun same => stays (congrArg _ same)
    exact List.mem_filter.2 ⟨there, by simpa using apart⟩

theorem mem_holders_of_act {l : Lock} (h : Counted l) {s : Step} (allowed : l.Allows s)
    (out : l.mayEnter .reader = false) {name : Text}
    (holds : (name, .reader) ∈ (l.act s).holders) :
    (name, .reader) ∈ l.holders ∧ .release name ≠ s := by
  cases s with
  | request other side =>
    exact ⟨mem_holders_of_lookAt (mayEnter_come out other side) holds, by simp⟩
  | release other =>
    obtain ⟨⟨_, side⟩, held, rfl⟩ := List.mem_map.1 allowed
    rw [act, h.leave_eq held, holders_notify, holders_quit] at holds
    obtain ⟨old, apart⟩ := List.mem_filter.1 holds
    exact ⟨old, by simpa using apart⟩

namespace Run

variable {l m : Lock} {steps : List Step}

theorem sound (run : Run l steps m) (h : Sound l) : Sound m := by
  induction run with
  | start => exact h
  | step _ s allowed ih => exact ih.act allowed
  | look _ there _ ih => exact ih.lookAt there

theorem parties_perm (run : Run l steps m) (h : Sound l) :
    m.parties.Perm (steps.foldl book l.parties) := by
  induction run with
  | start => exact .refl _
  | step run s allowed ih =>
    rw [List.foldl_append]
    exact (parties_act (run.sound h).toCounted allowed).trans (book_perm ih s)
  | look _ there _ ih => exact (parties_lookAt there).trans ih

/-- Until a writer has left that holds or waits, no reader enters. -/
theorem queued (run : Run l steps m) (h : Sound l) {name : Text}
    (writer : (name, .writer) ∈ l.parties) (stays : .release name ∉ steps) :
    (name, .writer) ∈ m.parties ∧ ∀ other, (other, .reader) ∈ m.holders →
      (other, .reader) ∈ l.holders ∧ .release other ∉ steps := by
  -- the writer stays among the parties, and as long as it is there no reader may enter
  induction run with
  | start => exact ⟨writer, fun other holds => ⟨holds, List.not_mem_nil⟩⟩
  | @step steps m run s allowed ih =>
    obtain ⟨before, last⟩ : .release name ∉ steps ∧ .release name ≠ s := by simpa using stays
    obtain ⟨there, readers⟩ := ih before
    have counted := (run.sound h).toCounted
    have out := counted.mayEnter_reader.2 ⟨name, there⟩
    refine ⟨(parties_act counted allowed).mem_iff.2 (mem_book there last), fun other holds => ?_⟩
    obtain ⟨held, kept⟩ := mem_holders_of_act counted allowed out holds
    obtain ⟨first, outside⟩ := readers other held
    exact ⟨first, by simp [outside, kept]⟩
  | look run there _ ih =>
    obtain ⟨writer, readers⟩ := ih stays
    have out := (run.sound h).mayEnter_reader.2 ⟨name, writer⟩
    exact ⟨(parties_lookAt there).mem_iff.2 writer, fun other holds =>
      readers other (mem_holders_of_lookAt out holds)⟩

theorem trans {n : Lock} {later : List Step} (run : Run l steps m) (next : Run m later n) :
    Run l (steps ++ later) n := by
  induction next with
  | start => rwa [List.append_nil]
  | step _ s allowed ih =>
    rw [← List.append_assoc]
    exact ih.step s allowed
  | look _ there awake ih => exact ih.look there awake

end Run

/-! ## The end of the looks -/

theorem firstAwake_eq_none {ws : List Waiter} (h : firstAwake ws = none) :
    ∀ w ∈ ws, w.awake = false := by
  induction ws with
  | nil => simp
  | cons w r ih =>
    cases awake : w.awake with
    | true => simp [firstAwake, awake] at h
    | false => exact List.forall_mem_cons.2 ⟨awake, ih (by simpa [firstAwake, awake] using h)⟩

theorem firstAwake_eq_some {ws before after : List Waiter} {w : Waiter}
    (h : firstAwake ws = some (before, w, after)) : ws = before ++ w :: after ∧ w.awake = true := by
  induction ws generalizing before with
  | nil => cases h
  | cons v r ih =>
    cases awake : v.awake with
    | true =>
      obtain ⟨rfl, rfl, rfl⟩ : [] = before ∧ v = w ∧ r = after := by
        simpa [firstAwake, awake] using h
      exact ⟨rfl, awake⟩
    | false =>
      obtain ⟨passed, x, rest, there, rfl, rfl, rfl⟩ : ∃ passed x rest,
          firstAwake r = some (passed, x, rest) ∧ v :: passed = before ∧ x = w ∧ rest = after := by
        simpa [firstAwake, awake] using h
      obtain ⟨rfl, found⟩ := ih there
      exact ⟨rfl, found⟩

/-- Either all sleep, or one that is awake looks. -/
theorem look_cases (l : Lock) : (l.Settled ∧ l.look = l) ∨
    ∃ before w after, l.waiters = before ++ w :: after ∧ w.awake = true ∧
      l.look = l.lookAt before w after := by
  unfold look
  split
  · next none => exact .inl ⟨firstAwake_eq_none none, rfl⟩
  · next before w after some =>
    obtain ⟨there, awake⟩ := firstAwake_eq_some some
    exact .inr ⟨before, w, after, there, awake, rfl⟩

theorem awakeCount_lookAt {l : Lock} {before after : List Waiter} {w : Waiter}
    (there : l.waiters = before ++ w :: after) (awake : w.awake = true) :
    l.awakeCount = (l.lookAt before w after).awakeCount + 1 := by
  unfold awakeCount lookAt
  split
  · simp only [waiters_enter, there, awake, List.countP_append, List.countP_cons_of_pos]
    omega
  · simp [there, awake, List.countP_append, Nat.add_assoc]

theorem settled_iff {l : Lock} : l.Settled ↔ l.awakeCount = 0 := by
  simp [Settled, awakeCount, List.countP_eq_zero]

theorem settleSteps_run {n : Nat} {l : Lock} (count : l.awakeCount ≤ n) :
    Run l [] (settleSteps n l) ∧ (settleSteps n l).Settled := by
  -- every look leaves one party fewer awake, so the awake ones bound the looks
  induction n generalizing l with
  | zero => exact ⟨.start, settled_iff.2 (Nat.le_zero.1 count)⟩
  | succ n ih =>
    rw [settleSteps]
    rcases look_cases l with ⟨settled, same⟩ | ⟨before, w, after, there, awake, looked⟩
    · have nobody := settled_iff.1 settled
      rw [same]
      exact ih (by omega)
    · rw [looked]
      have fewer := awakeCount_lookAt there awake
      obtain ⟨run, settled⟩ := ih (l := l.lookAt before w after) (by omega)
      exact ⟨(Run.start.look there awake).trans run, settled⟩

/-- However many were woken, the looks come to an end. -/
theorem settle_run (l : Lock) : Run l [] l.settle ∧ l.settle.Settled :=
  settleSteps_run (Nat.le_refl _)

theorem settled_free : free.Settled := by simp [Settled, free]

/-- A request wakes nobody. -/
theorem settled_request {l : Lock} (settled : l.Settled) (name : Text) (side : Side) :
    (l.request name side).Settled := by
  unfold request lookAt
  split
  · simpa [Settled] using settled
  · simpa [Settled, or_imp, forall_and] using settled

theorem play_run {l : Lock} (settled : l.Settled) {s : Step} (allowed : l.Allows s) :
    Run l [s] (l.play s) ∧ (l.play s).Settled := by
  have first : Run l [s] (l.act s) := Run.start.step s allowed
  cases s with
  | request name side => exact ⟨first, settled_request settled name side⟩
  | release name =>
    obtain ⟨looks, settled⟩ := settle_run (l.leave name)
    exact ⟨first.trans looks, settled⟩

/-- Each step is allowed when its turn comes. -/
def AllowsAll (l : Lock) : List Step → Prop
  | [] => True
  | s :: r => l.Allows s ∧ (l.play s).AllowsAll r

instance decidableAllowsAll (l : Lock) : (steps : List Step) → Decidable (l.AllowsAll steps)
  | [] => inferInstanceAs (Decidable True)
  | s :: r =>
    have := decidableAllowsAll (l.play s) r
    inferInstanceAs (Decidable (l.Allows s ∧ (l.play s).AllowsAll r))

theorem foldl_play_run {l : Lock} (settled : l.Settled) {steps : List Step}
    (allowed : l.AllowsAll steps) :
    Run l steps (steps.foldl play l) ∧ (steps.foldl play l).Settled := by
  induction steps generalizing l with
  | nil => exact ⟨.start, settled⟩
  | cons s r ih =>
    obtain ⟨first, between⟩ := play_run settled allowed.1
    obtain ⟨rest, last⟩ := ih between allowed.2
    exact ⟨first.trans rest, last⟩

/-! ## Who holds and who waits -/

/-- What can be seen of a lock, after some steps, when nothing moves any more. -/
structure Orderly (steps : List Step) (l : Lock) : Prop where
  /-- A writer that holds is the only holder. -/
  alone : ∀ name, (name, .writer) ∈ l.holders → l.holders = [(name, .writer)]
  /-- Nobody waits while nobody holds. -/
  busy : l.holders = [] → l.parked = []
  /-- A reader waits only if a writer holds or waits. -/
  behind : ∀ name, (name, .reader) ∈ l.parked →
    ∃ other, (other, .writer) ∈ l.holders ∨ (other, .writer) ∈ l.parked
  /-- After a writer has come to wait, and until it has held and left, no reader enters: who reads
  held already and has not left since. -/
  queued : ∀ name, (name, .writer) ∈ l.parked → ∀ later m, Run l later m →
    .release name ∉ later → ∀ other, (other, .reader) ∈ m.holders →
      (other, .reader) ∈ l.holders ∧ .release other ∉ later
  /-- The holders and the waiters are those who have asked and not left. -/
  asked : (l.holders ++ l.parked).Perm (outstanding steps)
  /-- Nobody is there twice. -/
  apart : (Table.keys (l.holders ++ l.parked)).Nodup

/-- After any steps, with the looks in any order, a lock where nothing moves any more is orderly;
and every step that is allowed then leads, by the looks in the order of the waiters, to a lock where
nothing moves again. -/
theorem run_orderly {steps : List Step} {l : Lock} (run : Run free steps l) (settled : l.Settled) :
    Orderly steps l ∧ ∀ s, l.Allows s → Run l [s] (l.play s) ∧ (l.play s).Settled := by
  have sound := run.sound sound_free
  refine ⟨?_, fun s allowed => play_run settled allowed⟩
  exact {
    alone := fun name holds => (sound.alone holds).2
    busy := fun nobody => sound.parked_eq_nil settled nobody
    behind := fun name waits => by
      obtain ⟨other, writer⟩ := sound.writer_of_reader_waits settled waits
      exact ⟨other, List.mem_append.1 writer⟩
    queued := fun name waits later m next stays =>
      (next.queued sound (List.mem_append_right _ waits) stays).2
    asked := run.parties_perm sound_free
    apart := sound.apart }

/-- A reader comes after a waiting writer, which takes over from another reader. -/
def handover : List Step :=
  [.request "a" .reader, .request "b" .writer, .request "c" .reader, .release "a"]

theorem allowed_handover : free.AllowsAll handover := by decide

theorem run_orderly_handover :
    Run free handover (handover.foldl play free) ∧ (handover.foldl play free).Settled ∧
      (handover.foldl play free).holding = (["b"] : List Text) ∧
      (handover.foldl play free).waiting = (["c"] : List Text) ∧
      Orderly handover (handover.foldl play free) := by
  obtain ⟨run, settled⟩ := foldl_play_run settled_free allowed_handover
  exact ⟨run, settled, by decide, by decide, (run_orderly run settled).1⟩

end Lock
end Detour
