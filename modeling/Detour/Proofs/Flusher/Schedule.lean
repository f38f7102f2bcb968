import Detour.Flusher
import Detour.Proofs.Log.Failures

/-!
# No flush is skipped or repeated

A flusher is asked to start, to flush and to stop, and between these requests the waits of its loop
end. What it persists is seen by a persisting function that notes its calls: there is one for each
flush that is asked for, one for each stop with a last flush, and one for each interval that elapses
while the loop is running. The loop is running if it was started after whatever ended it last, and a
failure does not end it.

## Main definitions

* `Flusher.Step`, `Flusher.run` — requests and waits.
* `Flusher.Turn`, `Flusher.turns` — the steps with the calls that they lead to.
* `Flusher.loops` — whether the loop is running after some turns.
* `Flusher.due` — how often a step should persist.
* `Flusher.InTurn` — the loop is over before the next request comes.

## Main statements

* `Flusher.spends` — one step.
* `Flusher.loop_eq`, `Flusher.performs_scripted` — the loop on a script is a row of waits.
* `Flusher.run_regular` — any steps.
-/
namespace Detour.Flusher

open Log Text

variable {σ : Type} (persist : σ → Persisted σ)

/-! ## Steps -/

/-- What a flusher is asked for. -/
inductive Request
  | start
  | flush
  | stop (last : Bool)

inductive Step
  | request (r : Request)
  | wait (w : Wait)

def perform (f : Flusher σ) : Request → Flusher σ
  | .start => f.start persist
  | .flush => f.flush persist
  | .stop last => f.stop persist last

/-- A wait of the loop ends, if the loop is running. -/
def await (f : Flusher σ) (w : Wait) : Flusher σ :=
  if f.running then
    let f := { f with waits := f.waits + 1 }
    match w with
    | .elapsed => f.flush persist
    | .stopped => { f with running := false }
    | .stoppedMeanwhile => { f with stopping := true, running := false }
  else f

def step (f : Flusher σ) : Step → Flusher σ
  | .request r => f.perform persist r
  | .wait w => f.await persist w

def run (f : Flusher σ) (steps : List Step) : Flusher σ := steps.foldl (step persist) f

theorem run_append (f : Flusher σ) (steps later : List Step) :
    run persist f (steps ++ later) = run persist (run persist f steps) later := List.foldl_append

theorem run_concat (f : Flusher σ) (steps : List Step) (x : Step) :
    run persist f (steps ++ [x]) = step persist (run persist f steps) x :=
  run_append persist f steps [x]

/-! ## Calls -/

/-- What came of a call of the persisting function. -/
structure Call where
  failure : Option Failure
  stops : Bool

/-- Persisting that notes its calls. -/
def noting : σ × List Call → Persisted (σ × List Call) := fun s =>
  let p := persist s.1
  { p with state := (p.state, s.2 ++ [⟨p.failure, p.stops⟩]) }

/-- A flusher with the calls that were noted. -/
def noted (f : Flusher σ) (calls : List Call) : Flusher (σ × List Call) :=
  { f with state := (f.state, calls) }

/-- A step with the calls that it led to. -/
structure Turn where
  step : Step
  calls : List Call

def turn (f : Flusher σ) (x : Step) : Turn := ⟨x, (step (noting persist) (f.noted []) x).state.2⟩

def turns : Flusher σ → List Step → List Turn
  | _, [] => []
  | f, x :: steps => turn persist f x :: turns (step persist f x) steps

/-- What ends the loop: a stop, in whatever way, but no failure. -/
def Turn.endsLoop (t : Turn) : Bool :=
  match t.step with
  | .request .start => false
  | .request .flush | .wait .elapsed => t.calls.any (·.stops)
  | .request (.stop _) | .wait .stopped | .wait .stoppedMeanwhile => true

def Turn.isStart (t : Turn) : Bool :=
  match t.step with
  | .request .start => true
  | _ => false

/-- There was a start since the loop was ended for the last time. -/
def loops (ts : List Turn) : Bool := (ts.rtakeWhile fun t => !t.endsLoop).any (·.isStart)

/-- How often a step should persist. -/
def due (looping : Bool) : Step → Nat
  | .request .start => 0
  | .request .flush => 1
  | .request (.stop last) => if last then 1 else 0
  | .wait .elapsed => if looping then 1 else 0
  | .wait .stopped | .wait .stoppedMeanwhile => 0

theorem loops_concat (ts : List Turn) (t : Turn) :
    loops (ts ++ [t]) = (t.isStart || !t.endsLoop && loops ts) := by
  unfold loops
  cases ends : t.endsLoop with
  | true =>
    -- no turn is a start and ends the loop as well
    have other : t.isStart = false := by
      unfold Turn.endsLoop Turn.isStart at *
      split at ends <;> simp_all
    rw [List.rtakeWhile_concat_neg _ _ _ (by simp [ends]), other]
    rfl
  | false =>
    rw [List.rtakeWhile_concat_pos _ _ _ (by simp [ends])]
    simp [Bool.or_comm]

theorem turns_concat (f : Flusher σ) (steps : List Step) (x : Step) :
    turns persist f (steps ++ [x]) =
      turns persist f steps ++ [turn persist (run persist f steps) x] := by
  induction steps generalizing f with
  | nil => rfl
  | cons y steps ih => exact congrArg (List.cons _) (ih _)

/-! ## One step -/

/-- Without a script the loop waits, and it is not running once it was told to stop. -/
structure Settled (f : Flusher σ) : Prop where
  script : f.script = none
  going : f.running = true → f.stopping = false

def outcome (s : σ) : Call := ⟨(persist s).failure, (persist s).stops⟩

/-- The calls that a step leads to. -/
def calls (f : Flusher σ) : Step → List Call
  | .request .start | .wait .stopped | .wait .stoppedMeanwhile => []
  | .request .flush => [outcome persist f.state]
  | .request (.stop last) => if last then [outcome persist f.state] else []
  | .wait .elapsed => if f.running then [outcome persist f.state] else []

/-- Noting changes nothing but the notes. -/
theorem step_noted {f : Flusher σ} (h : f.script = none) (notes : List Call) (x : Step) :
    step (noting persist) (f.noted notes) x =
      (step persist f x).noted (notes ++ calls persist f x) := by
  cases x with
  | request r =>
    cases r with
    | start =>
      cases running : f.running <;>
        simp [step, perform, start, noted, calls, running, h]
    | flush => rfl
    | stop last => cases last <;> simp [step, perform, stop, noted, calls, flush, noting, outcome]
  | wait w =>
    cases running : f.running <;>
      cases w <;> simp [step, await, noted, calls, running, flush, noting, outcome]

theorem turn_calls {f : Flusher σ} (h : f.script = none) (x : Step) :
    turn persist f x = ⟨x, calls persist f x⟩ := by
  rw [turn, step_noted persist h, List.nil_append]
  rfl

/-- The message about a failure. -/
def failureMessage (f : Failure) : Message :=
  Logger.failureMessage component "Unexpected error flushing domain lists" f none

theorem failureMessages_eq (failure : Option Failure) :
    failureMessages failure = failure.toList.map failureMessage := by
  cases failure <;> rfl

/-- What a step leads to: it persists as often as it should, each call is counted and each failure
told, and the loop is running after a start, or if it was and nothing ends it. -/
structure Spends (f : Flusher σ) (t : Turn) (g : Flusher σ) : Prop where
  count : t.calls.length = due f.running t.step
  flushes : g.flushes = f.flushes + t.calls.length
  messages : g.messages = f.messages ++ (t.calls.filterMap Call.failure).map failureMessage
  running : g.running = (t.isStart || !t.endsLoop && f.running)
  settled : Settled g

theorem spends_flush {f : Flusher σ} (h : Settled f) :
    Spends f ⟨.request .flush, [outcome persist f.state]⟩ (f.flush persist) where
  count := rfl
  flushes := rfl
  messages := by
    have failed : ∀ c : Call, [c].filterMap Call.failure = c.failure.toList := fun c => by
      cases h : c.failure <;> simp [h]
    rw [failed, flush, failureMessages_eq]
    rfl
  running := by
    have going := h.going
    cases running : f.running
    · simp [flush, Turn.isStart, running]
    · simp [flush, Turn.isStart, Turn.endsLoop, running, going running, outcome]
  settled := by
    refine ⟨h.script, fun running => ?_⟩
    simpa [flush] using (Bool.and_eq_true_iff.1 running).2

/-- A step that persists nothing. -/
theorem spends_idle {f g : Flusher σ} {x : Step} (count : due f.running x = 0)
    (flushes : g.flushes = f.flushes) (messages : g.messages = f.messages)
    (running : g.running = (Turn.isStart ⟨x, []⟩ || !Turn.endsLoop ⟨x, []⟩ && f.running))
    (settled : Settled g) : Spends f ⟨x, []⟩ g where
  count := count.symm
  flushes := flushes
  messages := by simpa using messages
  running := running
  settled := settled

/-- After a start the loop is running, whether or not it was. -/
theorem start_eq {f : Flusher σ} (h : Settled f) :
    f.start persist = { f with stopping := false, running := true } := by
  cases running : f.running with
  | true =>
    have going := h.going running
    obtain ⟨⟩ := f
    cases running
    cases going
    rfl
  | false => simp [start, running, h.script]

theorem spends {f : Flusher σ} (h : Settled f) (x : Step) :
    Spends f (turn persist f x) (step persist f x) := by
  rw [turn_calls persist h.script]
  cases x with
  | request r =>
    cases r with
    | start =>
      rw [step, perform, start_eq persist h]
      exact spends_idle rfl rfl rfl rfl ⟨h.script, fun _ => rfl⟩
    | flush => exact spends_flush persist h
    | stop last =>
      have told : Settled { f with stopping := true, running := false } := ⟨h.script, nofun⟩
      cases last with
      | false => exact spends_idle rfl rfl rfl rfl told
      | true => exact { spends_flush persist told with running := rfl }
  | wait w =>
    cases running : f.running with
    | false =>
      have same : f.await persist w = f := if_neg (by simp [running])
      have none : calls persist f (.wait w) = [] := by cases w <;> simp [calls, running]
      rw [step, same, none]
      refine spends_idle ?_ rfl rfl ?_ h
      · cases w <;> simp [due, running]
      · cases w <;> simp [Turn.isStart, running]
    | true =>
      have waiting : Settled { f with waits := f.waits + 1 } := ⟨h.script, h.going⟩
      rw [step, await, if_pos running]
      cases w with
      | elapsed =>
        have flushed := spends_flush persist waiting
        rw [calls, if_pos running]
        exact { flushed with count := by simp [due, running] }
      | stopped => exact spends_idle rfl rfl rfl rfl ⟨h.script, nofun⟩
      | stoppedMeanwhile => exact spends_idle rfl rfl rfl rfl ⟨h.script, nofun⟩

/-! ## Any steps -/

/-- What has become of a flusher, turn by turn, if it persists as often as it should: the calls that
are noted are those of the turns, each is counted and each failure told, and the loop is running if
it was started since something ended it, in which case another start changes nothing. -/
structure Regular (f : Flusher σ) (taken : List Step) : Prop where
  steps : (turns persist f taken).map Turn.step = taken
  due : ∀ before t after, turns persist f taken = before ++ t :: after →
    t.calls.length = due (loops before) t.step
  running : (run persist f taken).running = loops (turns persist f taken)
  again : (run persist f taken).running = true →
    (run persist f taken).start persist = run persist f taken
  noted : (run (noting persist) (f.noted []) taken).state =
    ((run persist f taken).state, (turns persist f taken).flatMap Turn.calls)
  flushes : (run persist f taken).flushes = ((turns persist f taken).flatMap Turn.calls).length
  messages : (run persist f taken).messages =
    (((turns persist f taken).flatMap Turn.calls).filterMap Call.failure).map failureMessage

theorem map_step_turns (f : Flusher σ) (taken : List Step) :
    (turns persist f taken).map Turn.step = taken := by
  induction taken generalizing f with
  | nil => rfl
  | cons x taken ih => exact congrArg (List.cons x) (ih _)

theorem settled_run {f : Flusher σ} (h : Settled f) (taken : List Step) :
    Settled (run persist f taken) := by
  induction taken generalizing f with
  | nil => exact h
  | cons x taken ih => exact ih (spends persist h x).settled

theorem run_noted {f : Flusher σ} (h : Settled f) (notes : List Call) (taken : List Step) :
    run (noting persist) (f.noted notes) taken =
      (run persist f taken).noted (notes ++ (turns persist f taken).flatMap Turn.calls) := by
  induction taken generalizing f notes with
  | nil => simp [run, turns]
  | cons x taken ih =>
    have rest := ih (spends persist h x).settled (notes ++ calls persist f x)
    rw [← step_noted persist h.script] at rest
    refine rest.trans ?_
    simp [run, turns, turn_calls persist h.script]

/-- The induction is on the steps from the latest one on. -/
theorem regular_run (interval : Binary64) (s : σ) (taken : List Step) :
    Regular persist { interval, script := none, state := s } taken := by
  generalize new : ({ interval, script := none, state := s } : Flusher σ) = f
  have fresh : Settled f := new ▸ ⟨rfl, nofun⟩
  have start : f.running = false ∧ f.flushes = 0 ∧ f.messages = [] := new ▸ ⟨rfl, rfl, rfl⟩
  induction taken using List.reverseRecOn with
  | nil =>
    refine ⟨rfl, ?_, start.1, ?_, rfl, start.2.1, start.2.2⟩
    · simp [turns]
    · simp [run, start.1]
  | append_singleton taken x ih =>
    have settled := settled_run persist fresh taken
    obtain ⟨count, flushes, messages, running, after⟩ := spends persist settled x
    refine ⟨map_step_turns persist f _, fun before t rest whole => ?_, ?_,
      fun going => if_pos going, ?_, ?_, ?_⟩
    · -- the turn is the latest one or one of those before it
      rw [turns_concat] at whole
      rcases List.eq_nil_or_concat' rest with rfl | ⟨rest, last, rfl⟩
      · obtain ⟨rfl, same⟩ := List.append_inj' whole rfl
        obtain rfl := List.singleton_inj.1 same
        rw [count, ih.running]
      · rw [← List.cons_append, ← List.append_assoc] at whole
        exact ih.due before t rest (List.append_inj_left' whole rfl)
    · rw [run_concat, turns_concat, loops_concat, running, ih.running]
    · rw [run_noted persist fresh]
      rfl
    · rw [run_concat, turns_concat, flushes, ih.flushes]
      simp
    · rw [run_concat, turns_concat, messages, ih.messages]
      simp

/-! ## Scripts -/

/-- Waits that come from a script, and what they leave of it; after its end each wait is a stop. -/
inductive Consumes : List Wait → List Wait → List Wait → Prop
  | refl (script : List Wait) : Consumes script [] script
  | next (w : Wait) {script waits left : List Wait} (rest : Consumes script waits left) :
      Consumes (w :: script) (w :: waits) left
  | past {waits left : List Wait} (rest : Consumes [] waits left) :
      Consumes [] (.stopped :: waits) left

theorem Consumes.trans {script waits middle more left : List Wait}
    (h : Consumes script waits middle) (g : Consumes middle more left) :
    Consumes script (waits ++ more) left := by
  induction h with
  | refl => exact g
  | next w _ ih => exact .next w (ih g)
  | past _ ih => exact .past (ih g)

def scripted (script : Option (List Wait)) (f : Flusher σ) : Flusher σ := { f with script }

theorem scripted_none {f : Flusher σ} (h : f.script = none) : scripted none f = f := by
  rw [scripted, ← h]

/-- The loop waits as long as it is running, and no request comes before it is over. -/
def InTurn : Flusher σ → List Step → Prop
  | f, [] => f.running = false
  | f, .request r :: steps => f.running = false ∧ InTurn (step persist f (.request r)) steps
  | f, .wait w :: steps => f.running = true ∧ InTurn (step persist f (.wait w)) steps

theorem InTurn.over {f : Flusher σ} {steps : List Step} (h : InTurn persist f steps) :
    (run persist f steps).running = false := by
  induction steps generalizing f with
  | nil => exact h
  | cons x steps ih => cases x <;> exact ih h.2

theorem InTurn.append {f : Flusher σ} {steps later : List Step} (h : InTurn persist f steps)
    (g : InTurn persist (run persist f steps) later) : InTurn persist f (steps ++ later) := by
  induction steps generalizing f with
  | nil => exact g
  | cons x steps ih => cases x <;> exact ⟨h.1, ih h.2 g⟩

/-- The state that a loop on a script has in a flusher without one. -/
def looping (f : Flusher σ) : Flusher σ := { f with script := none, running := !f.stopping }

theorem loop_told (script : List Wait) {f : Flusher σ} (told : f.stopping = true) :
    loop persist script f = scripted (some script) f := by
  unfold loop
  exact if_pos told

/-- The loop on a script is a row of waits, up to the one that ends it. -/
theorem loop_eq (script : List Wait) {f : Flusher σ} (idle : f.running = false) :
    ∃ waits left, Consumes script waits left ∧
      InTurn persist f.looping (waits.map .wait) ∧
      loop persist script f = scripted (some left) (run persist f.looping (waits.map .wait)) := by
  -- a loop that was told to stop does not wait again
  have ended {f : Flusher σ} (idle : f.running = false) (told : f.stopping = true)
      (script : List Wait) : ∃ waits left, Consumes script waits left ∧
        InTurn persist f.looping (waits.map .wait) ∧
        loop persist script f = scripted (some left) (run persist f.looping (waits.map .wait)) :=
    ⟨[], script, .refl script, by simp [InTurn, looping, told],
      by simp [loop_told persist script told, run, scripted, looping, idle, told]⟩
  -- nor does one whose wait told it so
  have last {f : Flusher σ} (told : f.stopping = false) {w : Wait} (stops : w ≠ .elapsed) :
      InTurn persist f.looping [.wait w] := by
    refine ⟨by simp [looping, told], ?_⟩
    cases w with
    | elapsed => exact absurd rfl stops
    | stopped | stoppedMeanwhile => simp [InTurn, step, await, looping, told]
  induction script generalizing f with
  | nil =>
    cases told : f.stopping with
    | true => exact ended idle told []
    | false =>
      refine ⟨[.stopped], [], .past (.refl []), last told nofun, ?_⟩
      simp [loop, told, run, scripted, looping, step, await, idle]
  | cons w script ih =>
    cases told : f.stopping with
    | true => exact ended idle told (w :: script)
    | false =>
      cases w with
      | elapsed =>
        have waited : (flush persist { f with waits := f.waits + 1 }).running = false := by
          simp [flush, idle]
        obtain ⟨waits, left, consumed, inTurn, rest⟩ := ih waited
        -- persisting may have told the loop to stop, which `looping` takes into account
        have here : step persist f.looping (.wait .elapsed) =
            (flush persist { f with waits := f.waits + 1 }).looping := by
          simp [step, await, looping, told, flush]
        have entered : loop persist (.elapsed :: script) f =
            loop persist script (flush persist { f with waits := f.waits + 1 }) :=
          (loop.eq_def persist (.elapsed :: script) f).trans (if_neg (ne_true_of_eq_false told))
        refine ⟨.elapsed :: waits, left, .next _ consumed, ⟨by simp [looping, told], ?_⟩, ?_⟩
        · rwa [here]
        · rw [entered, rest, ← here]
          rfl
      | stopped =>
        refine ⟨[.stopped], script, .next _ (.refl script), last told nofun, ?_⟩
        simp [loop, told, run, scripted, looping, step, await, idle]
      | stoppedMeanwhile =>
        refine ⟨[.stoppedMeanwhile], script, .next _ (.refl script), last told nofun, ?_⟩
        simp [loop, told, run, scripted, looping, step, await, idle]

/-- What a flusher with a script is asked for is done without the script by the same request and
the waits of the loop. -/
theorem perform_scripted (script : List Wait) {f : Flusher σ} (idle : f.running = false)
    (r : Request) :
    ∃ waits left, Consumes script waits left ∧
      InTurn persist (scripted none f) (.request r :: waits.map .wait) ∧
      perform persist (scripted (some script) f) r = scripted (some left)
        (run persist (scripted none f) (.request r :: waits.map .wait)) := by
  cases r with
  | start =>
    have begun : perform persist (scripted (some script) f) .start =
        loop persist script { scripted (some script) f with stopping := false } := by
      simp [perform, start, scripted, idle]
    obtain ⟨waits, left, consumed, inTurn, looped⟩ := loop_eq persist script
      (f := { scripted (some script) f with stopping := false }) idle
    have same : step persist (scripted none f) (.request .start) =
        looping { scripted (some script) f with stopping := false } := by
      simp [step, perform, start, scripted, looping, idle]
    refine ⟨waits, left, consumed, ⟨idle, same ▸ inTurn⟩, ?_⟩
    rw [begun, looped, ← same]
    rfl
  | flush =>
    refine ⟨[], script, .refl script, ⟨idle, ?_⟩, rfl⟩
    simp [InTurn, step, perform, flush, scripted, idle]
  | stop last =>
    refine ⟨[], script, .refl script, ⟨idle, ?_⟩, ?_⟩
    · cases last <;> rfl
    · cases last <;> rfl

def Step.request? : Step → Option Request
  | .request r => some r
  | .wait _ => none

def Step.wait? : Step → Option Wait
  | .request _ => none
  | .wait w => some w

/-- Requests with a script are requests and waits without one, the loop being over before the next
request. -/
theorem performs_scripted (requests : List Request) (script : List Wait) {f : Flusher σ}
    (idle : f.running = false) :
    ∃ steps left, steps.filterMap Step.request? = requests ∧
      Consumes script (steps.filterMap Step.wait?) left ∧
      InTurn persist (scripted none f) steps ∧
      requests.foldl (perform persist) (scripted (some script) f) =
        scripted (some left) (run persist (scripted none f) steps) := by
  induction requests generalizing f script with
  | nil => exact ⟨[], script, rfl, .refl script, idle, rfl⟩
  | cons r requests ih =>
    obtain ⟨waits, middle, consumed, inTurn, done⟩ := perform_scripted persist script idle r
    generalize first : Step.request r :: waits.map Step.wait = steps at done inTurn
    have begun : Settled (scripted none f) :=
      ⟨rfl, fun going => absurd (idle.symm.trans going) Bool.false_ne_true⟩
    have settled := settled_run persist begun steps
    obtain ⟨later, left, asked, more, after, rest⟩ :=
      ih middle (f := run persist (scripted none f) steps) inTurn.over
    rw [scripted_none settled.script] at rest after
    refine ⟨steps ++ later, left, ?_, ?_, inTurn.append persist after, ?_⟩
    · rw [← first, List.filterMap_append, asked]
      simp [Step.request?, Function.comp_def]
    · have own : steps.filterMap Step.wait? = waits := by
        rw [← first]
        simp [List.filterMap_cons, Step.wait?, Function.comp_def]
      rw [List.filterMap_append, own]
      exact consumed.trans more
    · rw [List.foldl_cons, done, run_append]
      exact rest

/-! ## Messages -/

/-- The entry in a log about a failure. -/
def failureEntry (timestamp : Text) (failure : Failure) : Entry where
  timestamp
  level := .error
  component := component
  message := "Unexpected error flushing domain lists"
  data := .object (Logger.failureMembers (some failure) none)

theorem entryOf_failureMessage (timestamp : Text) (failure : Failure) :
    Logger.entryOf timestamp (failureMessage failure) = failureEntry timestamp failure :=
  Logger.entryOf_failureMessage timestamp component _ failure none

/-! ## Summary -/

/-- Two intervals elapse although persisting fails, and one more after the stop, which is nothing to
the flusher. -/
example (interval : Binary64) :
    (run (fun n : Nat => { state := n + 1, failure := some (.simple "OSError" "full") })
      { interval, script := none, state := 0 }
      [.request .start, .wait .elapsed, .wait .elapsed, .request (.stop false),
        .wait .elapsed]).state = 2 := rfl

end Detour.Flusher
