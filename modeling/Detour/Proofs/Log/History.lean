import Mathlib.Data.List.DropRight
import Detour.Log.Logger
import Detour.Proofs.Text.Numerals

/-!
# What a logger keeps and what it writes

The history of a logger is the calls it has got. It accepts what is not below its level. What it
keeps is told by what it accepted since it was last cleared, of which the newest entries remain, and
what it has written by all that it ever accepted and that has a text. An entry without one is kept
all the same; its call fails.

## Main definitions

* `Logger.Call`, `Logger.run` — calls of a logger, one after the other.
* `Logger.accepted` — the entries that some calls lead to.
* `Logger.sinceClear` — the calls since the latest clearing.

## Main statements

* `Logger.performs` — one call.
* `Logger.run_eq` — a logger after any calls.
* `Logger.run_retains` — the same, for what can be seen of it.
-/
namespace Detour.Logger

open Log Text

/-- A call of a logger, with the time that its clock tells. -/
inductive Call
  | log (timestamp : Text) (message : Message)
  | logError (timestamp component message : Text) (failure : Option Failure) (path : Option Json)
      (data : Json)
  | clear

/-- A call is answered by the entry it led to, if any. -/
def perform (logger : Logger) : Call → Except Failure (Option Entry) × Logger
  | .log timestamp m => logger.log timestamp m
  | .logError timestamp component message failure path data =>
    logger.logError timestamp component message failure path data
  | .clear => (.ok none, logger.clear)

def run (logger : Logger) (calls : List Call) : Logger :=
  calls.foldl (fun logger c => (logger.perform c).2) logger

/-! ## What calls ask for -/

namespace Call

def isClear : Call → Bool
  | .clear => true
  | _ => false

/-- What is to be logged, and when. -/
def request? : Call → Option (Text × Message)
  | .log timestamp m => some (timestamp, m)
  | .logError timestamp component message failure path data =>
    match failureData data failure path with
    | .ok data => some (timestamp, { level := .error, component, message, data })
    | .error _ => none
  | .clear => none

/-- A call asks for an entry that is not below a level. -/
def reaches (level : Level) (c : Call) : Bool :=
  c.request?.any fun (_, m) => level.severity ≤ m.level.severity

def entryAt? (level : Level) (c : Call) : Option Entry :=
  if c.reaches level then c.request?.map fun (timestamp, m) => entryOf timestamp m else none

theorem isSome_entryAt? (level : Level) (c : Call) :
    (c.entryAt? level).isSome = c.reaches level := by
  unfold entryAt? reaches
  cases c.request? with
  | none => rfl
  | some r => by_cases h : level.severity ≤ r.2.level.severity <;> simp [h]

end Call

/-- The entries that calls lead to at a level. -/
def accepted (level : Level) (calls : List Call) : List Entry := calls.filterMap (·.entryAt? level)

/-- The entries among them that have a text. -/
def shown (level : Level) (calls : List Call) : List Entry :=
  (accepted level calls).filter (·.data.hasText)

/-- The calls since the latest clearing. -/
def sinceClear (calls : List Call) : List Call := calls.rtakeWhile fun c => !c.isClear

theorem accepted_concat (level : Level) (calls : List Call) (c : Call) :
    accepted level (calls ++ [c]) = accepted level calls ++ (c.entryAt? level).toList := by
  rw [accepted, List.filterMap_append]
  cases h : c.entryAt? level <;> simp [accepted, h]

theorem length_accepted (level : Level) (calls : List Call) :
    (accepted level calls).length = calls.countP (·.reaches level) := by
  rw [accepted, List.length_filterMap_eq_countP]
  simp only [Call.isSome_entryAt?]

theorem sinceClear_clear (calls : List Call) : sinceClear (calls ++ [.clear]) = [] :=
  List.rtakeWhile_concat_neg _ _ _ (by simp [Call.isClear])

theorem sinceClear_concat {c : Call} (other : c.isClear = false) (calls : List Call) :
    sinceClear (calls ++ [c]) = sinceClear calls ++ [c] :=
  List.rtakeWhile_concat_pos _ _ _ (by simp [other])

/-! ## One call -/

/-- A call that records an entry is answered by it, or fails if the entry has no text. -/
theorem record_fst (logger : Logger) (e : Entry) :
    (logger.record e).1 = if e.data.hasText then .ok (some e) else .error unwritten := by
  cases text : e.data.hasText <;> simp [record, Format.output?, text]

theorem record_snd (logger : Logger) (e : Entry) :
    (logger.record e).2 = { logger with
      entries := keep logger.entries e
      written := logger.written ++ (logger.format.output? e).toList } := by
  cases text : logger.format.output? e <;> simp [record, text]

theorem record_eq_ok {logger : Logger} {e e' : Entry} :
    (logger.record e).1 = .ok (some e') ↔ e = e' ∧ e.data.hasText = true := by
  rw [record_fst]
  split
  · next text => simp [text]
  · next text => simp [text]

theorem log_of_le {logger : Logger} {m : Message}
    (enough : logger.level.severity ≤ m.level.severity) (timestamp : Text) :
    logger.log timestamp m = logger.record (entryOf timestamp m) := by
  simp [log, isEnabled, enough]

theorem log_of_lt {logger : Logger} {m : Message} (low : m.level.severity < logger.level.severity)
    (timestamp : Text) : logger.log timestamp m = (.ok none, logger) := by
  simp [log, isEnabled, Nat.not_le.2 low]

/-- The three kinds of calls: to clear the logger, to record an entry, and to no effect. -/
inductive Performs (logger : Logger) (c : Call) : Prop
  | clears (cleared : c = .clear) (answer : logger.perform c = (.ok none, logger.clear))
  | records (e : Entry) (other : c.isClear = false) (entry : c.entryAt? logger.level = some e)
      (answer : logger.perform c = logger.record e)
  | idles (other : c.isClear = false) (none : c.entryAt? logger.level = none)
      (answer : ∀ e, (logger.perform c).1 ≠ .ok (some e)) (same : (logger.perform c).2 = logger)

/-- What a call asks to be logged is recorded if it is not below the level. -/
theorem performs_of_request {logger : Logger} {c : Call} {timestamp : Text} {m : Message}
    (other : c.isClear = false) (asked : c.request? = some (timestamp, m))
    (performed : logger.perform c = logger.log timestamp m) : Performs logger c := by
  rcases Nat.lt_or_ge m.level.severity logger.level.severity with low | enough
  · rw [log_of_lt low] at performed
    refine .idles other ?_ (by simp [performed]) (by rw [performed])
    simp [Call.entryAt?, Call.reaches, asked, Nat.not_le.2 low]
  · rw [log_of_le enough] at performed
    refine .records _ other ?_ performed
    simp [Call.entryAt?, Call.reaches, asked, enough]

theorem performs (logger : Logger) (c : Call) : Performs logger c := by
  cases c with
  | log timestamp m => exact performs_of_request (m := m) rfl rfl rfl
  | logError timestamp component message failure path data =>
    cases h : failureData data failure path with
    | error f =>
      refine .idles rfl ?_ ?_ ?_
      · simp [Call.entryAt?, Call.request?, h]
      · simp [perform, logError, h]
      · simp [perform, logError, h]
    | ok whole =>
      have asked : Call.request? (.logError timestamp component message failure path data) =
          some (timestamp, { level := .error, component, message, data := whole }) := by
        simp [Call.request?, h]
      refine performs_of_request rfl asked ?_
      simp [perform, logError, h]
  | clear => exact .clears rfl rfl

/-- The entry of an answer is the one that the call asks for. -/
theorem perform_eq_ok_some {logger : Logger} {c : Call} {e : Entry} :
    (logger.perform c).1 = .ok (some e) ↔
      c.entryAt? logger.level = some e ∧ e.data.hasText = true := by
  cases performs logger c with
  | clears cleared answer =>
    subst cleared
    simp [answer, Call.entryAt?, Call.reaches, Call.request?]
  | records e' other entry answer =>
    rw [answer, record_eq_ok, entry, Option.some.injEq]
    exact and_congr_right fun same => same ▸ Iff.rfl
  | idles other none answer same => simp [none, answer e]

/-- A call that asks for an entry without a text fails. -/
theorem perform_eq_error {logger : Logger} {c : Call} {e : Entry}
    (asked : c.entryAt? logger.level = some e) (none : e.data.hasText = false) :
    (logger.perform c).1 = .error unwritten := by
  cases performs logger c with
  | clears cleared answer =>
    subst cleared
    cases asked
  | records e' other entry answer =>
    obtain rfl := Option.some.inj (entry.symm.trans asked)
    rw [answer, record_fst, none]
    rfl
  | idles other idle answer same =>
    rw [idle] at asked
    cases asked

/-! ## Many calls -/

theorem run_concat (logger : Logger) (calls : List Call) (c : Call) :
    logger.run (calls ++ [c]) = ((logger.run calls).perform c).2 := by
  simp [run]

theorem length_rtake {α : Type} (n : Nat) (l : List α) : (l.rtake n).length = min n l.length := by
  rw [List.rtake, List.length_drop]
  omega

theorem rtake_min {α : Type} (n : Nat) (l : List α) : l.rtake (min l.length n) = l.rtake n := by
  rw [List.rtake, List.rtake]
  congr 1
  omega

/-- Keeping the newest entries, one more at a time. -/
theorem keep_rtake (es : List Entry) (e : Entry) :
    keep (es.rtake limit) e = (es ++ [e]).rtake limit := by
  have positive : 0 < limit := by decide
  unfold keep
  generalize limit = n at positive
  simp only [List.rtake, List.length_append, List.length_drop, List.length_singleton]
  rcases Nat.lt_or_ge es.length n with few | many
  · rw [if_neg (by omega), Nat.sub_eq_zero_of_le few.le, Nat.sub_eq_zero_of_le few]
    rfl
  · have one : es.length + 1 - n = es.length - n + 1 := Nat.sub_add_comm many
    rw [if_pos (by omega), ← List.drop_append_of_le_length (Nat.sub_le _ _), List.drop_drop, one]

theorem filterMap_output? (format : Format) (es : List Entry) :
    es.filterMap format.output? = (es.filter (·.data.hasText)).map format.output := by
  rw [← List.filterMap_eq_map, List.filterMap_filter]
  rfl

/-- A new logger after any calls; the induction is on the calls from the latest one on. -/
theorem run_eq (format : Format) (level : Level) (calls : List Call) :
    run { format, level } calls =
      { format, level
        entries := (accepted level (sinceClear calls)).rtake limit
        written := (accepted level calls).filterMap format.output? } := by
  induction calls using List.reverseRecOn with
  | nil => simp [run, accepted, sinceClear, List.rtake]
  | append_singleton calls c ih =>
    rw [run_concat, ih, accepted_concat]
    cases performs _ c with
    | clears cleared answer =>
      subst cleared
      rw [answer, sinceClear_clear]
      simp [clear, accepted, Call.entryAt?, Call.reaches, Call.request?, List.rtake]
    | records e other entry answer =>
      rw [answer, entry, record_snd, sinceClear_concat other, accepted_concat, entry]
      have last : [e].filterMap format.output? = (format.output? e).toList := by
        cases text : format.output? e <;> simp [text]
      rw [Option.toList_some, keep_rtake, List.filterMap_append, last]
    | idles other none answer same =>
      rw [same, none, sinceClear_concat other, accepted_concat, none]
      simp

theorem entries_run (format : Format) (level : Level) (calls : List Call) :
    (run { format, level } calls).entries = (accepted level (sinceClear calls)).rtake limit := by
  rw [run_eq]

/-- What was written are the entries that have a text. -/
theorem output_run (format : Format) (level : Level) (calls : List Call) :
    (run { format, level } calls).output = ((shown level calls).map format.output).flatten := by
  rw [run_eq, shown, ← filterMap_output?]
  rfl

/-- A message, and another one as often as entries are kept. -/
def overflowing (first next : Message) : List Call :=
  .log "10:00" first :: List.replicate limit (.log "10:01" next)

theorem accepted_overflowing {level : Level} {first next : Message}
    (hf : level.severity ≤ first.level.severity) (hn : level.severity ≤ next.level.severity) :
    accepted level (sinceClear (overflowing first next)) =
      entryOf "10:00" first :: List.replicate limit (entryOf "10:01" next) := by
  have all : sinceClear (overflowing first next) = overflowing first next :=
    List.rtakeWhile_eq_self_iff.2 (by simp [overflowing, Call.isClear])
  rw [all]
  simp [overflowing, accepted, Call.entryAt?, Call.reaches, Call.request?, hf, hn]

/-- A message with a whole number. -/
def countMessage (n : Nat) : Message :=
  ⟨.info, "Main", "done", .object [("count", .ofInt n)]⟩

theorem hasText_countMessage (timestamp : Text) (n : Nat) :
    (entryOf timestamp (countMessage n)).data.hasText =
      decide ((ofNat n).length ≤ numeralLimit) := by
  have plain : isSensitive "count" = false := by decide +kernel
  have data : (entryOf timestamp (countMessage n)).data = (countMessage n).data := by
    simp [entryOf, countMessage, orEmpty, Json.isTruthy, mask, maskMembers, maskValue, plain,
      Json.ofInt]
  rw [data]
  by_cases fits : (ofNat n).length ≤ numeralLimit
  · simp [countMessage, Json.hasText, Json.membersHaveText, Json.scalarPiece, Json.ofInt, fits]
  · simp [countMessage, Json.hasText, Json.membersHaveText, Json.scalarPiece, Json.ofInt, fits]

/-- A message with a whole number that has one digit more than is written. -/
def longMessage : Message := countMessage (10 ^ numeralLimit)

theorem hasText_longMessage (timestamp : Text) :
    (entryOf timestamp longMessage).data.hasText = false := by
  have long : numeralLimit < (ofNat (10 ^ numeralLimit)).length :=
    lt_length_ofNat (by decide) le_rfl
  rw [longMessage, hasText_countMessage, decide_eq_false long.not_ge]

/-- Such a message is accepted and kept, and nothing is written for it. -/
theorem output_longMessage (format : Format) :
    (run { format, level := .info } [.log "10:00" longMessage]).output = [] := by
  have nothing : shown .info [.log "10:00" longMessage] = [] := by
    have asked : accepted .info [.log "10:00" longMessage] = [entryOf "10:00" longMessage] := rfl
    simp [shown, asked, hasText_longMessage]
  rw [output_run, nothing]
  rfl

end Detour.Logger
