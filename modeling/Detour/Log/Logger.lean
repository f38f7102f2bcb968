import Detour.Failure
import Detour.Log.Entry
import Detour.Log.Masking

/-!
# Loggers

A logger drops what is below its level, masks sensitive data, keeps the newest entries, and writes
an entry in its format. A whole number in the data that is too long to be written is found when the
entry is kept already.

## Main definitions

* `Logger.log` — one message at a time of the clock.
* `Logger.logError` — a message about an error.
* `Logger.failureData` — the data that an error is logged with.
-/
namespace Detour

open Log Text

structure Logger where
  format : Format
  level : Level
  entries : List Entry := []
  /-- What was written for each entry that was. -/
  written : List Text := []
  deriving Repr

namespace Logger

/-- The number of entries that are kept. -/
def limit : Nat := 1000

/-- Why there is no logger with some settings; `shown` is a setting as messages show it. -/
inductive Fault
  | badFormat (shown : Text)
  | badLevel (shown : Text)
  | levelKind (kind : Text)
  deriving DecidableEq, Repr

def Fault.toFailure : Fault → Failure
  | .badFormat shown => .simple "ValueError" ("Invalid output_format: " ++ shown)
  | .badLevel shown => .simple "ValueError" ("Invalid log level: " ++ shown)
  | .levelKind kind =>
    .simple "AttributeError" ("'" ++ kind ++ "' object has no attribute 'lower'")

def formatOf (setting : Json) : Except Fault Format :=
  match setting with
  | .string name =>
    match Format.ofName? name with
    | some f => .ok f
    | none => .error (.badFormat name)
  | v => .error (.badFormat v.plain)

def levelOf (setting : Json) : Except Fault Level :=
  match setting with
  | .string name =>
    match Level.ofSetting? name with
    | some l => .ok l
    | none => .error (.badLevel name)
  | v => .error (.levelKind v.kindName)

/-- A logger from settings of any type. -/
def create (format level : Json) : Except Fault Logger := do
  let format ← formatOf format
  let level ← levelOf level
  return { format, level }

def isEnabled (logger : Logger) (level : Level) : Bool := logger.level.severity ≤ level.severity

/-- Empty data of any type are an empty object. -/
def orEmpty (data : Json) : Json := if data.isTruthy then data else .object []

def entryOf (timestamp : Text) (m : Message) : Entry :=
  ⟨timestamp, m.level, m.component, m.message, mask (orEmpty m.data)⟩

/-- Keeps at most `limit` entries by dropping the oldest one. -/
def keep (entries : List Entry) (e : Entry) : List Entry :=
  let entries := entries ++ [e]
  if limit < entries.length then entries.drop 1 else entries

/-- Why an entry is not written. -/
def unwritten : Failure := .simple "ValueError" Json.numeralFault

/-- An entry is kept, and then written if it can be. -/
def record (logger : Logger) (e : Entry) : Except Failure (Option Entry) × Logger :=
  let logger := { logger with entries := keep logger.entries e }
  match logger.format.output? e with
  | none => (.error unwritten, logger)
  | some text => (.ok (some e), { logger with written := logger.written ++ [text] })

def log (logger : Logger) (timestamp : Text) (m : Message) :
    Except Failure (Option Entry) × Logger :=
  if logger.isEnabled m.level then logger.record (entryOf timestamp m) else (.ok none, logger)

/-- The messages of the program itself, whose data are texts and numbers that can be written. -/
def logAll (logger : Logger) (timestamp : Text) (messages : List Message) : Logger :=
  messages.foldl (fun l m => (l.log timestamp m).2) logger

def output (logger : Logger) : Text := logger.written.flatten

def clear (logger : Logger) : Logger := { logger with entries := [] }

/-! ## Errors -/

def codeMembers : Option Text → Table Text Json
  | none => []
  | some code => [("error_code", Json.string code)]

def causeMembers : Option Failure → Table Text Json
  | none => []
  | some f =>
    ("error_message", Json.string f.text) :: ("error_type", Json.string f.kind) ::
      codeMembers f.code?

def pathMembers : Option Json → Table Text Json
  | none => []
  | some p => [("file_path", p)]

/-- The data about a failure and a file. -/
def failureMembers (failure : Option Failure) (path : Option Json) : Table Text Json :=
  causeMembers failure ++ pathMembers path

/-- Why an error cannot be logged with some data. -/
inductive DataFault
  | noCopy (kind : Text)
  | noMembers
  deriving DecidableEq, Repr

def DataFault.toFailure : DataFault → Failure
  | .noCopy kind =>
    .simple "AttributeError" ("'" ++ kind ++ "' object has no attribute 'copy'")
  | .noMembers => .simple "TypeError" "list indices must be integers or slices, not str"

/-- Additional data together with those about a failure; only objects take the latter. -/
def failureData (data : Json) (failure : Option Failure) (path : Option Json) :
    Except DataFault Json :=
  let added := failureMembers failure path
  match orEmpty data with
  | .object members => .ok (.object (Table.merge members added))
  | .array items => if added.isEmpty then .ok (.array items) else .error .noMembers
  | v => .error (.noCopy v.kindName)

/-- Logs an error with additional data and those about a failure and a file. -/
def logError (logger : Logger) (timestamp component message : Text) (failure : Option Failure)
    (path : Option Json) (data : Json) : Except Failure (Option Entry) × Logger :=
  match failureData data failure path with
  | .error fault => (.error fault.toFailure, logger)
  | .ok data => logger.log timestamp { level := .error, component, message, data }

/-- The message about a failure. -/
def failureMessage (component message : Text) (failure : Failure) (path : Option Text) : Message :=
  { level := .error, component, message
    data := .object (failureMembers (some failure) (path.map .string)) }

end Logger
end Detour
