import Detour.Config.Basic
import Detour.Json.Display

/-!
# Reading a configuration

A configuration is read from a JSON object with a section for each of its parts; what is missing has
a default. It is refused at the first value that does not fit.

## Main definitions

* `Configuration.ofJson` — a configuration, or why it is refused.
-/
namespace Detour.Configuration

open DomainList Files Text

/-- Why a value makes no configuration. -/
inductive Fault
  | noMembers (kind : Text)
  | notPath (kind : Text)
  | notBoolean (name : Text) (shown : Text)
  | incomparable (kind : Text)
  | notPositive
  | unhashable (kind : Text)
  | badLogging (level format : Text)
  deriving DecidableEq, Repr

def Fault.message : Fault → Text
  | .noMembers kind => "'" ++ kind ++ "' object has no attribute 'get'"
  | .notPath kind => "expected str, bytes or os.PathLike object, not " ++ kind
  | .notBoolean name shown => name ++ " must be true or false, got " ++ shown
  | .incomparable kind => "'<=' not supported between instances of '" ++ kind ++ "' and 'int'"
  | .notPositive => "intervals must be positive"
  | .unhashable kind => "unhashable type: '" ++ kind ++ "'"
  | .badLogging level format => "invalid logging settings: " ++ level ++ "/" ++ format

/-- A configuration is refused for a fault of a value, or a home directory is not found. -/
inductive ReadError
  | refused (fault : Fault)
  | home (fault : Path.HomeFault)
  deriving DecidableEq, Repr

abbrev Read (α : Type) := Except ReadError α

/-- The value of a member, or the default if there is none; only objects have members. -/
def member (part : Json) (name : Text) (default : Json) : Read Json :=
  match part with
  | .object members => .ok ((Table.get? name members).getD default)
  | v => .error (.refused (.noMembers v.kindName))

def partOf (document : Json) (name : Text) : Read Json := member document name (.object [])

def boolean (part : Json) (name : Text) (default : Bool) : Read Bool := do
  match ← member part name (.bool default) with
  | .bool b => return b
  | v => .error (.refused (.notBoolean name v.display))

def pathOf (homes : Path.Homes) (v : Json) : Read Path :=
  match v with
  | .string t => ((Path.ofText t).expandHome homes).mapError .home
  | v => .error (.refused (.notPath v.kindName))

/-- The path under a name, if it is not empty. -/
def path? (homes : Path.Homes) (part : Json) (name : Text) : Read (Option Path) := do
  let v ← member part name .null
  if v.isTruthy then return some (← pathOf homes v) else return none

def readDirectory (homes : Path.Homes) (part : Json) : Read Path := do
  match ← path? homes part "directory" with
  | some p => return p
  | none => (defaultDirectory homes).mapError .home

/-- Replaces the default path of each list that has one of its own. -/
def readLists (homes : Path.Homes) (part : Json) : List Kind → Locations → Read Locations
  | [], l => .ok l
  | kind :: rest, l => do
    match ← path? homes part kind.name with
    | some p => readLists homes part rest (l.withPath p kind)
    | none => readLists homes part rest l

def readLocations (homes : Path.Homes) (part : Json) : Read Locations := do
  let directory ← readDirectory homes part
  readLists homes part Kind.all (.inside directory)

def isAtMostZero (v : Json) : Read Bool :=
  match Interval.atMostZero v with
  | .ok b => .ok b
  | .error _ => .error (.refused (.incomparable v.kindName))

def readSettings (part : Json) : Read Settings := do
  let d : Settings := {}
  let updateBlocked ← boolean part "update_blocked" d.updateBlocked
  let updateDirect ← boolean part "update_direct" d.updateDirect
  let transientLifetime ← member part "transient_ttl_seconds" d.transientLifetime
  let flushInterval ← member part "flush_interval_seconds" d.flushInterval
  if ← isAtMostZero transientLifetime then .error (.refused .notPositive)
  else if ← isAtMostZero flushInterval then .error (.refused .notPositive)
  else return { updateBlocked, updateDirect, transientLifetime, flushInterval }

/-- A level is only looked up if it is not a container. -/
def levelOf (v : Json) : Read (Option Log.Level) :=
  match v with
  | .string t => .ok (Log.Level.ofName? t)
  | .array _ | .object _ => .error (.refused (.unhashable v.kindName))
  | _ => .ok none

def formatOf (v : Json) : Option Log.Format :=
  match v with
  | .string t => Log.Format.ofName? t
  | _ => none

def readLogging (part : Json) : Read (Log.Level × Log.Format) := do
  let level ← member part "level" (.string "info")
  let format ← member part "output_format" (.string "text")
  match ← levelOf level, formatOf format with
  | some l, some f => return (l, f)
  | _, _ => .error (.refused (.badLogging level.plain format.plain))

/-- A webhook takes part if it is enabled and has a URL. -/
def readWebhook (part : Json) : Read (Option WebhookSettings) := do
  if ← boolean part "enabled" false then
    let url ← member part "url" .null
    if url.isTruthy then
      let d : WebhookSettings := { url }
      let headers ← member part "headers" d.headers
      let timeout ← member part "timeout_seconds" d.timeout
      return some { url, headers, timeout }
    else return none
  else return none

def ofJson (homes : Path.Homes) (document : Json) : Read Configuration := do
  let locations ← readLocations homes (← partOf document "paths")
  let settings ← readSettings (← partOf document "classifier")
  let (level, format) ← readLogging (← partOf document "logging")
  let notifications ← partOf document "notifications"
  let simulation ← boolean notifications "simulation_mode" false
  let webhook ← readWebhook (← partOf notifications "webhook")
  return { locations, settings, level, format, webhook, simulation }

end Detour.Configuration
