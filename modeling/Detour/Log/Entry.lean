import Detour.Json.Printer
import Detour.Log.Level

/-!
# Log entries

An entry is written as a JSON object or as a line for people, the data at its end left out if there
are none. Both fit on one line. An entry whose data have no text is not written at all.
-/
namespace Detour.Log

open Text

/-- What is to be logged. -/
structure Message where
  level : Level
  component : Text
  message : Text
  data : Json := .null
  deriving Repr

structure Entry where
  timestamp : Text
  level : Level
  component : Text
  message : Text
  data : Json
  deriving Repr

namespace Entry

def toJson (e : Entry) : Json :=
  .object [("timestamp", .string e.timestamp), ("level", .string e.level.name),
    ("component", .string e.component), ("message", .string e.message), ("data", e.data)]

def dataText (e : Entry) : Text := e.data.render Json.spaced

def jsonText (e : Entry) : Text := e.toJson.render Json.spaced

def plainText (e : Entry) : Text :=
  "[" ++ e.timestamp ++ "] " ++ e.level.label ++ " [" ++ e.component ++ "] " ++ e.message ++
    (if e.data.isTruthy then 32 :: e.dataText else [])

end Entry

inductive Format
  | json
  | text
  | both
  deriving DecidableEq, Repr

def Format.ofName? (name : Text) : Option Format :=
  if name = "json" then some .json
  else if name = "text" then some .text
  else if name = "both" then some .both
  else none

def Format.name : Format → Text
  | .json => "json"
  | .text => "text"
  | .both => "both"

def Format.hasJson : Format → Bool
  | .text => false
  | _ => true

def Format.hasText : Format → Bool
  | .json => false
  | _ => true

def Format.output (f : Format) (e : Entry) : Text :=
  (if f.hasJson then e.jsonText ++ [10] else []) ++ (if f.hasText then e.plainText ++ [10] else [])

/-- What is written for an entry. Its data stand in the first line that is written for it, and so
that line is not written either if they have no text. -/
def Format.output? (f : Format) (e : Entry) : Option Text :=
  if e.data.hasText then some (f.output e) else none

end Detour.Log
