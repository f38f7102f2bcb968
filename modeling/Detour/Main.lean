import Detour.CommandLine.Footprint
import Detour.Http.Client
import Detour.International.Encoder
import Std.Time.DateTime.Timestamp

/-!
# The program

Takes the files that the command line has to do with into memory, runs the command line, and brings
what changed back to the disk. There is no way to the network, so webhooks fail; and of
international names only those are known that the encoder of this library has the characters for.
-/
namespace Detour.Main

open CommandLine Files Text

def pathString (l : Location) : String :=
  Text.toString (l.flatMap fun name => 47 :: Utf8.decodeEscaping name)

def isDirectory (path : String) : IO Bool :=
  try return ← (← IO.FS.realPath path).isDir catch _ => return false

def isThere (path : String) : IO Bool :=
  try return ← (← IO.FS.realPath path).pathExists catch _ => return false

/-- Takes a location into a tree if there is something. -/
def take (t : Tree) (l : Location) : IO Tree := do
  let path := pathString l
  if ← isDirectory path then return t.put l .directory
  else if ← isThere path then
    let content ← IO.FS.readBinFile path
    return t.put l (.file content.toList)
  else return t

def carryOut : Change → IO Unit
  | .directory l => IO.FS.createDirAll (pathString l)
  | .file l content => do
    let temporary := pathString l ++ ".tmp"
    IO.FS.writeBinFile temporary ⟨content.toArray⟩
    IO.FS.rename temporary (pathString l)
  | .removal l => IO.FS.removeFile (pathString l)

/-- The variables that are looked at. -/
def variableNames : List String :=
  ["DIR", "UPDATE_BLOCKED", "UPDATE_DIRECT", "TRANSIENT_TTL", "FLUSH_INTERVAL", "LOG_LEVEL",
   "WEBHOOK_URL"].map ("DOMAIN_CLASSIFIER_" ++ ·)

def environment : IO Configuration.Environment :=
  variableNames.filterMapM fun name => do
    return (← IO.getEnv name).map fun value => (ofString name, ofString value)

def now : IO Moment := do
  let t ← Std.Time.Timestamp.now
  let nanos := t.toNanosecondsSinceUnixEpoch.val.toNat
  let seconds := nanos / 1000000000
  return { seconds := .int seconds
           timestamp := (Instant.ofSeconds seconds (nanos % 1000000000 / 1000)).text }

def machine : IO Machine := do
  let working := ofString (← IO.currentDir).toString
  let location := (pathOctets working).toOption.map Tree.names
  let home ← IO.getEnv "HOME"
  return {
    disk := { tree := ⟨[]⟩, working := location.getD [] }
    environment := ← environment
    homes := ⟨ofString (home.getD "/root"), Path.systemAccounts⟩
    encode := International.encoder
    network := { answer := fun _ => Request.reply fun _ => .unanswered "no network" }
    now := ← now }

def withTree (m : Machine) (tree : Tree) : Machine := { m with disk := { m.disk with tree } }

/-- A machine with all files that the command line has to do with: first the configuration, then the
lists that are known from it. -/
def furnished (m : Machine) (arguments : List Text) : IO Machine := do
  let m := withTree m (← (m.footprint arguments).foldlM take m.disk.tree)
  return withTree m (← (m.footprint arguments).foldlM take m.disk.tree)

def report : Ending → IO UInt32
  | .code n | .stopped n => return UInt32.ofNat n
  | .failed failure => do
    IO.eprintln (failure.kind ++ ": " ++ failure.text).toString
    return 1

end Detour.Main

open Detour in
def main (arguments : List String) : IO UInt32 := do
  let arguments := arguments.map Text.ofString
  let m ← Main.furnished (← Main.machine) arguments
  let r := m.run arguments
  (Files.Tree.changes m.disk.tree r.disk.tree).forM Main.carryOut
  IO.print r.output.toString
  IO.eprint r.errors.toString
  Main.report r.ending
