import Detour.Config.Reader
import Detour.Config.Writer
import Detour.DomainList.Storage
import Detour.Json.Printer
import Detour.Json.Reader

/-!
# Stored configurations

A configuration is kept in a file. A file that is missing is no error, and what is wrong with the
content of one is told to the user; other failures escape.

## Main definitions

* `Configuration.load` and `Configuration.save` — from and to a disk.
-/
namespace Detour.Configuration

open Files Text

/-- Why there is no configuration to be had from a file. -/
inductive LoadError
  | missing
  | reported (message : Text)
  | escaped (failure : Failure)

/-- What the user is told, if loading ends in an orderly way. -/
def LoadError.notice : LoadError → Text
  | .reported message => "Error loading config: " ++ message ++ "\n"
  | _ => []

def documentError (document : Text) (f : Json.Fault) : LoadError :=
  match f with
  | .found .. => .reported (f.message document)
  | f => .escaped (f.toFailure document)

def readError : ReadError → LoadError
  | .refused f => .reported f.message
  | .home f => .escaped f.toFailure

/-- The configuration in the content of a file. -/
def ofContent (homes : Path.Homes) (content : Octets) : Except LoadError Configuration :=
  match Utf8.decode content with
  | .error e => .error (.escaped (.simple "UnicodeDecodeError" e.message))
  | .ok text =>
    let text := DomainList.unifyLineEnds text
    match Json.document text with
    | .error f => .error (documentError text f)
    | .ok document => (ofJson homes document).mapError readError

def load (homes : Path.Homes) (file : Path) (d : Disk) : Except LoadError Configuration :=
  match d.content file with
  | .error (.system .noEntry _ _) => .error .missing
  | .error e => .error (.escaped e.toFailure)
  | .ok content => ofContent homes content

/-- Why a configuration is not saved. -/
inductive SaveError
  | reported (fault : Files.Fault)
  | escaped (failure : Failure)

def SaveError.notice : SaveError → Text
  | .reported f => "Error saving config: " ++ f.message ++ "\n"
  | .escaped _ => []

def saveError (f : Files.Fault) : SaveError :=
  if f.isSystem then .reported f else .escaped f.toFailure

/-- The octets of pieces up to the first that cannot be written, and why it cannot. -/
def encodePieces : List (Option Text) → Octets × Option Failure
  | [] => ([], none)
  | none :: _ => ([], some (.simple "ValueError" Json.numeralFault))
  | some p :: rest =>
    match Utf8.encode p with
    | .error e => ([], some (.simple "UnicodeEncodeError" e.message))
    | .ok octets =>
      let (more, failed) := encodePieces rest
      (octets ++ more, failed)

def content (c : Configuration) : Octets × Option Failure :=
  encodePieces (Json.pieces 0 c.toJson)

/-- Writes a configuration with the directories above it. What was written before a failure stays
written. -/
def save (c : Configuration) (file : Path) (d : Disk) : Except SaveError Unit × Disk :=
  match d.makeDirectories file.parent with
  | (.error e, d) => (.error (saveError e), d)
  | (.ok (), d) =>
    let (octets, failed) := c.content
    match d.write file octets, failed with
    | (.error e, d), _ => (.error (saveError e), d)
    | (.ok (), d), none => (.ok (), d)
    | (.ok (), d), some failure => (.error (.escaped failure), d)

end Detour.Configuration
