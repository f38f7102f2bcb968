import Detour.Files.Disk

/-!
# Stored domain lists

A list is a file with one name a line. It is written sorted, to a temporary file in the same
directory that then takes the place of the list in one step; so a reader finds the old list or the
new one, and a failure leaves the old one. Octets that are no UTF-8 survive being read and written.

## Main definitions

* `DomainList.decode` and `DomainList.encode` — names from and to the content of a file.
* `DomainList.load` and `DomainList.store` — names from and to a disk.
-/
namespace Detour.DomainList

open Files Text

/-- Why a list is not read or written. -/
inductive Fault
  | unreadable (path : Path) (cause : Files.Fault)
  | noTemporary (path : Path) (cause : Files.Fault)
  | notReplaced (path : Path) (temporary : Text) (cause : Files.Fault)
  /-- The fault of a path that does not reach the file system, or that is not looked for there. -/
  | escaped (cause : Files.Fault)
  deriving DecidableEq, Repr

namespace Fault

/-- Whether the fault is reported as one of a domain list. -/
def isReported : Fault → Bool
  | .escaped _ => false
  | _ => true

def report (message : Text) (cause : Files.Fault) (details : Table Text Text) : Failure :=
  .own (.ofTexts .persistence "io_error" (message ++ cause.message) details)

def toFailure : Fault → Failure
  | .unreadable path cause =>
    report "Failed to read domain list: " cause [("file_path", path.text)]
  | .noTemporary path cause =>
    report "Failed to create temporary domain list: " cause [("file_path", path.text)]
  | .notReplaced path temporary cause =>
    report "Failed to store domain list: " cause
      [("file_path", path.text), ("tmp_path", temporary)]
  | .escaped cause => cause.toFailure

end Fault

/-- A carriage return, alone or before a line feed, ends a line like a line feed. -/
def unifyLineEnds : Text → Text
  | [] => []
  | 13 :: 10 :: r => 10 :: unifyLineEnds r
  | 13 :: r => 10 :: unifyLineEnds r
  | c :: r => c :: unifyLineEnds r

/-- The names in a file: its lines without outer blanks, blank lines skipped. -/
def decode (content : Octets) : List Text :=
  ((splitOn 10 (unifyLineEnds (Utf8.decodeEscaping content))).map strip).filter (· ≠ [])

def lines (names : List Text) : Text := names.flatMap (· ++ [10])

def encode (names : List Text) : Except Utf8.EncodeError Octets :=
  Utf8.encodeEscaping (lines (sorted names))

/-- A missing file is an empty list. -/
def load (path : Path) (d : Disk) : Except Fault (List Text) × Disk :=
  match d.exists? path with
  | .error e => (.error (.escaped e), d)
  | .ok false => (.ok [], d)
  | .ok true =>
    match d.read path with
    | (.ok content, d) => (.ok (decode content), d)
    | (.error e, d) => (.error (if e.isSystem then .unreadable path e else .escaped e), d)

/-- Makes the directory of a list and a temporary file in it. -/
def prepare (path : Path) (d : Disk) : Except Files.Fault Text × Disk :=
  match d.makeDirectories path.parent with
  | (.error e, d) => (.error e, d)
  | (.ok (), d) => d.createTemporary path.parent.text path.name

/-- Renames a temporary file to a path. If permission is refused although there is something to
replace, that is removed first. -/
def replace (temporary : Text) (path : Path) (d : Disk) : Except Files.Fault Unit × Disk :=
  match d.rename temporary path.text with
  | (.ok (), d) => (.ok (), d)
  | (.error e, d) =>
    if e.isPermission then
      match d.exists? path with
      | .error e => (.error e, d)
      | .ok false => (.error e, d)
      | .ok true =>
        match d.remove path.text with
        | (.error e, d) => (.error e, d)
        | (.ok (), d) => d.rename temporary path.text
    else (.error e, d)

/-- Writes names to a temporary file and puts it in the place of the list. -/
def fill (temporary : Text) (path : Path) (names : List Text) (d : Disk) :
    Except Files.Fault Unit × Disk :=
  match encode names with
  | .error e => (.error (.unencodable e), d)
  | .ok content =>
    match d.write (Path.ofText temporary) content with
    | (.error e, d) => (.error e, d)
    | (.ok (), d) =>
      match d.synchronise with
      | (.error e, d) => (.error e, d)
      | (.ok (), d) => replace temporary path d

def store (path : Path) (names : List Text) (d : Disk) : Except Fault Unit × Disk :=
  match prepare path d with
  | (.error e, d) => (.error (if e.isSystem then .noTemporary path e else .escaped e), d)
  | (.ok temporary, d) =>
    match fill temporary path names d with
    | (.ok (), d) => (.ok (), d)
    | (.error e, d) => (.error (.notReplaced path temporary e), (d.discard temporary).2)

end Detour.DomainList
