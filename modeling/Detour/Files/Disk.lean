import Detour.Files.Tree
import Detour.Text.Digits

/-!
# Disks

A disk is a tree with a working directory. Some of its operations may be refused: whether a call is
refused is decided by the calls made so far. An operation gives back its result together with the
disk as it is afterwards, also when it fails.
-/
namespace Detour.Files

open Text

/-- The operations that may be refused. -/
inductive Operation
  | openFile
  | createTemporary
  | synchronise
  | replace
  | remove
  | discard
  deriving DecidableEq, Repr

/-- An operation with the texts it is called with. -/
structure Call where
  operation : Operation
  arguments : List Text
  deriving DecidableEq, Repr

structure Disk where
  tree : Tree
  working : Location := []
  /-- The calls so far, the last one first. -/
  calls : List Call := []
  /-- Decides about the call at the head of the list. -/
  refuses : List Call → Option Refusal := fun _ => none

namespace Disk

def locate (d : Disk) (path : Text) : Except Fault Place := d.tree.locate d.working path

/-- The working directory as a path. -/
def workingPath (d : Disk) : Path := ⟨.single, d.working.map Utf8.decodeEscaping⟩

/-- Applies a change to the place that a path leads to. -/
def change (d : Disk) (path : Text) (f : Place → Except Cause Tree) : Except Fault Unit × Disk :=
  match d.locate path with
  | .error e => (.error e, d)
  | .ok place =>
    match f place with
    | .error cause => (.error (.system cause path none), d)
    | .ok tree => (.ok (), { d with tree })

/-- Puts a call on record, and tells whether it is refused. -/
def consult (d : Disk) (operation : Operation) (arguments : List Text) : Option Refusal × Disk :=
  let calls := ⟨operation, arguments⟩ :: d.calls
  (d.refuses calls, { d with calls })

/-- Does something unless the call is refused. -/
def attempt {α : Type} (d : Disk) (operation : Operation) (arguments : List Text)
    (f : Disk → Except Fault α × Disk) : Except Fault α × Disk :=
  match d.consult operation arguments with
  | (some refusal, d) => (.error (.refused refusal), d)
  | (none, d) => f d

/-- What a path leads to; nothing if there is no way to it. -/
def status (d : Disk) (path : Text) : Except Fault (Option Node) :=
  match d.locate path with
  | .ok place => .ok (d.tree.node? place.location)
  | .error (.system .noEntry _ _) => .ok none
  | .error (.system .notDirectory _ _) => .ok none
  | .error e => .error e

/-- A path that cannot be handed to the file system leads to nothing. -/
def exists? (d : Disk) (path : Path) : Except Fault Bool :=
  match d.status path.text with
  | .ok n => .ok n.isSome
  | .error e => if e.isSystem then .error e else .ok false

def isDirectory (d : Disk) (path : Path) : Except Fault Bool :=
  match d.status path.text with
  | .ok n => .ok (n = some .directory)
  | .error e => if e.isSystem then .error e else .ok false

/-- Makes a directory whose parent is there; one that is there already is fine. -/
def makeDirectory (d : Disk) (path : Path) : Except Fault Unit × Disk :=
  match d.change path.text d.tree.makeDirectory with
  | (.ok (), d) => (.ok (), d)
  | (.error e, d) =>
    if e.isSystem then
      match d.isDirectory path with
      | .error e => (.error e, d)
      | .ok true => (.ok (), d)
      | .ok false => (.error e, d)
    else (.error e, d)

def isMissing : Fault → Bool
  | .system .noEntry _ _ => true
  | _ => false

/-- Makes the directory of `root` and the parts, given last part first, with all above it. -/
def makeDirectoriesFrom (root : Root) : List Text → Disk → Except Fault Unit × Disk
  | [], d => d.makeDirectory ⟨root, []⟩
  | part :: above, d =>
    let path : Path := ⟨root, (part :: above).reverse⟩
    match d.makeDirectory path with
    | (.ok (), d) => (.ok (), d)
    | (.error e, d) =>
      if isMissing e then
        match makeDirectoriesFrom root above d with
        | (.ok (), d) => d.makeDirectory path
        | (.error e, d) => (.error e, d)
      else (.error e, d)

def makeDirectories (d : Disk) (path : Path) : Except Fault Unit × Disk :=
  makeDirectoriesFrom path.root path.parts.reverse d

/-- The content of a file, which nothing refuses to give. -/
def content (d : Disk) (path : Path) : Except Fault Octets :=
  match d.locate path.text with
  | .error e => .error e
  | .ok place => Tree.reported path.text (d.tree.read place)

def read (d : Disk) (path : Path) : Except Fault Octets × Disk :=
  d.attempt .openFile [path.text] fun d => (d.content path, d)

def write (d : Disk) (path : Path) (content : Octets) : Except Fault Unit × Disk :=
  d.change path.text (d.tree.write content)

/-! ## Replacing a file -/

/-- What stands before and after the number in the name of a temporary file. -/
def temporaryStart (name : Text) : Text := "." ++ name ++ "."

def temporaryEnd : Text := ".tmp"

/-- The names that are tried for temporary files: a number of eight digits makes them differ. -/
def temporaryName (name : Text) (n : Nat) : Text :=
  let digits := ofNat n
  temporaryStart name ++ repeated (8 - digits.length) 48 ++ digits ++ temporaryEnd

/-- The number of names that are tried. -/
def temporaryTries : Nat := 10000

/-- A name in a directory given as text. -/
def inside (directory name : Text) : Text :=
  if directory.getLast? = some 47 then directory ++ name else directory ++ [47] ++ name

def isTaken : Fault → Bool
  | .system .alreadyExists _ _ => true
  | _ => false

/-- Creates the first temporary file whose name is free, from number `n` on, and gives back its
path. -/
def createFrom (directory name : Text) (n : Nat) : Nat → Disk → Except Fault Text × Disk
  | 0, d => (.error (.system .alreadyExists directory none), d)
  | tries + 1, d =>
    let path := inside directory (temporaryName name n)
    match d.change path d.tree.create with
    | (.ok (), d) => (.ok path, d)
    | (.error e, d) =>
      if isTaken e then createFrom directory name (n + 1) tries d else (.error e, d)

/-- Creates a temporary file in a directory, which is made absolute first, and gives back its
path. -/
def createTemporary (d : Disk) (directory name : Text) : Except Fault Text × Disk :=
  let absolute := ((Path.ofText directory).absolute d.workingPath).text
  d.attempt .createTemporary [directory, temporaryStart name, temporaryEnd]
    (createFrom absolute name 0 temporaryTries)

/-- Makes sure that a file has reached the disk. -/
def synchronise (d : Disk) : Except Fault Unit × Disk :=
  d.attempt .synchronise [] fun d => (.ok (), d)

def remove (d : Disk) (path : Text) : Except Fault Unit × Disk :=
  d.attempt .remove [path] fun d => d.change path d.tree.removeEntry

/-- Removes a temporary file. -/
def discard (d : Disk) (path : Text) : Except Fault Unit × Disk :=
  d.attempt .discard [path] fun d => d.change path d.tree.removeEntry

/-- Reports a fault of a renaming with both paths. -/
def withTarget (target : Text) : Fault → Fault
  | .system cause path none => .system cause path (some target)
  | e => e

/-- Puts a temporary file in the place of a path in one step. -/
def rename (d : Disk) (temporary target : Text) : Except Fault Unit × Disk :=
  d.attempt .replace [temporary, target] fun d =>
    match d.locate temporary with
    | .error e => (.error (withTarget target e), d)
    | .ok source =>
      match d.locate target with
      | .error (.system cause _ _) => (.error (.system cause temporary (some target)), d)
      | .error e => (.error e, d)
      | .ok place =>
        match d.tree.rename source place with
        | .error cause => (.error (.system cause temporary (some target)), d)
        | .ok tree => (.ok (), { d with tree })

end Disk
end Detour.Files
