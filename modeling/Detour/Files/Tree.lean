import Detour.Files.Path

/-!
# File trees

A tree holds files and directories under their locations, a location being the names on the way
from the root. A path is followed name by name: every name but the last must be a directory.

## Main definitions

* `Tree.locate` — the place that a path text leads to.
* `Tree.rename` — puts a file in the place of another in one step.
-/
namespace Detour.Files

abbrev Location := List Octets

inductive Node
  | file (content : Octets)
  | directory
  deriving DecidableEq, Repr

/-- The root is always there and has no entry. -/
structure Tree where
  nodes : Table Location Node
  deriving Repr

/-- What a path leads to: a directory by way of the root or of dots, or a name in a directory. -/
inductive Place
  | directory (location : Location)
  | entry (parent : Location) (name : Octets)
  deriving DecidableEq, Repr

def Place.location : Place → Location
  | .directory location => location
  | .entry parent name => parent ++ [name]

namespace Tree

def node? (t : Tree) (l : Location) : Option Node :=
  if l = [] then some .directory else t.nodes.get? l

/-- The longest name of a file, in octets. -/
def nameLimit : Nat := 255

/-- A path text has fewer octets than this. -/
def pathLimit : Nat := 4096

/-- Follows names from a directory. -/
def walk (t : Tree) (here : Location) : List Octets → Except Cause Place
  | [] => .ok (.directory here)
  | name :: rest =>
    if name = [46] then walk t here rest
    else if name = [46, 46] then walk t here.dropLast rest
    else if nameLimit < name.length then .error .nameTooLong
    else match rest with
      | [] => .ok (.entry here name)
      | _ =>
        match t.node? (here ++ [name]) with
        | none => .error .noEntry
        | some (.file _) => .error .notDirectory
        | some .directory => walk t (here ++ [name]) rest

/-- The names between the slashes. -/
def splitNames : Octets → List Octets
  | [] => [[]]
  | b :: r =>
    if b = 47 then [] :: splitNames r
    else match splitNames r with
      | [] => [[b]]
      | n :: ns => (b :: n) :: ns

def names (path : Octets) : List Octets := (splitNames path).filter (· ≠ [])

/-- Where a path leads from a working directory. -/
def locateOctets (t : Tree) (working : Location) (path : Octets) : Except Cause Place :=
  if path = [] then .error .noEntry
  else if pathLimit ≤ path.length then .error .nameTooLong
  else t.walk (if path.head? = some 47 then [] else working) (names path)

/-- Reports a cause with the path it belongs to. -/
def reported {α : Type} (path : Text) (r : Except Cause α) : Except Fault α :=
  r.mapError fun cause => .system cause path none

def locate (t : Tree) (working : Location) (path : Text) : Except Fault Place := do
  reported path (t.locateOctets working (← pathOctets path))

def put (t : Tree) (l : Location) (n : Node) : Tree := ⟨t.nodes.put l n⟩

def erase (t : Tree) (l : Location) : Tree := ⟨t.nodes.erase l⟩

def makeDirectory (t : Tree) : Place → Except Cause Tree
  | .directory _ => .error .alreadyExists
  | p@(.entry ..) =>
    match t.node? p.location with
    | some _ => .error .alreadyExists
    | none => .ok (t.put p.location .directory)

/-- An empty file where nothing was. -/
def create (t : Tree) : Place → Except Cause Tree
  | .directory _ => .error .alreadyExists
  | p@(.entry ..) =>
    match t.node? p.location with
    | some _ => .error .alreadyExists
    | none => .ok (t.put p.location (.file []))

def read (t : Tree) (p : Place) : Except Cause Octets :=
  match t.node? p.location with
  | none => .error .noEntry
  | some .directory => .error .isDirectory
  | some (.file content) => .ok content

/-- Writes a new file or replaces the content of one. -/
def write (t : Tree) (content : Octets) (p : Place) : Except Cause Tree :=
  match t.node? p.location with
  | some .directory => .error .isDirectory
  | _ => .ok (t.put p.location (.file content))

def removeEntry (t : Tree) : Place → Except Cause Tree
  | .directory _ => .error .isDirectory
  | p@(.entry ..) =>
    match t.node? p.location with
    | none => .error .noEntry
    | some .directory => .error .isDirectory
    | some (.file _) => .ok (t.erase p.location)

/-- The file at `source` takes the place of the one at the target, if there is one. -/
def rename (t : Tree) (source : Place) : Place → Except Cause Tree
  | .directory _ => .error .busy
  | target@(.entry ..) =>
    match t.node? source.location with
    | none => .error .noEntry
    | some .directory => .error .busy
    | some (.file content) =>
      match t.node? target.location with
      | some .directory => .error .isDirectory
      | _ => .ok ((t.erase source.location).put target.location (.file content))

end Tree

/-! ## Differences -/

/-- What has to be done for one tree to become another. -/
inductive Change
  | directory (location : Location)
  | file (location : Location) (content : Octets)
  | removal (location : Location)
  deriving DecidableEq, Repr

namespace Tree

/-- Directories that are new come before what is in them, for a tree lists a directory before
anything is put into it. -/
def additions (before after : Tree) : List Change :=
  after.nodes.filterMap fun (l, n) =>
    if before.node? l = some n then none
    else match n with
      | .directory => some (.directory l)
      | .file content => some (.file l content)

def removals (before after : Tree) : List Change :=
  before.nodes.filterMap fun (l, _) =>
    match after.node? l with
    | none => some (.removal l)
    | some _ => none

def changes (before after : Tree) : List Change := removals before after ++ additions before after

end Tree
end Detour.Files
