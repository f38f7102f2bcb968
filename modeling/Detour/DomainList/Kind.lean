import Detour.Files.Path

/-!
# The four domain lists

Two lists are learned from outcomes, two are kept by an administrator. Each is a file of its own.
-/
namespace Detour.DomainList

open Files

inductive Kind
  | blocked
  | direct
  | alwaysBlocked
  | alwaysDirect
  deriving DecidableEq, Repr

def Kind.name : Kind → Text
  | .blocked => "blocked"
  | .direct => "direct"
  | .alwaysBlocked => "always_blocked"
  | .alwaysDirect => "always_direct"

def Kind.all : List Kind := [.blocked, .direct, .alwaysBlocked, .alwaysDirect]

def Kind.ofName? (name : Text) : Option Kind := Kind.all.find? fun k => k.name = name

/-- Where the lists are kept. -/
structure Locations where
  directory : Path
  blocked : Path
  direct : Path
  alwaysBlocked : Path
  alwaysDirect : Path
  deriving DecidableEq, Repr

namespace Locations

/-- All lists in one directory under their own names. -/
def inside (directory : Path) : Locations where
  directory
  blocked := directory.child Kind.blocked.name
  direct := directory.child Kind.direct.name
  alwaysBlocked := directory.child Kind.alwaysBlocked.name
  alwaysDirect := directory.child Kind.alwaysDirect.name

def pathFor (l : Locations) : Kind → Path
  | .blocked => l.blocked
  | .direct => l.direct
  | .alwaysBlocked => l.alwaysBlocked
  | .alwaysDirect => l.alwaysDirect

def withPath (l : Locations) (path : Path) : Kind → Locations
  | .blocked => { l with blocked := path }
  | .direct => { l with direct := path }
  | .alwaysBlocked => { l with alwaysBlocked := path }
  | .alwaysDirect => { l with alwaysDirect := path }

end Locations
end Detour.DomainList
