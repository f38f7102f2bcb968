import Detour.CommandLine.Program

/-!
# Footprints

The files that a command line looks at or may write: the configuration, and the lists that it names.
Which lists these are is known only when the configuration is there to be read.
-/
namespace Detour.CommandLine

open Files Text

/-- A location with all directories above it, the outermost first. -/
def wayTo (l : Location) : List Location := (List.range l.length).map fun n => l.take (n + 1)

namespace Machine

def configurationFiles (m : Machine) (named : Option Text) : List Path :=
  match named with
  | some file => [.ofText file]
  | none => (Configuration.defaultFile m.homes).toOption.toList

def listFiles (m : Machine) (o : Options) : List Path :=
  match m.configured o.config with
  | .error _ => []
  | .ok (_, c) =>
    match c.override m.homes m.environment with
    | .error _ => []
    | .ok c => DomainList.Kind.all.map c.locations.pathFor

def taskFiles (m : Machine) : Task → List Path
  | .help => []
  | .lookup o _ | .record _ o _ | .list o _ => m.configurationFiles o.config ++ m.listFiles o
  | .config _ path _ => m.configurationFiles path

/-- Where a path leads if no dots have to be followed; no location for a path that cannot be handed
to the file system. -/
def locationOf (m : Machine) (p : Path) : Location :=
  match pathOctets (p.absolute m.disk.workingPath).text with
  | .ok octets => Tree.names octets
  | .error _ => []

/-- The locations that a command line has to do with, with the working directory and all above. -/
def footprint (m : Machine) (arguments : List Text) : List Location :=
  let files := match Task.ofArguments arguments with
    | .error _ => []
    | .ok task => m.taskFiles task
  (m.disk.working :: files.map m.locationOf).flatMap wayTo

end Machine
end Detour.CommandLine
