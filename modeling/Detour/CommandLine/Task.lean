import Detour.CommandLine.Grammar
import Detour.CommandLine.Help
import Detour.DomainList.Kind
import Detour.Outcome

/-!
# Tasks

A command line names a command, and what follows belongs to that command. Together they make a task.

## Main definitions

* `Task` — what there is to do.
* `Task.ofArguments` — the task of a command line, or why there is none.
-/
namespace Detour.CommandLine

open Text

/-- What becomes of a configuration file. -/
inductive ConfigAction
  | display
  | init
  | validate
  deriving DecidableEq, Repr

def ConfigAction.name : ConfigAction → Text
  | .display => "show"
  | .init => "init"
  | .validate => "validate"

def ConfigAction.all : List ConfigAction := [.display, .init, .validate]

def ConfigAction.ofName? (name : Text) : Option ConfigAction := all.find? fun a => a.name = name

/-- The options of all commands that classify. -/
structure Options where
  config : Option Text := none
  verbose : Bool := false
  deriving DecidableEq, Repr

inductive Task
  | help
  | lookup (options : Options) (hosts : List Text)
  | record (route : Route) (options : Options) (hosts : List Text)
  | list (options : Options) (kind : DomainList.Kind)
  | config (action : ConfigAction) (path : Option Text) (force : Bool)
  deriving DecidableEq, Repr

inductive Command
  | lookup
  | recordBlocked
  | recordDirect
  | list
  | config
  deriving DecidableEq, Repr

namespace Command

def all : List Command := [.lookup, .recordBlocked, .recordDirect, .list, .config]

def name : Command → Text
  | .lookup => "lookup"
  | .recordBlocked => "record-blocked"
  | .recordDirect => "record-direct"
  | .list => "show"
  | .config => "config"

def ofName? (name : Text) : Option Command := all.find? fun c => c.name = name

def explanation : Command → List Text
  | .lookup => ["Show whether hosts are reached directly or through the", "proxy"]
  | .recordBlocked => ["Record failed direct connections and persist the lists"]
  | .recordDirect => ["Record successful direct connections and persist the", "lists"]
  | .list => ["Print the contents of a domain list"]
  | .config => ["Configuration management"]

end Command

/-! ## Grammars -/

def program : Text := "domain-classifier"

def helpSwitch : Switch := ⟨["-h", "--help"], .help⟩

def configKey : Text := "config"
def verboseKey : Text := "verbose"
def pathKey : Text := "path"
def forceKey : Text := "force"

/-- The grammar of a line up to the name of the command. -/
def mainGrammar : Grammar :=
  let names := Command.all.map (·.name)
  { program
    usage := Help.usage program "[-h] [--version]" (Help.choices names ++ " ...")
    details :=
      "\nClassify proxy destinations as direct or blocked\n" ++
      Help.listing "positional arguments"
        (Help.row 2 (Help.choices names) ["Available commands"] ::
          Command.all.map fun c => Help.row 4 c.name c.explanation) ++
      Help.listing "options"
        [Help.helpRow, Help.row 2 "--version" ["show program's version number and exit"]]
    switches := [helpSwitch, ⟨["--version"], .version⟩]
    positional := { name := "command", arity := .remainder, choices := names, required := false } }

def commandProgram (c : Command) : Text := program ++ [32] ++ c.name

/-- The grammar of a command that classifies. -/
def classifying (c : Command) (expected : Text) (row : Text) (positional : Positional) :
    Grammar where
  program := commandProgram c
  usage := Help.usage (commandProgram c) "[-h] [--config CONFIG] [--verbose]" expected
  details :=
    Help.listing "positional arguments" [row] ++
    Help.listing "options"
      [Help.helpRow,
       Help.row 2 "--config CONFIG, -c CONFIG" ["Path to configuration file"],
       Help.row 2 "--verbose, -v" ["Enable debug logging"]]
  switches := [helpSwitch, ⟨["--config", "-c"], .store configKey⟩,
    ⟨["--verbose", "-v"], .set verboseKey⟩]
  positional

def hostsGrammar (c : Command) : Grammar :=
  classifying c "hosts [hosts ...]" (Help.row 2 "hosts" ["Hosts as host[:port]"])
    { name := "hosts", arity := .several }

def listGrammar : Grammar :=
  let names := DomainList.Kind.all.map (·.name)
  classifying .list (Help.choices names)
    (Help.row 2 (Help.choices names) ["Domain list to print"])
    { name := "list", arity := .one, choices := names }

def configGrammar : Grammar :=
  let names := ConfigAction.all.map (·.name)
  { program := commandProgram .config
    usage := Help.usage (commandProgram .config) "[-h] [--path PATH] [--force]"
      (Help.choices names)
    details :=
      Help.listing "positional arguments"
        [Help.row 2 (Help.choices names) ["Configuration action"]] ++
      Help.listing "options"
        [Help.helpRow,
         Help.row 2 "--path PATH, -p PATH" ["Path to configuration file"],
         Help.row 2 "--force, -f" ["Force overwrite existing configuration"]]
    switches := [helpSwitch, ⟨["--path", "-p"], .store pathKey⟩,
      ⟨["--force", "-f"], .set forceKey⟩]
    positional := { name := "action", arity := .one, choices := names } }

def Command.grammar : Command → Grammar
  | .list => listGrammar
  | .config => configGrammar
  | c => hostsGrammar c

/-! ## Reading -/

/-- An empty value counts as none. -/
def Values.value? (v : Values) (key : Text) : Option Text :=
  match v.stored.get? key with
  | some [] => none
  | value => value

def Values.options (v : Values) : Options where
  config := v.value? configKey
  verbose := v.set.contains verboseKey

def Values.arguments (v : Values) : List Text := v.positional.getD []

/-- The task of a command with the values that belong to it; the grammar admits no other names than
those of a list or an action. -/
def Command.task (c : Command) (v : Values) : Task :=
  let name := v.arguments.headD []
  match c with
  | .lookup => .lookup v.options v.arguments
  | .recordBlocked => .record .blocked v.options v.arguments
  | .recordDirect => .record .direct v.options v.arguments
  | .list => .list v.options ((DomainList.Kind.ofName? name).getD .blocked)
  | .config =>
    .config ((ConfigAction.ofName? name).getD .display) (v.value? pathKey) (v.set.contains forceKey)

/-- Nothing may be left over. -/
def checkLeft (left : List Text) : Except Stop Unit :=
  if left.isEmpty then .ok ()
  else .error (mainGrammar.fault ("unrecognized arguments: " ++ joinWith [32] left))

def Task.ofArguments (arguments : List Text) : Except Stop Task := do
  let line ← mainGrammar.parse arguments
  match line.arguments with
  | [] =>
    checkLeft line.left
    return .help
  | name :: rest =>
    let command := (Command.ofName? name).getD .lookup
    let values ← command.grammar.parse rest
    checkLeft (line.left ++ values.left)
    return command.task values

end Detour.CommandLine
