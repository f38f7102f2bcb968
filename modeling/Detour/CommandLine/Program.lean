import Detour.Classifier.Session
import Detour.CommandLine.Task
import Detour.Config.Environment
import Detour.Config.Storage

/-!
# Running a command

A command line is carried out on a machine: with its disk, its environment, its network and an
encoder of international names. What is printed goes to one of two outputs, and the log goes to the
second one. Hosts are worked on one after the other; one that is refused does not keep the others
from being worked on.

## Main definitions

* `Machine.run` — a command line with all that comes of it.
-/
namespace Detour.CommandLine

open Files Text

structure Machine where
  disk : Disk
  environment : Configuration.Environment
  homes : Path.Homes
  encode : Host.Encoder
  network : Network
  now : Moment

/-- How a command ends: with a code, because of its command line, or by a failure. -/
inductive Ending
  | code (code : Nat)
  | stopped (code : Nat)
  | failed (failure : Failure)

structure Run where
  ending : Ending
  output : Text := []
  errors : Text := []
  disk : Disk
  network : Network

/-! ## Work on a session -/

/-- A command at work. -/
structure Work where
  session : Session
  logger : Logger
  webhook : Option Webhook
  network : Network
  output : Text := []
  errors : Text := []
  code : Nat := 0

namespace Work

def print (w : Work) (text : Text) : Work := { w with output := w.output ++ text }

def complain (w : Work) (text : Text) : Work := { w with errors := w.errors ++ text }

def log (w : Work) (messages : List Log.Message) : Work :=
  w.complain (w.logger.logAll w.session.now.timestamp messages).output

/-- A step of the session, with what is logged on the way. -/
def act (w : Work) (step : Session.Step) : Session.Answer × Work :=
  let (answer, session) := w.session.step step
  (answer, { w with session := { session with messages := [] } }.log session.messages)

/-- Work on one target, a failure ending it all. -/
abbrev Job := Target → Work → Option Failure × Work

/-- Works on the target of every host. -/
def forEach (encode : Host.Encoder) (job : Job) : List Text → Work → Option Failure × Work
  | [], w => (none, w)
  | host :: rest, w =>
    match Target.parse encode host with
    | .error (.rejected fault) =>
      forEach encode job rest
        { w.complain (host ++ ": error: " ++ fault.message ++ "\n") with code := 1 }
    | .error e => (some e.toFailure, w)
    | .ok target =>
      match job target w with
      | (some failure, w) => (some failure, w)
      | (none, w) => forEach encode job rest w

def printAbout (w : Work) (t : Target) (text : Text) : Work :=
  w.print (t.hostPort ++ ": " ++ text ++ "\n")

/-- Prints the route of a target. -/
def lookUp : Job := fun t w =>
  match w.session.classifier.classify w.session.now.seconds t with
  | (.error fault, _) => (some fault.toFailure, w)
  | (.ok route, classifier) =>
    (none, { w with session := { w.session with classifier } }.printAbout t route.name)

def recordStep (route : Route) (t : Target) : Session.Step :=
  match route with
  | .blocked => .recordBlocked t
  | .direct => .recordDirect t

def outcomeText : Outcome → Text
  | .recordedTransient =>
    Outcome.name .recordedTransient ++ "\n  (blocked list updates are off; not persisted)"
  | o => o.name

/-- Records the route of a target and prints the outcome. -/
def record (route : Route) : Job := fun t w =>
  match w.act (recordStep route t) with
  | (.outcome o, w) => (none, w.printAbout t (outcomeText o))
  | (.failed failure, w) => (some failure, w)
  | (_, w) => (none, w)

/-- Publishes what happened in the session, if there is a webhook, and waits until all is sent. -/
def deliver (w : Work) : Work :=
  match w.webhook with
  | none => w
  | some webhook =>
    let router : Router (Webhook × Network) := Router.register ⟨[]⟩ Webhook.channel
    let q := router.close (router.publishAll { state := (webhook, w.network) } w.session.events)
    { w with webhook := some q.state.1, network := q.state.2 }.log q.messages

/-- Whether a list that is updated has still to be stored. -/
def isUnstored (w : Work) : Bool :=
  let c := w.session.classifier
  (c.settings.updateBlocked && c.blockedChanged) || (c.settings.updateDirect && c.directChanged)

/-- Stores the lists. -/
def persist (w : Work) : Option Failure × Work :=
  match w.act .persist with
  | (.failed failure, w) => (some failure, w)
  | (_, w) => (none, w)

def checkStored (w : Work) : Work :=
  if w.isUnstored then { w.complain "Error: could not store domain lists\n" with code := 1 } else w

def ending (w : Work) : Option Failure → Ending
  | none => .code w.code
  | some failure => .failed failure

def finish (r : Option Failure × Work) : Run :=
  let (failure, w) := r
  { ending := w.ending failure
    output := w.output
    errors := w.errors
    disk := w.session.disk
    network := w.network }

/-- Records hosts and stores the lists. -/
def recordAll (encode : Host.Encoder) (route : Route) (hosts : List Text) (w : Work) :
    Option Failure × Work :=
  match forEach encode (record route) hosts w with
  | (some failure, w) => (some failure, w.deliver)
  | (none, w) =>
    match w.persist with
    | (some failure, w) => (some failure, w.deliver)
    | (none, w) => (none, w.deliver.checkStored)

def printList (kind : DomainList.Kind) (w : Work) : Option Failure × Work :=
  (none, w.print ((w.session.classifier.snapshot kind).flatMap fun n => n ++ "\n"))

end Work

namespace Machine

/-- A run that changes nothing but what is on the disk. -/
def done (m : Machine) (code : Nat) (output errors : Text) (disk : Disk) : Run :=
  { ending := .code code, output, errors, disk, network := m.network }

def failed (m : Machine) (failure : Failure) (errors : Text) : Run :=
  { ending := .failed failure, errors, disk := m.disk, network := m.network }

/-! ## Configurations -/

/-- Why a command goes no further: the user is told, or there is a failure. -/
inductive Halt
  | told (notice : Text)
  | failed (failure : Failure)

/-- What a configuration file gives; none with what the user is told. -/
def readConfiguration (m : Machine) (file : Path) : Except Failure (Except Text Configuration) :=
  match Configuration.load m.homes file m.disk with
  | .ok c => .ok (.ok c)
  | .error (.escaped failure) => .error failure
  | .error e => .ok (.error e.notice)

def homeFailure {α : Type} (r : Except Path.HomeFault α) : Except Failure α :=
  r.mapError (·.toFailure)

/-- The configuration in a file that was named, or in the default file, or by default. With it comes
what the user is told. -/
def configured (m : Machine) (named : Option Text) : Except Halt (Text × Configuration) :=
  match named with
  | some file =>
    match m.readConfiguration (.ofText file) with
    | .error failure => .error (.failed failure)
    | .ok (.ok c) => .ok ([], c)
    | .ok (.error notice) =>
      .error (.told (notice ++ "Error: Could not load config from " ++ file ++ "\n"))
  | none =>
    match homeFailure (Configuration.defaultFile m.homes) with
    | .error failure => .error (.failed failure)
    | .ok file =>
      match m.readConfiguration file with
      | .error failure => .error (.failed failure)
      | .ok (.ok c) => .ok ([], c)
      | .ok (.error notice) =>
        match homeFailure (Configuration.standard m.homes) with
        | .error failure => .error (.failed failure)
        | .ok c => .ok (notice, c)

/-- The classifier of a configuration at work, its lists not yet loaded. -/
def prepare (m : Machine) (c : Configuration) (verbose : Bool) : Except Failure Work := do
  let webhook ← match c.webhook with
    | none => pure none
    | some settings => (Webhook.create settings c.simulation).map some
  let classifier ← (Classifier.create c.settings c.locations).mapError (·.toFailure)
  return {
    session := { classifier, disk := m.disk, now := m.now }
    logger := { format := c.format, level := if verbose then .debug else c.level }
    webhook
    network := m.network }

/-- Sets a classifier up, loads its lists and has something done with it. -/
def classify (m : Machine) (o : Options) (f : Work → Option Failure × Work) : Run :=
  match m.configured o.config with
  | .error (.told notice) => m.done 1 [] notice m.disk
  | .error (.failed failure) => m.failed failure []
  | .ok (notice, c) =>
    match homeFailure (c.override m.homes m.environment) with
    | .error failure => m.failed failure notice
    | .ok c =>
      match m.prepare c o.verbose with
      | .error failure => m.failed failure notice
      | .ok w =>
        match (w.complain notice).act (.load [] []) with
        | (.failed failure, w) => Work.finish (some failure, w)
        | (_, w) => Work.finish (f w)

/-! ## Configuration files -/

def yesNo (b : Bool) : Text := if b then "yes" else "no"

/-- A configuration for people. -/
def summary (c : Configuration) : Text :=
  "  List directory: " ++ c.locations.directory.text ++
  "\n  Update blocked list: " ++ (Json.bool c.settings.updateBlocked).plain ++
  "\n  Update direct list: " ++ (Json.bool c.settings.updateDirect).plain ++
  "\n  Transient TTL: " ++ c.settings.transientLifetime.plain ++
  "s\n  Flush interval: " ++ c.settings.flushInterval.plain ++
  "s\n  Log level: " ++ c.level.name ++
  "\n  Webhook: " ++ yesNo c.webhook.isSome ++ "\n"

def display (m : Machine) (file : Path) : Run :=
  match m.readConfiguration file with
  | .error failure => m.failed failure []
  | .ok (.error notice) =>
    m.done 1 ("No configuration found at: " ++ file.text ++
      "\nUse 'config init' to create a default configuration.\n") notice m.disk
  | .ok (.ok c) => m.done 0 ("Configuration from: " ++ file.text ++ "\n" ++ summary c) [] m.disk

def validate (m : Machine) (file : Path) : Run :=
  match m.readConfiguration file with
  | .error failure => m.failed failure []
  | .ok (.error notice) =>
    m.done 1 [] (notice ++ "Error: Could not load config from " ++ file.text ++ "\n") m.disk
  | .ok (.ok _) => m.done 0 ("Configuration at " ++ file.text ++ " is valid.\n") [] m.disk

/-- Writes the default configuration to a file. -/
def create (m : Machine) (file : Path) : Run :=
  match homeFailure (Configuration.standard m.homes) with
  | .error failure => m.failed failure []
  | .ok c =>
    match c.save file m.disk with
    | (.ok (), disk) => m.done 0 ("Configuration created at: " ++ file.text ++ "\n") [] disk
    | (.error (.escaped failure), disk) => { m.failed failure [] with disk }
    | (.error e, disk) => m.done 1 [] e.notice disk

def init (m : Machine) (file : Path) (force : Bool) : Run :=
  match m.disk.exists? file with
  | .error f => m.failed f.toFailure []
  | .ok there =>
    if there && !force then
      m.done 1 ("Configuration already exists at: " ++ file.text ++
        "\nUse --force to overwrite.\n") [] m.disk
    else m.create file

def configure (m : Machine) (action : ConfigAction) (path : Option Text) (force : Bool) : Run :=
  let file : Except Failure Path := match path with
    | some path => .ok (.ofText path)
    | none => homeFailure (Configuration.defaultFile m.homes)
  match file with
  | .error failure => m.failed failure []
  | .ok file =>
    match action with
    | .display => m.display file
    | .init => m.init file force
    | .validate => m.validate file

/-! ## Command lines -/

def perform (m : Machine) : Task → Run
  | .help => m.done 0 mainGrammar.help [] m.disk
  | .lookup options hosts => m.classify options (Work.forEach m.encode Work.lookUp hosts)
  | .record route options hosts => m.classify options (Work.recordAll m.encode route hosts)
  | .list options kind => m.classify options (Work.printList kind)
  | .config action path force => m.configure action path force

/-- A run that ends before there is a task. -/
def stop (m : Machine) : Stop → Run
  | .shown text => { m.done 0 text [] m.disk with ending := .stopped 0 }
  | .faulty text => { m.done 2 [] text m.disk with ending := .stopped 2 }

def run (m : Machine) (arguments : List Text) : Run :=
  match Task.ofArguments arguments with
  | .error s => m.stop s
  | .ok task => m.perform task

end Machine
end Detour.CommandLine
