import Detour.Classifier.Basic
import Detour.Log.Entry
import Detour.Notification.Webhook

/-!
# Configuration

A configuration says where the domain lists are, what is learned, what is logged, and where events
go. Whoever reads one from a file checks that its level and its format are known; put together in
another way, it may tell them by any text.

## Main definitions

* `Configured` — settings with any type of levels and of formats.
* `Configuration` — settings whose level and format are known.
-/
namespace Detour

open DomainList Files Text

structure Configured (Level Format : Type) where
  locations : Locations
  settings : Settings := {}
  level : Level
  format : Format
  webhook : Option WebhookSettings := none
  simulation : Bool := false
  deriving Repr, BEq

abbrev Configuration := Configured Log.Level Log.Format

namespace Configuration

def directoryName : Text := ".domain_classifier"

def fileName : Text := "config.json"

/-- The home directory as a path. -/
def home (homes : Path.Homes) : Except Path.HomeFault Path :=
  (Path.ofText [126]).expandHome homes

/-- The directory of the lists where none is configured. -/
def defaultDirectory (homes : Path.Homes) : Except Path.HomeFault Path :=
  (home homes).map fun p => p.child directoryName

/-- The file of the configuration where none is named. -/
def defaultFile (homes : Path.Homes) : Except Path.HomeFault Path :=
  (defaultDirectory homes).map fun p => p.child fileName

/-- Everything by default, with the lists in a directory. -/
def inDirectory (directory : Path) : Configuration :=
  { locations := .inside directory, level := .info, format := .text }

def standard (homes : Path.Homes) : Except Path.HomeFault Configuration :=
  (defaultDirectory homes).map inDirectory

end Configuration
end Detour
