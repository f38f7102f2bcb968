import Detour.Json.Display
import Detour.Text.LowerCase

/-!
# Log levels

Levels are ordered by their severity; what is below the level of a log is not recorded.
-/
namespace Detour.Log

open Text

inductive Level
  | debug
  | info
  | warn
  | error
  deriving DecidableEq, Repr

namespace Level

def name : Level → Text
  | .debug => "debug"
  | .info => "info"
  | .warn => "warn"
  | .error => "error"

def label : Level → Text
  | .debug => "DEBUG"
  | .info => "INFO"
  | .warn => "WARN"
  | .error => "ERROR"

def severity : Level → Nat
  | .debug => 10
  | .info => 20
  | .warn => 30
  | .error => 40

def all : List Level := [.debug, .info, .warn, .error]

def ofName? (name : Text) : Option Level := all.find? fun l => l.name = name

/-- Settings may name a level in any case. -/
def ofSetting? (setting : Text) : Option Level := ofName? (lower setting)

end Level
end Detour.Log
