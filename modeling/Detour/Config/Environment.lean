import Detour.Config.Basic
import Detour.Number.Reader

/-!
# Settings from the environment

Variables with a common beginning override what is configured. One that is not set or blank changes
nothing, nor does a number that cannot be read or is not positive, nor an unknown level.

## Main definitions

* `Configuration.overrideIn` — settings under an environment, whatever form their level has.
* `Configuration.override` — a configuration under an environment.
-/
namespace Detour.Configuration

open DomainList Files Text

variable {Level Format : Type}

abbrev Environment := Table Text Text

def variableStart : Text := "DOMAIN_CLASSIFIER_"

/-- The value of a variable without outer blanks, unless it is blank. -/
def setting? (env : Environment) (name : Text) : Option Text :=
  match Table.get? (variableStart ++ name) env with
  | none => none
  | some value => if isBlankText value then none else some (strip value)

/-- The words that mean yes. -/
def yesWords : List Text := ["1", "true", "yes", "on"]

def isYes (value : Text) : Bool := yesWords.contains (lower (strip value))

def overrideBoolean (value : Option Text) (configured : Bool) : Bool :=
  match value with
  | none => configured
  | some v => isYes v

/-- A positive number, else what is configured. -/
def overrideInterval (value : Option Text) (configured : Json) : Json :=
  match value.bind Binary64.ofText? with
  | none => configured
  | some x => if (Number.float x).isPositive then .number (.float x) else configured

/-- A known level in the form that the configuration has it in, else what is configured. -/
def overrideLevel (form : Log.Level → Level) (value : Option Text) (configured : Level) : Level :=
  match value.bind Log.Level.ofSetting? with
  | none => configured
  | some level => form level

def overrideWebhook (value : Option Text) (configured : Option WebhookSettings) :
    Option WebhookSettings :=
  match value, configured with
  | none, w => w
  | some url, none => some { url := .string url }
  | some url, some w => some { w with url := .string url }

def overrideLocations (homes : Path.Homes) (value : Option Text) (configured : Locations) :
    Except Path.HomeFault Locations :=
  match value with
  | none => .ok configured
  | some directory => ((Path.ofText directory).expandHome homes).map .inside

def overrideSettings (env : Environment) (s : Settings) : Settings where
  updateBlocked := overrideBoolean (setting? env "UPDATE_BLOCKED") s.updateBlocked
  updateDirect := overrideBoolean (setting? env "UPDATE_DIRECT") s.updateDirect
  transientLifetime := overrideInterval (setting? env "TRANSIENT_TTL") s.transientLifetime
  flushInterval := overrideInterval (setting? env "FLUSH_INTERVAL") s.flushInterval

def overrideIn (form : Log.Level → Level) (homes : Path.Homes) (env : Environment)
    (c : Configured Level Format) : Except Path.HomeFault (Configured Level Format) :=
  (overrideLocations homes (setting? env "DIR") c.locations).map fun locations =>
    { c with
      locations
      settings := overrideSettings env c.settings
      level := overrideLevel form (setting? env "LOG_LEVEL") c.level
      webhook := overrideWebhook (setting? env "WEBHOOK_URL") c.webhook }

abbrev override (homes : Path.Homes) (env : Environment) (c : Configuration) :
    Except Path.HomeFault Configuration :=
  overrideIn id homes env c

theorem overrideIn_eq_ok {form : Log.Level → Level} {homes : Path.Homes} {env : Environment}
    {c c' : Configured Level Format} :
    overrideIn form homes env c = .ok c' ↔
      ∃ l, overrideLocations homes (setting? env "DIR") c.locations = .ok l ∧
        c' = { c with
          locations := l
          settings := overrideSettings env c.settings
          level := overrideLevel form (setting? env "LOG_LEVEL") c.level
          webhook := overrideWebhook (setting? env "WEBHOOK_URL") c.webhook } := by
  unfold overrideIn
  cases overrideLocations homes (setting? env "DIR") c.locations with
  | error f => simp [Except.map]
  | ok l => simp [Except.map, @eq_comm _ c']

end Detour.Configuration
