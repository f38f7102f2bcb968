import Detour.Config.Basic

/-!
# Writing a configuration

A configuration is written as the JSON object that it can be read from.
-/
namespace Detour.Configuration

open DomainList Files Text

def pathJson (p : Path) : Json := .string p.text

def locationsJson (l : Locations) : Json :=
  .object (("directory", pathJson l.directory) ::
    Kind.all.map fun k => (k.name, pathJson (l.pathFor k)))

def settingsJson (s : Settings) : Json :=
  .object [("update_blocked", .bool s.updateBlocked), ("update_direct", .bool s.updateDirect),
    ("transient_ttl_seconds", s.transientLifetime), ("flush_interval_seconds", s.flushInterval)]

def loggingJson (level : Log.Level) (format : Log.Format) : Json :=
  .object [("level", .string level.name), ("output_format", .string format.name)]

def webhookJson : Option WebhookSettings → Json
  | none => .object [("enabled", .bool false)]
  | some w => .object [("enabled", .bool true), ("url", w.url), ("headers", w.headers),
      ("timeout_seconds", w.timeout)]

def toJson (c : Configuration) : Json :=
  .object [("paths", locationsJson c.locations), ("classifier", settingsJson c.settings),
    ("logging", loggingJson c.level c.format),
    ("notifications",
      .object [("simulation_mode", .bool c.simulation), ("webhook", webhookJson c.webhook)])]

end Detour.Configuration
