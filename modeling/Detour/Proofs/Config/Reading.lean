import Detour.Config.Reader
import Detour.Config.Writer
import Detour.Json.Printer
import Detour.Json.Reader
import Detour.Proofs.Files.Paths
import Detour.Proofs.Number.Order

/-!
# Configurations are read from what they are written as

Each section of a configuration is read from the object that is written for it. That needs paths
that mean what their texts say, intervals that are positive numbers, and a URL where there is a
webhook.

## Main definitions

* `Path.Literal`, `Configuration.IsInterval`, `Configuration.IsWebhook` — the parts.
* `Configuration.WellFormed` — a configuration of such parts.

## Main statements

* `Configuration.ofJson_toJson` — a well-formed configuration is read back.
-/
namespace Detour

open Files Text Utf8 DomainList

/-! ## Paths -/

namespace Files.Path

/-- A path that means what its text says: no home directory is put in, and every character has
octets. -/
structure Literal (p : Path) : Prop where
  proper : p.Proper
  tilde : p.text.head? ≠ some 126
  scalar : ∀ c ∈ p.text, IsScalar c

variable {p : Path}

theorem literal_ofText {t : Text} (unicode : IsUnicode t) (tilde : (ofText t).text.head? ≠ some 126)
    (scalar : ∀ c ∈ (ofText t).text, IsScalar c) : (ofText t).Literal :=
  ⟨proper_ofText unicode, tilde, scalar⟩

theorem Literal.expandHome (h : p.Literal) (homes : Homes) : p.expandHome homes = .ok p := by
  obtain ⟨root, parts⟩ := p
  unfold Path.expandHome
  split
  · next user rest hr hp =>
    obtain ⟨rfl, rfl⟩ : root = .relative ∧ parts = (126 :: user) :: rest := ⟨hr, hp⟩
    refine absurd ?_ h.tilde
    cases rest <;> simp [Path.text, rootText, joinWith, List.intercalate_cons_cons]
  · rfl

theorem Literal.expandHome_ofText (h : p.Literal) (homes : Homes) :
    (Path.ofText p.text).expandHome homes = .ok p := by
  rw [ofText_text h.proper, h.expandHome]

end Files.Path

namespace Configuration

/-! ## Parts of a configuration -/

/-- A positive number, which its text stands for if it is no whole number. -/
inductive IsInterval : Json → Prop
  | whole {n : Int} (positive : 0 < n) : IsInterval (.number (.int n))
  | decimal {x : Binary64} (positive : (Number.float x).isPositive = true)
      (back : Binary64.ofText? (x.toText Json.spelling) = some x) :
      IsInterval (.number (.float x))

/-- Headers with their values. -/
def headersJson (headers : Table Text Text) : Json :=
  .object (headers.map fun (name, value) => (name, .string value))

structure IsWebhook (w : WebhookSettings) : Prop where
  url : ∃ t : Text, w.url = .string t ∧ t ≠ [] ∧ ∀ c ∈ t, IsScalar c
  headers : ∃ headers : Table Text Text, w.headers = headersJson headers ∧ headers.keys.Nodup ∧
    ∀ h ∈ headers, (∀ c ∈ h.1, IsScalar c) ∧ ∀ c ∈ h.2, IsScalar c
  timeout : IsInterval w.timeout

structure WellFormed (c : Configuration) : Prop where
  directory : c.locations.directory.Literal
  lists : ∀ kind, (c.locations.pathFor kind).Literal
  lifetime : IsInterval c.settings.transientLifetime
  flush : IsInterval c.settings.flushInterval
  webhook : ∀ w, c.webhook = some w → IsWebhook w

/-! ## Sections -/

theorem member_path (l : Locations) (kind : Kind) :
    member (locationsJson l) kind.name .null = .ok (pathJson (l.pathFor kind)) := by
  cases kind <;> rfl

theorem path?_of_member {part : Json} {name : Text} {p : Path} (homes : Path.Homes)
    (h : p.Literal) (hm : member part name .null = .ok (pathJson p)) :
    path? homes part name = .ok (some p) := by
  have truthy : (pathJson p).isTruthy = true := by
    simp [pathJson, Json.isTruthy, h.proper.text_ne_nil]
  have read : pathOf homes (pathJson p) = .ok p := by
    rw [pathJson, pathOf, h.expandHome_ofText]
    rfl
  simp only [path?, hm, bind, Except.bind, truthy, if_true, read, pure, Except.pure]

theorem readLocations_locationsJson {l : Locations} (homes : Path.Homes)
    (directory : l.directory.Literal) (lists : ∀ kind, (l.pathFor kind).Literal) :
    readLocations homes (locationsJson l) = .ok l := by
  have first : path? homes (locationsJson l) "directory" = .ok (some l.directory) :=
    path?_of_member homes directory rfl
  have each (kind : Kind) : path? homes (locationsJson l) kind.name = .ok (some (l.pathFor kind)) :=
    path?_of_member homes (lists kind) (member_path l kind)
  simp only [readLocations, readDirectory, first, readLists, Kind.all, each, bind, Except.bind,
    pure, Except.pure]
  rfl

theorem isAtMostZero_of_isPositive {x : Number} (h : x.isPositive = true) :
    isAtMostZero (.number x) = .ok false := by
  have above := Number.not_le_of_lt h
  simp only [isAtMostZero, Interval.atMostZero, Interval.number?, above]

theorem IsInterval.isAtMostZero {v : Json} (h : IsInterval v) :
    Configuration.isAtMostZero v = .ok false := by
  cases h with
  | whole positive => exact isAtMostZero_of_isPositive (Number.isPositive_int positive)
  | decimal positive back => exact isAtMostZero_of_isPositive positive

theorem readSettings_settingsJson {s : Settings} (lifetime : IsInterval s.transientLifetime)
    (flush : IsInterval s.flushInterval) : readSettings (settingsJson s) = .ok s := by
  have blocked : boolean (settingsJson s) "update_blocked" true = .ok s.updateBlocked := rfl
  have direct : boolean (settingsJson s) "update_direct" true = .ok s.updateDirect := rfl
  have first (v : Json) : member (settingsJson s) "transient_ttl_seconds" v =
      .ok s.transientLifetime := rfl
  have second (v : Json) : member (settingsJson s) "flush_interval_seconds" v =
      .ok s.flushInterval := rfl
  simp only [readSettings, blocked, direct, first, second, lifetime.isAtMostZero,
    flush.isAtMostZero, bind, Except.bind, pure, Except.pure, Bool.false_eq_true, if_false]

theorem readLogging_loggingJson (level : Log.Level) (format : Log.Format) :
    readLogging (loggingJson level format) = .ok (level, format) := by
  cases level <;> cases format <;> rfl

theorem readWebhook_webhookJson {webhook : Option WebhookSettings}
    (h : ∀ w, webhook = some w → IsWebhook w) :
    readWebhook (webhookJson webhook) = .ok webhook := by
  cases webhook with
  | none => rfl
  | some w =>
    obtain ⟨t, url, nonempty, -⟩ := (h w rfl).url
    have enabled : boolean (webhookJson (some w)) "enabled" false = .ok true := rfl
    have first (v : Json) : member (webhookJson (some w)) "url" v = .ok w.url := rfl
    have second (v : Json) : member (webhookJson (some w)) "headers" v = .ok w.headers := rfl
    have third (v : Json) : member (webhookJson (some w)) "timeout_seconds" v = .ok w.timeout := rfl
    have truthy : w.url.isTruthy = true := by simp [url, Json.isTruthy, nonempty]
    simp only [readWebhook, enabled, first, second, third, truthy, bind, Except.bind, pure,
      Except.pure, if_true]

/-- A well-formed configuration is read from what is written for it. -/
theorem ofJson_toJson {c : Configuration} (h : c.WellFormed) (homes : Path.Homes) :
    ofJson homes c.toJson = .ok c := by
  have paths : partOf c.toJson "paths" = .ok (locationsJson c.locations) := rfl
  have classifier : partOf c.toJson "classifier" = .ok (settingsJson c.settings) := rfl
  have logging : partOf c.toJson "logging" = .ok (loggingJson c.level c.format) := rfl
  have notifications : partOf c.toJson "notifications" = .ok (.object
    [("simulation_mode", .bool c.simulation), ("webhook", webhookJson c.webhook)]) := rfl
  have simulation : boolean (.object [("simulation_mode", .bool c.simulation),
    ("webhook", webhookJson c.webhook)]) "simulation_mode" false = .ok c.simulation := rfl
  have webhook : partOf (.object [("simulation_mode", .bool c.simulation),
    ("webhook", webhookJson c.webhook)]) "webhook" = .ok (webhookJson c.webhook) := rfl
  simp only [ofJson, paths, classifier, logging, notifications, simulation, webhook,
    readLocations_locationsJson homes h.directory h.lists,
    readSettings_settingsJson h.lifetime h.flush, readLogging_loggingJson,
    readWebhook_webhookJson h.webhook, bind, Except.bind, pure, Except.pure]

end Configuration
end Detour
