import Detour.Config.Environment
import Detour.Config.Storage
import Detour.Proofs.CommandLine.Setup
import Detour.Proofs.Config.Reading
import Detour.Proofs.Number.Range

/-!
# What a configuration that was read is good for

The check of the intervals refuses what is zero or less. What passes it is a positive number or
not a number at all, and the environment only puts positive numbers in its place. A logger is made
for every level and format. The webhook and the classifier are made just if the headers can be
copied and the lifetime has a binary64 form; neither is checked when a configuration is read.

## Main definitions

* `Interval.IsPositive` — a number of seconds above zero.
* `Configuration.SetUp` — what is set up for a configuration.

## Main statements

* `Configuration.setUp_of_load` — what holds of a configuration from a file under an environment.
-/
namespace Detour

open Files Text

namespace Interval

/-- A number of seconds above zero; truth values count as zero and one. -/
def IsPositive (v : Json) : Prop := ∃ n, number? v = some n ∧ n.isPositive = true

/-- The value that is not a number. -/
def notNumber : Json := .number (.float .nan)

/-- The value of an interval is not refused as zero or less. -/
def Passes (v : Json) : Prop := atMostZero v = .ok false

theorem passes_iff {v : Json} : Passes v ↔ IsPositive v ∨ v = notNumber := by
  have only : (∃ n, number? v = some n ∧ n = .float .nan) ↔ v = notNumber := by
    unfold notNumber
    cases v <;> simp [number?]
  unfold Passes IsPositive atMostZero
  rw [← only, ← exists_or]
  cases number? v with
  | none => simp
  | some n => simp [← Number.not_le_zero, exists_or]

theorem not_isPositive_notNumber : ¬ IsPositive notNumber := by
  rintro ⟨n, number, positive⟩
  obtain rfl := Option.some.inj number
  cases positive

/-- A value that passes is above zero unless it is not a number. -/
theorem Passes.isPositive_iff {v : Json} (h : Passes v) : IsPositive v ↔ v ≠ notNumber := by
  constructor
  · rintro positive rfl
    exact not_isPositive_notNumber positive
  · exact (passes_iff.1 h).resolve_right

/-- A whole number of seconds that is out of the range of binary64 numbers. -/
def IsTooLarge (v : Json) : Prop :=
  ∃ n : Int, v = .number (.int n) ∧ (Binary64.overflow : Int) ≤ n

/-- The seconds of a value that passes can be told unless it is too large. -/
theorem Passes.seconds_eq_ok {v : Json} (h : Passes v) (name : Text) :
    (∃ x, seconds name v = .ok x) ↔ ¬ IsTooLarge v := by
  obtain ⟨n, number, above⟩ : ∃ n, number? v = some n ∧ n.le (.int 0) = false := by
    unfold Passes atMostZero at h
    split at h
    · next n number => exact ⟨n, number, Except.ok.inj h⟩
    · cases h
  have told : (∃ x, seconds name v = .ok x) ↔ n.toBinary64? ≠ none := by
    unfold seconds
    rw [number]
    cases hx : n.toBinary64? <;> simp [above, hx]
  rw [told]
  cases v with
  | number m =>
    obtain rfl := Option.some.inj number
    cases m with
    | int k =>
      have positive : 0 < k := by
        have : ¬ k ≤ 0 := fun le => by simp [Number.le_int.2 le] at above
        omega
      rw [Ne, Number.toBinary64?_int_eq_none]
      simp only [IsTooLarge, Json.number.injEq, Number.int.injEq]
      constructor
      · rintro inside ⟨k, rfl, beyond⟩
        omega
      · intro inside beyond
        exact inside ⟨k, rfl, by omega⟩
    | float x => exact iff_of_true (Option.some_ne_none x) (by rintro ⟨k, ⟨⟩, -⟩)
  -- a truth value is zero or one
  | bool b =>
    obtain rfl := Option.some.inj number
    cases b
    · exact absurd (Number.le_int.2 (Int.le_refl 0)) (by simpa using above)
    · exact iff_of_true (by decide) (by rintro ⟨k, ⟨⟩, -⟩)
  | _ => cases number

end Interval

/-! ## What is set up -/

theorem ExpiringSet.create_eq_ok {v : Json} (h : Interval.Passes v) :
    (∃ s, create v defaultSweep = .ok s) ↔ ¬ Interval.IsTooLarge v := by
  have sweep : sweepOf defaultSweep = .ok (.int 64) := by
    simp [sweepOf, defaultSweep, Json.ofInt, Interval.number?, Number.lt_int]
  rw [← h.seconds_eq_ok "ttl_seconds"]
  unfold create
  rw [sweep]
  cases Interval.seconds "ttl_seconds" v with
  | ok x => simp [Except.map]
  | error fault => cases fault <;> simp

namespace Configuration

/-! ## The check of the intervals -/

theorem bind_eq_ok {ε α β : Type} {x : Except ε α} {f : α → Except ε β} {b : β} :
    x >>= f = .ok b ↔ ∃ a, x = .ok a ∧ f a = .ok b := by
  cases x <;> simp [bind, Except.bind]

/-- Settings whose intervals are not refused. -/
structure Checked (s : Settings) : Prop where
  lifetime : Interval.Passes s.transientLifetime
  flush : Interval.Passes s.flushInterval

theorem isAtMostZero_eq_false {v : Json} : isAtMostZero v = .ok false ↔ Interval.Passes v := by
  unfold isAtMostZero Interval.Passes
  cases Interval.atMostZero v <;> simp

theorem readSettings_checked {part : Json} {s : Settings} (h : readSettings part = .ok s) :
    Checked s := by
  obtain ⟨updateBlocked, -, h⟩ := bind_eq_ok.1 h
  obtain ⟨updateDirect, -, h⟩ := bind_eq_ok.1 h
  obtain ⟨lifetime, -, h⟩ := bind_eq_ok.1 h
  obtain ⟨flush, -, h⟩ := bind_eq_ok.1 h
  obtain ⟨first, lifetimeChecked, h⟩ := bind_eq_ok.1 h
  cases first with
  | true => cases h
  | false =>
    obtain ⟨second, flushChecked, h⟩ := bind_eq_ok.1 h
    cases second with
    | true => cases h
    | false =>
      obtain rfl := Except.ok.inj h
      exact ⟨isAtMostZero_eq_false.1 lifetimeChecked, isAtMostZero_eq_false.1 flushChecked⟩

theorem ofJson_checked {homes : Path.Homes} {document : Json} {c : Configuration}
    (h : ofJson homes document = .ok c) : Checked c.settings := by
  obtain ⟨paths, -, h⟩ := bind_eq_ok.1 h
  obtain ⟨locations, -, h⟩ := bind_eq_ok.1 h
  obtain ⟨part, -, h⟩ := bind_eq_ok.1 h
  obtain ⟨s, read, h⟩ := bind_eq_ok.1 h
  obtain ⟨logging, -, h⟩ := bind_eq_ok.1 h
  obtain ⟨⟨level, format⟩, -, h⟩ := bind_eq_ok.1 h
  obtain ⟨notifications, -, h⟩ := bind_eq_ok.1 h
  obtain ⟨simulation, -, h⟩ := bind_eq_ok.1 h
  obtain ⟨hook, -, h⟩ := bind_eq_ok.1 h
  obtain ⟨webhook, -, h⟩ := bind_eq_ok.1 h
  obtain rfl := Except.ok.inj h
  exact readSettings_checked read

/-- The intervals of a configuration from a file are checked. -/
theorem load_checked {homes : Path.Homes} {file : Path} {d : Disk} {c : Configuration}
    (h : load homes file d = .ok c) : Checked c.settings := by
  unfold load at h
  split at h
  · cases h
  · cases h
  · unfold ofContent at h
    split at h
    · cases h
    · dsimp only at h
      split at h
      · cases h
      · next document parsed =>
        cases read : ofJson homes document with
        | error e => simp [read, Except.mapError] at h
        | ok c' =>
          obtain rfl : c' = c := by simpa [read, Except.mapError] using h
          exact ofJson_checked read

/-- What holds of an interval and of every number above zero holds under an environment. -/
theorem overrideInterval_mem {P : Json → Prop} {v : Json} (value : Option Text) (h : P v)
    (positive : ∀ x, (Number.float x).isPositive = true → P (.number (.float x))) :
    P (overrideInterval value v) := by
  unfold overrideInterval
  split
  · exact h
  · next x _ =>
    split
    · next above => exact positive x above
    · exact h

theorem overrideInterval_passes {v : Json} (value : Option Text) (h : Interval.Passes v) :
    Interval.Passes (overrideInterval value v) :=
  overrideInterval_mem value h fun _ above =>
    isAtMostZero_eq_false.1 (isAtMostZero_of_isPositive above)

theorem override_checked {homes : Path.Homes} {env : Environment} {c c' : Configuration}
    (h : c.override homes env = .ok c') (checked : Checked c.settings) : Checked c'.settings := by
  obtain ⟨l, -, rfl⟩ := overrideIn_eq_ok.1 h
  exact ⟨overrideInterval_passes _ checked.lifetime, overrideInterval_passes _ checked.flush⟩

/-! ## What is set up -/

/-- A logger is made for every level and format. -/
theorem create_logger (format : Log.Format) (level : Log.Level) :
    Logger.create (.string format.name) (.string level.name) = .ok { format, level } := by
  cases format <;> cases level <;> rfl

/-- Only containers can be copied. -/
def canCopy : Json → Bool
  | .array _ | .object _ => true
  | _ => false

theorem create_webhook_eq_ok {w : WebhookSettings} {simulation : Bool} {webhook : Webhook} :
    Webhook.create w simulation = .ok webhook ↔
      canCopy w.headers ∧ webhook = { settings := w, simulation } := by
  unfold Webhook.create canCopy
  cases w.headers <;> simp [eq_comm]

open CommandLine CommandLine.Machine

/-- What is set up for a configuration to work with: the logger, the webhook if there is one, and
the classifier. -/
structure SetUp (c : Configuration) (level : Log.Level) (w : Work) : Prop where
  logger : Logger.create (.string c.format.name) (.string level.name) = .ok w.logger
  webhook : w.webhook = c.webhook.map fun s => { settings := s, simulation := c.simulation }
  classifier : Classifier.create c.settings c.locations = .ok w.session.classifier

theorem webhookOf_eq_ok {c : Configuration} {webhook : Option Webhook} :
    webhookOf c = .ok webhook ↔ (∀ s, c.webhook = some s → canCopy s.headers) ∧
      webhook = c.webhook.map fun s => { settings := s, simulation := c.simulation } := by
  unfold webhookOf
  cases c.webhook with
  | none => simp [@eq_comm _ webhook]
  | some s =>
    cases created : Webhook.create s c.simulation with
    | ok made =>
      obtain ⟨copied, rfl⟩ := create_webhook_eq_ok.1 created
      dsimp only
      rw [created]
      simp [Except.map, copied, @eq_comm _ webhook]
    | error failure =>
      have : ¬ canCopy s.headers := fun copied => by
        cases created.symm.trans (create_webhook_eq_ok.2 ⟨copied, rfl⟩)
      dsimp only
      rw [created]
      simp [Except.map, this]

/-- A classifier is made unless its lifetime is too large. -/
theorem create_classifier_eq_ok {s : Settings} (l : DomainList.Locations) (checked : Checked s) :
    (∃ c, Classifier.create s l = .ok c) ↔ ¬ Interval.IsTooLarge s.transientLifetime := by
  rw [← ExpiringSet.create_eq_ok checked.lifetime]
  unfold Classifier.create
  cases ExpiringSet.create s.transientLifetime ExpiringSet.defaultSweep <;> simp [Except.map]

/-- Everything is set up for checked settings just if the headers can be copied and the lifetime is
not too large. -/
theorem prepare_setUp_iff {c : Configuration} (checked : Checked c.settings) (m : Machine)
    (verbose : Bool) :
    (∃ w, m.prepare c verbose = .ok w ∧ SetUp c (if verbose then .debug else c.level) w) ↔
      ¬ Interval.IsTooLarge c.settings.transientLifetime ∧
        ∀ s, c.webhook = some s → canCopy s.headers := by
  rw [← create_classifier_eq_ok c.locations checked]
  constructor
  · rintro ⟨w, prepared, -⟩
    obtain ⟨webhook, fresh, hooked, created, -⟩ := prepare_eq_ok.1 prepared
    exact ⟨⟨fresh, created⟩, (webhookOf_eq_ok.1 hooked).1⟩
  · rintro ⟨⟨fresh, created⟩, copied⟩
    exact ⟨_, prepare_eq_ok.2 ⟨_, fresh, webhookOf_eq_ok.2 ⟨copied, rfl⟩, created, rfl⟩,
      create_logger _ _, rfl, created⟩

/-- A configuration that was read from a file, under an environment: each interval is a positive
number unless it is not a number, a logger is made for it, and everything is set up unless the
lifetime is too large or the headers of the webhook cannot be copied. -/
theorem setUp_of_load {homes homes' : Path.Homes} {file : Path} {d : Disk} {env : Environment}
    {c c' : Configuration} (loaded : load homes file d = .ok c)
    (overridden : c.override homes' env = .ok c') :
    (∀ v ∈ [c'.settings.transientLifetime, c'.settings.flushInterval],
      Interval.IsPositive v ↔ v ≠ Interval.notNumber) ∧
    (∀ level, Logger.create (.string c'.format.name) (.string level.name) =
      .ok { format := c'.format, level }) ∧
    ∀ (m : Machine) (verbose : Bool),
      (∃ w, m.prepare c' verbose = .ok w ∧
        SetUp c' (if verbose then .debug else c'.level) w) ↔
      ¬ Interval.IsTooLarge c'.settings.transientLifetime ∧
        ∀ s, c'.webhook = some s → canCopy s.headers := by
  have checked := override_checked overridden (load_checked loaded)
  refine ⟨fun v hv => ?_, create_logger c'.format, prepare_setUp_iff checked⟩
  rcases List.mem_pair.1 hv with rfl | rfl
  · exact checked.lifetime.isPositive_iff
  · exact checked.flush.isPositive_iff

/-! ### Two files -/

/-- A disk with a configuration file alone. -/
def diskWith (content : Text) : Disk :=
  { tree := ⟨[([Utf8.octets "config.json"], .file (Utf8.octets content))]⟩ }

def rootHomes : Path.Homes := ⟨"/root", Path.systemAccounts⟩

/-- What a configuration from a file with some content becomes under an environment. -/
def readUnder (env : Environment) (content : Text) : Option Configuration :=
  (load rootHomes (.ofText "/config.json") (diskWith content)).toOption.bind fun c =>
    (c.override rootHomes env).toOption

theorem of_readUnder {env : Environment} {content : Text} {α : Type} {f : Configuration → α} {a : α}
    (h : (readUnder env content).map f = some a) :
    ∃ c c', load rootHomes (.ofText "/config.json") (diskWith content) = .ok c ∧
      c.override rootHomes env = .ok c' ∧ f c' = a := by
  unfold readUnder at h
  cases loaded : load rootHomes (.ofText "/config.json") (diskWith content) with
  | error e => simp [loaded, Except.toOption] at h
  | ok c =>
    cases overridden : c.override rootHomes env with
    | error e => simp [loaded, overridden, Except.toOption] at h
    | ok c' =>
      exact ⟨c, c', rfl, overridden, by simpa [loaded, overridden, Except.toOption] using h⟩

/-- What matters for the use of a configuration: the numbers of both intervals, and whether the
headers can be copied if there is a webhook. -/
def uses (c : Configuration) : Option Number × Option Number × Option Bool :=
  (Interval.number? c.settings.transientLifetime, Interval.number? c.settings.flushInterval,
    c.webhook.map fun w => canCopy w.headers)

theorem uses_eq {c : Configuration} {lifetime flush : Option Number} {copied : Option Bool}
    (h : c.uses = (lifetime, flush, copied)) :
    Interval.number? c.settings.transientLifetime = lifetime ∧
      Interval.number? c.settings.flushInterval = flush ∧
      (c.webhook.map fun w => canCopy w.headers) = copied := by
  simpa [uses] using h

/-- A webhook with headers. -/
def withHeaders : Text :=
  "\x7b\"notifications\": \x7b\"webhook\": \x7b\"enabled\": true, \"url\": \"http://h/\", " ++
    "\"headers\": \x7b\"X\": \"y\"\x7d\x7d\x7d\x7d"

/-- A lifetime, and an interval that is not a number and so changes nothing. -/
def withLifetime : Environment :=
  [("DOMAIN_CLASSIFIER_TRANSIENT_TTL", "8"), ("DOMAIN_CLASSIFIER_FLUSH_INTERVAL", "nan")]

theorem setUp_of_load_withHeaders :
    ∃ c c', load rootHomes (.ofText "/config.json") (diskWith withHeaders) = .ok c ∧
      c.override rootHomes withLifetime = .ok c' ∧
      Interval.IsPositive c'.settings.transientLifetime ∧
      Interval.IsPositive c'.settings.flushInterval ∧
      ∀ (m : Machine) (verbose : Bool), ∃ w, m.prepare c' verbose = .ok w ∧
        SetUp c' (if verbose then .debug else c'.level) w := by
  obtain ⟨c, c', loaded, overridden, used⟩ := of_readUnder (f := uses)
    (show (readUnder withLifetime withHeaders).map uses =
      some (some (.float (.ofInt 8)), some (.float (.ofInt 300)), some true) by decide +kernel)
  obtain ⟨lifetime, flush, headers⟩ := uses_eq used
  obtain ⟨positive, -, prepared⟩ := setUp_of_load loaded overridden
  have isNumber {v : Json} {x : Binary64} (h : Interval.number? v = some (.float x))
      (hx : x ≠ .nan) : v ≠ Interval.notNumber := by
    rintro rfl
    exact hx (Number.float.inj (Option.some.inj h)).symm
  refine ⟨c, c', loaded, overridden, (positive _ (by simp)).2 (isNumber lifetime (by decide)),
    (positive _ (by simp)).2 (isNumber flush (by decide)),
    fun m verbose => (prepared m verbose).2 ⟨?_, fun s hs => by simpa [hs] using headers⟩⟩
  rintro ⟨n, whole, -⟩
  rw [whole] at lifetime
  cases lifetime

/-- A lifetime that is not a number, and a webhook without headers. -/
def withNeither : Text :=
  "\x7b\"classifier\": \x7b\"transient_ttl_seconds\": NaN\x7d, " ++
    "\"notifications\": \x7b\"webhook\": \x7b\"enabled\": true, \"url\": \"http://h/\", " ++
    "\"headers\": null\x7d\x7d\x7d"

/-- It is accepted, but the lifetime is no positive number and nothing can be set up. -/
theorem not_setUp_of_load_withNeither :
    ∃ c c', load rootHomes (.ofText "/config.json") (diskWith withNeither) = .ok c ∧
      c.override rootHomes [] = .ok c' ∧
      ¬ Interval.IsPositive c'.settings.transientLifetime ∧
      ∀ (m : Machine) (verbose : Bool), ¬ ∃ w, m.prepare c' verbose = .ok w := by
  obtain ⟨c, c', loaded, overridden, used⟩ := of_readUnder (f := uses)
    (show (readUnder [] withNeither).map uses =
      some (some (.float .nan), some (.float (.ofInt 300)), some false) by decide +kernel)
  obtain ⟨lifetime, -, headers⟩ := uses_eq used
  refine ⟨c, c', loaded, overridden, ?_, ?_⟩
  · rintro ⟨n, number, positive⟩
    obtain rfl := Option.some.inj (lifetime.symm.trans number)
    cases positive
  · rintro m verbose ⟨w, prepared⟩
    obtain ⟨webhook, -, hooked, -⟩ := prepare_eq_ok.1 prepared
    obtain ⟨s, hs, refused⟩ := Option.map_eq_some_iff.1 headers
    simp [(webhookOf_eq_ok.1 hooked).1 s hs] at refused

end Configuration
end Detour
