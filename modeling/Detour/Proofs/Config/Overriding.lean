import Detour.Proofs.Config.Usable
import Detour.Proofs.Text.Splitting

/-!
# What the environment does to settings

Each variable governs one setting and no other one. It is taken without its outer blanks, and its
setting is what it says; if it is not set, blank, or none of the texts that it accepts, the setting
stays as it is. What a variable says does not depend on what was configured, so that nothing changes
if the same environment is applied again. A number is only accepted above zero and a level only if
it is known, whatever the settings were before.

## Main definitions

* `Configuration.Variable` — the variables.
* `Configuration.Variable.Tells` — a variable is set to something that it accepts.
* `Configuration.Variable.Same`, `Configuration.Variable.Sets` — what becomes of its setting.
* `Configuration.Valid` — positive intervals and a known level.

## Main statements

* `Configuration.overrideIn_twice` — the same environment once more.
* `Configuration.Variable.same_of_idle`, `Configuration.Variable.sets_of_tells`,
  `Configuration.Variable.same_of_agree` — a setting and its variable.
* `Configuration.overrideIn_settles` — settings under an environment.
-/
namespace Detour.Configuration

open Files Text

/-! ## Variables -/

inductive Variable
  | directory
  | updateBlocked
  | updateDirect
  | transientLifetime
  | flushInterval
  | level
  | webhookUrl
  deriving DecidableEq, Repr

namespace Variable

def name : Variable → Text
  | .directory => "DIR"
  | .updateBlocked => "UPDATE_BLOCKED"
  | .updateDirect => "UPDATE_DIRECT"
  | .transientLifetime => "TRANSIENT_TTL"
  | .flushInterval => "FLUSH_INTERVAL"
  | .level => "LOG_LEVEL"
  | .webhookUrl => "WEBHOOK_URL"

/-- What an environment has for a variable. -/
def value? (v : Variable) (env : Environment) : Option Text :=
  Table.get? (variableStart ++ v.name) env

/-- Intervals are numbers above zero, and levels are named in any case; else every text will do. -/
def Accepts (v : Variable) (t : Text) : Prop :=
  match v with
  | .transientLifetime | .flushInterval =>
    ∃ x, Binary64.ofText? t = some x ∧ (Number.float x).isPositive = true
  | .level => ∃ l : Log.Level, lower t = l.name
  | _ => True

/-- A variable that is set to a text, up to outer blanks, if it is not blank and it accepts it. -/
def Tells (v : Variable) (env : Environment) (t : Text) : Prop :=
  ∃ value, v.value? env = some value ∧ isBlankText value = false ∧ strip value = t ∧ v.Accepts t

section Settings

variable {Level Format : Type}

/-- The setting that a variable governs is the same. -/
def Same (v : Variable) (c d : Configured Level Format) : Prop :=
  match v with
  | .directory => d.locations = c.locations
  | .updateBlocked => d.settings.updateBlocked = c.settings.updateBlocked
  | .updateDirect => d.settings.updateDirect = c.settings.updateDirect
  | .transientLifetime => d.settings.transientLifetime = c.settings.transientLifetime
  | .flushInterval => d.settings.flushInterval = c.settings.flushInterval
  | .level => d.level = c.level
  | .webhookUrl => d.webhook = c.webhook

/-- The setting that a variable governs becomes what a text stands for. A webhook that there is only
gets another URL. -/
def Sets (v : Variable) (form : Log.Level → Level) (homes : Path.Homes) (t : Text)
    (c d : Configured Level Format) : Prop :=
  match v with
  | .directory => ∃ p, (Path.ofText t).expandHome homes = .ok p ∧ d.locations = .inside p
  | .updateBlocked => d.settings.updateBlocked = true ↔ lower t ∈ yesWords
  | .updateDirect => d.settings.updateDirect = true ↔ lower t ∈ yesWords
  | .transientLifetime =>
    ∃ x, Binary64.ofText? t = some x ∧ d.settings.transientLifetime = .number (.float x)
  | .flushInterval =>
    ∃ x, Binary64.ofText? t = some x ∧ d.settings.flushInterval = .number (.float x)
  | .level => ∃ l : Log.Level, lower t = l.name ∧ d.level = form l
  | .webhookUrl =>
    d.webhook = some { c.webhook.getD { url := .string t } with url := .string t }

end Settings

variable {v : Variable} {env env' : Environment} {t : Text}

/-- A variable that says something is read as that. -/
theorem Tells.setting (h : v.Tells env t) : setting? env v.name = some t := by
  obtain ⟨value, set, visible, rfl, -⟩ := h
  unfold value? at set
  simp [setting?, set, visible]

theorem Tells.accepts (h : v.Tells env t) : v.Accepts t := by
  obtain ⟨value, -, -, -, accepted⟩ := h
  exact accepted

theorem tells_of_setting (read : setting? env v.name = some t) (accepted : v.Accepts t) :
    v.Tells env t := by
  unfold setting? at read
  split at read
  · cases read
  · next value set =>
    split at read
    · cases read
    · next visible => exact ⟨value, set, by simpa using visible, Option.some.inj read, accepted⟩

/-- What is read has no outer blanks. -/
theorem Tells.strip_eq (h : v.Tells env t) : strip t = t := by
  obtain ⟨value, -, -, rfl, -⟩ := h
  exact strip_strip value

/-- A variable that accepts every text and says nothing is not read. -/
theorem setting_of_idle (idle : ∀ t, ¬ v.Tells env t) (all : ∀ t, v.Accepts t) :
    setting? env v.name = none :=
  Option.eq_none_iff_forall_ne_some.2 fun t read => idle t (tells_of_setting read (all t))

theorem setting_congr (same : v.value? env' = v.value? env) :
    setting? env' v.name = setting? env v.name := by
  unfold value? at same
  rw [setting?, setting?, same]

end Variable

/-! ## Single settings -/

section Single

variable {Level : Type} {form : Log.Level → Level} {homes : Path.Homes} {t : Text}

theorem overrideBoolean_twice (value : Option Text) (b : Bool) :
    overrideBoolean value (overrideBoolean value b) = overrideBoolean value b := by
  cases value <;> rfl

theorem overrideInterval_of_accepted {x : Binary64} (read : Binary64.ofText? t = some x)
    (positive : (Number.float x).isPositive = true) (v : Json) :
    overrideInterval (some t) v = .number (.float x) := by
  simp [overrideInterval, read, positive]

/-- What is no number above zero does not change an interval. -/
theorem overrideInterval_of_refused {value : Option Text}
    (refused : ∀ t x, value = some t → Binary64.ofText? t = some x →
      (Number.float x).isPositive = false) (v : Json) : overrideInterval value v = v := by
  unfold overrideInterval
  split
  · rfl
  · next x read =>
    obtain ⟨t, set, read⟩ := Option.bind_eq_some_iff.1 read
    rw [if_neg (by simp [refused t x set read])]

theorem overrideInterval_twice (value : Option Text) (v : Json) :
    overrideInterval value (overrideInterval value v) = overrideInterval value v := by
  cases read : value.bind Binary64.ofText? with
  | none => simp only [overrideInterval, read]
  | some x =>
    cases positive : (Number.float x).isPositive <;> simp [overrideInterval, read, positive]

theorem overrideInterval_isPositive {v : Json} (value : Option Text) (h : Interval.IsPositive v) :
    Interval.IsPositive (overrideInterval value v) :=
  overrideInterval_mem value h fun _ above => ⟨_, rfl, above⟩

theorem ofSetting?_eq_some {l : Log.Level} :
    Log.Level.ofSetting? t = some l ↔ lower t = l.name := by
  constructor
  · intro found
    unfold Log.Level.ofSetting? Log.Level.ofName? at found
    exact (by simpa using List.find?_some found : l.name = lower t).symm
  · intro named
    rw [Log.Level.ofSetting?, named]
    cases l <;> decide

theorem overrideLevel_of_accepted {l : Log.Level} (named : lower t = l.name) (configured : Level) :
    overrideLevel form (some t) configured = form l := by
  simp [overrideLevel, ofSetting?_eq_some.2 named]

/-- What is no level does not change the level. -/
theorem overrideLevel_of_refused {value : Option Text}
    (refused : ∀ t, value = some t → ∀ l : Log.Level, lower t ≠ l.name) (configured : Level) :
    overrideLevel form value configured = configured := by
  unfold overrideLevel
  split
  · rfl
  · next l read =>
    obtain ⟨t, set, read⟩ := Option.bind_eq_some_iff.1 read
    exact absurd (ofSetting?_eq_some.1 read) (refused t set l)

theorem overrideLevel_twice (value : Option Text) (configured : Level) :
    overrideLevel form value (overrideLevel form value configured) =
      overrideLevel form value configured := by
  unfold overrideLevel
  split <;> rfl

/-- A level that was known is replaced by a known one. -/
theorem overrideLevel_form (value : Option Text) (l : Log.Level) :
    ∃ l', overrideLevel form value (form l) = form l' := by
  unfold overrideLevel
  split
  · exact ⟨l, rfl⟩
  · next l' _ => exact ⟨l', rfl⟩

theorem overrideWebhook_some (t : Text) (configured : Option WebhookSettings) :
    overrideWebhook (some t) configured =
      some { configured.getD { url := .string t } with url := .string t } := by
  cases configured <;> rfl

theorem overrideWebhook_twice (value : Option Text) (configured : Option WebhookSettings) :
    overrideWebhook value (overrideWebhook value configured) =
      overrideWebhook value configured := by
  cases value with
  | none => rfl
  | some t => cases configured <;> rfl

/-- The headers and the timeout of a webhook are not read from the environment. -/
theorem overrideWebhook_keeps (value : Option Text) (w : WebhookSettings) :
    ∃ url, overrideWebhook value (some w) = some { w with url } := by
  cases value with
  | none => exact ⟨w.url, rfl⟩
  | some t => exact ⟨.string t, rfl⟩

theorem overrideLocations_some {l l' : DomainList.Locations} :
    overrideLocations homes (some t) l = .ok l' ↔
      ∃ p, (Path.ofText t).expandHome homes = .ok p ∧ l' = .inside p := by
  cases found : (Path.ofText t).expandHome homes with
  | error f => simp [overrideLocations, found, Except.map]
  | ok p => simp [overrideLocations, found, Except.map, @eq_comm _ l']

theorem overrideLocations_twice {value : Option Text} {l l' : DomainList.Locations}
    (h : overrideLocations homes value l = .ok l') :
    overrideLocations homes value l' = .ok l' := by
  cases value with
  | none => rfl
  | some t => exact overrideLocations_some.2 (overrideLocations_some.1 h)

end Single

/-! ## All settings -/

variable {Level Format : Type} {form : Log.Level → Level} {homes : Path.Homes}
  {env env' : Environment} {c c' d : Configured Level Format}

theorem overrideSettings_twice (env : Environment) (s : Settings) :
    overrideSettings env (overrideSettings env s) = overrideSettings env s := by
  simp only [overrideSettings, overrideBoolean_twice, overrideInterval_twice]

/-- An environment that was applied changes nothing more. -/
theorem overrideIn_twice (h : overrideIn form homes env c = .ok c') :
    overrideIn form homes env c' = .ok c' := by
  obtain ⟨l, located, rfl⟩ := overrideIn_eq_ok.1 h
  refine overrideIn_eq_ok.2 ⟨l, overrideLocations_twice located, ?_⟩
  simp only [overrideSettings_twice, overrideLevel_twice, overrideWebhook_twice]

namespace Variable

variable {v : Variable} {t : Text}

/-! ### A setting and its variable -/

theorem overrideBoolean_of_tells (told : v.Tells env t) (configured : Bool) :
    overrideBoolean (setting? env v.name) configured = true ↔ lower t ∈ yesWords := by
  rw [told.setting, overrideBoolean, isYes, told.strip_eq, List.contains_iff_mem]

theorem overrideInterval_of_tells (told : v.Tells env t)
    (number : ∃ x, Binary64.ofText? t = some x ∧ (Number.float x).isPositive = true)
    (configured : Json) :
    ∃ x, Binary64.ofText? t = some x ∧
      overrideInterval (setting? env v.name) configured = .number (.float x) := by
  obtain ⟨x, read, positive⟩ := number
  refine ⟨x, read, ?_⟩
  rw [told.setting, overrideInterval_of_accepted read positive]

/-- An interval stays if its variable accepts all numbers above zero and says nothing. -/
theorem overrideInterval_of_idle (idle : ∀ t, ¬ v.Tells env t)
    (accepts : ∀ t x, Binary64.ofText? t = some x → (Number.float x).isPositive = true →
      v.Accepts t) (configured : Json) :
    overrideInterval (setting? env v.name) configured = configured := by
  refine overrideInterval_of_refused (fun t x set read => ?_) configured
  by_contra positive
  exact idle t (tells_of_setting set (accepts t x read (by simpa using positive)))

/-- A variable that says nothing leaves its setting alone. -/
theorem same_of_idle (h : overrideIn form homes env c = .ok c') (idle : ∀ t, ¬ v.Tells env t) :
    v.Same c c' := by
  obtain ⟨l, located, rfl⟩ := overrideIn_eq_ok.1 h
  cases v with
  | directory =>
    have unread : setting? env "DIR" = none := setting_of_idle idle fun _ => trivial
    rw [unread] at located
    exact (Except.ok.inj located).symm
  | updateBlocked =>
    exact congrArg (overrideBoolean · _) (setting_of_idle idle fun _ => trivial)
  | updateDirect =>
    exact congrArg (overrideBoolean · _) (setting_of_idle idle fun _ => trivial)
  | transientLifetime =>
    exact overrideInterval_of_idle idle (fun t x read positive => ⟨x, read, positive⟩) _
  | flushInterval =>
    exact overrideInterval_of_idle idle (fun t x read positive => ⟨x, read, positive⟩) _
  | level =>
    refine overrideLevel_of_refused (fun t set l named => ?_) c.level
    exact idle t (tells_of_setting set ⟨l, named⟩)
  | webhookUrl =>
    exact congrArg (overrideWebhook · _) (setting_of_idle idle fun _ => trivial)

/-- A variable that says something sets its setting to that. -/
theorem sets_of_tells (h : overrideIn form homes env c = .ok c') (told : v.Tells env t) :
    v.Sets form homes t c c' := by
  obtain ⟨l, located, rfl⟩ := overrideIn_eq_ok.1 h
  have read := told.setting
  cases v with
  | directory => exact overrideLocations_some.1 (read ▸ located)
  | updateBlocked => exact overrideBoolean_of_tells told _
  | updateDirect => exact overrideBoolean_of_tells told _
  | transientLifetime => exact overrideInterval_of_tells told told.accepts _
  | flushInterval => exact overrideInterval_of_tells told told.accepts _
  | level =>
    obtain ⟨l, named⟩ := told.accepts
    refine ⟨l, named, ?_⟩
    exact (congrArg (overrideLevel form · _) read).trans (overrideLevel_of_accepted named _)
  | webhookUrl =>
    exact (congrArg (overrideWebhook · _) read).trans (overrideWebhook_some t _)

/-- A setting depends on no variable but its own. -/
theorem same_of_agree (h : overrideIn form homes env c = .ok c')
    (h' : overrideIn form homes env' c = .ok d) (agree : v.value? env' = v.value? env) :
    v.Same c' d := by
  obtain ⟨l, located, rfl⟩ := overrideIn_eq_ok.1 h
  obtain ⟨l', located', rfl⟩ := overrideIn_eq_ok.1 h'
  have read := setting_congr agree
  cases v with
  | directory =>
    have same := congrArg (overrideLocations homes · c.locations) read
    exact Except.ok.inj ((located'.symm.trans same).trans located)
  | updateBlocked => exact congrArg (overrideBoolean · _) read
  | updateDirect => exact congrArg (overrideBoolean · _) read
  | transientLifetime => exact congrArg (overrideInterval · _) read
  | flushInterval => exact congrArg (overrideInterval · _) read
  | level => exact congrArg (overrideLevel form · _) read
  | webhookUrl => exact congrArg (overrideWebhook · _) read

end Variable

/-! ## Validity -/

/-- Both intervals are above zero, and the level is one that there is. -/
structure Valid (form : Log.Level → Level) (c : Configured Level Format) : Prop where
  lifetime : Interval.IsPositive c.settings.transientLifetime
  flush : Interval.IsPositive c.settings.flushInterval
  level : ∃ l, c.level = form l

theorem Valid.overrideIn (valid : Valid form c) (h : overrideIn form homes env c = .ok c') :
    Valid form c' := by
  obtain ⟨l, -, rfl⟩ := overrideIn_eq_ok.1 h
  obtain ⟨known, same⟩ := valid.level
  exact {
    lifetime := overrideInterval_isPositive _ valid.lifetime
    flush := overrideInterval_isPositive _ valid.flush
    level := same ▸ overrideLevel_form _ known }

/-! ## The environment as a whole -/

/-- Settings under an environment, where `form` is how they tell the levels: as they are in a
configuration that was read, or by their names where any text may stand. To apply the environment
again changes nothing. Each variable sets its own setting to what it says and leaves it alone if it
says nothing; no other variable has a say in that, and what no variable governs stays. Settings that
are valid stay valid. -/
theorem overrideIn_settles (h : overrideIn form homes env c = .ok c') :
    overrideIn form homes env c' = .ok c' ∧
    (∀ v : Variable, ((∀ t, ¬ v.Tells env t) → v.Same c c') ∧
      ∀ t, v.Tells env t → v.Sets form homes t c c') ∧
    (∀ env' d, overrideIn form homes env' c = .ok d →
      ∀ v : Variable, v.value? env' = v.value? env → v.Same c' d) ∧
    (c'.format = c.format ∧ c'.simulation = c.simulation ∧
      ∀ w, c.webhook = some w → ∃ url, c'.webhook = some { w with url }) ∧
    (Valid form c → Valid form c') := by
  refine ⟨overrideIn_twice h, fun v => ⟨Variable.same_of_idle h, fun t => Variable.sets_of_tells h⟩,
    fun env' d h' v => Variable.same_of_agree h h', ?_, fun valid => valid.overrideIn h⟩
  obtain ⟨l, -, rfl⟩ := overrideIn_eq_ok.1 h
  refine ⟨rfl, rfl, fun w there => ?_⟩
  exact there ▸ overrideWebhook_keeps _ w

/-! ### Some settings -/

/-- Settings that tell their level and their format by texts. -/
def unchecked : Configured Text Text where
  locations := .inside (.ofText "/lists")
  settings := { transientLifetime := .number (.int 42) }
  level := "warn"
  format := "xml"
  webhook := some { url := .string "http://old/", headers := .object [("X", .string "y")] }

/-- A lifetime that is not a number, and other variables that say something. -/
def mixedIn (directory : Text) : Environment :=
  [("DOMAIN_CLASSIFIER_DIR", directory), ("DOMAIN_CLASSIFIER_TRANSIENT_TTL", "nan"),
    ("DOMAIN_CLASSIFIER_LOG_LEVEL", " Debug\n"), ("DOMAIN_CLASSIFIER_WEBHOOK_URL", "http://new/")]

theorem overrideIn_mixedIn (directory : Text) {l : DomainList.Locations}
    (located : overrideLocations rootHomes (setting? (mixedIn directory) "DIR")
      unchecked.locations = .ok l) :
    ∃ c, overrideIn Log.Level.name rootHomes (mixedIn directory) unchecked = .ok c :=
  ⟨_, overrideIn_eq_ok.2 ⟨l, located, rfl⟩⟩

/-- The lifetime stays, the level and the URL do not, and the level has nothing to do with the
directory. -/
theorem overrideIn_settles_mixed :
    ∃ c d, overrideIn Log.Level.name rootHomes (mixedIn "~/lists") unchecked = .ok c ∧
      overrideIn Log.Level.name rootHomes (mixedIn "/srv") unchecked = .ok d ∧
      overrideIn Log.Level.name rootHomes (mixedIn "~/lists") c = .ok c ∧
      c.settings.transientLifetime = .number (.int 42) ∧ c.level = "debug" ∧ d.level = c.level ∧
      c.format = "xml" ∧
      c.webhook = some { url := .string "http://new/", headers := .object [("X", .string "y")] } ∧
      Valid Log.Level.name c := by
  have atHome : overrideLocations rootHomes (setting? (mixedIn "~/lists") "DIR")
      unchecked.locations = .ok (.inside (.ofText "/root/lists")) := by decide +kernel
  have elsewhere : overrideLocations rootHomes (setting? (mixedIn "/srv") "DIR")
      unchecked.locations = .ok (.inside (.ofText "/srv")) := by decide +kernel
  obtain ⟨c, first⟩ := overrideIn_mixedIn "~/lists" atHome
  obtain ⟨d, second⟩ := overrideIn_mixedIn "/srv" elsewhere
  obtain ⟨twice, settled, apart, ⟨format, -, -⟩, valid⟩ := overrideIn_settles first
  have kept : c.settings.transientLifetime = .number (.int 42) := by
    refine (settled .transientLifetime).1 ?_
    rintro t ⟨value, set, -, rfl, x, read, positive⟩
    obtain rfl : ofString "nan" = value := Option.some.inj set
    have notNumber : Binary64.ofText? (strip "nan") = some .nan := by decide +kernel
    obtain rfl : Binary64.nan = x := Option.some.inj (notNumber.symm.trans read)
    cases positive
  have debug : lower "Debug" = Log.Level.debug.name := by decide +kernel
  obtain ⟨level, named, shown⟩ := (settled .level).2 "Debug"
    ⟨" Debug\n", by decide +kernel, by decide +kernel, by decide +kernel, .debug, debug⟩
  obtain rfl : Log.Level.debug = level :=
    Option.some.inj ((ofSetting?_eq_some.2 debug).symm.trans (ofSetting?_eq_some.2 named))
  have hook := (settled .webhookUrl).2 "http://new/"
    ⟨"http://new/", by decide +kernel, by decide +kernel, by decide +kernel, trivial⟩
  have same : d.level = c.level := apart _ d second .level (by decide +kernel)
  refine ⟨c, d, first, second, twice, kept, shown, same, format, hook, valid ?_⟩
  exact ⟨⟨.int 42, rfl, by decide +kernel⟩, ⟨_, rfl, by decide +kernel⟩, .warn, rfl⟩

end Detour.Configuration
