import Detour.Proofs.Classifier.Consistency
import Detour.Proofs.Classifier.Precedence
import Detour.Proofs.ExpiringSet.Refinement

/-!
# What a taken outcome changes

A target whose direct outcome is taken is known to be reached directly from then on. That need not
be its route: recording moves the domain between the learned lists and does nothing else. A time
that is running goes on, and a host that is learned-blocked under its own name stays so.

A blocked outcome that is taken does decide the route, and of all targets of the domain: the domain
is looked up for each of them, and what was recorded is not always-direct. A learned-blocked domain
stays so until the lists are loaded or a target of the domain is reached directly.

## Main statements

* `Classifier.takesDirect_of_taken` — what a taken direct outcome does to the lists.
* `Classifier.recordDirect_takesEffect` — the route afterwards.
* `Classifier.CountsBlocked.blocksDomain` — a blocked domain blocks all of its targets.
* `Session.recordBlocked_takesEffect` — the routes after a taken blocked outcome, and later on.
-/
namespace Detour

open DomainList Text

namespace Classifier

/-- A direct outcome that is taken was known before, or is learned. -/
theorem recordDirect_taken {c : Classifier} {t : Target} {o : Outcome}
    (outcome : (c.recordDirect t).outcome = some o) (taken : o.taken = true) :
    c.isInAlwaysSets t = false ∧
      ((t.domain ∈ c.direct ∧ (c.recordDirect t).classifier = c) ∨
        (t.domain ∉ c.direct ∧ c.recordDirect t = c.learnDirect t.domain)) := by
  have refused : o ≠ .notRecorded := by
    rintro rfl
    cases taken
  cases c.recordDirect_ends t with
  | refused result => exact absurd (Option.some.inj (outcome.symm.trans result)) refused
  | known unlisted known _ classifier => exact ⟨unlisted, .inl ⟨known, classifier⟩⟩
  | learned _ unlisted _ new result => exact ⟨unlisted, .inr ⟨new, result⟩⟩

/-- A classifier takes it that a target is reached directly: the domain is learned-direct, and it is
not learned-blocked any more unless it was learned both ways before. -/
structure TakesDirect (c c' : Classifier) (t : Target) : Prop where
  alwaysDirect : c'.alwaysDirect = c.alwaysDirect
  alwaysBlocked : c'.alwaysBlocked = c.alwaysBlocked
  transient : c'.transient = c.transient
  direct : t.domain ∈ c'.direct
  blocked : ∀ n, n ∈ c'.blocked ↔ n ∈ c.blocked ∧ (n = t.domain → n ∈ c.direct)

theorem takesDirect_of_taken {c : Classifier} {t : Target} {o : Outcome}
    (outcome : (c.recordDirect t).outcome = some o) (taken : o.taken = true) :
    c.TakesDirect (c.recordDirect t).classifier t := by
  obtain ⟨-, ⟨known, same⟩ | ⟨new, learned⟩⟩ := recordDirect_taken outcome taken
  · rw [same]
    exact ⟨rfl, rfl, rfl, known, fun n => ⟨fun hn => ⟨hn, fun h => h ▸ known⟩, And.left⟩⟩
  · rw [learned, learnDirect_classifier]
    refine ⟨rfl, rfl, rfl, DomainSet.mem_insert.2 (.inl rfl), fun n => ?_⟩
    rw [DomainSet.mem_erase]
    exact and_congr_right fun _ => ⟨fun ne h => absurd h ne, fun h he => new (he ▸ h he)⟩

/-- What recording a target as reached directly does not put an end to: a time that is running for
one of its names, a host that is learned-blocked under a name of its own, and a domain that is
learned both ways already. -/
def StaysBlocked (c : Classifier) (now : Number) (t : Target) : Prop :=
  c.transient.isLive now t.host = true ∨ c.transient.isLive now t.domain = true ∨
    (t.host ∈ c.blocked ∧ t.host ≠ t.domain) ∨ (t.domain ∈ c.blocked ∧ t.domain ∈ c.direct)

instance (c : Classifier) (now : Number) (t : Target) : Decidable (c.StaysBlocked now t) :=
  inferInstanceAs (Decidable (_ ∨ _))

theorem TakesDirect.blocksTarget {c c' : Classifier} {t : Target} (h : c.TakesDirect c' t)
    (unlisted : c.isInAlwaysSets t = false) (now : Number) :
    c'.BlocksTarget now t ↔ c.StaysBlocked now t := by
  obtain ⟨domain, direct, blocked⟩ := isInAlwaysSets_eq_false.1 unlisted
  simp only [BlocksTarget, CountsBlocked, StaysBlocked, h.alwaysDirect, h.alwaysBlocked,
    h.transient, h.blocked, domain, direct, blocked, ne_eq, not_false_eq_true, true_and, false_or]
  by_cases same : t.host = t.domain
  · simp only [same, true_imp_iff, not_true_eq_false, and_false, false_or, or_self]
    grind
  · simp only [same, false_imp_iff, true_imp_iff, and_true, not_false_eq_true]
    grind

/-- Where the lists are apart, no domain is learned both ways. -/
theorem Consistent.staysBlocked {c : Classifier} (hc : c.Consistent) (now : Number) (t : Target) :
    c.StaysBlocked now t ↔ c.transient.isLive now t.host = true ∨
      c.transient.isLive now t.domain = true ∨ (t.host ∈ c.blocked ∧ t.host ≠ t.domain) := by
  have apart : ¬ (t.domain ∈ c.blocked ∧ t.domain ∈ c.direct) := fun h => hc.learned _ h.1 h.2
  simp only [StaysBlocked, apart, or_false]

/-- A target whose direct outcome is taken is known to be reached directly. Its route is direct
unless something stays blocked: a time that is running, a learned-blocked host, and where the lists
are not apart, a domain that was learned both ways. -/
theorem recordDirect_takesEffect {encode : Host.Encoder} (lawful : encode.Lawful) {input : Text}
    {t : Target} (parsed : Target.parse encode input = .ok t) {c : Classifier} {o : Outcome}
    (outcome : (c.recordDirect t).outcome = some o)
    (taken : o.taken = true) (now : Number) :
    let c' := (c.recordDirect t).classifier
    c'.isDirect t = .ok true ∧
    (c'.classify now t).1 = .ok (if c.StaysBlocked now t then .blocked else .direct) ∧
    (c.Consistent → (c.StaysBlocked now t ↔ c.transient.isLive now t.host = true ∨
      c.transient.isLive now t.domain = true ∨ (t.host ∈ c.blocked ∧ t.host ≠ t.domain))) := by
  intro c'
  have port := portless_of_parse lawful parsed
  have unlisted := (recordDirect_taken outcome taken).1
  have takes : c.TakesDirect c' t := takesDirect_of_taken outcome taken
  refine ⟨?_, ?_, fun apart => apart.staysBlocked now t⟩
  · rw [isDirect_eq port, Except.ok.injEq, decide_eq_true_iff]
    intro _
    have unblocked := (isInAlwaysSets_eq_false.1 unlisted).2.2.2
    exact .inr (.inr ⟨takes.alwaysBlocked ▸ unblocked, takes.direct⟩)
  · rw [classify_fst (c'.isBlocked_fst port now), routeOf]
    simp only [decide_eq_true_eq, takes.blocksTarget unlisted]

end Classifier

namespace Session

/-- A host of a learned-blocked domain was reached directly: so is the whole domain. -/
theorem recordDirect_takesEffect_relearned :
    let t : Target := { host := "www.example.com", domain := "example.com" }
    let c := ((onEmptyDisk (.inside (.ofText "/lists"))).run [.load ["example.com"] []]).classifier
    let c' := (c.recordDirect t).classifier
    (c.classify (.int 0) t).1 = .ok .blocked ∧ (c.recordDirect t).outcome = some .recorded ∧
      c'.isDirect t = .ok true ∧ (c'.classify (.int 0) t).1 = .ok .direct := by
  intro t c c'
  have parsed : Target.parse .sample "www.example.com" = .ok t := by decide +kernel
  have outcome : (c.recordDirect t).outcome = some .recorded := by decide +kernel
  have free : ¬ c.StaysBlocked (.int 0) t := by decide +kernel
  have h :=
    Classifier.recordDirect_takesEffect Host.Encoder.lawful_sample parsed outcome rfl (.int 0)
  refine ⟨by decide +kernel, outcome, h.1, ?_⟩
  simpa only [free, if_false] using h.2.1

/-- A target that is blocked for some time, reached directly nevertheless: the outcome is taken, and
the target stays blocked. -/
theorem recordDirect_leavesTime :
    let t : Target := { host := "www.example.com", domain := "example.com" }
    let s := (onEmptyDisk (.inside (.ofText "/lists"))).run
      [.load [] [], .recordTransientBlocked t]
    let c' := (s.classifier.recordDirect t).classifier
    Target.parse .sample "www.example.com" = .ok t ∧
      (s.classifier.recordDirect t).outcome = some .recorded ∧ Outcome.recorded.taken = true ∧
      c'.isDirect t = .ok true ∧ (c'.classify s.now.seconds t).1 = .ok .blocked := by
  decide +kernel

end Session

/-! ## Blocked outcomes -/

namespace Classifier

/-- A target that is not always-direct has a domain. -/
theorem domain_ne_nil {c : Classifier} {t : Target} (h : c.isAlwaysDirect t = false) :
    t.domain ≠ [] := by
  simp only [isAlwaysDirect, Bool.or_eq_false_iff, beq_eq_false_iff_ne] at h
  exact h.1

/-- The targets of a domain are blocked: all of those that were read, and of any others those that
are not refused because a port is in one of their names. -/
structure BlocksDomain (c : Classifier) (now : Number) (domain : Text) : Prop where
  read : ∀ encode : Host.Encoder, encode.Lawful → ∀ input u, Target.parse encode input = .ok u →
    u.domain = domain → (c.classify now u).1 = .ok .blocked
  other : ∀ u : Target, u.domain = domain → (c.classify now u).1 = .ok .blocked ∨
    ∃ name, (name = u.host ∨ name = u.domain) ∧ hasPort name = true ∧
      (c.classify now u).1 = .error (.port .blocked name)

/-- A domain that counts as blocked is enough to block its targets, whatever their hosts are. -/
theorem CountsBlocked.blocksDomain {c : Classifier} {now : Number} {domain : Text}
    (h : c.CountsBlocked now domain) (named : domain ≠ []) : c.BlocksDomain now domain := by
  refine ⟨fun encode lawful input u parsed hu => ?_, fun u hu => ?_⟩
  · subst hu
    have blocks : c.BlocksTarget now u := ⟨named, .inr h⟩
    rw [classify_fst (isBlocked_fst (portless_of_parse lawful parsed) c now), decide_eq_true blocks]
    rfl
  · subst hu
    rw [classify_answer, isBlocked_answer, if_neg named, lookupBlocked_answer, lookupBlocked_answer,
      decide_eq_true h]
    -- the host may be refused, or settle it; if it does neither the domain is looked up
    by_cases host : hasPort u.host = true
    · exact .inr ⟨u.host, .inl rfl, host, by simp [host, Except.map]⟩
    · by_cases blocked : c.CountsBlocked now u.host
      · exact .inl (by simp [host, blocked, Except.map, routeOf])
      · by_cases domain : hasPort u.domain = true
        · exact .inr ⟨u.domain, .inr rfl, domain, by simp [host, blocked, domain, Except.map]⟩
        · exact .inl (by simp [host, blocked, domain, Except.map, routeOf])

section Taken

variable {c : Classifier} {now : Moment} {t : Target} {o : Outcome}

/-- A target that was taken to be blocked for some time has a domain that counts as blocked, if a
time that starts now runs at all. -/
theorem recordTransientBlocked_taken
    (outcome : (c.recordTransientBlocked now t).outcome = some o) (taken : o.taken = true) :
    o = .recordedTransient ∧ t.domain ≠ [] ∧
      (ExpiringSet.isRunning c.transient.lifetime now.seconds now.seconds = true →
        (c.recordTransientBlocked now t).classifier.CountsBlocked now.seconds t.domain) := by
  cases c.recordTransientBlocked_ends now t with
  | refused refused =>
    obtain rfl := Option.some.inj (outcome.symm.trans refused)
    cases taken
  | untold untold =>
    rw [outcome] at untold
    cases untold
  | timed unlisted _ added timed classifier =>
    obtain rfl := Option.some.inj (outcome.symm.trans timed)
    refine ⟨rfl, domain_ne_nil unlisted, fun runs => ?_⟩
    rw [classifier]
    exact ⟨domain_not_alwaysDirect unlisted, .inr (.inl (ExpiringSet.isLive_of_add added runs))⟩

/-- A target that was taken to be blocked has a domain that counts as blocked, and is
learned-blocked unless it is only blocked for some time. -/
theorem recordBlocked_taken (outcome : (c.recordBlocked now t).outcome = some o)
    (taken : o.taken = true)
    (runs : o = .recordedTransient →
      ExpiringSet.isRunning c.transient.lifetime now.seconds now.seconds = true) :
    t.domain ≠ [] ∧ (c.recordBlocked now t).classifier.CountsBlocked now.seconds t.domain ∧
      (o ≠ .recordedTransient → t.domain ∈ (c.recordBlocked now t).classifier.blocked) := by
  cases c.recordBlocked_ends now t with
  | timed _ result =>
    rw [result] at outcome ⊢
    obtain ⟨transient, named, counts⟩ := recordTransientBlocked_taken outcome taken
    exact ⟨named, counts (runs transient), fun learned => absurd transient learned⟩
  | refused refused =>
    obtain rfl := Option.some.inj (outcome.symm.trans refused)
    cases taken
  | known unlisted known _ classifier =>
    rw [classifier]
    exact ⟨domain_ne_nil unlisted, ⟨domain_not_alwaysDirect unlisted, .inr (.inr known)⟩,
      fun _ => known⟩
  | learned _ unlisted _ _ result =>
    rw [result, learnBlocked_classifier]
    have learned : t.domain ∈ c.blocked.insert t.domain := DomainSet.mem_insert.2 (.inl rfl)
    exact ⟨domain_ne_nil unlisted, ⟨domain_not_alwaysDirect unlisted, .inr (.inr learned)⟩,
      fun _ => learned⟩

end Taken

end Classifier

namespace Session

/-- Steps that may put an end to a domain being learned-blocked: loading the lists, and recording a
target of the domain as reached directly. -/
def Step.mayUnblock (domain : Text) : Step → Bool
  | .load .. => true
  | .recordDirect t => t.domain == domain
  | _ => false

/-- A domain is learned-blocked, and that is not overruled. -/
def LearnsBlocked (domain : Text) (s : Session) : Prop :=
  domain ∈ s.classifier.blocked ∧ domain ∉ s.classifier.alwaysDirect

theorem step_learnsBlocked {domain : Text} {s : Session} {x : Step} (h : s.LearnsBlocked domain)
    (keeps : x.mayUnblock domain = false) : (s.step x).2.LearnsBlocked domain := by
  have noLoad : x.isLoad = false := by
    cases x <;> first | rfl | cases keeps
  obtain ⟨listed, -⟩ := step_alwaysLists (s := s) noLoad
  refine ⟨?_, listed.symm ▸ h.2⟩
  cases s.step_cases x with
  | load => cases keeps
  | persist classifier =>
    rw [classifier, (s.classifier.persist_sameLists s.disk).blocked]
    exact h.1
  | learnBlocked _ _ _ _ classifier =>
    rw [classifier, Classifier.learnBlocked_classifier]
    exact DomainSet.mem_insert.2 (.inr h.1)
  | learnDirect _ _ _ _ classifier =>
    rw [classifier, Classifier.learnDirect_classifier]
    have other : domain ≠ _ := (beq_eq_false_iff_ne.1 keeps).symm
    exact DomainSet.mem_erase.2 ⟨h.1, other⟩
  | change classifier =>
    rw [classifier]
    exact h.1
  | other _ classifier =>
    rw [classifier.sameLists.blocked]
    exact h.1

theorem outcome_of_answer {r : Option Outcome} {o : Outcome} (h : outcomeAnswer r = .outcome o) :
    r = some o := by
  cases r with
  | none => cases h
  | some p =>
    cases h
    rfl

/-- A target that is recorded as not reached, and taken to be, blocks its domain at once, if a time
that starts now is exact and not over at once. Where the domain is learned-blocked by that, it stays
blocked through any steps but loading and recording a target of the domain as reached directly. -/
theorem recordBlocked_takesEffect {s : Session} {t : Target} {x : Step}
    (call : x = .recordBlocked t ∨ x = .recordTransientBlocked t) {o : Outcome}
    (answer : (s.step x).1 = .outcome o) (taken : o.taken = true)
    (exact : o = .recordedTransient →
      s.now.seconds.AddsExactly s.lifetime ∧ 0 < s.lifetime.units) :
    let s' := (s.step x).2
    s'.classifier.BlocksDomain s'.now.seconds t.domain ∧
    (o = .recorded ∨ o = .alreadyRecorded →
      ∀ steps : List Step, (∀ y ∈ steps, y.mayUnblock t.domain = false) →
        (s'.run steps).classifier.BlocksDomain (s'.run steps).now.seconds t.domain) := by
  intro s'
  have runs (transient : o = .recordedTransient) :
      ExpiringSet.isRunning s.classifier.transient.lifetime s.now.seconds s.now.seconds = true := by
    obtain ⟨sum, positive⟩ := exact transient
    rw [ExpiringSet.isRunning_iff sum sum]
    exact Int.lt_add_of_pos_right _ positive
  obtain ⟨named, counts, learned⟩ : t.domain ≠ [] ∧
      s'.classifier.CountsBlocked s'.now.seconds t.domain ∧
      (o ≠ .recordedTransient → t.domain ∈ s'.classifier.blocked) := by
    rcases call with rfl | rfl
    · exact Classifier.recordBlocked_taken (outcome_of_answer answer) taken runs
    · obtain ⟨transient, named, counts⟩ :=
        Classifier.recordTransientBlocked_taken (outcome_of_answer answer) taken
      exact ⟨named, counts (runs transient), fun learned => absurd transient learned⟩
  refine ⟨counts.blocksDomain named, fun learnt steps keep => ?_⟩
  have start : s'.LearnsBlocked t.domain := by
    refine ⟨learned ?_, counts.1⟩
    rintro rfl
    rcases learnt with learnt | learnt <;> cases learnt
  obtain ⟨blocked, unlisted⟩ : (s'.run steps).LearnsBlocked t.domain :=
    run_preserves (fun _ _ => step_learnsBlocked) start keep
  have stays : (s'.run steps).classifier.CountsBlocked (s'.run steps).now.seconds t.domain :=
    ⟨unlisted, .inr (.inr blocked)⟩
  exact stays.blocksDomain named

/-- One host of a domain could not be reached: first the domain is only blocked for some time, and
all of its hosts with it; once it is learned-blocked, another domain being reached and the time
being over does not matter. -/
theorem recordBlocked_takesEffect_siblings :
    let t : Target := { host := "www.example.com", domain := "example.com" }
    let u : Target := { host := "mail.example.com", port := some 25, domain := "example.com" }
    let other : Target := { host := "www.example.org", domain := "example.org" }
    let start := (onEmptyDisk (.inside (.ofText "/lists"))).run [.load [] []]
    let timed := (start.step (.recordTransientBlocked t)).2
    let learned := (timed.step (.recordBlocked t)).2
    let later := learned.run [.recordDirect other, .setClock (.int 120), .persist]
    (start.classifier.classify (.int 0) u).1 = .ok .direct ∧
      (timed.classifier.classify (.int 0) u).1 = .ok .blocked ∧
      (learned.classifier.classify (.int 0) u).1 = .ok .blocked ∧
      (later.classifier.classify (.int 120) u).1 = .ok .blocked := by
  intro t u other start timed learned later
  have parsed : Target.parse .sample "mail.example.com:25" = .ok u := by decide +kernel
  have exact : start.now.seconds.AddsExactly start.lifetime ∧ 0 < start.lifetime.units := by
    decide +kernel
  have first : (start.classifier.recordTransientBlocked start.now t).outcome =
      some .recordedTransient := by decide +kernel
  have second : (timed.classifier.recordBlocked timed.now t).outcome = some .recorded := by
    decide +kernel
  have first := recordBlocked_takesEffect (s := start) (t := t) (.inr rfl)
    (congrArg outcomeAnswer first) rfl fun _ => exact
  have second := recordBlocked_takesEffect (s := timed) (t := t) (.inl rfl)
    (congrArg outcomeAnswer second) rfl fun transient => by cases transient
  have kept : ∀ y ∈ [Step.recordDirect other, .setClock (.int 120), .persist],
      y.mayUnblock t.domain = false := by decide +kernel
  have blocked {c : Classifier} {now : Number} (h : c.BlocksDomain now t.domain) :
      (c.classify now u).1 = .ok .blocked := h.read _ Host.Encoder.lawful_sample _ u parsed rfl
  exact ⟨by decide +kernel, blocked first.1, blocked second.1,
    blocked (second.2 (.inl rfl) _ kept)⟩

end Session

end Detour
