import Detour.Proofs.Classifier.Windows
import Detour.Proofs.ExpiringSet.Locality

/-!
# Recording is local and idempotent

A call that records a target concerns its domain alone: all other names are afterwards in the sets
where they were before, and expire when they did, although the domain may enter the expiring set and
make a sweep due. A call that answers that nothing was recorded, or that it was recorded already,
leaves the whole session as it is. So does the same call again, at the same reading of the clock.

No name is twice in the expiring set, in every state that a new classifier gets to.

## Main definitions

* `Classifier.Agree` — what two classifiers have to agree on where one name is concerned.
* `Classifier.recording` — what a call that records a target leads to.

## Main statements

* `Session.play_nodup` — no name is twice in the expiring set.
* `Session.step_agree` — recording leaves other names alone.
* `Session.recording_local` — recording is local and idempotent.
-/
namespace Detour

open DomainList ExpiringSet Files Text

/-- What is answered when a call that ended like this is made a second time. -/
def Outcome.again : Outcome → Outcome
  | .recorded => .alreadyRecorded
  | o => o

namespace Classifier

/-! ## Agreement on a name -/

/-- Two classifiers have the same settings, lists of the administrator and lifetime, and the same
learned lists and running times as far as one name is concerned. -/
structure Agree (now : Number) (name : Text) (c c' : Classifier) : Prop where
  settings : c'.settings = c.settings
  alwaysDirect : c'.alwaysDirect = c.alwaysDirect
  alwaysBlocked : c'.alwaysBlocked = c.alwaysBlocked
  lifetime : c'.transient.lifetime = c.transient.lifetime
  learned : ∀ l, name ∈ c'.learned l ↔ name ∈ c.learned l
  expiry : c'.transient.expiry? now name = c.transient.expiry? now name

section Agreement

variable {now : Number} {name : Text} {c c' c'' : Classifier}

theorem Agree.refl (now : Number) (name : Text) (c : Classifier) : Agree now name c c :=
  ⟨rfl, rfl, rfl, rfl, fun _ => Iff.rfl, rfl⟩

theorem Agree.symm (h : Agree now name c c') : Agree now name c' c where
  settings := h.settings.symm
  alwaysDirect := h.alwaysDirect.symm
  alwaysBlocked := h.alwaysBlocked.symm
  lifetime := h.lifetime.symm
  learned l := (h.learned l).symm
  expiry := h.expiry.symm

theorem Agree.trans (h : Agree now name c c') (g : Agree now name c' c'') :
    Agree now name c c'' where
  settings := g.settings.trans h.settings
  alwaysDirect := g.alwaysDirect.trans h.alwaysDirect
  alwaysBlocked := g.alwaysBlocked.trans h.alwaysBlocked
  lifetime := g.lifetime.trans h.lifetime
  learned l := (g.learned l).trans (h.learned l)
  expiry := g.expiry.trans h.expiry

/-- Two classifiers that differ at most in what is learned, and in the marks. -/
def SameButLearned (c c' : Classifier) : Prop :=
  ∃ blocked direct blockedChanged directChanged,
    c' = { c with blocked, direct, blockedChanged, directChanged }

theorem learnBlocked_sameButLearned (c : Classifier) (domain : Text) :
    SameButLearned c (c.learnBlocked domain).classifier :=
  ⟨_, _, _, _, c.learnBlocked_classifier domain⟩

theorem learnDirect_sameButLearned (c : Classifier) (domain : Text) :
    SameButLearned c (c.learnDirect domain).classifier :=
  ⟨_, _, _, _, c.learnDirect_classifier domain⟩

/-- A domain that is learned does not matter to other names. -/
theorem Learns.agree {l : Learned} {domain : Text} (learns : c.Learns c' l domain)
    (same : SameButLearned c c') (other : name ≠ domain) : Agree now name c c' := by
  obtain ⟨_, _, _, _, rfl⟩ := same
  exact ⟨rfl, rfl, rfl, rfl, fun m => by rw [learns m name, if_neg other], rfl⟩

end Agreement

/-! ## Recording a target -/

/-- What a step that records a target leads to. Other steps record nothing. -/
def recording (c : Classifier) (now : Moment) : Session.Step → Recorded
  | .recordBlocked t => c.recordBlocked now t
  | .recordDirect t => c.recordDirect t
  | .recordTransientBlocked t => c.recordTransientBlocked now t
  | _ => { outcome := none, classifier := c }

section Recording

variable {c : Classifier} {now : Moment} {x : Session.Step} {t : Target} {name : Text}

theorem recordTransientBlocked_agree (nodup : c.transient.expiries.keys.Nodup)
    (other : name ≠ t.domain) :
    Agree now.seconds name c (c.recordTransientBlocked now t).classifier := by
  cases c.recordTransientBlocked_ends now t with
  | refused _ classifier =>
    rw [classifier]
    exact .refl now.seconds name c
  | untold _ classifier =>
    rw [classifier]
    exact .refl now.seconds name c
  | timed _ _ added _ classifier =>
    rw [classifier]
    refine ⟨rfl, rfl, rfl, lifetime_add added, fun l => ?_, expiry?_add_of_ne added nodup other⟩
    cases l <;> exact Iff.rfl

/-- Recording a target leaves all names but its domain as they are. -/
theorem recording_agree (nodup : c.transient.expiries.keys.Nodup) (target : x.target? = some t)
    (other : name ≠ t.domain) : Agree now.seconds name c (c.recording now x).classifier := by
  cases x with
  | recordBlocked u =>
    obtain rfl := Option.some.inj target
    cases c.recordBlocked_ends now u with
    | timed _ result =>
      rw [recording, result]
      exact recordTransientBlocked_agree nodup other
    | refused _ classifier =>
      rw [recording, classifier]
      exact .refl now.seconds name c
    | known _ _ _ classifier =>
      rw [recording, classifier]
      exact .refl now.seconds name c
    | learned _ _ _ _ result =>
      rw [recording, result]
      exact (c.learnBlocked_learns u.domain).agree (c.learnBlocked_sameButLearned _) other
  | recordDirect u =>
    obtain rfl := Option.some.inj target
    rcases c.recordDirect_cases u with same | ⟨-, -, -, -, result⟩
    · rw [recording, same]
      exact .refl now.seconds name c
    · rw [recording, result]
      exact (c.learnDirect_learns u.domain).agree (c.learnDirect_sameButLearned _) other
  | recordTransientBlocked u =>
    obtain rfl := Option.some.inj target
    exact recordTransientBlocked_agree nodup other
  | _ => cases target

/-! ### Calls that change nothing -/

/-- Recording that has an outcome and leaves no trace. -/
def idle (c : Classifier) (o : Outcome) : Recorded := { outcome := some o, classifier := c }

/-- The outcomes that tell that a call left no trace. -/
def Settled (o : Outcome) : Prop := o = .notRecorded ∨ o = .alreadyRecorded

theorem recordTransientBlocked_eq_idle {o : Outcome} (settled : Settled o)
    (ended : (c.recordTransientBlocked now t).outcome = some o) :
    c.recordTransientBlocked now t = c.idle o := by
  unfold recordTransientBlocked at ended ⊢
  split_ifs at ended ⊢ with listed
  · cases ended
    rfl
  · split at ended <;> cases ended <;> simp [Settled] at settled

/-- Nothing comes of a call that answers that nothing was recorded, or that it was recorded
already. -/
theorem recording_eq_idle {o : Outcome} (target : x.target? = some t) (settled : Settled o)
    (ended : (c.recording now x).outcome = some o) : c.recording now x = c.idle o := by
  cases x with
  | recordBlocked u =>
    simp only [recording, recordBlocked] at ended ⊢
    split_ifs at ended ⊢ with off listed known
    · exact recordTransientBlocked_eq_idle settled ended
    · cases ended
      rfl
    · cases ended
      rfl
    · rw [learnBlocked_outcome] at ended
      cases ended
      simp [Settled] at settled
  | recordDirect u =>
    simp only [recording, recordDirect] at ended ⊢
    split_ifs at ended ⊢ with off listed known
    · cases ended
      rfl
    · cases ended
      rfl
    · cases ended
      rfl
    · rw [learnDirect_outcome] at ended
      cases ended
      simp [Settled] at settled
  | recordTransientBlocked u => exact recordTransientBlocked_eq_idle settled ended
  | _ => cases target

/-! ### The same call again -/

/-- A call that was made has an outcome, and the same call now only repeats it. -/
def Repeats (c : Classifier) (now : Moment) (x : Session.Step) : Prop :=
  ∃ o, (c.recording now x).outcome = some o ∧
    (c.recording now x).classifier.recording now x = (c.recording now x).classifier.idle o.again

theorem repeats_of_idle {o : Outcome} (h : c.recording now x = c.idle o) (same : o.again = o) :
    c.Repeats now x := by
  refine ⟨o, ?_, ?_⟩
  · rw [h]
    rfl
  · rw [h, same]
    exact h

theorem recordTransientBlocked_repeats
    (runs : isRunning c.transient.lifetime now.seconds now.seconds = true) :
    c.Repeats now (.recordTransientBlocked t) := by
  by_cases listed : (c.isAlwaysDirect t || t.hostIsAddress) = true
  · refine repeats_of_idle (o := .notRecorded) ?_ rfl
    rw [recording, recordTransientBlocked, if_pos listed, idle]
  · obtain ⟨expiry, sum, -⟩ := Option.any_eq_true .. |>.1 runs
    obtain ⟨⟨new, transient⟩, added⟩ : ∃ r, c.transient.add now.seconds t.domain = some r := by
      rw [add_eq, sum]
      split <;> exact ⟨_, rfl⟩
    -- the domain is live now, so adding it again changes nothing
    have live := isLive_of_add added runs
    have again : transient.add now.seconds t.domain = some (false, transient) := by
      rw [add_eq, if_pos live]
    have listed' : ¬ (({ c with transient } : Classifier).isAlwaysDirect t ||
        t.hostIsAddress) = true := listed
    refine ⟨.recordedTransient, ?_, ?_⟩
    · cases new <;> simp only [recording, recordTransientBlocked, if_neg listed, added]
    · have after : (c.recording now (.recordTransientBlocked t)).classifier =
          { c with transient } := by
        cases new <;> simp only [recording, recordTransientBlocked, if_neg listed, added]
      rw [after, recording, recordTransientBlocked, if_neg listed']
      simp only [again]
      rfl

theorem learnBlocked_again (update : c.settings.updateBlocked = true)
    (listed : ¬ (c.isAlwaysDirect t || t.hostIsAddress) = true) :
    (c.learnBlocked t.domain).classifier.recordBlocked now t =
      (c.learnBlocked t.domain).classifier.idle .alreadyRecorded := by
  rw [learnBlocked_classifier, recordBlocked, if_neg (by simp [update])]
  refine (if_neg listed).trans (if_pos ?_)
  exact DomainSet.mem_insert.2 (.inl rfl)

theorem learnDirect_again (update : c.settings.updateDirect = true)
    (listed : ¬ (c.isInAlwaysSets t || t.hostIsAddress) = true) :
    (c.learnDirect t.domain).classifier.recordDirect t =
      (c.learnDirect t.domain).classifier.idle .alreadyRecorded := by
  rw [learnDirect_classifier, recordDirect, if_neg (by simp [update])]
  refine (if_neg listed).trans (if_pos ?_)
  exact DomainSet.mem_insert.2 (.inl rfl)

/-- Where learned-blocked names are not updated, blocked targets are recorded for some time. -/
theorem recordBlocked_of_off (off : c.settings.updateBlocked = false) :
    c.recordBlocked now t = c.recordTransientBlocked now t := by
  rw [recordBlocked, if_pos (by simp [off])]

theorem recordBlocked_repeats
    (runs : isRunning c.transient.lifetime now.seconds now.seconds = true) :
    c.Repeats now (.recordBlocked t) := by
  by_cases off : c.settings.updateBlocked = false
  · obtain ⟨o, ended, again⟩ := recordTransientBlocked_repeats (t := t) runs
    simp only [recording] at ended again
    obtain ⟨transient, after⟩ := c.recordTransientBlocked_sameButTransient now t
    have off' : (c.recordTransientBlocked now t).classifier.settings.updateBlocked = false := by
      rw [after]
      exact off
    have timed : c.recording now (.recordBlocked t) = c.recordTransientBlocked now t :=
      recordBlocked_of_off off
    refine ⟨o, ?_, ?_⟩
    · rw [timed, ended]
    · rw [timed, recording, recordBlocked_of_off off', again]
  · by_cases listed : (c.isAlwaysDirect t || t.hostIsAddress) = true
    · refine repeats_of_idle (o := .notRecorded) ?_ rfl
      simp [recording, recordBlocked, off, listed, idle]
    · by_cases known : t.domain ∈ c.blocked
      · refine repeats_of_idle (o := .alreadyRecorded) ?_ rfl
        simp [recording, recordBlocked, off, listed, known, idle]
      · have learned : c.recording now (.recordBlocked t) = c.learnBlocked t.domain := by
          simp [recording, recordBlocked, off, listed, known]
        refine ⟨.recorded, ?_, ?_⟩
        · rw [learned, learnBlocked_outcome]
        · rw [learned]
          exact learnBlocked_again (by simpa using off) listed

theorem recordDirect_repeats : c.Repeats now (.recordDirect t) := by
  by_cases off : c.settings.updateDirect = false
  · refine repeats_of_idle (o := .notRecorded) ?_ rfl
    simp [recording, recordDirect, off, idle]
  · by_cases listed : (c.isInAlwaysSets t || t.hostIsAddress) = true
    · refine repeats_of_idle (o := .notRecorded) ?_ rfl
      simp [recording, recordDirect, off, listed, idle]
    · by_cases known : t.domain ∈ c.direct
      · refine repeats_of_idle (o := .alreadyRecorded) ?_ rfl
        simp [recording, recordDirect, off, listed, known, idle]
      · have learned : c.recording now (.recordDirect t) = c.learnDirect t.domain := by
          simp [recording, recordDirect, off, listed, known]
        refine ⟨.recorded, ?_, ?_⟩
        · rw [learned, learnDirect_outcome]
        · rw [learned]
          exact learnDirect_again (by simpa using off) listed

/-- A call repeats itself if a time that starts to run now runs at all. -/
theorem recording_repeats (target : x.target? = some t)
    (runs : isRunning c.transient.lifetime now.seconds now.seconds = true) : c.Repeats now x := by
  cases x with
  | recordBlocked u => exact recordBlocked_repeats runs
  | recordDirect u => exact recordDirect_repeats
  | recordTransientBlocked u => exact recordTransientBlocked_repeats runs
  | _ => cases target

end Recording

end Classifier

namespace Session

variable {s : Session}

/-! ## Sessions -/

/-- A step that records a target takes over what comes of it. -/
theorem step_of_target {x : Step} {t : Target} (target : x.target? = some t) :
    s.step x = s.recorded (s.classifier.recording s.now x) := by
  cases x with
  | recordBlocked u => rfl
  | recordDirect u => rfl
  | recordTransientBlocked u => rfl
  | _ => cases target

theorem recorded_idle (s : Session) (o : Outcome) :
    s.recorded (s.classifier.idle o) = (.outcome o, s) := by
  simp [recorded, outcomeAnswer, Classifier.idle]

/-- The answer tells how recording ended. -/
theorem answer_eq_outcome {x : Step} {t : Target} (target : x.target? = some t) {o : Outcome} :
    (s.step x).1 = .outcome o ↔ (s.classifier.recording s.now x).outcome = some o := by
  rw [step_of_target target, recorded]
  cases (s.classifier.recording s.now x).outcome <;> simp [outcomeAnswer]

theorem classifier_step_of_target {x : Step} {t : Target} (target : x.target? = some t) :
    (s.step x).2.classifier = (s.classifier.recording s.now x).classifier := by
  rw [step_of_target target]
  rfl

/-- Recording leaves all names but the domain of the target as they are. -/
theorem step_agree (nodup : s.classifier.transient.expiries.keys.Nodup) {x : Step} {t : Target}
    (target : x.target? = some t) {name : Text} (other : name ≠ t.domain) :
    Classifier.Agree s.now.seconds name s.classifier (s.step x).2.classifier := by
  rw [classifier_step_of_target target]
  exact Classifier.recording_agree nodup target other

theorem disk_step_of_target {x : Step} {t : Target} (target : x.target? = some t) :
    (s.step x).2.disk = s.disk := by
  rw [step_of_target target]
  rfl

theorem now_step_of_target {x : Step} {t : Target} (target : x.target? = some t) :
    (s.step x).2.now = s.now := by
  rw [step_of_target target]
  rfl

/-- No step puts a name into the expiring set that is there already. -/
theorem step_nodup (nodup : s.classifier.transient.expiries.keys.Nodup) (x : Step) :
    (s.step x).2.classifier.transient.expiries.keys.Nodup := by
  cases byName : x.blocksByName with
  | false =>
    cases step_timing byName nodup with
    | silent _ reclaims => exact reclaims.nodup nodup
    | announced _ added => exact nodup_add added nodup
  | true =>
    cases x with
    | blockTransiently name =>
      simp only [step, blockTransiently]
      split
      · exact nodup
      · next added => exact nodup_add added nodup
    | _ => cases byName

theorem play_nodup (nodup : s.classifier.transient.expiries.keys.Nodup) (turns : List Turn) :
    (s.play turns).classifier.transient.expiries.keys.Nodup := by
  induction turns generalizing s with
  | nil => exact nodup
  | cons t r ih =>
    refine ih ?_
    cases t with
    | act x => exact step_nodup nodup x
    | replaceDisk disk => exact nodup

/-- No name is twice in the expiring set, in every state that a new classifier gets to. -/
theorem play_nodup_of_create {settings : Settings} {locations : Locations} {c : Classifier}
    (fresh : Classifier.create settings locations = .ok c) (disk : Disk) (now : Moment)
    (turns : List Turn) :
    (play { classifier := c, disk, now } turns).classifier.transient.expiries.keys.Nodup := by
  obtain ⟨transient, made, rfl⟩ := Classifier.create_eq_ok.1 fresh
  exact play_nodup (create_tracks made).nodup turns

/-- A call that records a target is local and idempotent in a session. Names other than the domain
of the target are afterwards where they were, and no file is touched. A call that answers that
nothing was recorded, or that it was recorded already, leaves all as it was, down to what was logged
and sent; so does the same call made again, if the time at which a name would expire can be told
exactly. -/
structure RecordsLocally (s : Session) (x : Step) (t : Target) : Prop where
  others : ∀ name, name ≠ t.domain →
    Classifier.Agree s.now.seconds name s.classifier (s.step x).2.classifier
  disk : (s.step x).2.disk = s.disk
  settled : ∀ o, Classifier.Settled o → (s.step x).1 = .outcome o → (s.step x).2 = s
  again : s.now.seconds.AddsExactly s.lifetime → 0 < s.lifetime.units →
    ∃ o : Outcome, (s.step x).1 = .outcome o ∧
      (s.step x).2.step x = (.outcome o.again, (s.step x).2)

end Session
end Detour
