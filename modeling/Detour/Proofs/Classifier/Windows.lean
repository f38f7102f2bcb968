import Detour.Proofs.Classifier.History
import Detour.Proofs.Classifier.Persisting
import Detour.Proofs.ExpiringSet.Refinement

/-!
# One event for each time a domain is blocked

A domain that is blocked for some time is announced by an event when its time starts to run. While
it is running no event goes out, for adding the domain again changes nothing; when it is over the
next addition starts it anew. So the events of a domain are at least a lifetime apart, and the
domain is live exactly while less than a lifetime has gone by since one of them. Looking names up,
loading and storing lists and changing the settings do not matter.

The set of the running times follows a ledger of the additions, and the ledger has the times of the
events: all of them that are still running.

## Main definitions

* `Session.published` — the events of a run, with the readings of the clock when they went out.
* `Session.readings` — the readings of the clock during a run.

## Main statements

* `Session.step_timing` — a step drops what is over at most, or starts the time of a domain and
  announces it.
* `Session.run_announces` — the events say what is live.
* `Session.published_spaced` — one event for each time of being blocked.
-/
namespace Detour

open DomainList ExpiringSet Text

namespace Classifier

/-! ## Running times -/

theorem lookupBlocked_reclaims {c : Classifier} (nodup : c.transient.expiries.keys.Nodup)
    (now : Number) (name : Text) :
    Reclaims now c.transient (c.lookupBlocked now name).2.transient := by
  unfold lookupBlocked
  split
  · exact .refl
  · split
    · exact .refl
    · split
      · exact .refl
      · exact has_reclaims nodup

theorem isBlocked_reclaims {c : Classifier} (nodup : c.transient.expiries.keys.Nodup)
    (now : Number) (t : Target) : Reclaims now c.transient (c.isBlocked now t).2.transient := by
  have host := lookupBlocked_reclaims nodup now t.host
  unfold isBlocked
  split
  · exact .refl
  · split
    · next c' h =>
      rw [h] at host
      exact host.trans (lookupBlocked_reclaims (host.nodup nodup) now t.domain)
    · exact host

/-- What an operation does to the running times, and which events go out: it drops what is over at
most, or it starts the time of a domain and announces that. -/
inductive TimeEffect (set set' : ExpiringSet) (now : Number) (events : List Event) : Prop
  | silent (none : events = []) (reclaims : Reclaims now set set')
  | announced {event : Event} (one : events = [event])
      (added : set.add now event.domain = some (true, set'))

theorem recordTransientBlocked_timing (c : Classifier) (now : Moment) (t : Target) :
    TimeEffect c.transient (c.recordTransientBlocked now t).classifier.transient now.seconds
      (c.recordTransientBlocked now t).events := by
  cases c.recordTransientBlocked_ends now t with
  | refused _ classifier events => exact .silent events (by rw [classifier]; exact .refl)
  | untold _ classifier events => exact .silent events (by rw [classifier]; exact .refl)
  | @timed new transient _ _ added _ classifier events =>
    rw [classifier, events]
    cases new with
    | true => exact .announced rfl added
    | false =>
      -- the time was running, so the set was left alone
      refine .silent rfl ?_
      rw [add_eq] at added
      split at added
      · cases added
        exact .refl
      · simp at added

theorem recordBlocked_timing (c : Classifier) (now : Moment) (t : Target) :
    TimeEffect c.transient (c.recordBlocked now t).classifier.transient now.seconds
      (c.recordBlocked now t).events := by
  cases c.recordBlocked_ends now t with
  | timed _ result =>
    rw [result]
    exact recordTransientBlocked_timing c now t
  | refused _ classifier events => exact .silent events (by rw [classifier]; exact .refl)
  | known _ _ _ classifier events => exact .silent events (by rw [classifier]; exact .refl)
  | learned _ _ _ _ result =>
    rw [result, learnBlocked_classifier, learnBlocked_events]
    exact .silent rfl .refl

theorem recordDirect_timing (c : Classifier) (now : Number) (t : Target) :
    TimeEffect c.transient (c.recordDirect t).classifier.transient now
      (c.recordDirect t).events := by
  cases c.recordDirect_ends t with
  | refused _ classifier events => exact .silent events (by rw [classifier]; exact .refl)
  | known _ _ _ classifier events => exact .silent events (by rw [classifier]; exact .refl)
  | learned _ _ _ _ result =>
    rw [result, learnDirect_classifier, learnDirect_events]
    exact .silent rfl .refl

end Classifier

namespace Session

/-! ## Steps -/

/-- Whether a step blocks a name for some time that is not the domain of a target. -/
def Step.blocksByName : Step → Bool
  | .blockTransiently _ => true
  | _ => false

theorem step_timing {s : Session} {x : Step} (byTarget : x.blocksByName = false)
    (nodup : s.classifier.transient.expiries.keys.Nodup) :
    Classifier.TimeEffect s.classifier.transient (s.step x).2.classifier.transient s.now.seconds
      (s.entry x).events := by
  have recorded {r : Classifier.Recorded} (taken : s.step x = s.recorded r)
      (effect : Classifier.TimeEffect s.classifier.transient r.classifier.transient s.now.seconds
        r.events) :
      Classifier.TimeEffect s.classifier.transient (s.step x).2.classifier.transient s.now.seconds
        (s.entry x).events := by
    simpa [entry, taken, Session.recorded] using effect
  have quiet (kept : (s.step x).2.events = s.events) : (s.entry x).events = [] := by
    simp [entry, kept]
  cases x with
  | recordBlocked t => exact recorded rfl (s.classifier.recordBlocked_timing s.now t)
  | recordDirect t => exact recorded rfl (s.classifier.recordDirect_timing s.now.seconds t)
  | recordTransientBlocked t =>
    exact recorded rfl (s.classifier.recordTransientBlocked_timing s.now t)
  | blockTransiently name => cases byTarget
  | load blocked direct =>
    refine .silent (quiet rfl) ?_
    simp only [step, listed, Classifier.transient_load]
    exact .refl
  | persist =>
    refine .silent (quiet rfl) ?_
    simp only [step, listed, Classifier.persist_classifier]
    exact .refl
  | query t =>
    refine .silent (quiet rfl) ?_
    have first := Classifier.isBlocked_reclaims nodup s.now.seconds t
    simp only [step, query, Classifier.classify_snd]
    exact first.trans (Classifier.isBlocked_reclaims (first.nodup nodup) s.now.seconds t)
  | lookup name =>
    exact .silent (quiet rfl) (Classifier.lookupBlocked_reclaims nodup s.now.seconds name)
  | change settings => exact .silent (quiet rfl) .refl
  | setClock seconds => exact .silent (quiet rfl) .refl

/-! ## What was published -/

/-- An event, and the reading of the clock when it went out. -/
structure Published where
  time : Number
  event : Event

def Entry.published (e : Entry) : List Published := e.events.map fun event => ⟨e.time, event⟩

/-- The events that go out during some steps. -/
def published (s : Session) (steps : List Step) : List Published :=
  (s.history steps).flatMap Entry.published

/-- The readings of the clock before each of some steps, and after the last one. -/
def readings (s : Session) : List Step → List Number
  | [] => [s.now.seconds]
  | x :: r => s.now.seconds :: (s.step x).2.readings r

theorem published_cons (s : Session) (x : Step) (r : List Step) :
    s.published (x :: r) = (s.entry x).published ++ (s.step x).2.published r := by
  simp [published, history]

theorem events_run (s : Session) (steps : List Step) :
    (s.run steps).events = s.events ++ (s.published steps).map Published.event := by
  induction steps generalizing s with
  | nil => simp [published, history]
  | cons x r ih =>
    have first : (s.entry x).published.map Published.event = (s.entry x).events := by
      simp [Entry.published, Function.comp_def]
    rw [run_cons, ih, step_events, published_cons, List.map_append, first, List.append_assoc]

theorem now_mem_readings (s : Session) (steps : List Step) :
    (s.run steps).now.seconds ∈ s.readings steps := by
  induction steps generalizing s with
  | nil => exact List.mem_cons_self
  | cons x r ih => exact List.mem_cons_of_mem _ (ih (s.step x).2)

theorem time_mem_readings {s : Session} {steps : List Step} {p : Published}
    (h : p ∈ s.published steps) : p.time ∈ s.readings steps := by
  induction steps generalizing s with
  | nil => cases h
  | cons x r ih =>
    rw [published_cons] at h
    rcases List.mem_append.1 h with here | later
    · obtain ⟨event, -, rfl⟩ := List.mem_map.1 here
      exact List.mem_cons_self
    · exact List.mem_cons_of_mem _ (ih later)

/-! ## Events account for what is live -/

/-- A ledger has nothing but times of events that were published, and has all of those that are
running at coming times; no event went out while the time of an earlier one for its domain was
running. -/
structure Accounts (l : Ledger) (published : List Published) (lifetime : Binary64)
    (coming : Number → Prop) : Prop where
  noted : ∀ domain since, l domain = some since →
    ∃ p ∈ published, p.event.domain = domain ∧ p.time = since
  running : ∀ p ∈ published, ∀ now, coming now → isRunning lifetime now p.time = true →
    l p.event.domain = some p.time
  spaced : published.Pairwise fun p q =>
    p.event.domain = q.event.domain → isRunning lifetime q.time p.time = false

section Accounts

variable {l : Ledger} {published : List Published} {lifetime : Binary64}
  {coming : Number → Prop} {now : Number}

theorem Accounts.mono {later : Number → Prop} (h : Accounts l published lifetime coming)
    (imp : ∀ t, later t → coming t) : Accounts l published lifetime later :=
  ⟨h.noted, fun p hp t ht => h.running p hp t (imp t ht), h.spaced⟩

theorem Accounts.isLive_iff (h : Accounts l published lifetime coming) (reached : coming now)
    (domain : Text) : l.isLive lifetime now domain = true ↔
      ∃ p ∈ published, p.event.domain = domain ∧ isRunning lifetime now p.time = true := by
  simp only [Ledger.isLive, Option.any_eq_true]
  constructor
  · rintro ⟨since, noted, running⟩
    obtain ⟨p, hp, named, rfl⟩ := h.noted domain since noted
    exact ⟨p, hp, named, running⟩
  · rintro ⟨p, hp, rfl, running⟩
    exact ⟨p.time, h.running p hp now reached running, running⟩

/-- An event goes out for a domain whose time is over: from now on that event accounts for the
domain. -/
theorem Accounts.publish (h : Accounts l published lifetime coming) (reached : coming now)
    {event : Event} (ended : l.isLive lifetime now event.domain = false) :
    Accounts (Function.update l event.domain (some now)) (published ++ [⟨now, event⟩]) lifetime
      fun t => coming t ∧ now.le t = true := by
  have done (p : Published) (hp : p ∈ published) (same : p.event.domain = event.domain) :
      isRunning lifetime now p.time = false := by
    rw [Bool.eq_false_iff]
    intro running
    have live := (h.isLive_iff reached event.domain).2 ⟨p, hp, same, running⟩
    rw [ended] at live
    cases live
  refine ⟨fun domain since noted => ?_, fun p hp t later running => ?_, ?_⟩
  · by_cases same : domain = event.domain
    · subst same
      rw [Function.update_self] at noted
      exact ⟨⟨now, event⟩, by simp, rfl, Option.some.inj noted⟩
    · rw [Function.update_of_ne same] at noted
      obtain ⟨p, hp, rest⟩ := h.noted domain since noted
      exact ⟨p, List.mem_append_left _ hp, rest⟩
  · rcases List.mem_append.1 hp with old | new
    · have before := isRunning_of_le later.2 running
      have other : p.event.domain ≠ event.domain := by
        intro same
        rw [done p old same] at before
        cases before
      rw [Function.update_of_ne other]
      exact h.running p old now reached before
    · obtain rfl := List.mem_singleton.1 new
      exact Function.update_self ..
  · refine List.pairwise_append.2 ⟨h.spaced, List.pairwise_singleton _ _, fun p hp q hq same => ?_⟩
    obtain rfl := List.mem_singleton.1 hq
    exact done p hp same

end Accounts

/-- The running times of a set are those that were published. -/
def Announces (published : List Published) (set : ExpiringSet) (coming : Number → Prop) : Prop :=
  ∃ l, Tracks set l coming ∧ Accounts l published set.lifetime coming

/-- In a set that is empty nothing is running, and nothing needs to have been published. -/
theorem announces_nil {set : ExpiringSet} (empty : set.expiries = []) :
    Announces [] set fun _ => True := by
  refine ⟨fun _ => none, tracks_of_nil empty, ?_, ?_, List.Pairwise.nil⟩
  · intro domain since noted
    cases noted
  · intro p hp
    cases hp

section Announces

variable {published : List Published} {set set' : ExpiringSet} {coming : Number → Prop}
  {now : Number}

theorem Announces.isLive_iff (h : Announces published set coming) (reached : coming now)
    (domain : Text) : set.isLive now domain = true ↔
      ∃ p ∈ published, p.event.domain = domain ∧ isRunning set.lifetime now p.time = true := by
  obtain ⟨l, tracks, accounts⟩ := h
  rw [tracks.isLive reached, accounts.isLive_iff reached]

/-- An operation announces all that it starts. -/
theorem Announces.after (h : Announces published set coming) (reached : coming now)
    (told : now.le now = true) {events : List Event}
    (effect : Classifier.TimeEffect set set' now events) :
    set'.lifetime = set.lifetime ∧
      Announces (published ++ events.map fun event => ⟨now, event⟩) set'
        fun t => coming t ∧ now.le t = true := by
  obtain ⟨l, tracks, accounts⟩ := h
  cases effect with
  | silent none reclaims =>
    subst none
    have lifetime := reclaims.lifetime
    refine ⟨lifetime, l, tracks.reclaims reached reclaims, ?_⟩
    rw [lifetime, List.map_nil, List.append_nil]
    exact accounts.mono fun t ht => ht.1
  | @announced event one added =>
    subst one
    have after : set.after ⟨now, .add event.domain⟩ = set' := by
      simp [ExpiringSet.after, added]
    have noted : set.note l ⟨now, .add event.domain⟩ =
        Function.update l event.domain (some now) := by
      simp [note, added]
    have ended : l.isLive set.lifetime now event.domain = false := by
      rw [← tracks.isLive reached, Bool.eq_false_iff]
      intro live
      rw [add_eq, if_pos live] at added
      cases added
    obtain ⟨lifetime, tracks⟩ := tracks.after (c := ⟨now, .add event.domain⟩) reached told
    rw [after] at lifetime tracks
    rw [noted] at tracks
    refine ⟨lifetime, _, tracks, ?_⟩
    rw [lifetime]
    exact accounts.publish reached ended

end Announces

/-- Through steps that block targets only, the events say what is live: those that went out before,
and those that go out now. -/
theorem run_announces {s : Session} {published : List Published} {coming : Number → Prop}
    (h : Announces published s.classifier.transient coming) {steps : List Step}
    (byTarget : ∀ x ∈ steps, x.blocksByName = false) (ordered : Ordered (s.readings steps))
    (reached : ∀ t ∈ s.readings steps, coming t) :
    (s.run steps).lifetime = s.lifetime ∧ ∃ later : Number → Prop,
      later (s.run steps).now.seconds ∧
      Announces (published ++ s.published steps) (s.run steps).classifier.transient later := by
  induction steps generalizing s published coming with
  | nil =>
    have none : s.published [] = [] := rfl
    refine ⟨rfl, coming, reached _ List.mem_cons_self, ?_⟩
    rw [none, List.append_nil]
    exact h
  | cons x r ih =>
    obtain ⟨sorted, told⟩ := ordered
    obtain ⟨first, sorted⟩ := List.pairwise_cons.1 sorted
    have here := reached _ List.mem_cons_self
    have nodup : s.classifier.transient.expiries.keys.Nodup := by
      obtain ⟨_, tracks, -⟩ := h
      exact tracks.nodup
    have timing := step_timing (byTarget x List.mem_cons_self) nodup
    obtain ⟨lifetime, after⟩ := h.after here (told _ List.mem_cons_self) timing
    obtain ⟨lifetime', later, now, rest⟩ :=
      ih after (fun y hy => byTarget y (List.mem_cons_of_mem _ hy))
        ⟨sorted, fun t ht => told t (List.mem_cons_of_mem _ ht)⟩
        fun t ht => ⟨reached t (List.mem_cons_of_mem _ ht), first t ht⟩
    have same : (s.step x).2.lifetime = s.lifetime := congrArg Number.float lifetime
    refine ⟨lifetime'.trans same, later, now, ?_⟩
    rw [published_cons, ← List.append_assoc]
    exact rest

end Session
end Detour
