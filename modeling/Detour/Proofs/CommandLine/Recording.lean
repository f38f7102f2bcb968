import Mathlib.Data.List.Forall2
import Detour.Proofs.Classifier.Reloading
import Detour.Proofs.CommandLine.Lookup
import Detour.Proofs.CommandLine.Setup

/-!
# Recording hosts that could not be reached

If recording hosts ends with code 0, every host was read, and all that was to be stored is stored.
So a host that is looked up in another run is blocked if it was recorded, or was so before.

## Main statements

* `CommandLine.Work.forEach_record` — what recording hosts prints and learns.
* `CommandLine.Work.recordAll_code` — what code 0 says about the lists.
* `CommandLine.Machine.record_lookup` — recording in one run, looking up in another.
-/
namespace Detour

open DomainList Files Text

namespace Classifier

/-- The learned-blocked names only get more, under the same settings and always-direct names. -/
structure Grows (c c' : Classifier) : Prop where
  settings : c'.settings = c.settings
  alwaysDirect : c'.alwaysDirect = c.alwaysDirect
  blocked : ∀ n ∈ c.blocked, n ∈ c'.blocked

theorem Grows.refl (c : Classifier) : Grows c c := ⟨rfl, rfl, fun _ hn => hn⟩

theorem Grows.trans {c c' c'' : Classifier} (h : Grows c c') (g : Grows c' c'') : Grows c c'' :=
  ⟨g.settings.trans h.settings, g.alwaysDirect.trans h.alwaysDirect,
    fun n hn => g.blocked n (h.blocked n hn)⟩

theorem recordBlocked_grows (c : Classifier) (now : Moment) (t : Target) :
    Grows c (c.recordBlocked now t).classifier := by
  rcases c.recordBlocked_cases now t with ⟨transient, same⟩ | ⟨-, -, -, -, learned⟩
  · rw [same]
    exact ⟨rfl, rfl, fun _ hn => hn⟩
  · rw [learned, learnBlocked_classifier]
    exact ⟨rfl, rfl, fun n hn => DomainSet.mem_insert.2 (.inr hn)⟩

/-- Persisting leaves all lists as they are. -/
theorem persist_grows (c : Classifier) (d : Disk) : Grows c (c.persist d).classifier := by
  have same := c.persist_sameLists d
  refine ⟨?_, same.alwaysDirect, fun n hn => same.blocked ▸ hn⟩
  rw [persist_classifier]
  rfl

/-- A target has a domain that is learned-blocked and not always-direct. -/
structure LearnedBlocked (c : Classifier) (t : Target) : Prop where
  domain : t.domain ≠ []
  learned : t.domain ∈ c.blocked
  notDirect : t.domain ∉ c.alwaysDirect

theorem LearnedBlocked.grows {c c' : Classifier} {t : Target} (h : c.LearnedBlocked t)
    (g : Grows c c') : c'.LearnedBlocked t :=
  ⟨h.domain, g.blocked _ h.learned, g.alwaysDirect ▸ h.notDirect⟩

theorem learnedBlocked_of_unlisted {c : Classifier} {t : Target}
    (unlisted : c.isAlwaysDirect t = false) (learned : t.domain ∈ c.blocked) :
    c.LearnedBlocked t :=
  ⟨domain_ne_nil unlisted, learned, domain_not_alwaysDirect unlisted⟩

/-- Recording has an outcome where learned-blocked names are updated, and if the domain is recorded,
then or before, it is learned. -/
theorem recordBlocked_learned {c : Classifier} (update : c.settings.updateBlocked = true)
    (now : Moment) (t : Target) :
    ∃ o, (c.recordBlocked now t).outcome = some o ∧ (o = .recorded ∨ o = .alreadyRecorded →
      (c.recordBlocked now t).classifier.LearnedBlocked t) := by
  cases c.recordBlocked_ends now t with
  | timed off =>
    rw [update] at off
    cases off
  | refused outcome =>
    refine ⟨.notRecorded, outcome, ?_⟩
    rintro (recorded | recorded) <;> cases recorded
  | known unlisted known outcome classifier =>
    refine ⟨.alreadyRecorded, outcome, fun _ => ?_⟩
    rw [classifier]
    exact learnedBlocked_of_unlisted unlisted known
  | learned _ unlisted _ _ result =>
    refine ⟨.recorded, by rw [result, learnBlocked_outcome], fun _ => ?_⟩
    rw [result, learnBlocked_classifier]
    exact learnedBlocked_of_unlisted unlisted (DomainSet.mem_insert.2 (.inl rfl))

end Classifier

namespace CommandLine

open Classifier

/-- What was printed for a host: its target and the outcome. -/
structure Recording where
  target : Target
  outcome : Outcome

/-- The domain of the target is learned-blocked, now or since before. -/
def Recording.IsRecorded (x : Recording) : Prop :=
  x.outcome = .recorded ∨ x.outcome = .alreadyRecorded

def Recording.line (x : Recording) : Text :=
  x.target.hostPort ++ ": " ++ Work.outcomeText x.outcome ++ "\n"

namespace Work

/-! ## Recording -/

/-- The work on a target that was recorded as blocked. -/
def recordedBlocked (w : Work) (t : Target) (o : Outcome) : Work :=
  (w.act (.recordBlocked t)).2.printAbout t (outcomeText o)

theorem record_blocked_eq {w : Work} {t : Target} {o : Outcome}
    (outcome : (w.session.classifier.recordBlocked w.session.now t).outcome = some o) :
    record .blocked t w = (none, w.recordedBlocked t o) := by
  have answer : (w.act (.recordBlocked t)).1 = .outcome o := by
    rw [act_fst, Session.step, Session.recorded, outcome]
    rfl
  simp only [record, recordStep, recordedBlocked]
  generalize w.act (.recordBlocked t) = r at *
  obtain ⟨a, w'⟩ := r
  obtain rfl : a = .outcome o := answer
  rfl

variable {encode : Host.Encoder} {locations : Locations}

/-- If recording hosts ends with code 0, each host was read, its outcome was printed, and what was
recorded is learned. -/
theorem forEach_record (lawful : encode.Lawful) {hosts : List Text} {w w' : Work}
    (h : Backed locations w.session.classifier w.session.disk)
    (update : w.session.classifier.settings.updateBlocked = true)
    (ends : forEach encode (record .blocked) hosts w = (none, w')) (accepted : w'.code = 0) :
    w.code = 0 ∧ Backed locations w'.session.classifier w'.session.disk ∧
      Grows w.session.classifier w'.session.classifier ∧
      ∃ xs : List Recording,
        List.Forall₂ (fun host x => Target.parse encode host = .ok x.target) hosts xs ∧
        w'.output = w.output ++ xs.flatMap Recording.line ∧
        ∀ x ∈ xs, x.IsRecorded → w'.session.classifier.LearnedBlocked x.target := by
  induction hosts generalizing w with
  | nil =>
    obtain ⟨-, rfl⟩ := Prod.mk.inj ends
    exact ⟨accepted, h, .refl _, [], .nil, by simp, by simp⟩
  | cons host rest ih =>
    unfold forEach at ends
    split at ends
    · -- a rejected host sets the code, which stays
      obtain ⟨code, -⟩ := ih (w := { w.complain _ with code := 1 }) h update ends
      cases code
    · cases ends
    · next t parsed =>
      obtain ⟨o, outcome, learned⟩ := recordBlocked_learned update w.session.now t
      rw [record_blocked_eq outcome] at ends
      have backed : Backed locations (w.recordedBlocked t o).session.classifier
          (w.recordedBlocked t o).session.disk := recordBlocked_backed h lawful parsed w.session.now
      have grows : Grows w.session.classifier (w.recordedBlocked t o).session.classifier :=
        w.session.classifier.recordBlocked_grows w.session.now t
      obtain ⟨code, last, later, xs, read, printed, all⟩ := ih backed
        (by rw [grows.settings]; exact update) ends
      refine ⟨code, last, grows.trans later, ⟨t, o⟩ :: xs, .cons parsed read, ?_, ?_⟩
      · rw [printed]
        simp [recordedBlocked, printAbout, print, Recording.line]
      · refine List.forall_mem_cons.2 ⟨fun recorded => ?_, all⟩
        have now : (w.recordedBlocked t o).session.classifier.LearnedBlocked t := learned recorded
        exact now.grows later

/-! ## Storing -/

/-- Work goes on with the same session, output and code. -/
structure SameWork (w w' : Work) : Prop where
  session : w'.session = w.session
  output : w'.output = w.output
  code : w'.code = w.code

theorem deliver_sameWork (w : Work) : SameWork w w.deliver := by
  unfold deliver
  split
  · exact ⟨rfl, rfl, rfl⟩
  · exact ⟨rfl, rfl, rfl⟩

/-- Code 0 says that no list has still to be stored. -/
theorem checkStored_code {w : Work} (h : w.checkStored.code = 0) :
    w.checkStored = w ∧ w.isUnstored = false := by
  unfold checkStored at h ⊢
  cases unstored : w.isUnstored with
  | true => simp [unstored] at h
  | false => simp

/-- Persisting goes on just if it does for the classifier. -/
theorem persist_eq_none {w w' : Work} (h : w.persist = (none, w')) :
    ∃ written, (w.session.classifier.persist w.session.disk).result = .ok written ∧
      w' = (w.act .persist).2 := by
  unfold persist at h
  cases hr : (w.session.classifier.persist w.session.disk).result with
  | error f =>
    have answer : (w.act .persist).1 = .failed f.toFailure := by
      simp only [act_fst, Session.step, Session.listed, hr]
    generalize w.act .persist = r at h answer
    obtain ⟨a, after⟩ := r
    obtain rfl : a = _ := answer
    cases h
  | ok written =>
    have answer : (w.act .persist).1 = .written written := by
      simp only [act_fst, Session.step, Session.listed, hr]
    refine ⟨written, rfl, ?_⟩
    generalize w.act .persist = r at h answer
    obtain ⟨a, after⟩ := r
    obtain rfl : a = _ := answer
    exact (Prod.mk.inj h).2.symm

/-- If recording and storing ends with code 0, each host was read and its outcome was printed, the
lists are in their files, and what was recorded is in the learned-blocked one. -/
theorem recordAll_code (lawful : encode.Lawful) {hosts : List Text} {w : Work}
    (h : Backed locations w.session.classifier w.session.disk)
    (update : w.session.classifier.settings.updateBlocked = true)
    (done : (finish (recordAll encode .blocked hosts w)).ending = .code 0) :
    ∃ (xs : List Recording) (c : Classifier),
      List.Forall₂ (fun host x => Target.parse encode host = .ok x.target) hosts xs ∧
      (finish (recordAll encode .blocked hosts w)).output = w.output ++ xs.flatMap Recording.line ∧
      Backed locations c (finish (recordAll encode .blocked hosts w)).disk ∧
      c.blockedChanged = false ∧ ∀ x ∈ xs, x.IsRecorded → c.LearnedBlocked x.target := by
  unfold recordAll at done ⊢
  cases recorded : forEach encode (record .blocked) hosts w with
  | mk failure w₁ =>
  cases failure with
  | some failure => simp [recorded, finish, ending] at done
  | none =>
  cases stored : w₁.persist with
  | mk failure w₂ =>
  cases failure with
  | some failure => simp [recorded, stored, finish, ending] at done
  | none =>
  simp only [recorded, stored, finish, ending, Ending.code.injEq] at done ⊢
  obtain ⟨checked, unstored⟩ := checkStored_code done
  rw [checked] at done ⊢
  obtain ⟨session, output, code⟩ := w₂.deliver_sameWork
  obtain ⟨written, result, rfl⟩ := persist_eq_none stored
  rw [code, act_code] at done
  obtain ⟨-, backed, grows, xs, read, printed, learned⟩ :=
    forEach_record lawful h update recorded done
  have later := w₁.session.classifier.persist_grows w₁.session.disk
  have unmarked (l : Learned) (on : w₁.session.classifier.isUpdated l = true) :
      (w₁.session.classifier.persist w₁.session.disk).classifier.isChanged l = false := by
    have classifier : (w₁.act .persist).2.session.classifier =
        (w₁.session.classifier.persist w₁.session.disk).classifier := rfl
    rw [isUnstored, session, classifier, later.settings, Bool.or_eq_false_iff] at unstored
    cases l with
    | blocked => exact (Bool.and_eq_false_imp.1 unstored.1) on
    | direct => exact (Bool.and_eq_false_imp.1 unstored.2) on
  refine ⟨xs, (w₁.session.classifier.persist w₁.session.disk).classifier, read, ?_, ?_, ?_, ?_⟩
  · rw [output, act_output, printed]
  · rw [session]
    exact persist_backed backed result unmarked
  · refine unmarked .blocked ?_
    rw [isUpdated, grows.settings]
    exact update
  · exact fun x hx taken => (learned x hx taken).grows later

end Work

/-! ## Looking up later -/

namespace Work

variable {encode : Host.Encoder}

/-- The line that tells the route of a target. -/
def printedRoute (t : Target) (route : Route) : Text := t.hostPort ++ ": " ++ route.name ++ "\n"

/-- The route that a classifier gives to a target that was read. -/
def routeFor (c : Classifier) (now : Number) (t : Target) : Route :=
  (c.classify now t).1.toOption.getD .direct

theorem routeLine_of_parse (lawful : encode.Lawful) {host : Text} {t : Target}
    (read : Target.parse encode host = .ok t) (c : Classifier) (now : Number) :
    routeLine encode c now host = printedRoute t (routeFor c now t) := by
  obtain ⟨route, hroute⟩ := classify_of_parse lawful read c now
  simp only [routeLine, read, hroute, routeFor, printedRoute]
  rfl

section Read

variable {hosts : List Text} {xs : List Recording}

theorem targets_read
    (read : List.Forall₂ (fun host x => Target.parse encode host = .ok x.target) hosts xs) :
    ∀ x ∈ xs, ∃ host, Target.parse encode host = .ok x.target := by
  induction read with
  | nil => simp
  | cons first _ ih => exact List.forall_mem_cons.2 ⟨⟨_, first⟩, ih⟩

/-- Hosts that name targets are not reported, and have the lines of their targets. -/
theorem lines_of_read (lawful : encode.Lawful)
    (read : List.Forall₂ (fun host x => Target.parse encode host = .ok x.target) hosts xs)
    (c : Classifier) (now : Number) :
    (∀ host ∈ hosts, Target.Settled encode host) ∧ hosts.flatMap (faultLine encode) = [] ∧
      hosts.any (isRejected encode) = false ∧ hosts.flatMap (routeLine encode c now) =
        xs.flatMap fun x => printedRoute x.target (routeFor c now x.target) := by
  induction read with
  | nil => simp
  | cons first _ ih =>
    obtain ⟨settled, reported, accepted, lines⟩ := ih
    refine ⟨List.forall_mem_cons.2 ⟨.inl ⟨_, first⟩, settled⟩, ?_, ?_, ?_⟩
    · rw [List.flatMap_cons, reported]
      simp [faultLine, first]
    · rw [List.any_cons, accepted]
      simp [isRejected, first]
    · rw [List.flatMap_cons, List.flatMap_cons, lines, routeLine_of_parse lawful first]

/-- Where every host names a target, each has its route printed and nothing else happens. -/
theorem lookUp_read (lawful : encode.Lawful)
    (read : List.Forall₂ (fun host x => Target.parse encode host = .ok x.target) hosts xs)
    (w : Work) :
    ∃ classifier, forEach encode lookUp hosts w = (none, { w with
      session := { w.session with classifier }
      output := w.output ++ xs.flatMap fun x => printedRoute x.target
        (routeFor w.session.classifier w.session.now.seconds x.target) }) := by
  obtain ⟨settled, reported, accepted, lines⟩ :=
    lines_of_read lawful read w.session.classifier w.session.now.seconds
  obtain ⟨classifier, run⟩ := lookUp_all lawful w settled
  refine ⟨classifier, ?_⟩
  rw [run, lookedUpAll, accepted, reported, lines]
  simp

end Read

end Work

namespace Machine

open Work

theorem told_of_apartFiles {l : Locations} {d : Disk} (files : ApartFiles l d) (k : Kind) :
    ∃ there, d.exists? (l.pathFor k) = .ok there :=
  tellsLists_of_names (c := Classifier.ofLocations l) files.proper files.named rfl k

section Runs

variable {m : Machine} {o : Options} {c c' : Configuration} {notice : Text} {hosts : List Text}

/-- A run that records hosts and ends with code 0 leaves in their files what it learned of them. -/
theorem record_backed (lawful : m.encode.Lawful)
    (configured : m.configured o.config = .ok (notice, c))
    (overridden : c.override m.homes m.environment = .ok c')
    (update : c'.settings.updateBlocked = true) (working : m.disk.HasWorking)
    (files : ApartFiles c'.locations m.disk)
    (found : ∀ k, ReadableOrMissing (c'.locations.pathFor k) m.disk)
    (done : (m.perform (.record .blocked o hosts)).ending = .code 0) :
    ∃ (xs : List Recording) (stored : Classifier),
      List.Forall₂ (fun host x => Target.parse m.encode host = .ok x.target) hosts xs ∧
      (m.perform (.record .blocked o hosts)).output = xs.flatMap Recording.line ∧
      Backed c'.locations stored (m.perform (.record .blocked o hosts)).disk ∧
      stored.blockedChanged = false ∧
      ∀ x ∈ xs, x.IsRecorded → stored.LearnedBlocked x.target := by
  obtain ⟨w₀, prepared⟩ := prepare_of_code configured overridden done
  obtain ⟨w, ready, run⟩ := classify_ready (f := recordAll m.encode .blocked hosts) configured
    overridden prepared (told_of_apartFiles files)
  obtain ⟨fresh, created, classifier, disk⟩ := ready.loaded
  have backed : Backed c'.locations w.session.classifier w.session.disk := by
    rw [classifier, disk]
    exact load_backed created working files found
  have updated : w.session.classifier.settings.updateBlocked = true := by
    have told := tellsLists_of_names files.proper files.named (create_learned created).1
    obtain ⟨transient, -, rfl⟩ := create_eq_ok.1 created
    rw [classifier, settings_load told]
    exact update
  have finished : m.perform (.record .blocked o hosts) =
      finish (recordAll m.encode .blocked hosts w) := run
  rw [finished] at done ⊢
  obtain ⟨xs, stored, read, printed, rest⟩ := recordAll_code lawful backed updated done
  rw [ready.output, List.nil_append] at printed
  exact ⟨xs, stored, read, printed, rest⟩

/-- A run that looks up hosts which name targets prints the routes that the lists give them. -/
theorem lookup_prints (lawful : m.encode.Lawful)
    (configured : m.configured o.config = .ok (notice, c))
    (overridden : c.override m.homes m.environment = .ok c') {w : Work}
    (prepared : m.prepare c' o.verbose = .ok w) (files : ApartFiles c'.locations m.disk)
    {xs : List Recording}
    (read : List.Forall₂ (fun host x => Target.parse m.encode host = .ok x.target) hosts xs) :
    ∃ fresh now, Classifier.create c'.settings c'.locations = .ok fresh ∧
      (m.perform (.lookup o hosts)).ending = .code 0 ∧
      (m.perform (.lookup o hosts)).output = xs.flatMap fun x =>
        printedRoute x.target (routeFor (fresh.load [] [] m.disk).classifier now x.target) := by
  obtain ⟨w, ready, run⟩ := classify_ready (f := forEach m.encode lookUp hosts) configured
    overridden prepared (told_of_apartFiles files)
  obtain ⟨fresh, created, classifier, -⟩ := ready.loaded
  obtain ⟨after, looked⟩ := lookUp_read lawful read w
  have finished : m.perform (.lookup o hosts) = finish (forEach m.encode lookUp hosts w) := run
  refine ⟨fresh, w.session.now.seconds, created, ?_, ?_⟩
  · rw [finished, looked]
    exact congrArg Ending.code ready.code
  · rw [finished, looked]
    simp only [finish]
    rw [ready.output, List.nil_append, classifier]

end Runs

/-- Recording can be trusted. If a run records hosts that could not be reached and ends with code 0,
where learned-blocked names are updated and the lists are readable or missing files of their own,
then every host names a target; and if a later run looks the same hosts up under the same
configuration, the files being as they were left, it ends with code 0 as well and prints that each
host is blocked that was recorded, or had been before. -/
theorem record_lookup {m m' : Machine} {o o' : Options} {c c' : Configuration}
    {notice notice' : Text} {hosts : List Text} (lawful : m.encode.Lawful)
    (configured : m.configured o.config = .ok (notice, c))
    (overridden : c.override m.homes m.environment = .ok c')
    (update : c'.settings.updateBlocked = true) (working : m.disk.HasWorking)
    (files : ApartFiles c'.locations m.disk)
    (found : ∀ k, ReadableOrMissing (c'.locations.pathFor k) m.disk)
    (done : (m.perform (.record .blocked o hosts)).ending = .code 0)
    (untouched : (m.perform (.record .blocked o hosts)).disk.SameFiles m'.disk)
    (encoder : m'.encode = m.encode) (homes : m'.homes = m.homes)
    (environment : m'.environment = m.environment)
    (again : m'.configured o'.config = .ok (notice', c)) :
    ∃ (xs : List Recording) (route : Target → Route),
      List.Forall₂ (fun host x => Target.parse m.encode host = .ok x.target) hosts xs ∧
      (m.perform (.record .blocked o hosts)).output = xs.flatMap Recording.line ∧
      (m'.perform (.lookup o' hosts)).ending = .code 0 ∧
      (m'.perform (.lookup o' hosts)).output =
        xs.flatMap (fun x => printedRoute x.target (route x.target)) ∧
      ∀ x ∈ xs, x.IsRecorded → route x.target = .blocked := by
  obtain ⟨w, prepared⟩ := prepare_of_code configured overridden done
  obtain ⟨xs, stored, read, printed, kept, unmarked, learned⟩ :=
    record_backed lawful configured overridden update working files found done
  have left := kept.sameFiles untouched
  have overridden' : c.override m'.homes m'.environment = .ok c' := by
    rw [homes, environment]
    exact overridden
  obtain ⟨w', prepared'⟩ := prepare_other prepared m' o'.verbose
  obtain ⟨fresh, now, created, ended, shown⟩ := lookup_prints (encoder ▸ lawful) again overridden'
    prepared' left.files (by rwa [encoder])
  refine ⟨xs, routeFor (fresh.load [] [] m'.disk).classifier now, read, printed, ended, shown,
    fun x hx taken => ?_⟩
  obtain ⟨named, there, notDirect⟩ := learned x hx taken
  have counts := left.countsBlocked unmarked created there notDirect now
  obtain ⟨host, parsed⟩ := targets_read read x hx
  have blocked := (counts.blocksDomain named).read _ lawful host x.target parsed rfl
  rw [routeFor, blocked]
  rfl

/-- A machine on which a domain was learned as direct before that is recorded as blocked now, the
learned-direct list not being updated. -/
def relearningMachine : Machine where
  disk := { tree := ⟨[([Utf8.octets "lists"], .directory),
    ([Utf8.octets "lists", Utf8.octets "direct"], .file (Utf8.octets "example.com\n"))]⟩ }
  environment :=
    [("DOMAIN_CLASSIFIER_DIR", "/lists"), ("DOMAIN_CLASSIFIER_UPDATE_DIRECT", "no")]
  homes := { own := "/root", accounts := Path.systemAccounts }
  encode := .sample
  network := { answer := fun _ _ => .unanswered "unreachable" }
  now := ⟨.int 0, []⟩

theorem record_lookup_relearned :
    let m := relearningMachine
    let hosts : List Text := ["www.Example.com:443", "mail.example.com", "192.0.2.1"]
    let r := m.perform (.record .blocked {} hosts)
    let m' : Machine := { m with disk := r.disk }
    let later := m'.perform (.lookup {} hosts)
    r.ending = .code 0 ∧
      r.output = ofString "www.example.com:443: recorded\nmail.example.com: already_recorded\n" ++
        ofString "192.0.2.1: not_recorded\n" ∧
      later.ending = .code 0 ∧
      later.output = ofString "www.example.com:443: blocked\nmail.example.com: blocked\n" ++
        ofString "192.0.2.1: direct\n" ∧
      ∃ (xs : List Recording) (route : Target → Route), r.output = xs.flatMap Recording.line ∧
        later.output = xs.flatMap (fun x => printedRoute x.target (route x.target)) ∧
        ∀ x ∈ xs, x.IsRecorded → route x.target = .blocked := by
  intro m hosts r m' later
  have done : r.ending = .code 0 := Ending.eq_code (by decide +kernel)
  have target (k : Kind) : ((Locations.inside (.ofText "/lists")).pathFor k).target? [] =
      some [Utf8.octets "lists", Utf8.octets k.name] := by cases k <;> decide +kernel
  have found (k : Kind) :
      ReadableOrMissing ((Locations.inside (.ofText "/lists")).pathFor k) m.disk := by
    cases k with
    | direct => exact .inl ⟨Utf8.octets "example.com\n", by decide +kernel⟩
    | blocked => exact readableOrMissing_of_absent (target .blocked) (by decide +kernel)
    | alwaysBlocked => exact readableOrMissing_of_absent (target .alwaysBlocked) (by decide +kernel)
    | alwaysDirect => exact readableOrMissing_of_absent (target .alwaysDirect) (by decide +kernel)
  have files : ApartFiles (.inside (.ofText "/lists")) m.disk :=
    (ownFiles_lists rfl fun k calls => rfl).apartFiles
  have file : Configuration.defaultFile m.homes =
      .ok (.ofText "/root/.domain_classifier/config.json") := by decide +kernel
  have absent : m.disk.content (.ofText "/root/.domain_classifier/config.json") =
      .error (.system .noEntry "/root/.domain_classifier/config.json" none) := by decide +kernel
  have directory : Configuration.defaultDirectory m.homes =
      .ok (.ofText "/root/.domain_classifier") := by decide +kernel
  have configured (d : Disk) (h : d.content (.ofText "/root/.domain_classifier/config.json") =
      .error (.system .noEntry "/root/.domain_classifier/config.json" none)) :
      ({ m with disk := d } : Machine).configured none =
        .ok ([], .inDirectory (.ofText "/root/.domain_classifier")) := by
    simp only [Machine.configured, file, homeFailure, readConfiguration, Configuration.load, h,
      Configuration.standard, directory, Except.map, Except.mapError,
      Configuration.LoadError.notice]
  have located : Configuration.overrideLocations m.homes
      (Configuration.setting? m.environment "DIR") (.inside (.ofText "/root/.domain_classifier")) =
        .ok (.inside (.ofText "/lists")) := by
    decide +kernel
  have overridden : (Configuration.inDirectory (.ofText "/root/.domain_classifier")).override
      m.homes m.environment = .ok _ := congrArg (Except.map _) located
  have update : (Configuration.overrideSettings m.environment {}).updateBlocked = true := by
    decide +kernel
  have same : r.disk.SameFiles m'.disk := by
    simp only [m']
    exact .refl r.disk
  have left : r.disk.content (.ofText "/root/.domain_classifier/config.json") =
      .error (.system .noEntry "/root/.domain_classifier/config.json" none) := by decide +kernel
  let o : Options := {}
  have first : m.configured o.config = _ := configured m.disk absent
  have second : m'.configured o.config = _ := configured r.disk left
  obtain ⟨xs, route, -, printed, ended, shown, blocked⟩ :=
    record_lookup Host.Encoder.lawful_sample first overridden update (by decide) files found done
      same rfl rfl rfl second
  exact ⟨done, by decide +kernel, ended, by decide +kernel, xs, route, printed, shown, blocked⟩

end Machine
end CommandLine
end Detour
