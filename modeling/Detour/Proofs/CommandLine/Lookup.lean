import Detour.CommandLine.Program
import Detour.Proofs.Classifier.Consistency
import Detour.Proofs.Classifier.Precedence
import Detour.Proofs.Target.Refusals

/-!
# Looking up the routes of hosts

Hosts are looked up one after the other. Each that names a target has its route printed, each that
is rejected has its fault reported, and neither keeps the others from being looked up. Only a port
that is no number ends it all.

## Main statements

* `CommandLine.Work.lookUp_all` — what is printed and reported.
* `CommandLine.Work.lookUp_unreadable` — the hosts that end it.
-/
namespace Detour

open Text

namespace Classifier

theorem countsBlocked_classify (c : Classifier) (now : Number) (t : Target) (name : Text) :
    (c.classify now t).2.CountsBlocked now name ↔ c.CountsBlocked now name := by
  rw [classify_snd]
  unfold isBlocked
  split
  · rfl
  · have host := countsBlocked_lookupBlocked c now t.host name
    split
    · next c' first =>
      rw [first] at host
      rw [countsBlocked_lookupBlocked, host]
    · exact host

/-- Looking up a target does not change the route of any target. -/
theorem classify_classify (c : Classifier) (now : Number) (t u : Target) :
    ((c.classify now t).2.classify now u).1 = (c.classify now u).1 := by
  simp only [classify_answer, isBlocked_answer, lookupBlocked_answer, countsBlocked_classify]

/-- A target that was read has a route. -/
theorem classify_of_parse {encode : Host.Encoder} (lawful : encode.Lawful) {input : Text}
    {t : Target} (h : Target.parse encode input = .ok t) (c : Classifier) (now : Number) :
    ∃ route, (c.classify now t).1 = .ok route :=
  ⟨_, classify_fst (isBlocked_fst (portless_of_parse lawful h) c now)⟩

end Classifier

namespace CommandLine.Work

open Target

variable (encode : Host.Encoder)

/-- The line that is printed for a host. -/
def routeLine (c : Classifier) (now : Number) (host : Text) : Text :=
  match parse encode host with
  | .error _ => []
  | .ok t =>
    match (c.classify now t).1 with
    | .error _ => []
    | .ok route => t.hostPort ++ ": " ++ route.name ++ "\n"

/-- The line that reports a host. -/
def faultLine (host : Text) : Text :=
  match parse encode host with
  | .error (.rejected fault) => host ++ ": error: " ++ fault.message ++ "\n"
  | _ => []

def isRejected (host : Text) : Bool :=
  match parse encode host with
  | .error (.rejected _) => true
  | _ => false

/-- The work on a host that names a target or is rejected. -/
def lookedUp (w : Work) (host : Text) (classifier : Classifier) : Work :=
  { w with
    session := { w.session with classifier }
    output := w.output ++ routeLine encode w.session.classifier w.session.now.seconds host
    errors := w.errors ++ faultLine encode host
    code := if isRejected encode host then 1 else w.code }

/-- The work on a list of hosts that name targets or are rejected. -/
def lookedUpAll (w : Work) (hosts : List Text) (classifier : Classifier) : Work :=
  { w with
    session := { w.session with classifier }
    output := w.output ++
      hosts.flatMap (routeLine encode w.session.classifier w.session.now.seconds)
    errors := w.errors ++ hosts.flatMap (faultLine encode)
    code := if hosts.any (isRejected encode) then 1 else w.code }

section Lawful

variable {encode} (lawful : encode.Lawful) {host : Text} {hosts : List Text}

include lawful

/-- One host adds its line, changes no route, and the rest is looked up. -/
theorem forEach_lookUp_cons (settled : Settled encode host) (rest : List Text) (w : Work) :
    ∃ classifier,
      forEach encode lookUp (host :: rest) w =
        forEach encode lookUp rest (w.lookedUp encode host classifier) ∧
      ∀ t, (classifier.classify w.session.now.seconds t).1 =
        (w.session.classifier.classify w.session.now.seconds t).1 := by
  rcases settled with ⟨t, read⟩ | ⟨fault, rejected⟩
  · obtain ⟨route, hroute⟩ :=
      Classifier.classify_of_parse lawful read w.session.classifier w.session.now.seconds
    refine ⟨(w.session.classifier.classify w.session.now.seconds t).2, ?_,
      Classifier.classify_classify _ _ t⟩
    have split : w.session.classifier.classify w.session.now.seconds t =
        (.ok route, (w.session.classifier.classify w.session.now.seconds t).2) :=
      Prod.ext hroute rfl
    generalize (w.session.classifier.classify w.session.now.seconds t).2 = after at split ⊢
    simp [forEach, lookUp, lookedUp, read, split, printAbout, print, routeLine, faultLine,
      isRejected]
  · refine ⟨w.session.classifier, ?_, fun _ => rfl⟩
    simp [forEach, lookedUp, rejected, complain, routeLine, faultLine, isRejected]

/-- Every host has a line of its own, on one output or the other. -/
theorem lookUp_all (w : Work) (settled : ∀ host ∈ hosts, Settled encode host) :
    ∃ classifier,
      forEach encode lookUp hosts w = (none, w.lookedUpAll encode hosts classifier) := by
  induction hosts generalizing w with
  | nil => exact ⟨w.session.classifier, by simp [forEach, lookedUpAll]⟩
  | cons host rest ih =>
    obtain ⟨after, step, same⟩ :=
      forEach_lookUp_cons lawful (settled host List.mem_cons_self) rest w
    obtain ⟨last, run⟩ := ih (w.lookedUp encode host after)
      fun h hh => settled h (List.mem_cons_of_mem host hh)
    have lines : routeLine encode after w.session.now.seconds =
        routeLine encode w.session.classifier w.session.now.seconds := by
      funext h
      simp only [routeLine, same]
    refine ⟨last, ?_⟩
    rw [step, run]
    simp only [lookedUpAll, lookedUp, lines, List.flatMap_cons, List.append_assoc, List.any_cons]
    by_cases rejected : isRejected encode host = true <;> simp [rejected]

/-- A port that is no number ends the work. -/
theorem lookUp_unreadable (refuses : encode.OnlyRefuses) (w : Work)
    (unreadable : ∃ host ∈ hosts, UnreadablePort host) :
    ∃ failure, (forEach encode lookUp hosts w).1 = some failure ∧
      failure.kind = "ValueError" := by
  induction hosts generalizing w with
  | nil => simp at unreadable
  | cons host rest ih =>
    rcases settled_or_unreadablePort refuses host with settled | first
    · obtain ⟨after, step, -⟩ := forEach_lookUp_cons lawful settled rest w
      rw [step]
      refine ih _ ?_
      simpa [settled.readable] using unreadable
    · obtain ⟨fault, hfault⟩ := (parse_numeral encode).2 first
      exact ⟨(ParseError.numeral fault).toFailure, by simp [forEach, hfault], rfl⟩

end Lawful

/-- A text that names no target raises the documented failure unless its port is no number; and
where no port is like that, every host is looked up or reported, whatever the others are. -/
theorem raises_iff_unreadablePort {encode : Host.Encoder} (lawful : encode.Lawful)
    (refuses : encode.OnlyRefuses) (input : Text) (hosts : List Text) (w : Work) :
    ((∃ t, parse encode input = .ok t) ∨ Raises encode input "ValidationError" ∨
      Raises encode input "ValueError") ∧
    (Raises encode input "ValueError" ↔ UnreadablePort input) ∧
    ((forEach encode lookUp hosts w).1 = none ↔ ∀ host ∈ hosts, ¬ UnreadablePort host) ∧
    ((∀ host ∈ hosts, ¬ UnreadablePort host) → ∃ classifier,
      (forEach encode lookUp hosts w).2 = w.lookedUpAll encode hosts classifier) := by
  have all (readable : ∀ host ∈ hosts, ¬ UnreadablePort host) :=
    lookUp_all lawful w fun host hh =>
      (settled_or_unreadablePort refuses host).resolve_right (readable host hh)
  refine ⟨?_, raises_valueError_iff refuses, ⟨?_, ?_⟩, ?_⟩
  · rw [raises_validationError_iff refuses, raises_valueError_iff refuses, ← or_assoc]
    exact settled_or_unreadablePort refuses input
  · intro goes host member unreadable
    obtain ⟨failure, stops, -⟩ := lookUp_unreadable lawful refuses w ⟨host, member, unreadable⟩
    rw [goes] at stops
    cases stops
  · intro readable
    obtain ⟨classifier, run⟩ := all readable
    rw [run]
  · intro readable
    obtain ⟨classifier, run⟩ := all readable
    exact ⟨classifier, by rw [run]⟩

/-- Work on an empty disk, with no network to speak of. -/
def onEmptyDisk : Work where
  session := Session.onEmptyDisk (.inside (.ofText "/lists"))
  logger := { format := .text, level := .info }
  webhook := none
  network := { answer := fun _ _ => .unanswered "unreachable" }

/-- A rejected host between two others. -/
theorem raises_iff_unreadablePort_mixed :
    let hosts : List Text := ["B\u00fccher.example:443", "example.com:0", "[::1]:80"]
    let w := (forEach .sample lookUp hosts onEmptyDisk).2
    (forEach .sample lookUp hosts onEmptyDisk).1 = none ∧
      w.output = "xn--bcher-kva.example:443: direct\n[::1]:80: direct\n" ∧
      w.errors = "example.com:0: error: Invalid port '0'\n" ∧ w.code = 1 := by
  intro hosts w
  have readable : ∀ host ∈ hosts, ¬ UnreadablePort host := by decide +kernel
  obtain ⟨-, -, goes, lines⟩ := raises_iff_unreadablePort Host.Encoder.lawful_sample
    (Host.Encoder.onlyRefuses_ofTable _) [] hosts onEmptyDisk
  obtain ⟨classifier, run⟩ := lines readable
  have printed : w.output =
      hosts.flatMap (routeLine .sample onEmptyDisk.session.classifier (.int 0)) :=
    congrArg output run
  have reported : w.errors = hosts.flatMap (faultLine .sample) := congrArg errors run
  have code : w.code = if hosts.any (isRejected .sample) then 1 else 0 := congrArg Work.code run
  exact ⟨goes.2 readable, printed.trans (by decide +kernel), reported.trans (by decide +kernel),
    code.trans (by decide +kernel)⟩

/-- A superscript digit passes as a digit of a port and is no number: the failure is not the one
that is documented, and the hosts after it are not looked up. -/
theorem raises_valueError_superscript :
    let ends := forEach .sample lookUp ["example.com:\u00b2", "example.com"] onEmptyDisk
    Raises .sample "example.com:\u00b2" "ValueError" ∧
      ¬ Raises .sample "example.com:\u00b2" "ValidationError" ∧
      ends.1.isSome = true ∧ ends.2.output = [] ∧ ends.2.errors = [] := by
  decide +kernel

end CommandLine.Work
end Detour
