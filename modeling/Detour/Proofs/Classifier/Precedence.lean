import Detour.Proofs.Classifier.Effects
import Detour.Proofs.Target.WellFormed

/-!
# Precedence of the lists of the administrator

Each of the two names of a target is judged on its own, and always-direct goes first for that name
alone. So a target that is listed as always-direct under one name is still blocked if the other name
counts as blocked: a listed host of a blocked domain, or a blocked host of a listed domain.

Always-blocked goes before what was learned in the same way. This is enough for the route of a
target, as one blocked name blocks it. It is not enough for being known to be reached directly: the
other name may be learned-direct, and then the target is said to be blocked and direct at once.

## Main statements

* `Classifier.isBlocked_fst`, `Classifier.isDirect_eq` — the verdicts, by the two names.
* `Classifier.classify_alwaysDirect` — the route of a target that is always-direct.
* `Classifier.classify_alwaysBlocked` — the verdicts on a target that is always-blocked.
-/
namespace Detour.Classifier

open DomainList Files Host Text

/-- What is looked up for a target has no port: the target is local, or both its names are free of
colons. -/
def Portless (t : Target) : Prop :=
  t.domain ≠ [] → hasPort t.host = false ∧ hasPort t.domain = false

theorem hasPort_of_hostChars {name : Text} (h : ∀ c ∈ name, IsHostChar c) :
    hasPort name = false := by
  have colon : (58 : CodePoint) ∉ name := fun hc => absurd (h 58 hc) (by decide)
  simp [hasPort, colon]

theorem portless_of_parse {encode : Encoder} (lawful : encode.Lawful) {input : Text} {t : Target}
    (h : Target.parse encode input = .ok t) : Portless t := by
  intro domain
  obtain ⟨host, named⟩ := Target.chars_of_parse lawful h domain
  exact ⟨hasPort_of_hostChars host, hasPort_of_hostChars named⟩

/-- A target counts as blocked if it has a domain and one of its names counts as blocked. -/
def BlocksTarget (c : Classifier) (now : Number) (t : Target) : Prop :=
  t.domain ≠ [] ∧ (c.CountsBlocked now t.host ∨ c.CountsBlocked now t.domain)

instance (c : Classifier) (now : Number) (t : Target) : Decidable (c.BlocksTarget now t) :=
  inferInstanceAs (Decidable (_ ∧ _))

theorem isBlocked_fst {t : Target} (port : Portless t) (c : Classifier) (now : Number) :
    (c.isBlocked now t).1 = .ok (decide (c.BlocksTarget now t)) := by
  rw [isBlocked_answer]
  by_cases domain : t.domain = []
  · simp [domain, BlocksTarget]
  · obtain ⟨host, named⟩ := port domain
    rw [if_neg domain, lookupBlocked_fst host, lookupBlocked_fst named]
    by_cases blocked : c.CountsBlocked now t.host
    · simp [domain, blocked, BlocksTarget]
    · simp [domain, blocked, BlocksTarget]

/-- A target is known to be reached directly if it is local or one of its names counts as direct. -/
theorem isDirect_eq {t : Target} (port : Portless t) (c : Classifier) :
    c.isDirect t =
      .ok (decide (t.domain ≠ [] → c.CountsDirect t.host ∨ c.CountsDirect t.domain)) := by
  unfold isDirect
  by_cases domain : t.domain = []
  · simp [domain]
  · obtain ⟨host, named⟩ := port domain
    rw [if_neg domain, lookupDirect_eq host]
    by_cases direct : c.CountsDirect t.host
    · simp [domain, direct]
    · simp [domain, direct, lookupDirect_eq named]

theorem classify_fst {c : Classifier} {now : Number} {t : Target} {blocked : Bool}
    (h : (c.isBlocked now t).1 = .ok blocked) :
    (c.classify now t).1 = .ok (routeOf blocked) := by
  rw [classify_answer, h]
  rfl

/-- A target that was read and is always-direct is known to be reached directly. It is blocked
nevertheless, and takes the route of what is blocked, exactly if one of its names counts as blocked:
one that is not always-direct itself, for the other name is not looked at. -/
theorem classify_alwaysDirect {encode : Encoder} (lawful : encode.Lawful) {input : Text}
    {t : Target} (parsed : Target.parse encode input = .ok t) {c : Classifier}
    (listed : c.isAlwaysDirect t = true) (now : Number) :
    c.isDirect t = .ok true ∧
    (c.isBlocked now t).1 = .ok (decide (c.BlocksTarget now t)) ∧
    (c.classify now t).1 = .ok (if c.BlocksTarget now t then .blocked else .direct) := by
  have port := portless_of_parse lawful parsed
  have blocked := c.isBlocked_fst port now
  refine ⟨?_, blocked, ?_⟩
  · rw [isDirect_eq port, Except.ok.injEq, decide_eq_true_iff]
    intro domain
    simp only [isAlwaysDirect, names, Bool.or_eq_true, beq_iff_eq, DomainSet.contains_eq_true]
      at listed
    rcases listed.resolve_left domain with host | named
    · exact .inl (.inl host)
    · exact .inr (.inl named)
  · rw [classify_fst blocked, routeOf]
    simp only [decide_eq_true_eq]

/-- About to load the lists of a directory, of which only the always-direct one is there. -/
def listingDirect (host : Text) : Session where
  classifier := .ofLocations (.inside (.ofText "/lists"))
  disk :=
    { tree := ⟨[([octets "lists"], .directory),
        ([octets "lists", octets "always_direct"], .file (octets host))]⟩ }
  now := ⟨.int 0, []⟩
where
  octets (t : Text) : Octets := t.map UInt8.ofNat

theorem classify_alwaysDirect_unblocked :
    let t : Target := { host := "www.example.com", domain := "example.com" }
    let c := ((listingDirect "www.example.com").run [.load [] []]).classifier
    c.isDirect t = .ok true ∧ (c.isBlocked (.int 0) t).1 = .ok false ∧
      (c.classify (.int 0) t).1 = .ok .direct := by
  intro t c
  have parsed : Target.parse .sample "www.example.com" = .ok t := by decide +kernel
  have listed : c.isAlwaysDirect t = true := by decide +kernel
  have free : ¬ c.BlocksTarget (.int 0) t := by decide +kernel
  have h := classify_alwaysDirect Encoder.lawful_sample parsed listed (.int 0)
  simpa only [free, decide_false, if_false] using h

/-- One host of a domain that could not be reached is enough to block another host, although that
is always-direct. -/
theorem classify_alwaysDirect_blockedSibling :
    let sibling : Target := { host := "mail.example.com", domain := "example.com" }
    let t : Target := { host := "www.example.com", domain := "example.com" }
    let c := ((listingDirect "www.example.com").run
      [.load [] [], .recordBlocked sibling]).classifier
    Target.parse .sample "mail.example.com" = .ok sibling ∧
    Target.parse .sample "www.example.com" = .ok t ∧
      c.isAlwaysDirect t = true ∧ (c.isBlocked (.int 0) t).1 = .ok true ∧
      (c.classify (.int 0) t).1 = .ok .blocked := by
  decide +kernel

/-! ## Always-blocked targets -/

/-- One of the names of a target is learned-direct, and not always-blocked itself. -/
def LearnedDirect (c : Classifier) (t : Target) : Prop :=
  (t.host ∉ c.alwaysBlocked ∧ t.host ∈ c.direct) ∨
    (t.domain ∉ c.alwaysBlocked ∧ t.domain ∈ c.direct)

instance (c : Classifier) (t : Target) : Decidable (c.LearnedDirect t) :=
  inferInstanceAs (Decidable (_ ∨ _))

section AlwaysBlocked

variable {c : Classifier} {t : Target}

theorem blocksTarget_of_alwaysBlocked (blocked : c.isAlwaysBlocked t = true)
    (unlisted : c.isAlwaysDirect t = false) (now : Number) : c.BlocksTarget now t := by
  simp only [isAlwaysBlocked, isAlwaysDirect, names, Bool.and_eq_true, Bool.or_eq_true,
    Bool.or_eq_false_iff, bne_iff_ne, DomainSet.contains_eq_true, DomainSet.contains_eq_false]
    at blocked unlisted
  obtain ⟨domain, listed⟩ := blocked
  obtain ⟨-, host, named⟩ := unlisted
  refine ⟨domain, ?_⟩
  rcases listed with listed | listed
  · exact .inl ⟨host, .inl listed⟩
  · exact .inr ⟨named, .inl listed⟩

theorem isInAlwaysSets_of_alwaysBlocked (blocked : c.isAlwaysBlocked t = true) :
    c.isInAlwaysSets t = true := by
  simp only [isAlwaysBlocked, Bool.and_eq_true] at blocked
  simp [isInAlwaysSets, blocked.2]

/-- Recording a target of the administrator's lists as reached directly does nothing. -/
theorem recordDirect_listed (listed : c.isInAlwaysSets t = true) :
    c.recordDirect t = { outcome := some .notRecorded, classifier := c } := by
  unfold recordDirect
  split
  · rfl
  · rw [listed, Bool.true_or, if_pos rfl]

end AlwaysBlocked

/-- A target that was read, is always-blocked and not always-direct is blocked and takes the route
of what is blocked, and recording it as reached directly is refused and changes nothing. It is known
to be reached directly nevertheless, exactly if one of its names is learned-direct: one that is not
always-blocked itself, for the other name is not looked at. -/
theorem classify_alwaysBlocked {encode : Encoder} (lawful : encode.Lawful) {input : Text}
    {t : Target} (parsed : Target.parse encode input = .ok t) {c : Classifier}
    (blocked : c.isAlwaysBlocked t = true) (unlisted : c.isAlwaysDirect t = false)
    (now : Number) :
    (c.isBlocked now t).1 = .ok true ∧
    (c.classify now t).1 = .ok .blocked ∧
    c.isDirect t = .ok (decide (c.LearnedDirect t)) ∧
    c.recordDirect t = { outcome := some .notRecorded, classifier := c } := by
  have port := portless_of_parse lawful parsed
  have blocks := blocksTarget_of_alwaysBlocked blocked unlisted now
  have verdict : (c.isBlocked now t).1 = .ok true := by
    rw [isBlocked_fst port, decide_eq_true blocks]
  have direct : (t.domain ≠ [] → c.CountsDirect t.host ∨ c.CountsDirect t.domain) ↔
      c.LearnedDirect t := by
    simp only [isAlwaysDirect, names, Bool.or_eq_false_iff, DomainSet.contains_eq_false] at unlisted
    obtain ⟨-, host, named⟩ := unlisted
    have domain : t.domain ≠ [] := blocks.1
    simp only [domain, ne_eq, not_false_eq_true, true_imp_iff, CountsDirect, host, named, false_or,
      LearnedDirect]
  refine ⟨verdict, classify_fst verdict, ?_,
    recordDirect_listed (isInAlwaysSets_of_alwaysBlocked blocked)⟩
  simp only [isDirect_eq port, direct]

/-- About to load the lists of a directory, of which only one is there. -/
def listing (kind : Kind) (host : Text) : Session where
  classifier := .ofLocations (.inside (.ofText "/lists"))
  disk :=
    { tree := ⟨[([octets "lists"], .directory),
        ([octets "lists", octets kind.name], .file (octets host))]⟩ }
  now := ⟨.int 0, []⟩
where
  octets (t : Text) : Octets := t.map UInt8.ofNat

/-- A host that is always-blocked, while another domain is learned-direct. -/
theorem classify_alwaysBlocked_otherDomain :
    let other : Target := { host := "www.example.org", domain := "example.org" }
    let t : Target := { host := "ads.example.com", domain := "example.com" }
    let c := ((listing .alwaysBlocked "ads.example.com").run
      [.load [] [], .recordDirect other]).classifier
    c.isAlwaysBlocked t = true ∧ c.isAlwaysDirect t = false ∧
      (c.isBlocked (.int 0) t).1 = .ok true ∧ (c.classify (.int 0) t).1 = .ok .blocked ∧
      c.isDirect t = .ok false ∧ (c.recordDirect t).outcome = some .notRecorded := by
  intro other t c
  have parsed : Target.parse .sample "ads.example.com" = .ok t := by decide +kernel
  have blocked : c.isAlwaysBlocked t = true := by decide +kernel
  have unlisted : c.isAlwaysDirect t = false := by decide +kernel
  have free : ¬ c.LearnedDirect t := by decide +kernel
  obtain ⟨verdict, route, direct, recorded⟩ :=
    classify_alwaysBlocked Encoder.lawful_sample parsed blocked unlisted (.int 0)
  refine ⟨blocked, unlisted, verdict, route, ?_, by rw [recorded]⟩
  rw [direct, decide_eq_false free]

/-- One host of a domain that was reached is enough for another host to be known to be reached
directly, although that is always-blocked and takes the route of what is blocked. -/
theorem classify_alwaysBlocked_directSibling :
    let sibling : Target := { host := "www.example.com", domain := "example.com" }
    let t : Target := { host := "ads.example.com", domain := "example.com" }
    let c := ((listing .alwaysBlocked "ads.example.com").run
      [.load [] [], .recordDirect sibling]).classifier
    Target.parse .sample "www.example.com" = .ok sibling ∧
    Target.parse .sample "ads.example.com" = .ok t ∧
      c.isAlwaysBlocked t = true ∧ c.isAlwaysDirect t = false ∧
      (c.classify (.int 0) t).1 = .ok .blocked ∧ c.isDirect t = .ok true := by
  decide +kernel

end Detour.Classifier
