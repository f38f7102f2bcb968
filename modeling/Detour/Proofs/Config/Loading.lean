import Detour.Config.Storage
import Detour.Proofs.Config.Usable
import Detour.Proofs.Json.Limits
import Detour.Proofs.Text.Utf8

/-!
# When loading a configuration returns

Loading ends with a configuration, or without one if the file is missing or its content is refused.
Any other failure escapes. There are four kinds of them: the file is there but not read, its octets
are no text, the reader of the document comes to one of its limits, or a home directory is not
found. Home directories are asked for in the section of the paths alone, and there only up to the
first value that is no text.

## Main definitions

* `Configuration.Returns` — loading ends in an orderly way.
* `Configuration.pathTexts` — the texts that paths are read from.

## Main statements

* `Configuration.load_returns_iff` — when loading returns.
-/
namespace Detour.Configuration

open DomainList Files Text

/-- Loading ends with a configuration or without one, and no failure escapes. -/
def Returns (r : Except LoadError Configuration) : Prop := ∀ failure, r ≠ .error (.escaped failure)

instance (r : Except LoadError Configuration) : Decidable (Returns r) :=
  match r with
  | .ok _ => isTrue nofun
  | .error .missing => isTrue nofun
  | .error (.reported _) => isTrue nofun
  | .error (.escaped failure) => isFalse fun h => h failure rfl

/-- A value is read without asking for a home directory that is not found. -/
def AtHome {α : Type} (r : Read α) : Prop := ∀ f, r ≠ .error (.home f)

section Readers

variable {α β : Type}

theorem atHome_ok (a : α) : AtHome (.ok a : Read α) := nofun

theorem atHome_refused (f : Fault) : AtHome (.error (.refused f) : Read α) := nofun

theorem atHome_bind {x : Read α} {g : α → Read β} :
    AtHome (x >>= g) ↔ AtHome x ∧ ∀ a, x = .ok a → AtHome (g a) := by
  cases x with
  | ok a => exact ⟨fun h => ⟨atHome_ok a, fun b hb => Except.ok.inj hb ▸ h⟩, fun h => h.2 a rfl⟩
  | error e => exact ⟨fun h => ⟨fun f hf => h f (congrArg (· >>= g) hf), nofun⟩, fun h f hf =>
      h.1 f (congrArg Except.error (Except.error.inj hf))⟩

theorem AtHome.bind {x : Read α} {g : α → Read β} (hx : AtHome x) (hg : ∀ a, AtHome (g a)) :
    AtHome (x >>= g) := atHome_bind.2 ⟨hx, fun a _ => hg a⟩

theorem atHome_member (part : Json) (name : Text) (default : Json) :
    AtHome (member part name default) := by
  unfold member
  split
  · exact atHome_ok _
  · exact atHome_refused _

theorem atHome_boolean (part : Json) (name : Text) (default : Bool) :
    AtHome (boolean part name default) := by
  refine (atHome_member _ _ _).bind fun v => ?_
  split
  · exact atHome_ok _
  · exact atHome_refused _

theorem atHome_isAtMostZero (v : Json) : AtHome (isAtMostZero v) := by
  unfold isAtMostZero
  split
  · exact atHome_ok _
  · exact atHome_refused _

theorem atHome_readSettings (part : Json) : AtHome (readSettings part) := by
  refine (atHome_boolean _ _ _).bind fun _ => (atHome_boolean _ _ _).bind fun _ =>
    (atHome_member _ _ _).bind fun _ => (atHome_member _ _ _).bind fun _ =>
    (atHome_isAtMostZero _).bind fun lifetime => ?_
  cases lifetime with
  | true => exact atHome_refused _
  | false =>
    refine (atHome_isAtMostZero _).bind fun flush => ?_
    cases flush with
    | true => exact atHome_refused _
    | false => exact atHome_ok _

theorem atHome_levelOf (v : Json) : AtHome (levelOf v) := by
  unfold levelOf
  split
  · exact atHome_ok _
  · exact atHome_refused _
  · exact atHome_refused _
  · exact atHome_ok _

theorem atHome_readLogging (part : Json) : AtHome (readLogging part) := by
  refine (atHome_member _ _ _).bind fun _ => (atHome_member _ _ _).bind fun _ =>
    (atHome_levelOf _).bind fun _ => ?_
  split
  · exact atHome_ok _
  · exact atHome_refused _

theorem atHome_readWebhook (part : Json) : AtHome (readWebhook part) := by
  refine (atHome_boolean _ _ _).bind fun enabled => ?_
  cases enabled with
  | false => exact atHome_ok _
  | true =>
    refine (atHome_member _ _ _).bind fun url => ?_
    dsimp only
    split
    · exact (atHome_member _ _ _).bind fun _ => (atHome_member _ _ _).bind fun _ => atHome_ok _
    · exact atHome_ok _

/-- Only the section of the paths asks for home directories. -/
theorem atHome_ofJson {homes : Path.Homes} {document : Json} :
    AtHome (ofJson homes document) ↔
      ∀ part, partOf document "paths" = .ok part → AtHome (readLocations homes part) := by
  have sections (rest : Locations → Read Configuration) (other : ∀ l, AtHome (rest l)) :
      AtHome (partOf document "paths" >>= fun part => readLocations homes part >>= rest) ↔
        ∀ part, partOf document "paths" = .ok part → AtHome (readLocations homes part) := by
    have found : AtHome (partOf document "paths") := atHome_member _ _ _
    rw [atHome_bind, and_iff_right found]
    simp only [atHome_bind, other, implies_true, and_true]
  refine sections _ fun locations => (atHome_member _ _ _).bind fun _ =>
    (atHome_readSettings _).bind fun _ => (atHome_member _ _ _).bind fun _ =>
    (atHome_readLogging _).bind fun logging => ?_
  exact (atHome_member _ _ _).bind fun _ => (atHome_boolean _ _ _).bind fun _ =>
    (atHome_member _ _ _).bind fun _ => (atHome_readWebhook _).bind fun _ => atHome_ok _

end Readers

/-! ## Paths -/

/-- The home directory that the path of a text starts with is found, if it starts with one. -/
def Found (homes : Path.Homes) (t : Text) : Prop := ∃ p, (Path.ofText t).expandHome homes = .ok p

/-- The texts that some values start with. -/
def leadingTexts : List Json → List Text
  | .string t :: rest => t :: leadingTexts rest
  | _ => []

/-- The value under a name. -/
def valueOf (named : Table Text Json) (name : Text) : Json := (Table.get? name named).getD .null

/-- The values that paths are read from; the home directory stands for a directory that is not
given. -/
def pathValues (named : Table Text Json) : List Json :=
  (if (valueOf named "directory").isTruthy then valueOf named "directory" else .string "~") ::
    (Kind.all.map fun k => valueOf named k.name).filter Json.isTruthy

/-- The texts that paths are read from, up to the first value that is no text. -/
def pathTexts (document : Json) : List Text :=
  match partOf document "paths" with
  | .ok (.object named) => leadingTexts (pathValues named)
  | _ => []

section Paths

variable {homes : Path.Homes} {named : Table Text Json}

/-- A path is read from a text whose home directory is found, and what follows is read then. -/
theorem atHome_pathOf_bind {α : Type} {v : Json} {rest : List Json} {g : Path → Read α}
    (h : ∀ p, AtHome (g p) ↔ ∀ t ∈ leadingTexts rest, Found homes t) :
    AtHome (pathOf homes v >>= g) ↔ ∀ t ∈ leadingTexts (v :: rest), Found homes t := by
  cases v with
  | string t =>
    have read : pathOf homes (.string t) = ((Path.ofText t).expandHome homes).mapError .home := rfl
    rw [leadingTexts, List.forall_mem_cons, read]
    unfold Found
    cases (Path.ofText t).expandHome homes with
    | ok p => exact (h p).trans (and_iff_right ⟨p, rfl⟩).symm
    | error f =>
      refine iff_of_false (fun athome => athome f rfl) ?_
      rintro ⟨⟨p, hp⟩, -⟩
      cases hp
  | _ => exact iff_of_true (atHome_refused _) nofun

theorem path?_object (name : Text) :
    path? homes (.object named) name =
      if (valueOf named name).isTruthy then
        pathOf homes (valueOf named name) >>= fun p => .ok (some p)
      else .ok none :=
  rfl

theorem atHome_readLists (kinds : List Kind) (l : Locations) :
    AtHome (readLists homes (.object named) kinds l) ↔
      ∀ t ∈ leadingTexts ((kinds.map fun k => valueOf named k.name).filter Json.isTruthy),
        Found homes t := by
  induction kinds generalizing l with
  | nil => exact iff_of_true (atHome_ok l) nofun
  | cons kind rest ih =>
    rw [readLists, path?_object, List.map_cons]
    by_cases given : (valueOf named kind.name).isTruthy = true
    · rw [if_pos given, List.filter_cons_of_pos given, bind_assoc]
      exact atHome_pathOf_bind fun p => ih _
    · rw [if_neg given, List.filter_cons_of_neg given]
      exact ih l

theorem atHome_readLocations :
    AtHome (readLocations homes (.object named)) ↔
      ∀ t ∈ leadingTexts (pathValues named), Found homes t := by
  unfold readLocations readDirectory pathValues
  rw [path?_object]
  split
  · rw [bind_assoc, bind_assoc]
    exact atHome_pathOf_bind fun p => atHome_readLists Kind.all _
  · have default : (defaultDirectory homes).mapError ReadError.home =
        pathOf homes (.string "~") >>= fun p => .ok (p.child directoryName) := by
      show (Except.map _ (home homes)).mapError _ = ((home homes).mapError _) >>= _
      cases home homes <;> rfl
    have none (g : Option Path → Read Path) :
        (Except.ok none : Read (Option Path)) >>= g = g none := rfl
    rw [none, default, bind_assoc]
    exact atHome_pathOf_bind fun p => atHome_readLists Kind.all _

end Paths

theorem atHome_ofJson_iff {homes : Path.Homes} {document : Json} :
    AtHome (ofJson homes document) ↔ ∀ t ∈ pathTexts document, Found homes t := by
  rw [atHome_ofJson]
  unfold pathTexts
  cases partOf document "paths" with
  | error e => simp
  | ok part =>
    have single : (∀ p, (Except.ok part : Read Json) = .ok p → AtHome (readLocations homes p)) ↔
        AtHome (readLocations homes part) :=
      ⟨fun h => h part rfl, fun h p hp => Except.ok.inj hp ▸ h⟩
    rw [single]
    cases part with
    | object named => exact atHome_readLocations
    | _ => exact iff_of_true (atHome_refused _) nofun

/-! ## Loading -/

/-- The reader of documents comes to none of its limits. -/
def WithinLimits (t : Text) : Prop :=
  ∀ f, Json.document t = .error f → ∃ cause rest, f = .found cause rest

theorem withinLimits_of_short {t : Text} (short : Json.ShortRuns t)
    (shallow : Json.openings t ≤ Json.nestingLimit) : WithinLimits t :=
  fun _ => Json.document_found short shallow

/-- Brackets that open one container too many meet a limit, whatever follows them. -/
theorem not_withinLimits_brackets (rest : Text) :
    ¬ WithinLimits (List.replicate (Json.nestingLimit + 1) 91 ++ rest) := fun limits => by
  obtain ⟨cause, left, found⟩ := limits _ (Json.document_brackets rest)
  cases found

/-- A numeral that is too long meets a limit. -/
theorem not_withinLimits_digits {digits : Text} (h : Json.IsWhole digits)
    (long : numeralLimit < digits.length) : ¬ WithinLimits digits := fun limits => by
  obtain ⟨cause, left, found⟩ := limits _ (Json.document_digits h long)
  cases found

theorem returns_mapError {r : Read Configuration} : Returns (r.mapError readError) ↔ AtHome r := by
  cases r with
  | ok c => exact iff_of_true nofun nofun
  | error e =>
    cases e with
    | refused f => exact iff_of_true nofun nofun
    | home f => exact iff_of_false (fun h => h _ rfl) fun h => h f rfl

theorem returns_documentError {t : Text} {f : Json.Fault} :
    Returns (.error (documentError t f)) ↔ ∃ cause rest, f = .found cause rest := by
  cases f with
  | found cause rest => exact iff_of_true nofun ⟨cause, rest, rfl⟩
  | numeral f => exact iff_of_false (fun h => h _ rfl) nofun
  | tooDeep b => exact iff_of_false (fun h => h _ rfl) nofun

/-- The content of a file is dealt with if it is a text within the limits and the home directories
of its paths are found. -/
theorem returns_ofContent {homes : Path.Homes} {content : Octets} :
    Returns (ofContent homes content) ↔
      ∃ t, (∀ c ∈ t, Utf8.IsScalar c) ∧ content = Utf8.octets t ∧ WithinLimits (unifyLineEnds t) ∧
        ∀ document, Json.document (unifyLineEnds t) = .ok document →
          ∀ p ∈ pathTexts document, Found homes p := by
  simp only [← and_assoc, ← Utf8.decode_eq_ok]
  unfold ofContent WithinLimits
  cases Utf8.decode content with
  | error e => exact iff_of_false (fun h => h _ rfl) nofun
  | ok t =>
    simp only [Except.ok.injEq, and_assoc, exists_eq_left']
    cases Json.document (unifyLineEnds t) with
    | error f =>
      simp only [Except.error.injEq, forall_eq', reduceCtorEq, false_imp_iff, implies_true,
        and_true]
      exact returns_documentError
    | ok document =>
      simp only [Except.ok.injEq, forall_eq', reduceCtorEq, false_imp_iff, implies_true, true_and]
      exact returns_mapError.trans atHome_ofJson_iff

/-- Loading returns just if the file is missing, or its content is a text of Unicode within the
limits of the reader in which every home directory that is asked for is found. A text is within the
limits if neither its digits in a row nor its opening brackets are too many; such digits alone, or
such brackets at the front, are beyond them. -/
theorem load_returns_iff (homes : Path.Homes) (file : Path) (d : Disk) :
    (Returns (load homes file d) ↔
      (∃ path target, d.content file = .error (.system .noEntry path target)) ∨
      ∃ t, d.content file = .ok (Utf8.octets t) ∧ (∀ c ∈ t, Utf8.IsScalar c) ∧
        WithinLimits (unifyLineEnds t) ∧
        ∀ document, Json.document (unifyLineEnds t) = .ok document →
          ∀ p ∈ pathTexts document, Found homes p) ∧
    (∀ t, Json.ShortRuns t → Json.openings t ≤ Json.nestingLimit → WithinLimits t) ∧
    (∀ rest, ¬ WithinLimits (List.replicate (Json.nestingLimit + 1) 91 ++ rest)) ∧
    ∀ digits, Json.IsWhole digits → numeralLimit < digits.length → ¬ WithinLimits digits := by
  refine ⟨?_, fun t => withinLimits_of_short, not_withinLimits_brackets,
    fun digits => not_withinLimits_digits⟩
  unfold load
  split
  · next path target missing => exact iff_of_true nofun (.inl ⟨path, target, missing⟩)
  · next e other failed =>
    refine iff_of_false (fun h => h _ rfl) ?_
    rintro (⟨path, target, missing⟩ | ⟨t, found, -⟩)
    · exact other path target (Except.error.inj (failed.symm.trans missing))
    · cases failed.symm.trans found
  · next content found =>
    rw [returns_ofContent]
    constructor
    · rintro ⟨t, scalar, rfl, limits, paths⟩
      exact .inr ⟨t, found, scalar, limits, paths⟩
    · rintro (⟨path, target, missing⟩ | ⟨t, same, scalar, limits, paths⟩)
      · cases found.symm.trans missing
      · exact ⟨t, scalar, Except.ok.inj (found.symm.trans same), limits, paths⟩

/-- A configuration file that is a directory, one with an octet that begins no character, and one
with the home directory of an unknown account. -/
theorem not_returns_load :
    ¬ Returns (load rootHomes (.ofText "/config.json")
        { tree := ⟨[([Utf8.octets "config.json"], .directory)]⟩ }) ∧
      ¬ Returns (load rootHomes (.ofText "/config.json")
        { tree := ⟨[([Utf8.octets "config.json"], .file [0xFF])]⟩ }) ∧
      ¬ Returns (load rootHomes (.ofText "/config.json")
        (diskWith "\x7b\"paths\": \x7b\"directory\": \"~someone/lists\"\x7d\x7d")) := by
  decide +kernel

end Detour.Configuration
