import Detour.Proofs.Log.History

/-!
# What masking hides

Two values that differ only under sensitive keys are to be masked to the same value, so that nothing
about a secret can be told from a log. Masking follows objects, and the arrays that stand in them,
but it does not enter an array that stands in an array. What these inner arrays hold is logged as
it is, and a secret in one of them is the only kind that gets out.

## Main definitions

* `Log.Agree` — the same value but for what stands under sensitive keys.
* `Log.innerArrays` — the arrays that masking does not enter.

## Main statements

* `Log.Agree.mask_iff` — such values are masked to the same one if their inner arrays are the same.
* `Logger.secrets_hidden_iff` — and only then a logger does the same with both.
-/
namespace Detour.Log

open Text

mutual

/-- The two values are the same but for what stands under sensitive keys. -/
inductive Agree : Json → Json → Prop
  | same (v : Json) : Agree v v
  | array {xs ys : List Json} (items : AgreeItems xs ys) : Agree (.array xs) (.array ys)
  | object {ms ns : List (Text × Json)} (members : AgreeMembers ms ns) :
      Agree (.object ms) (.object ns)

inductive AgreeItems : List Json → List Json → Prop
  | nil : AgreeItems [] []
  | cons {x y : Json} {xs ys : List Json} (first : Agree x y) (rest : AgreeItems xs ys) :
      AgreeItems (x :: xs) (y :: ys)

inductive AgreeMembers : List (Text × Json) → List (Text × Json) → Prop
  | nil : AgreeMembers [] []
  | secret {key : Text} {ms ns : List (Text × Json)} (sensitive : isSensitive key = true)
      (v w : Json) (rest : AgreeMembers ms ns) : AgreeMembers ((key, v) :: ms) ((key, w) :: ns)
  | plain {v w : Json} {ms ns : List (Text × Json)} (key : Text) (value : Agree v w)
      (rest : AgreeMembers ms ns) : AgreeMembers ((key, v) :: ms) ((key, w) :: ns)

end

mutual

/-- The arrays that masking leaves as they are: those that stand in an array or alone, and not under
a sensitive key. -/
def innerArrays : Json → List Json
  | .object members => memberArrays members
  | .array items => [.array items]
  | _ => []

def memberArrays : List (Text × Json) → List Json
  | [] => []
  | (key, v) :: r => (if isSensitive key then [] else valueArrays v) ++ memberArrays r

/-- The same for the value of a member: if it is an array, masking looks at its items. -/
def valueArrays : Json → List Json
  | .object members => memberArrays members
  | .array items => itemArrays items
  | _ => []

def itemArrays : List Json → List Json
  | [] => []
  | x :: xs => innerArrays x ++ itemArrays xs

end

/-! ## Values that agree -/

/-- Two lists of the same length are equal exactly if something is the case. -/
structure EqualWhen (p : Prop) (as bs : List Json) : Prop where
  length : as.length = bs.length
  iff : p ↔ as = bs

theorem EqualWhen.of_eq {p : Prop} (h : p) (as : List Json) : EqualWhen p as as :=
  ⟨rfl, by simp [h]⟩

theorem EqualWhen.append {p q : Prop} {as bs cs ds : List Json} (h : EqualWhen p as bs)
    (g : EqualWhen q cs ds) : EqualWhen (p ∧ q) (as ++ cs) (bs ++ ds) where
  length := by rw [List.length_append, List.length_append, h.length, g.length]
  iff := by rw [List.append_eq_append_iff_of_size_eq_left h.length, h.iff, g.iff]

theorem EqualWhen.congr {p q : Prop} {as bs : List Json} (h : EqualWhen p as bs) (same : q ↔ p) :
    EqualWhen q as bs := ⟨h.length, same.trans h.iff⟩

mutual

/-- Values that agree are masked to the same value if their inner arrays are the same. -/
theorem Agree.mask_iff {a b : Json} :
    Agree a b → EqualWhen (mask a = mask b) (innerArrays a) (innerArrays b)
  | .same v => .of_eq rfl _
  -- masking does not look into the items here, so it does not help that they agree
  | .array _ => ⟨rfl, by simp [mask, innerArrays]⟩
  | .object members => members.mask_iff.congr (by simp [mask])

theorem Agree.maskValue_iff {a b : Json} :
    Agree a b → EqualWhen (maskValue a = maskValue b) (valueArrays a) (valueArrays b)
  | .same v => .of_eq rfl _
  | .array items => items.mask_iff.congr (by simp [maskValue])
  | .object members => members.mask_iff.congr (by simp [maskValue])

theorem AgreeItems.mask_iff {xs ys : List Json} :
    AgreeItems xs ys → EqualWhen (maskItems xs = maskItems ys) (itemArrays xs) (itemArrays ys)
  | .nil => .of_eq rfl _
  | .cons first rest => (first.mask_iff.append rest.mask_iff).congr (by simp [maskItems])

theorem AgreeMembers.mask_iff {ms ns : List (Text × Json)} :
    AgreeMembers ms ns →
      EqualWhen (maskMembers ms = maskMembers ns) (memberArrays ms) (memberArrays ns)
  | .nil => .of_eq rfl _
  | .secret sensitive v w rest => by
    simpa [memberArrays, maskMembers, sensitive] using rest.mask_iff
  | .plain key value rest => by
    -- values may agree under a sensitive key, too
    cases sensitive : isSensitive key with
    | true => simpa [memberArrays, maskMembers, sensitive] using rest.mask_iff
    | false =>
      have both := value.maskValue_iff.append rest.mask_iff
      simpa [memberArrays, maskMembers, sensitive] using both

end

/-- Values that agree without being the same are not empty. -/
theorem Agree.full_or_eq {a b : Json} (h : Agree a b) :
    (a.isTruthy = true ∧ b.isTruthy = true) ∨ a = b := by
  cases h with
  | same => exact .inr rfl
  | array items =>
    cases items with
    | nil => exact .inr rfl
    | cons => exact .inl ⟨rfl, rfl⟩
  | object members =>
    cases members with
    | nil => exact .inr rfl
    | secret | plain => exact .inl ⟨rfl, rfl⟩

end Detour.Log

namespace Detour.Logger

open Log

/-- The entry that came last is kept. -/
theorem getLast?_keep (es : List Entry) (e : Entry) : (keep es e).getLast? = some e := by
  have positive : 0 < limit := by decide
  unfold keep
  dsimp only
  split
  · next many =>
    cases es with
    | nil => exact absurd many (Nat.not_lt.2 positive)
    | cons first r => simp
  · simp

/-- A logger does the same with two messages if they are below its level, or if it makes the same
entry for both. -/
theorem log_eq_iff (logger : Logger) (timestamp : Text) (m : Message) (a b : Json) :
    logger.log timestamp { m with data := a } = logger.log timestamp { m with data := b } ↔
      (logger.isEnabled m.level → mask (orEmpty a) = mask (orEmpty b)) := by
  cases enabled : logger.isEnabled m.level with
  | false => simp [log, enabled]
  | true =>
    constructor
    · intro h _
      -- the entries alone tell the data apart, whatever is written of them
      have kept := congrArg (fun r => r.2.entries.getLast?) h
      simpa [log, enabled, record_snd, getLast?_keep, entryOf] using kept
    · intro h
      simp [log, enabled, entryOf, h rfl]

theorem mask_orEmpty_iff {a b : Json} (h : Agree a b) :
    mask (orEmpty a) = mask (orEmpty b) ↔ mask a = mask b := by
  rcases h.full_or_eq with ⟨ha, hb⟩ | rfl
  · simp [orEmpty, ha, hb]
  · simp

/-- Two messages whose data agree cannot be told apart from a log, in any of its formats, if and
only if the arrays in arrays are the same in both. -/
theorem secrets_hidden_iff {a b : Json} (h : Agree a b) :
    (mask a = mask b ↔ innerArrays a = innerArrays b) ∧
      ∀ (logger : Logger) (timestamp : Text) (m : Message),
        logger.log timestamp { m with data := a } = logger.log timestamp { m with data := b } ↔
          (logger.isEnabled m.level → innerArrays a = innerArrays b) := by
  refine ⟨h.mask_iff.iff, fun logger timestamp m => ?_⟩
  rw [log_eq_iff, mask_orEmpty_iff h, h.mask_iff.iff]

/-- Data with a secret in an object, in an array, and in an array that stands in an array. -/
def secretData (first second third : Text) : Json :=
  .object [("hook", .object [("Api_Key", .string first)]),
    ("list", .array [.object [("token", .string second)],
      .array [.object [("token", .string third)]]])]

theorem isSensitive_apiKey : isSensitive "Api_Key" = true := by decide +kernel

theorem isSensitive_token : isSensitive "token" = true := by decide +kernel

theorem agree_secretData (a b c d e f : Text) : Agree (secretData a b c) (secretData d e f) := by
  have hidden (s t : Text) :
      Agree (.object [("token", .string s)]) (.object [("token", .string t)]) :=
    .object (.secret isSensitive_token _ _ .nil)
  exact .object (.plain _ (.object (.secret isSensitive_apiKey _ _ .nil)) (.plain _ (.array
    (.cons (hidden b e) (.cons (.array (.cons (hidden c f) .nil)) .nil))) .nil))

theorem innerArrays_secretData (a b c : Text) :
    innerArrays (secretData a b c) = [.array [.object [("token", .string c)]]] := by
  have hook : isSensitive "hook" = false := by decide +kernel
  have list : isSensitive "list" = false := by decide +kernel
  simp [secretData, innerArrays, memberArrays, valueArrays, itemArrays, hook, list,
    isSensitive_apiKey, isSensitive_token]

theorem secrets_hidden_outsideInner :
    Agree (secretData "a" "b" "c") (secretData "x" "y" "c") ∧
      mask (secretData "a" "b" "c") = mask (secretData "x" "y" "c") := by
  have h := agree_secretData "a" "b" "c" "x" "y" "c"
  refine ⟨h, (secrets_hidden_iff h).1.2 ?_⟩
  rw [innerArrays_secretData, innerArrays_secretData]

theorem secret_logged_inInner :
    Agree (secretData "a" "b" "c") (secretData "a" "b" "z") ∧
      mask (secretData "a" "b" "c") ≠ mask (secretData "a" "b" "z") := by
  have h := agree_secretData "a" "b" "c" "a" "b" "z"
  refine ⟨h, fun same => ?_⟩
  have inner := h.mask_iff.iff.1 same
  rw [innerArrays_secretData, innerArrays_secretData] at inner
  have secret : Text.ofString "c" = Text.ofString "z" := by simpa using inner
  exact absurd secret (by decide)

end Detour.Logger
