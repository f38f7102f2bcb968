import Detour.Log.Masking
import Mathlib.Data.List.Chain

/-!
# What masking keeps

A way into a value goes from member to member and from item to item. Masking follows a way past no
sensitive key and not into an array in an array. Under a sensitive key that it comes to stands the
mask; everywhere else a value keeps its outline: an object its keys, an array its length, and a leaf
all of it.

## Main definitions

* `Log.at?` — the value at the end of a way.
* `Log.Followed`, `Log.Hidden` — the ways that masking follows, and those to what it hides.
* `Log.outline` — a value without what is in it.

## Main statements

* `Log.outline_maskValue` — what is not hidden keeps its outline.
* `Log.mask_secret` — what is hidden is replaced by the mask.
* `Log.maskValue_plain`, `Log.maskValue_maskValue` — values that masking leaves as they are.
* `Log.mask_keeps` — all of it for data in an object.
-/
namespace Detour.Log

open Text

/-! ## Ways into a value -/

/-- A step to the member of an object with a name, or to an item of an array. -/
inductive Step
  | member (key : Text)
  | item (index : Nat)
  deriving DecidableEq, Repr

namespace Step

def take? : Step → Json → Option Json
  | .member key, .object members => Table.get? key members
  | .item index, .array items => items[index]?
  | _, _ => none

def isItem : Step → Bool
  | .member _ => false
  | .item _ => true

def isSecret : Step → Bool
  | .member key => isSensitive key
  | .item _ => false

end Step

/-- The value at the end of a way, if it leads anywhere. -/
def at? : List Step → Json → Option Json
  | [], v => some v
  | s :: way, v => (s.take? v).bind (at? way)

/-- Masking goes past no sensitive key, and from no item to an item. -/
structure Followed (way : List Step) : Prop where
  plain : ∀ s ∈ way, s.isSecret = false
  apart : way.IsChain fun s t => ¬ (s.isItem = true ∧ t.isItem = true)

/-- Masking comes to a sensitive key on the way. -/
def Hidden (way : List Step) : Prop :=
  ∃ front s rest, way = front ++ s :: rest ∧ Followed front ∧ s.isSecret = true

inductive Outline
  | object (keys : List Text)
  | array (length : Nat)
  | leaf (v : Json)

/-- The keys of an object, the length of an array, or the whole of any other value. -/
def outline : Json → Outline
  | .object members => .object (members.map Prod.fst)
  | .array items => .array items.length
  | v => .leaf v

/-! ## One step -/

/-- What masking makes of the value that a step leads to. -/
def Step.masked : Step → Json → Json
  | .member key, v => if isSensitive key then .string maskText else maskValue v
  | .item _, v => mask v

theorem maskMembers_eq (members : List (Text × Json)) :
    maskMembers members = members.map fun (key, v) => (key, (Step.member key).masked v) := by
  induction members with
  | nil => rfl
  | cons m r ih => exact congrArg (List.cons _) ih

theorem maskItems_eq (items : List Json) : maskItems items = items.map mask := by
  induction items with
  | nil => rfl
  | cons x xs ih => exact congrArg (List.cons _) ih

theorem get?_maskMembers (key : Text) (members : List (Text × Json)) :
    Table.get? key (maskMembers members) =
      (Table.get? key members).map (Step.member key).masked := by
  rw [maskMembers_eq]
  induction members with
  | nil => rfl
  | cons m r ih =>
    by_cases same : m.1 = key
    · simp [Table.get?, same]
    · simpa [Table.get?, same] using ih

theorem take?_maskValue (s : Step) (v : Json) :
    s.take? (maskValue v) = (s.take? v).map s.masked := by
  cases v with
  | object members =>
    cases s with
    | member key => exact get?_maskMembers key members
    | item index => rfl
  | array items =>
    cases s with
    | member key => rfl
    | item index =>
      rw [maskValue, maskItems_eq]
      exact List.getElem?_map
  | _ => cases s <;> rfl

theorem outline_maskValue_self (v : Json) : outline (maskValue v) = outline v := by
  cases v with
  | object members => simp [maskValue, outline, maskMembers_eq]
  | array items => simp [maskValue, outline, maskItems_eq]
  | _ => rfl

theorem masked_of_plain {key : Text} (plain : (Step.member key).isSecret = false) (v : Json) :
    (Step.member key).masked v = maskValue v := if_neg (by simpa [Step.isSecret] using plain)

theorem outline_mask_self (v : Json) : outline (mask v) = outline v := by
  cases v with
  | object members => exact outline_maskValue_self (.object members)
  | _ => rfl

/-- Masking does not enter an array in an array. -/
theorem at?_mask_item (index : Nat) (way : List Step) (v : Json) :
    at? (.item index :: way) (mask v) = at? (.item index :: way) v := by
  cases v <;> rfl

/-- An object in an array is masked like one in an object. -/
theorem at?_mask_member (key : Text) (way : List Step) (v : Json) :
    at? (.member key :: way) (mask v) = at? (.member key :: way) (maskValue v) := by
  cases v <;> rfl

/-! ## Many steps -/

theorem followed_cons {s : Step} {way : List Step} :
    Followed (s :: way) ↔ s.isSecret = false ∧
      (∀ t ∈ way.head?, ¬ (s.isItem = true ∧ t.isItem = true)) ∧ Followed way := by
  constructor
  · rintro ⟨plain, apart⟩
    obtain ⟨next, rest⟩ := List.isChain_cons.1 apart
    exact ⟨plain s List.mem_cons_self, next, fun t ht => plain t (List.mem_cons_of_mem _ ht), rest⟩
  · rintro ⟨plain, next, rest⟩
    exact ⟨List.forall_mem_cons.2 ⟨plain, rest.plain⟩, List.isChain_cons.2 ⟨next, rest.apart⟩⟩

theorem not_hidden_nil : ¬ Hidden [] := by
  rintro ⟨front, s, rest, whole, -⟩
  simp at whole

theorem hidden_cons {s : Step} {way : List Step} :
    Hidden (s :: way) ↔ s.isSecret = true ∨ s.isSecret = false ∧
      (∀ t ∈ way.head?, ¬ (s.isItem = true ∧ t.isItem = true)) ∧ Hidden way := by
  constructor
  · rintro ⟨front, t, rest, whole, followed, secret⟩
    cases front with
    | nil =>
      obtain ⟨rfl, -⟩ := List.cons.inj whole
      exact .inl secret
    | cons u front =>
      obtain ⟨rfl, rfl⟩ := List.cons.inj whole
      obtain ⟨plain, apart, followed⟩ := followed_cons.1 followed
      refine .inr ⟨plain, fun v hv both => ?_, front, t, rest, rfl, followed, secret⟩
      cases front with
      | nil =>
        -- the sensitive key itself is no item
        cases hv
        cases t with
        | member => cases both.2
        | item => cases secret
      | cons w front => exact apart v hv both
  · rintro (secret | ⟨plain, apart, front, t, rest, rfl, followed, secret⟩)
    · exact ⟨[], s, way, rfl, ⟨by simp, .nil⟩, secret⟩
    · refine ⟨s :: front, t, rest, rfl, followed_cons.2 ⟨plain, fun u hu => ?_, followed⟩, secret⟩
      cases front with
      | nil => cases hu
      | cons => exact apart u hu

/-- What is not hidden keeps its outline. -/
theorem outline_maskValue (way : List Step) (v : Json) (shown : ¬ Hidden way) :
    (at? way (maskValue v)).map outline = (at? way v).map outline := by
  induction way generalizing v with
  | nil => exact congrArg some (outline_maskValue_self v)
  | cons s way ih =>
    have plain : s.isSecret = false := by
      rw [Bool.eq_false_iff]
      exact fun secret => shown (hidden_cons.2 (.inl secret))
    rw [at?, at?, take?_maskValue]
    cases s.take? v with
    | none => rfl
    | some x =>
      change (at? way (s.masked x)).map outline = (at? way x).map outline
      cases s with
      | member key =>
        rw [masked_of_plain plain]
        exact ih x fun hidden =>
          shown (hidden_cons.2 (.inr ⟨plain, by simp [Step.isItem], hidden⟩))
      | item index =>
        change (at? way (mask x)).map outline = (at? way x).map outline
        match way with
        | [] => exact congrArg some (outline_mask_self x)
        | .item other :: way => rw [at?_mask_item]
        | .member key :: way =>
          rw [at?_mask_member]
          exact ih x fun hidden =>
            shown (hidden_cons.2 (.inr ⟨plain, by simp [Step.isItem], hidden⟩))

/-- Under a sensitive key that masking comes to stands the mask, whatever stood there. -/
theorem mask_secret {way : List Step} (followed : Followed way) {key : Text}
    (secret : isSensitive key = true) (v : Json) {x : Json}
    (there : at? (way ++ [.member key]) v = some x) :
    at? (way ++ [.member key]) (maskValue v) = some (.string maskText) := by
  induction way generalizing v with
  | nil =>
    rw [List.nil_append, at?] at there ⊢
    obtain ⟨y, hy, -⟩ := Option.bind_eq_some_iff.1 there
    simp [take?_maskValue, hy, Step.masked, secret, at?]
  | cons s way ih =>
    obtain ⟨plain, apart, rest⟩ := followed_cons.1 followed
    rw [List.cons_append, at?] at there ⊢
    obtain ⟨y, hy, below⟩ := Option.bind_eq_some_iff.1 there
    rw [take?_maskValue, hy]
    change at? (way ++ [.member key]) (s.masked y) = _
    cases s with
    | member other =>
      rw [masked_of_plain plain]
      exact ih rest y below
    | item index =>
      have deeper := ih rest y below
      match way with
      | [] => rwa [List.nil_append, Step.masked, at?_mask_member]
      | .item other :: way => exact absurd ⟨rfl, rfl⟩ (apart _ rfl)
      | .member other :: way => rwa [List.cons_append, Step.masked, at?_mask_member]

/-! ## Values that are their own masks -/

mutual

/-- All keys in a value, at any depth. -/
def keys : Json → List Text
  | .object members => memberKeys members
  | .array items => itemKeys items
  | _ => []

def memberKeys : List (Text × Json) → List Text
  | [] => []
  | (key, v) :: r => key :: (keys v ++ memberKeys r)

def itemKeys : List Json → List Text
  | [] => []
  | x :: xs => keys x ++ itemKeys xs

end

theorem mask_of_maskValue_eq {v : Json} (h : maskValue v = v) : mask v = v := by
  cases v with
  | object members => exact h
  | _ => rfl

mutual

/-- Without sensitive keys there is nothing to mask. -/
theorem maskValue_plain : (v : Json) → (∀ key ∈ keys v, isSensitive key = false) → maskValue v = v
  | .object members, plain => congrArg Json.object (maskMembers_plain members plain)
  | .array items, plain => congrArg Json.array (maskItems_plain items plain)
  | .null, _ | .bool _, _ | .number _, _ | .string _, _ => rfl

theorem maskMembers_plain : (members : List (Text × Json)) →
    (∀ key ∈ memberKeys members, isSensitive key = false) → maskMembers members = members
  | [], _ => rfl
  | (key, v) :: r, plain => by
    simp only [memberKeys, List.forall_mem_cons, List.forall_mem_append] at plain
    obtain ⟨here, value, rest⟩ := plain
    simp [maskMembers, here, maskValue_plain v value, maskMembers_plain r rest]

theorem maskItems_plain : (items : List Json) →
    (∀ key ∈ itemKeys items, isSensitive key = false) → maskItems items = items
  | [], _ => rfl
  | x :: xs, plain => by
    simp only [itemKeys, List.forall_mem_append] at plain
    obtain ⟨first, rest⟩ := plain
    have same := mask_of_maskValue_eq (maskValue_plain x first)
    simp [maskItems, same, maskItems_plain xs rest]

end

mutual

theorem maskValue_maskValue : (v : Json) → maskValue (maskValue v) = maskValue v
  | .object members => congrArg Json.object (maskMembers_maskMembers members)
  | .array items => congrArg Json.array (maskItems_maskItems items)
  | .null | .bool _ | .number _ | .string _ => rfl

theorem maskMembers_maskMembers : (members : List (Text × Json)) →
    maskMembers (maskMembers members) = maskMembers members
  | [] => rfl
  | (key, v) :: r => by
    have rest := maskMembers_maskMembers r
    cases secret : isSensitive key with
    | true => simp [maskMembers, secret, rest]
    | false => simp [maskMembers, secret, rest, maskValue_maskValue v]

theorem maskItems_maskItems : (items : List Json) →
    maskItems (maskItems items) = maskItems items
  | [] => rfl
  | x :: xs => by
    have first : mask (mask x) = mask x := by
      cases x with
      | object members => exact maskValue_maskValue (.object members)
      | _ => rfl
    simp [maskItems, first, maskItems_maskItems xs]

end

/-! ## Data -/

theorem eq_of_outline_leaf {v leaf : Json} (h : outline v = .leaf leaf) : v = leaf := by
  cases v with
  | object | array => cases h
  | _ => exact Outline.leaf.inj h

/-- Masking data in an object keeps the outline of all that is not hidden, puts the mask under the
sensitive keys of the objects that it follows, and leaves the leaves that stand under no sensitive
key. Data without sensitive keys stay as they are, and so do masked data. -/
theorem mask_keeps (members : List (Text × Json)) :
    (∀ way, ¬ Hidden way → (at? way (mask (.object members))).map outline =
      (at? way (.object members)).map outline) ∧
    (∀ way key v, Followed way → isSensitive key = true →
      at? (way ++ [.member key]) (.object members) = some v →
        at? (way ++ [.member key]) (mask (.object members)) = some (.string maskText)) ∧
    (∀ way leaf, (∀ s ∈ way, s.isSecret = false) → outline leaf = .leaf leaf →
      at? way (.object members) = some leaf → at? way (mask (.object members)) = some leaf) ∧
    ((∀ key ∈ keys (.object members), isSensitive key = false) →
      mask (.object members) = .object members) ∧
    mask (mask (.object members)) = mask (.object members) := by
  have kept (way : List Step) (shown : ¬ Hidden way) :=
    outline_maskValue way (.object members) shown
  refine ⟨kept, fun way key v followed secret => mask_secret followed secret (.object members),
    fun way leaf plain isLeaf there => ?_, maskValue_plain (.object members),
    maskValue_maskValue (.object members)⟩
  have same := kept way fun ⟨front, s, rest, whole, _, secret⟩ => by
    rw [plain s (by simp [whole])] at secret
    cases secret
  rw [there, Option.map_some, isLeaf] at same
  obtain ⟨v, hv, outlined⟩ := Option.map_eq_some_iff.1 same
  exact hv.trans (congrArg some (eq_of_outline_leaf outlined))

/-- Data with a secret in an object, and with one in an array in an array. -/
def nestedMembers : List (Text × Json) :=
  [("hook", .object [("Api_Key", .array []), ("port", .ofInt 80)]),
    ("rows", .array [.array [.object [("token", .string "a")]]])]

theorem mask_keeps_nested :
    (Followed [.member "hook"] ∧ isSensitive "Api_Key" = true ∧
      at? [.member "hook", .member "Api_Key"] (mask (.object nestedMembers)) =
        some (.string maskText)) ∧
    ((∀ s ∈ [Step.member "hook", .member "port"], s.isSecret = false) ∧
      at? [.member "hook", .member "port"] (mask (.object nestedMembers)) = some (.ofInt 80)) ∧
    (¬ Hidden [.member "rows", .item 0, .item 0] ∧
      (at? [.member "rows", .item 0, .item 0] (mask (.object nestedMembers))).map outline =
        some (.object ["token"])) ∧
    ((∀ key ∈ keys (.object [("rows", .array [])]), isSensitive key = false) ∧
      mask (.object [("rows", .array [])]) = .object [("rows", .array [])]) := by
  have hook : isSensitive "hook" = false := by decide +kernel
  have port : isSensitive "port" = false := by decide +kernel
  have rows : isSensitive "rows" = false := by decide +kernel
  have secret : isSensitive "Api_Key" = true := by decide +kernel
  have followed : Followed [.member "hook"] :=
    followed_cons.2 ⟨hook, by simp, by simp, .nil⟩
  have shown : ¬ Hidden [.member "rows", .item 0, .item 0] := by
    simp [hidden_cons, rows, Step.isSecret, not_hidden_nil]
  have plain : ∀ s ∈ [Step.member "hook", .member "port"], s.isSecret = false := by
    simp [Step.isSecret, hook, port]
  have plainKeys : ∀ key ∈ keys (.object [("rows", .array [])]), isSensitive key = false := by
    simpa [keys, memberKeys, itemKeys] using rows
  obtain ⟨kept, masked, leaves, -⟩ := mask_keeps nestedMembers
  exact ⟨⟨followed, secret, masked _ _ _ followed secret rfl⟩, ⟨plain, leaves _ _ plain rfl rfl⟩,
    ⟨shown, kept _ shown⟩, plainKeys, (mask_keeps [("rows", .array [])]).2.2.2.1 plainKeys⟩

end Detour.Log
