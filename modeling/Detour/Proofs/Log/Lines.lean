import Detour.Proofs.Json.OneLine
import Detour.Proofs.Log.Failures

/-!
# A log of lines

In JSON a log has one line for each entry that has a text. Nothing in an entry breaks its line,
whatever the texts and the data are, and the entry is read back from it if its texts are without
surrogates and its data are legible: masking and the data about a failure keep that.

## Main definitions

* `Logger.Call.Legible` — calls with legible texts and data.

## Main statements

* `Log.legible_toJson` — an entry is legible.
* `Logger.run_lines` — the lines of a log.
-/
namespace Detour.Log

open Text Utf8 Json

/-! ## Entries -/

variable {depth : Nat}

theorem legible_mask {v : Json} (h : Legible depth v) (masked : Legible depth (maskValue v)) :
    Legible depth (mask v) := by
  cases v with
  | object members => exact masked
  | _ => exact h

theorem legible_maskValue {v : Json} (h : Legible depth v) : Legible depth (maskValue v) := by
  induction h with
  | null | bool | int | float | string => constructor <;> assumption
  | array each ih =>
    rw [maskValue, maskItems_eq]
    refine .array fun w hw => ?_
    obtain ⟨v, hv, rfl⟩ := List.mem_map.1 hw
    exact legible_mask (each v hv) (ih v hv)
  | @object depth members distinct names each ih =>
    have keys : Table.keys (maskMembers members) = Table.keys members := by
      simp [maskMembers_eq, Table.keys]
    refine .object (keys ▸ distinct) (keys ▸ names) fun m hm => ?_
    rw [maskMembers_eq] at hm
    obtain ⟨⟨key, v⟩, hv, rfl⟩ := List.mem_map.1 hm
    show Legible depth (if isSensitive key then .string maskText else maskValue v)
    split
    · exact .string fun c hc => isScalar_of_ascii
        ((by decide : ∀ c ∈ maskText, c < 0x80) c hc)
    · exact ih _ hv

/-- An entry is legible if its texts and data are. -/
theorem legible_toJson {e : Entry} (timestamp : ∀ c ∈ e.timestamp, IsScalar c)
    (component : ∀ c ∈ e.component, IsScalar c) (message : ∀ c ∈ e.message, IsScalar c)
    (data : Legible depth e.data) : Legible (depth + 1) e.toJson := by
  have level : ∀ c ∈ e.level.name, IsScalar c := by
    have ascii : ∀ c ∈ e.level.name, c < 0x80 := by cases e.level <;> decide
    exact fun c hc => isScalar_of_ascii (ascii c hc)
  refine readable_section ["timestamp", "level", "component", "message", "data"] rfl
    (by decide) (by decide) ?_
  simp only [List.forall_mem_cons]
  exact ⟨.string timestamp, .string level, .string component, .string message, data,
    List.forall_mem_nil _⟩

/-- No character of an entry is a control character. -/
theorem mem_jsonText {e : Entry} : ∀ c ∈ e.jsonText, 32 ≤ c := mem_render e.toJson

theorem output_json (e : Entry) : Format.json.output e = e.jsonText ++ [10] := List.append_nil _

theorem value_jsonText {e : Entry} (h : Restorable depth e.toJson) :
    value depth e.jsonText = .ok (e.toJson, []) := by
  have read := h.readsAs_render.read [] nofun
  rwa [List.append_nil] at read

theorem document_jsonText {e : Entry} (h : Restorable nestingLimit e.toJson) :
    document e.jsonText = .ok e.toJson := document_of_readsAs h.readsAs_render

end Detour.Log

namespace Detour.Logger

open Text Utf8 Json Log

variable {depth : Nat}

/-! ## Data -/

theorem legible_orEmpty {v : Json} (h : Legible (depth + 1) v) :
    Legible (depth + 1) (orEmpty v) := by
  unfold orEmpty
  split
  · exact h
  · exact .object (by simp [Table.keys]) nofun nofun

/-- The texts of a failure are without surrogates. -/
structure LegibleFailure (f : Failure) : Prop where
  text : ∀ c ∈ f.text, IsScalar c
  kind : ∀ c ∈ f.kind, IsScalar c
  code : ∀ code ∈ f.code?, ∀ c ∈ code, IsScalar c

section FailureMembers

variable {failure : Option Failure} {path : Option Json}

theorem legible_failureMembers (legible : ∀ f ∈ failure, LegibleFailure f)
    (file : ∀ p ∈ path, Legible depth p) :
    ∀ m ∈ failureMembers failure path, Legible depth m.2 := by
  intro m hm
  obtain ⟨f, hf, rfl | rfl | ⟨code, hc, rfl⟩⟩ | ⟨p, hp, rfl⟩ := mem_failureMembers.1 hm
  · exact .string (legible f hf).text
  · exact .string (legible f hf).kind
  · exact .string ((legible f hf).code code hc)
  · exact file p hp

/-- Data about a failure are added to an object only. -/
theorem legible_failureData (legible : ∀ f ∈ failure, LegibleFailure f)
    (file : ∀ p ∈ path, Legible depth p) {data whole : Json}
    (h : Legible (depth + 1) data) (ok : failureData data failure path = .ok whole) :
    Legible (depth + 1) whole := by
  have start := legible_orEmpty h
  unfold failureData at ok
  generalize orEmpty data = v at start ok
  cases v with
  | object members =>
    cases ok
    have ascii : ∀ name ∈ failureNames, ∀ c ∈ name, c < 0x80 := by decide
    exact start.merge
      (fun m hm c hc => isScalar_of_ascii (ascii m.1 (name_mem_failureNames hm) c hc))
      (legible_failureMembers legible file)
  | array items =>
    dsimp only at ok
    split at ok
    · cases ok
      exact start
    · cases ok
  | null | bool | number | string => cases ok

end FailureMembers

/-! ## Calls -/

/-- The texts of a message are without surrogates, and its data are legible with so many containers
open inside the object that they are. -/
structure LegibleMessage (depth : Nat) (timestamp : Text) (m : Message) : Prop where
  timestamp : ∀ c ∈ timestamp, IsScalar c
  component : ∀ c ∈ m.component, IsScalar c
  message : ∀ c ∈ m.message, IsScalar c
  data : Legible (depth + 1) m.data

theorem LegibleMessage.legible {timestamp : Text} {m : Message}
    (h : LegibleMessage depth timestamp m) : Legible (depth + 2) (entryOf timestamp m).toJson :=
  have data := legible_orEmpty h.data
  legible_toJson h.timestamp h.component h.message (legible_mask data (legible_maskValue data))

/-- A call with legible texts and data. -/
def Call.Legible (depth : Nat) : Call → Prop
  | .log timestamp m => LegibleMessage depth timestamp m
  | .logError timestamp component message failure path data =>
    LegibleMessage depth timestamp { level := .error, component, message, data } ∧
      (∀ f ∈ failure, LegibleFailure f) ∧ ∀ p ∈ path, Json.Legible depth p
  | .clear => True

theorem Call.Legible.request {c : Call} (h : c.Legible depth) {timestamp : Text} {m : Message}
    (asked : c.request? = some (timestamp, m)) : LegibleMessage depth timestamp m := by
  cases c with
  | log t m' =>
    cases asked
    exact h
  | logError t component message failure path data =>
    obtain ⟨given, cause, file⟩ := h
    rw [Call.request?] at asked
    split at asked
    · next whole ok =>
      cases asked
      exact { given with data := legible_failureData cause file given.data ok }
    · cases asked
  | clear => cases asked

/-- What a legible call asks for is legible. -/
theorem Call.Legible.legible {c : Call} (h : c.Legible depth) {level : Level} {e : Entry}
    (asked : c.entryAt? level = some e) : Json.Legible (depth + 2) e.toJson := by
  unfold Call.entryAt? at asked
  split at asked
  · obtain ⟨request, hr, rfl⟩ := Option.map_eq_some_iff.1 asked
    exact (h.request hr).legible
  · cases asked

theorem hasText_toJson (e : Entry) : e.toJson.hasText = e.data.hasText := by
  simp [Entry.toJson, hasText, membersHaveText, scalarPiece]

/-- A message with line breaks and quotes in a text, in a key and in a value. -/
def forgedMessage : Message :=
  ⟨.info, "Main", "done\n[10:00] ERROR",
    .object [("rows\n", .array [.object [("a\"b", .string "\r\n")]])]⟩

end Detour.Logger
