import Detour.Proofs.Json.Limits

/-!
# Values on one line

A value that is written on one line is read back from it, whatever follows, and nothing in it breaks
the line: control characters are escaped in strings and names, and nothing else is written with any.

## Main statements

* `Json.Restorable.readsAs_render` — a value is read from its line.
* `Json.mem_render` — the characters of a line.
* `Json.restorable_number_iff` — the numbers that are read back.
-/
namespace Detour.Json

open Text Utf8

/-! ## Reading a line -/

section Containers

variable {depth : Nat}

theorem readsItems_render {items : List Json} (some : items ≠ [])
    (each : ∀ v ∈ items, ReadsAs depth (v.render spaced) v) :
    ReadsItems depth (renderItems spaced items) items := by
  induction items with
  | nil => exact absurd rfl some
  | cons v r ih =>
    have first := each v List.mem_cons_self
    cases r with
    | nil => exact first.single
    | cons w r =>
      have more := ih (List.cons_ne_nil w r) fun u hu => each u (List.mem_cons_of_mem _ hu)
      have text : renderItems spaced (v :: w :: r) =
          v.render spaced ++ ((ofString "," ++ [32]) ++ renderItems spaced (w :: r)) :=
        List.append_assoc _ _ _
      exact text ▸ first.cons more isGap_space

theorem readsMembers_render {members : List (Text × Json)} (some : members ≠ [])
    (names : ∀ name ∈ Table.keys members, ∀ c ∈ name, IsScalar c)
    (each : ∀ m ∈ members, ReadsAs depth (m.2.render spaced) m.2) :
    ReadsMembers depth (renderMembers spaced members) members := by
  induction members with
  | nil => exact absurd rfl some
  | cons m r ih =>
    have first := each m List.mem_cons_self
    have scalar := names m.1 List.mem_cons_self
    have member : memberText m.1 (m.2.render spaced) =
        stringText m.1 ++ spaced.name ++ m.2.render spaced := (List.append_assoc _ _ _).symm
    cases r with
    | nil =>
      have text : renderMembers spaced [m] = memberText m.1 (m.2.render spaced) := member.symm
      exact text ▸ first.singleMember scalar
    | cons w r =>
      have more := ih (List.cons_ne_nil w r)
        (fun name hn => names name (List.mem_cons_of_mem _ hn))
        fun u hu => each u (List.mem_cons_of_mem _ hu)
      have text : renderMembers spaced (m :: w :: r) = memberText m.1 (m.2.render spaced) ++
          ((ofString "," ++ [32]) ++ renderMembers spaced (w :: r)) := by
        rw [member]
        exact List.append_assoc _ _ _
      exact text ▸ first.consMember scalar more isGap_space

end Containers

/-- A value is read from what is written for it on one line. -/
theorem Restorable.readsAs_render {depth : Nat} {v : Json} (h : Restorable depth v) :
    ReadsAs depth (v.render spaced) v := by
  induction h with
  | null => exact readsAs_word (by simp [words, render])
  | bool b => cases b <;> exact readsAs_word (by simp [words, render, ofString])
  | int short => exact readsAs_int short
  | float back => exact readsAs_float back
  | string scalar => exact readsAs_string scalar
  | @array depth items each ih =>
    have text : (Json.array items).render spaced =
        ofString "[" ++ [] ++ renderItems spaced items ++ ([] ++ ofString "]") := by
      simp [render]
    rw [text]
    cases items with
    | nil =>
      exact ⟨⟨_, _, rfl, by decide, by decide, by decide⟩, isPlain_of_ascii (by decide),
        fun rest _ => value_bracket⟩
    | cons v r =>
      exact (readsItems_render (List.cons_ne_nil v r) ih).readsAs isGap_nil isGap_nil
  | @object depth members distinct names each ih =>
    have text : (Json.object members).render spaced =
        ofString "\x7b" ++ ([] ++ (renderMembers spaced members ++ ([] ++ ofString "\x7d"))) := by
      simp [render]
    rw [text]
    cases members with
    | nil =>
      exact ⟨⟨_, _, rfl, by decide, by decide, by decide⟩, isPlain_of_ascii (by decide),
        fun rest _ => value_brace⟩
    | cons m r =>
      exact (readsMembers_render (List.cons_ne_nil m r) names ih).readsAs distinct isGap_nil
        isGap_nil

/-- The numbers that are restored are those whose text is read as the number. -/
theorem restorable_number_iff {depth : Nat} {n : Number} :
    Restorable depth (.number n) ↔
      value depth (n.toTextWith spelling) = .ok (.number n, []) := by
  constructor
  · intro h
    have read := h.readsAs_render.read [] nofun
    rwa [List.append_nil] at read
  · intro h
    have ends : Ends [] := nofun
    have text {t : Text} (number : IsNumber t) : value depth t = readNumber (t ++ []) := by
      rw [← value_number number [], List.append_nil]
    cases n with
    | int n =>
      rw [Number.toTextWith, text (isNumber_ofInt n), readNumber_ofInt n ends] at h
      split at h
      · cases h
      · next short => exact .int (Nat.not_lt.1 short)
    | float x =>
      cases x with
      | nan => exact .float rfl
      | infinite negative => cases negative <;> exact .float rfl
      | finite negative m e =>
        rw [Number.toTextWith, text (isNumber_toText negative m e),
          readNumber_toText negative m e ends] at h
        split at h
        · next x back =>
          cases h
          exact .float back
        · cases h

/-! ## The characters of a line -/

theorem dark_number (n : Number) : ∀ c ∈ n.toTextWith spelling, 32 ≤ c := by
  have number {t : Text} (h : IsNumber t) (c : CodePoint) (hc : c ∈ t) : 32 ≤ c := by
    rcases h.mem hc with digit | rfl | rfl | rfl | rfl
    · exact le_trans (by decide) (isAsciiDigit_iff.1 digit).1
    all_goals decide
  cases n with
  | int n => exact number (isNumber_ofInt n)
  | float x =>
    cases x with
    | nan => decide
    | infinite negative => cases negative <;> decide
    | finite negative m e => exact number (isNumber_toText negative m e)

mutual

/-- No control character is written for a value. -/
theorem mem_render : (v : Json) → ∀ c ∈ v.render spaced, 32 ≤ c
  | .null => by decide
  | .bool b => by cases b <;> decide
  | .number n => dark_number n
  | .string t => fun _ hc => (mem_stringText hc).1
  | .array items => by
    simp only [render, List.forall_mem_append]
    exact ⟨⟨by decide, mem_renderItems items⟩, by decide⟩
  | .object members => by
    simp only [render, List.forall_mem_append]
    exact ⟨⟨by decide, mem_renderMembers members⟩, by decide⟩

theorem mem_renderItems : (items : List Json) → ∀ c ∈ renderItems spaced items, 32 ≤ c
  | [] => by simp [renderItems]
  | [v] => mem_render v
  | v :: w :: r => by
    simp only [renderItems, List.forall_mem_append]
    exact ⟨⟨mem_render v, by decide⟩, mem_renderItems (w :: r)⟩

theorem mem_renderMembers : (members : List (Text × Json)) →
    ∀ c ∈ renderMembers spaced members, 32 ≤ c
  | [] => by simp [renderMembers]
  | [(k, v)] => by
    simp only [renderMembers, List.forall_mem_append]
    exact ⟨⟨fun _ hc => (mem_stringText hc).1, by decide⟩, mem_render v⟩
  | (k, v) :: w :: r => by
    simp only [renderMembers, List.forall_mem_append]
    exact ⟨⟨⟨⟨fun _ hc => (mem_stringText hc).1, by decide⟩, mem_render v⟩, by decide⟩,
      mem_renderMembers (w :: r)⟩

end

end Detour.Json
