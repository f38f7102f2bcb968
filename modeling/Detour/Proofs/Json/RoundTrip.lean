import Detour.Proofs.Json.Numbers
import Detour.Proofs.Json.Strings

/-!
# Documents are read as they were written

A value that is written over several lines is read back from its pieces. Not every value can be: a
whole number may have too many digits, a decimal may stand for another number, a name may come
twice, a character may have no octets, and containers may lie too deep.

## Main definitions

* `Json.Readable`, `Json.Restorable`, `Json.Legible` — the values that are read back, for certain or
  wherever they have a text.
* `Json.Written` — the text of pieces.
* `Json.ReadsAs` — a text that is read as a value, whatever follows.

## Main statements

* `Json.Restorable.readsAs` — a value is read from what is written for it.
* `Json.document_of_readsAs` — and so is a document that consists of it.
-/
namespace Detour.Json

open Text Utf8

/-- The values that can be read back with `depth` levels of containers open inside them, if the
whole numbers that `whole` admits can. -/
inductive Readable (whole : Int → Prop) : Nat → Json → Prop
  | null {depth : Nat} : Readable whole depth .null
  | bool {depth : Nat} (b : Bool) : Readable whole depth (.bool b)
  | int {depth : Nat} {n : Int} (admitted : whole n) : Readable whole depth (.number (.int n))
  | float {depth : Nat} {x : Binary64} (back : Binary64.ofText? (x.toText spelling) = some x) :
      Readable whole depth (.number (.float x))
  | string {depth : Nat} {t : Text} (scalar : ∀ c ∈ t, IsScalar c) :
      Readable whole depth (.string t)
  | array {depth : Nat} {items : List Json} (each : ∀ v ∈ items, Readable whole depth v) :
      Readable whole (depth + 1) (.array items)
  | object {depth : Nat} {members : List (Text × Json)} (distinct : (Table.keys members).Nodup)
      (names : ∀ name ∈ Table.keys members, ∀ c ∈ name, IsScalar c)
      (each : ∀ m ∈ members, Readable whole depth m.2) :
      Readable whole (depth + 1) (.object members)

/-- A whole number that is written. -/
def IsShort (n : Int) : Prop := (ofNat n.natAbs).length ≤ numeralLimit

/-- The values that can be read back. -/
abbrev Restorable : Nat → Json → Prop := Readable IsShort

/-- The values that can be read back wherever they have a text. -/
abbrev Legible : Nat → Json → Prop := Readable fun _ => True

theorem hasText_of_mem_items {items : List Json} (h : itemsHaveText items = true) :
    ∀ v ∈ items, v.hasText = true := by
  induction items with
  | nil => simp
  | cons v r ih =>
    rw [itemsHaveText, Bool.and_eq_true] at h
    exact List.forall_mem_cons.2 ⟨h.1, ih h.2⟩

theorem hasText_of_mem_members {members : List (Text × Json)}
    (h : membersHaveText members = true) : ∀ m ∈ members, m.2.hasText = true := by
  induction members with
  | nil => simp
  | cons m r ih =>
    rw [membersHaveText, Bool.and_eq_true] at h
    exact List.forall_mem_cons.2 ⟨h.1, ih h.2⟩

theorem Legible.restorable {depth : Nat} {v : Json} (h : Legible depth v)
    (text : v.hasText = true) : Restorable depth v := by
  induction h with
  | null => exact .null
  | bool b => exact .bool b
  | @int depth n =>
    refine .int (Nat.not_lt.1 fun long => ?_)
    simp [hasText, scalarPiece, long] at text
  | float back => exact .float back
  | string scalar => exact .string scalar
  | array each ih =>
    rw [hasText] at text
    exact .array fun v hv => ih v hv (hasText_of_mem_items text v hv)
  | object distinct names each ih =>
    rw [hasText] at text
    exact .object distinct names fun m hm => ih m hm (hasText_of_mem_members text m hm)

section Members

variable {whole : Int → Prop} {depth : Nat}

/-- An object whose names are of ASCII. -/
theorem readable_section (names : List Text) {members : List (Text × Json)}
    (keys : Table.keys members = names) (distinct : names.Nodup)
    (ascii : ∀ name ∈ names, ∀ c ∈ name, c < 0x80)
    (each : ∀ m ∈ members, Readable whole depth m.2) :
    Readable whole (depth + 1) (.object members) :=
  .object (keys ▸ distinct) (fun name hn c hc => isScalar_of_ascii (ascii name (keys ▸ hn) c hc))
    each

theorem readable_object {members : List (Text × Json)} :
    Readable whole (depth + 1) (.object members) ↔ (Table.keys members).Nodup ∧
      (∀ name ∈ Table.keys members, ∀ c ∈ name, IsScalar c) ∧
      ∀ m ∈ members, Readable whole depth m.2 := by
  constructor
  · rintro (_ | _ | _ | _ | _ | _ | ⟨distinct, names, each⟩)
    exact ⟨distinct, names, each⟩
  · exact fun ⟨distinct, names, each⟩ => .object distinct names each

/-- More containers may be open. -/
theorem Readable.mono {v : Json} (h : Readable whole depth v) {more : Nat} (le : depth ≤ more) :
    Readable whole more v := by
  induction h generalizing more with
  | null => exact .null
  | bool b => exact .bool b
  | int admitted => exact .int admitted
  | float back => exact .float back
  | string scalar => exact .string scalar
  | array each ih =>
    obtain ⟨more, rfl⟩ := Nat.exists_eq_add_one.2 (Nat.zero_lt_of_lt le)
    exact .array fun v hv => ih v hv (Nat.le_of_succ_le_succ le)
  | object distinct names each ih =>
    obtain ⟨more, rfl⟩ := Nat.exists_eq_add_one.2 (Nat.zero_lt_of_lt le)
    exact .object distinct names fun m hm => ih m hm (Nat.le_of_succ_le_succ le)

/-- Another member, in place of one with its name if there is any. -/
theorem Readable.put {members : List (Text × Json)}
    (h : Readable whole (depth + 1) (.object members)) {name : Text} {v : Json}
    (scalar : ∀ c ∈ name, IsScalar c) (hv : Readable whole depth v) :
    Readable whole (depth + 1) (.object (Table.put name v members)) := by
  obtain ⟨distinct, names, each⟩ := readable_object.1 h
  refine .object (Table.nodup_keys_put distinct) (fun other ho => ?_) fun m hm => ?_
  · rcases Table.mem_keys_put.1 ho with rfl | ho
    · exact scalar
    · exact names other ho
  · rcases Table.mem_put hm with rfl | hm
    · exact hv
    · exact each m hm

theorem Readable.merge {members added : List (Text × Json)}
    (h : Readable whole (depth + 1) (.object members))
    (names : ∀ m ∈ added, ∀ c ∈ m.1, IsScalar c) (each : ∀ m ∈ added, Readable whole depth m.2) :
    Readable whole (depth + 1) (.object (Table.merge members added)) := by
  induction added generalizing members with
  | nil => exact h
  | cons m r ih =>
    obtain ⟨scalar, names⟩ := List.forall_mem_cons.1 names
    obtain ⟨first, each⟩ := List.forall_mem_cons.1 each
    exact ih (h.put scalar first) names each

end Members

/-! ## Pieces -/

/-- All the pieces are there, and make up a text. -/
def Written (pieces : List (Option Text)) (t : Text) : Prop :=
  ∃ parts : List Text, pieces = parts.map some ∧ parts.flatten = t

theorem written_single (t : Text) : Written [some t] t := ⟨[t], rfl, by simp⟩

theorem Written.append {ps qs : List (Option Text)} {t u : Text} (h : Written ps t)
    (g : Written qs u) : Written (ps ++ qs) (t ++ u) := by
  obtain ⟨ts, rfl, rfl⟩ := h
  obtain ⟨us, rfl, rfl⟩ := g
  exact ⟨ts ++ us, by simp, by simp⟩

theorem Written.cons {ps : List (Option Text)} {u : Text} (t : Text) (h : Written ps u) :
    Written (some t :: ps) (t ++ u) := (written_single t).append h

/-- What stands before an item is a piece of its own or a part of its first one. -/
theorem written_item {level : Nat} {v : Json} {t : Text} (before : Text)
    (h : Written (pieces level v) t) : Written (itemPieces level before [v]) (before ++ t) := by
  have scalar (single : pieces level v = [scalarPiece v]) :
      Written [(scalarPiece v).map (before ++ ·)] (before ++ t) := by
    obtain ⟨parts, hp, rfl⟩ := h
    rw [single] at hp
    obtain ⟨p, rfl⟩ : ∃ p, parts = [p] := List.length_eq_one_iff.1 (by
      simpa using (congrArg List.length hp).symm)
    have hs : scalarPiece v = some p := (List.cons.inj hp).1
    exact ⟨[before ++ p], by rw [hs]; rfl, by simp⟩
  cases v with
  | array items => simpa [itemPieces] using h.cons before
  | object members => simpa [itemPieces] using h.cons before
  | null | bool b | number n | string s => exact scalar rfl

theorem itemPieces_cons (level : Nat) (before : Text) (v : Json) (items : List Json) :
    itemPieces level before (v :: items) =
      itemPieces level before [v] ++ itemPieces level ("," ++ newLine level) items := by
  simp only [itemPieces, List.append_nil]

/-! ## White space -/

/-- The white space that is written: spaces and line feeds. -/
def IsGap (gap : Text) : Prop := ∀ c ∈ gap, c = 32 ∨ c = 10

theorem isGap_nil : IsGap [] := by simp [IsGap]

theorem isGap_space : IsGap [32] := by simp [IsGap]

theorem isGap_newLine (level : Nat) : IsGap (newLine level) := by
  intro c hc
  rcases List.mem_cons.1 hc with rfl | hc
  · exact .inr rfl
  · exact .inl (List.eq_of_mem_replicate hc)

theorem IsGap.skipSpace {gap : Text} (h : IsGap gap) (r : Text) :
    skipSpace (gap ++ r) = skipSpace r := by
  refine List.dropWhile_append_of_pos fun c hc => ?_
  rcases h c hc with rfl | rfl <;> decide

theorem ends_of_other {c : Nat} (other : isAsciiDigit c = false ∧ c ≠ 46 ∧ c ≠ 101 ∧ c ≠ 69)
    (r : Text) : Ends (c :: r) := by
  intro d hd
  cases hd
  exact other

theorem ends_comma (r : Text) : Ends (44 :: r) := ends_of_other (by decide) r

/-- White space does not prolong a number. -/
theorem IsGap.ends {gap rest : Text} (h : IsGap gap) (ends : Ends rest) : Ends (gap ++ rest) := by
  cases gap with
  | nil => exact ends
  | cons c r =>
    rcases h c List.mem_cons_self with rfl | rfl <;> exact ends_of_other (by decide) (r ++ rest)

theorem skipSpace_cons {c : Nat} (dark : 32 < c) (r : Text) : skipSpace (c :: r) = c :: r := by
  have visible : (c == 32 || c == 9 || c == 10 || c == 13) = false := by
    simp only [Bool.or_eq_false_iff, beq_eq_false_iff_ne]
    omega
  exact List.dropWhile_cons_of_neg (ne_true_of_eq_false visible)

/-- A text that starts like a value. -/
def Starts (t : Text) : Prop := ∃ (c : Nat) (r : Text), t = c :: r ∧ 33 ≤ c ∧ c < 127 ∧ c ≠ 93

theorem Starts.skipSpace {t : Text} (h : Starts t) (rest : Text) :
    skipSpace (t ++ rest) = t ++ rest := by
  obtain ⟨c, r, rfl, dark, -⟩ := h
  exact skipSpace_cons dark (r ++ rest)

/-! ## Texts of values -/

/-- The characters can be written strictly, and no line end is changed. -/
def IsPlain (t : Text) : Prop := ∀ c ∈ t, IsScalar c ∧ c ≠ 13

theorem IsPlain.append {t u : Text} (h : IsPlain t) (g : IsPlain u) : IsPlain (t ++ u) :=
  fun c hc => (List.mem_append.1 hc).elim (h c) (g c)

theorem isPlain_of_ascii {t : Text} (h : ∀ c : Nat, c ∈ t → c < 0x80 ∧ c ≠ 13) : IsPlain t :=
  fun c hc => ⟨isScalar_of_ascii (h c hc).1, (h c hc).2⟩

theorem IsGap.isPlain {gap : Text} (h : IsGap gap) : IsPlain gap := by
  refine isPlain_of_ascii fun c hc => ?_
  rcases h c hc with rfl | rfl <;> decide

theorem IsGap.isPlain_separator {gap : Text} (h : IsGap gap) : IsPlain ("," ++ gap) :=
  (isPlain_of_ascii (by decide)).append h.isPlain

theorem isPlain_stringText {t : Text} (scalar : ∀ c ∈ t, IsScalar c) : IsPlain (stringText t) := by
  intro c hc
  obtain ⟨low, ht | ascii⟩ := mem_stringText hc
  · exact ⟨scalar c ht, by rintro rfl; exact absurd low (by decide)⟩
  · exact ⟨isScalar_of_ascii ascii, by rintro rfl; exact absurd low (by decide)⟩

theorem separated_append (t u rest gap : Text) :
    t ++ (("," ++ gap) ++ u) ++ rest = t ++ 44 :: (gap ++ (u ++ rest)) := by
  simp [ofString]

/-- A round is left for each text after a separator. -/
theorem length_lt_of_separated {t u gap : Text} {n : Nat}
    (enough : (t ++ (("," ++ gap) ++ u)).length < n + 1) : u.length < n := by
  have comma : (ofString ",").length = 1 := rfl
  simp only [List.length_append] at enough
  omega

/-- A text from which a value is read, whatever follows. -/
structure ReadsAs (depth : Nat) (t : Text) (v : Json) : Prop where
  starts : Starts t
  plain : IsPlain t
  read : ∀ rest, Ends rest → value depth (t ++ rest) = .ok (v, rest)

/-! ### Words and strings -/

section Dispatch

variable {depth : Nat} {r : Text}

theorem value_quote :
    value depth (34 :: r) = (stringBody r).map fun (s, rest) => (.string s, rest) :=
  (value.eq_def depth (34 :: r)).trans rfl

theorem value_bracket :
    value (depth + 1) (91 :: r) =
      match skipSpace r with
      | 93 :: r => .ok (.array [], r)
      | r => arrayRounds (value depth) [] (r.length + 1) r :=
  (value.eq_def (depth + 1) (91 :: r)).trans rfl

theorem value_brace :
    value (depth + 1) (123 :: r) =
      match skipSpace r with
      | 125 :: r => .ok (.object [], r)
      | r => objectRounds (value depth) [] (r.length + 1) r :=
  (value.eq_def (depth + 1) (123 :: r)).trans rfl

theorem value_scalar {c : Nat} (quote : c ≠ 34) (brace : c ≠ 123) (bracket : c ≠ 91) :
    value depth (c :: r) =
      match word? (c :: r) with
      | some result => .ok result
      | none => readNumber (c :: r) := by
  unfold value
  split
  · next h => exact absurd (List.cons.inj h).1 quote
  · next h => exact absurd (List.cons.inj h).1 brace
  · next h => exact absurd (List.cons.inj h).1 bracket
  · rfl

end Dispatch

theorem readsAs_word {depth : Nat} {w : Text} {v : Json} (h : (w, v) ∈ words) :
    ReadsAs depth w v := by
  simp only [words, List.mem_cons, List.not_mem_nil, or_false, Prod.mk.injEq] at h
  rcases h with ⟨rfl, rfl⟩ | ⟨rfl, rfl⟩ | ⟨rfl, rfl⟩ | ⟨rfl, rfl⟩ | ⟨rfl, rfl⟩ | ⟨rfl, rfl⟩ <;>
    exact ⟨⟨_, _, rfl, by decide, by decide, by decide⟩, isPlain_of_ascii (by decide),
      fun rest _ => value_scalar (by decide) (by decide) (by decide)⟩

theorem readsAs_string {depth : Nat} {t : Text} (scalar : ∀ c ∈ t, IsScalar c) :
    ReadsAs depth (stringText t) (.string t) where
  starts := ⟨_, _, rfl, by decide, by decide, by decide⟩
  plain := isPlain_stringText scalar
  read rest _ := by
    have text : stringText t ++ rest = 34 :: (t.flatMap escapeChar ++ 34 :: rest) := by
      simp [stringText]
    rw [text, value_quote, stringBody_escaped]
    rfl

/-! ### Numbers -/

/-- No word is a number. -/
theorem word?_number {sign digits : Text} (hs : IsSign sign) (hd : IsDigits digits) (r : Text) :
    word? (sign ++ (digits ++ r)) = none := by
  obtain ⟨c, ds, rfl⟩ := List.exists_cons_of_ne_nil hd.nonempty
  have digit := isAsciiDigit_iff.1 (hd.digits c List.mem_cons_self)
  have other {d : Nat} (h : 57 < d ∨ d < 48) : (d == c) = false := by
    rw [beq_eq_false_iff_ne]
    rintro rfl
    omega
  rcases hs with rfl | rfl
  · simp [word?, words, ofString, List.isPrefixOf, other]
  · simp [word?, words, ofString, List.isPrefixOf, other]

/-- The characters of a number are digits, signs, points and marks of an exponent. -/
theorem IsNumber.bounds {t : Text} (h : IsNumber t) {c : Nat} (hc : c ∈ t) :
    43 ≤ c ∧ c ≤ 57 ∨ c = 101 := by
  rcases h.mem hc with digit | rfl | rfl | rfl | rfl
  · have := isAsciiDigit_iff.1 digit
    omega
  all_goals decide

theorem IsNumber.nonempty {t : Text} (h : IsNumber t) : t ≠ [] := by
  obtain ⟨sign, whole, fraction, exponent, rfl, -, hw, -⟩ := h
  simp [hw.isDigits.nonempty]

theorem IsNumber.starts {t : Text} (h : IsNumber t) : Starts t := by
  obtain ⟨c, r, rfl⟩ := List.exists_cons_of_ne_nil h.nonempty
  have first := h.bounds (c := c) List.mem_cons_self
  exact ⟨c, r, rfl, by omega, by omega, by omega⟩

theorem value_number {depth : Nat} {t : Text} (h : IsNumber t) (rest : Text) :
    value depth (t ++ rest) = readNumber (t ++ rest) := by
  have word : word? (t ++ rest) = none := by
    obtain ⟨sign, whole, fraction, exponent, rfl, hs, hw, -⟩ := h
    simp only [List.append_assoc]
    exact word?_number hs hw.isDigits _
  obtain ⟨c, r, rfl⟩ := List.exists_cons_of_ne_nil h.nonempty
  have first := h.bounds (c := c) List.mem_cons_self
  rw [List.cons_append, value_scalar (by omega) (by omega) (by omega), ← List.cons_append, word]

theorem readsAs_number {depth : Nat} {t : Text} {v : Json} (h : IsNumber t)
    (read : ∀ rest, Ends rest → readNumber (t ++ rest) = .ok (v, rest)) : ReadsAs depth t v where
  starts := h.starts
  plain := isPlain_of_ascii fun c hc => by
    have := h.bounds hc
    omega
  read rest ends := (value_number h rest).trans (read rest ends)

theorem readsAs_int {depth : Nat} {n : Int} (short : (ofNat n.natAbs).length ≤ numeralLimit) :
    ReadsAs depth (Text.ofInt n) (.number (.int n)) :=
  readsAs_number (isNumber_ofInt n) fun _ ends => readNumber_int short ends

theorem readsAs_float {depth : Nat} {x : Binary64}
    (back : Binary64.ofText? (x.toText spelling) = some x) :
    ReadsAs depth (x.toText spelling) (.number (.float x)) := by
  cases x with
  | nan => exact readsAs_word (by simp [words, Binary64.toText, spelling])
  | infinite negative =>
    cases negative <;> exact readsAs_word (by simp [words, Binary64.toText, spelling, ofString])
  | finite negative m e =>
    exact readsAs_number (isNumber_toText negative m e) fun _ ends => readNumber_float back ends

/-! ### Arrays -/

/-- A text from which items are read up to the bracket that closes them. -/
structure ReadsItems (depth : Nat) (t : Text) (items : List Json) : Prop where
  starts : Starts t
  plain : IsPlain t
  read : ∀ {gap}, IsGap gap → ∀ done rest n, t.length < n →
    arrayRounds (value depth) done n (t ++ (gap ++ 93 :: rest)) =
      .ok (.array (done.reverse ++ items), rest)

theorem ReadsAs.single {depth : Nat} {t : Text} {v : Json} (h : ReadsAs depth t v) :
    ReadsItems depth t [v] where
  starts := h.starts
  plain := h.plain
  read {gap} blank done rest n enough := by
    obtain ⟨n, rfl⟩ := Nat.exists_eq_add_one.2 (Nat.zero_lt_of_lt enough)
    rw [arrayRounds, h.read _ (blank.ends (ends_of_other (by decide) rest))]
    dsimp only
    rw [blank.skipSpace]
    simp [skipSpace]

theorem ReadsAs.cons {depth : Nat} {t u : Text} {v : Json} {items : List Json}
    (h : ReadsAs depth t v) (g : ReadsItems depth u items) {gap : Text} (between : IsGap gap) :
    ReadsItems depth (t ++ (("," ++ gap) ++ u)) (v :: items) where
  starts := by
    obtain ⟨c, r, rfl, bounds⟩ := h.starts
    exact ⟨c, _, List.cons_append, bounds⟩
  plain := h.plain.append (between.isPlain_separator.append g.plain)
  read {last} blank done rest n enough := by
    obtain ⟨n, rfl⟩ := Nat.exists_eq_add_one.2 (Nat.zero_lt_of_lt enough)
    have fewer : u.length < n := length_lt_of_separated enough
    rw [separated_append, arrayRounds, h.read _ (ends_comma _)]
    simp only [skipSpace_cons (c := 44) (by decide)]
    rw [between.skipSpace, g.starts.skipSpace, g.read blank (v :: done) rest n fewer]
    simp

/-- The items between brackets, with white space on either side. -/
theorem ReadsItems.readsAs {depth : Nat} {t : Text} {items : List Json}
    (h : ReadsItems depth t items) {before after : Text} (hb : IsGap before) (ha : IsGap after) :
    ReadsAs (depth + 1) ("[" ++ before ++ t ++ (after ++ "]")) (.array items) where
  starts := ⟨_, _, rfl, by decide, by decide, by decide⟩
  plain := ((((isPlain_of_ascii (by decide)).append hb.isPlain).append h.plain)).append
    (ha.isPlain.append (isPlain_of_ascii (by decide)))
  read rest _ := by
    have text : ofString "[" ++ before ++ t ++ (after ++ ofString "]") ++ rest =
        91 :: (before ++ (t ++ (after ++ 93 :: rest))) := by
      simp [ofString]
    have enough : t.length < (t ++ (after ++ 93 :: rest)).length + 1 :=
      Nat.lt_succ_of_le (List.sublist_append_left t _).length_le
    have read := h.read ha [] rest _ enough
    obtain ⟨c, r, rfl, -, -, other⟩ := h.starts
    rw [text, value_bracket, hb.skipSpace, h.starts.skipSpace]
    rw [List.cons_append] at read ⊢
    split
    · next e => exact absurd (List.cons.inj e).1 other
    · exact read

theorem written_items {depth level : Nat} {items : List Json} (some : items ≠ []) (before : Text)
    (each : ∀ v ∈ items, ∃ t, Written (pieces level v) t ∧ ReadsAs depth t v) :
    ∃ t, Written (itemPieces level before items) (before ++ t) ∧ ReadsItems depth t items := by
  induction items generalizing before with
  | nil => exact absurd rfl some
  | cons v r ih =>
    obtain ⟨t, written, reads⟩ := each v List.mem_cons_self
    have first := written_item before written
    cases r with
    | nil =>
      exact ⟨t, first, reads.single⟩
    | cons w r =>
      obtain ⟨u, more, items⟩ := ih (List.cons_ne_nil w r) ("," ++ newLine level)
        fun v hv => each v (List.mem_cons_of_mem _ hv)
      refine ⟨_, ?_, reads.cons items (isGap_newLine level)⟩
      rw [itemPieces_cons, ← List.append_assoc]
      exact first.append more

/-! ### Objects -/

/-- A text from which members are read up to the brace that closes them. -/
structure ReadsMembers (depth : Nat) (t : Text) (members : List (Text × Json)) : Prop where
  starts : Starts t
  brace : t.head? ≠ some 125
  plain : IsPlain t
  read : ∀ {gap}, IsGap gap → ∀ done rest n, t.length < n →
    (Table.keys (done ++ members)).Nodup →
    objectRounds (value depth) done n (t ++ (gap ++ 125 :: rest)) =
      .ok (.object (done ++ members), rest)

/-- The text of a member, the text of its value given. -/
def memberText (name t : Text) : Text := stringText name ++ (": " ++ t)

theorem isPlain_memberText {depth : Nat} {name t : Text} {v : Json}
    (scalar : ∀ c ∈ name, IsScalar c) (h : ReadsAs depth t v) : IsPlain (memberText name t) :=
  (isPlain_stringText scalar).append ((isPlain_of_ascii (by decide)).append h.plain)

theorem memberText_append (name t rest : Text) : memberText name t ++ rest =
    34 :: (name.flatMap escapeChar ++ 34 :: 58 :: 32 :: (t ++ rest)) := by
  simp [memberText, stringText, ofString]

/-- One round reads one member. -/
theorem objectRounds_member {depth n : Nat} {name t rest : Text} {v : Json}
    (h : ReadsAs depth t v) (done : List (Text × Json)) (ends : Ends rest) :
    objectRounds (value depth) done (n + 1) (memberText name t ++ rest) =
      match skipSpace rest with
      | 125 :: r => .ok (.object (Table.put name v done), r)
      | 44 :: r => objectRounds (value depth) (Table.put name v done) n (skipSpace r)
      | r => .error (.found .comma r) := by
  have colon : ∀ r : Text, skipSpace (58 :: r) = 58 :: r := skipSpace_cons (by decide)
  have space (r : Text) : skipSpace (32 :: r) = skipSpace r := rfl
  have round := objectRounds.eq_def (value depth) done (n + 1) (memberText name t ++ rest)
  simp only [memberText_append, stringBody_escaped, colon, space, h.starts.skipSpace,
    h.read rest ends] at round
  rw [memberText_append]
  exact round

/-- Where no name comes twice, each member is new among those before it. -/
theorem put_new {done members : List (Text × Json)} {name : Text} {v : Json}
    (distinct : (Table.keys (done ++ (name, v) :: members)).Nodup) :
    Table.put name v done = done ++ [(name, v)] := by
  refine Table.put_of_not_mem v fun hk => ?_
  simp only [Table.keys, List.map_append, List.map_cons] at distinct
  exact (List.nodup_append.1 distinct).2.2 name hk name List.mem_cons_self rfl

theorem ReadsAs.singleMember {depth : Nat} {name t : Text} {v : Json}
    (scalar : ∀ c ∈ name, IsScalar c) (h : ReadsAs depth t v) :
    ReadsMembers depth (memberText name t) [(name, v)] where
  starts := ⟨_, _, rfl, by decide, by decide, by decide⟩
  brace := by simp [memberText, stringText]
  plain := isPlain_memberText scalar h
  read {gap} blank done rest n enough distinct := by
    obtain ⟨n, rfl⟩ := Nat.exists_eq_add_one.2 (Nat.zero_lt_of_lt enough)
    rw [objectRounds_member h done (blank.ends (ends_of_other (by decide) rest)), blank.skipSpace,
      put_new distinct]
    rfl

theorem ReadsAs.consMember {depth : Nat} {name t u : Text} {v : Json}
    {members : List (Text × Json)} (scalar : ∀ c ∈ name, IsScalar c) (h : ReadsAs depth t v)
    (g : ReadsMembers depth u members) {gap : Text} (between : IsGap gap) :
    ReadsMembers depth (memberText name t ++ (("," ++ gap) ++ u)) ((name, v) :: members) where
  starts := ⟨_, _, rfl, by decide, by decide, by decide⟩
  brace := by simp [memberText, stringText]
  plain := (isPlain_memberText scalar h).append (between.isPlain_separator.append g.plain)
  read {last} blank done rest n enough distinct := by
    obtain ⟨n, rfl⟩ := Nat.exists_eq_add_one.2 (Nat.zero_lt_of_lt enough)
    have fewer : u.length < n := length_lt_of_separated enough
    have all : done ++ (name, v) :: members = done ++ [(name, v)] ++ members := by simp
    rw [separated_append, objectRounds_member h done (ends_comma _), put_new distinct]
    rw [all] at distinct ⊢
    simp only [skipSpace_cons (c := 44) (by decide)]
    rw [between.skipSpace, g.starts.skipSpace, g.read blank _ rest n fewer distinct]

/-- The members between braces, with white space on either side. -/
theorem ReadsMembers.readsAs {depth : Nat} {t : Text} {members : List (Text × Json)}
    (h : ReadsMembers depth t members) (distinct : (Table.keys members).Nodup)
    {before after : Text} (hb : IsGap before) (ha : IsGap after) :
    ReadsAs (depth + 1) ("\x7b" ++ (before ++ (t ++ (after ++ "\x7d")))) (.object members) where
  starts := ⟨_, _, rfl, by decide, by decide, by decide⟩
  plain := (isPlain_of_ascii (by decide)).append (hb.isPlain.append (h.plain.append
    (ha.isPlain.append (isPlain_of_ascii (by decide)))))
  read rest _ := by
    have text : ofString "\x7b" ++ (before ++ (t ++ (after ++ ofString "\x7d"))) ++ rest =
        123 :: (before ++ (t ++ (after ++ 125 :: rest))) := by
      simp [ofString]
    have enough : t.length < (t ++ (after ++ 125 :: rest)).length + 1 :=
      Nat.lt_succ_of_le (List.sublist_append_left t _).length_le
    have read := h.read ha [] rest _ enough distinct
    have other := h.brace
    obtain ⟨c, r, rfl, -⟩ := h.starts
    rw [text, value_brace, hb.skipSpace, h.starts.skipSpace]
    rw [List.cons_append] at read ⊢
    split
    · next e => exact absurd (congrArg some (List.cons.inj e).1) other
    · exact read

theorem written_members {depth level : Nat} {members : List (Text × Json)} (some : members ≠ [])
    (names : ∀ name ∈ Table.keys members, ∀ c ∈ name, IsScalar c)
    (each : ∀ m ∈ members, ∃ t, Written (pieces level m.2) t ∧ ReadsAs depth t m.2) :
    ∃ t, Written (memberPieces level members) t ∧ ReadsMembers depth t members := by
  induction members with
  | nil => exact absurd rfl some
  | cons m r ih =>
    obtain ⟨t, written, reads⟩ := each m List.mem_cons_self
    have scalar := names m.1 List.mem_cons_self
    have first : Written ([Option.some (stringText m.1), Option.some (ofString ": ")] ++
        pieces level m.2) (memberText m.1 t) :=
      (written.cons (ofString ": ")).cons (stringText m.1)
    cases r with
    | nil => exact ⟨_, first, reads.singleMember scalar⟩
    | cons w r =>
      obtain ⟨u, more, members⟩ := ih (List.cons_ne_nil w r)
        (fun name hn => names name (List.mem_cons_of_mem _ hn))
        fun m hm => each m (List.mem_cons_of_mem _ hm)
      refine ⟨_, ?_, reads.consMember scalar members (isGap_newLine level)⟩
      rw [memberPieces, ← List.append_assoc]
      · exact (first.append (written_single _)).append more
      · exact List.cons_ne_nil w r

/-! ## Values -/

/-- A value is read from what is written for it. -/
theorem Restorable.readsAs {depth : Nat} {v : Json} (h : Restorable depth v) (level : Nat) :
    ∃ t, Written (pieces level v) t ∧ ReadsAs depth t v := by
  induction h generalizing level with
  | null => exact ⟨"null", written_single _, readsAs_word (by simp [words])⟩
  | bool b =>
    cases b with
    | false => exact ⟨"false", written_single _, readsAs_word (by simp [words])⟩
    | true => exact ⟨"true", written_single _, readsAs_word (by simp [words])⟩
  | @int depth n short =>
    have whole : scalarPiece (.number (.int n)) = some (Text.ofInt n) :=
      if_neg (Nat.not_lt.2 short)
    refine ⟨Text.ofInt n, ?_, readsAs_int short⟩
    rw [show pieces level (.number (.int n)) = [scalarPiece (.number (.int n))] from rfl, whole]
    exact written_single _
  | float back => exact ⟨_, written_single _, readsAs_float back⟩
  | string scalar => exact ⟨_, written_single _, readsAs_string scalar⟩
  | @array depth items each ih =>
    cases items with
    | nil =>
      refine ⟨"[]", written_single _, ⟨_, _, rfl, by decide, by decide, by decide⟩,
        isPlain_of_ascii (by decide), fun rest _ => ?_⟩
      exact value_bracket
    | cons v r =>
      obtain ⟨t, written, reads⟩ := written_items (List.cons_ne_nil v r)
        ("[" ++ newLine (level + 1)) fun w hw => ih w hw (level + 1)
      refine ⟨_, ?_, reads.readsAs (isGap_newLine (level + 1)) (isGap_newLine level)⟩
      exact written.append ((written_single _).cons _)
  | @object depth members distinct names each ih =>
    cases members with
    | nil =>
      refine ⟨"\x7b\x7d", written_single _, ⟨_, _, rfl, by decide, by decide, by decide⟩,
        isPlain_of_ascii (by decide), fun rest _ => ?_⟩
      exact value_brace
    | cons m r =>
      obtain ⟨t, written, reads⟩ := written_members (List.cons_ne_nil m r) names
        fun w hw => ih w hw (level + 1)
      refine ⟨_, ?_, reads.readsAs distinct (isGap_newLine (level + 1)) (isGap_newLine level)⟩
      exact ((written.append ((written_single _).cons _)).cons _).cons _

/-! ## Pieces of parts -/

theorem mem_memberPieces {level : Nat} {members : List (Text × Json)} {name : Text} {v : Json}
    {p : Option Text} (hm : (name, v) ∈ members) (hp : p ∈ pieces level v) :
    p ∈ memberPieces level members := by
  induction members with
  | nil => cases hm
  | cons m r ih =>
    cases r with
    | nil =>
      obtain rfl := List.mem_singleton.1 hm
      simp [memberPieces, hp]
    | cons w r =>
      rw [memberPieces]
      · rcases List.mem_cons.1 hm with rfl | hm
        · simp [hp]
        · simp [ih hm]
      · exact List.cons_ne_nil w r

/-- The pieces of a value are among those of an object it belongs to. -/
theorem mem_pieces_object {level : Nat} {members : List (Text × Json)} {name : Text} {v : Json}
    {p : Option Text} (hm : (name, v) ∈ members) (hp : p ∈ pieces (level + 1) v) :
    p ∈ pieces level (.object members) := by
  have inside := mem_memberPieces hm hp
  cases members with
  | nil => cases hm
  | cons m r => simp [pieces, inside]

/-! ## Documents -/

/-- A document that consists of a value is read as that value. -/
theorem document_of_readsAs {t : Text} {v : Json} (h : ReadsAs nestingLimit t v) :
    document t = .ok v := by
  have read := h.read [] fun c hc => by cases hc
  have space := h.starts.skipSpace []
  rw [List.append_nil] at read space
  have mark : t.head? ≠ some 0xFEFF := by
    obtain ⟨c, r, rfl, -, high, -⟩ := h.starts
    intro e
    cases e
    exact absurd high (by decide)
  rw [document, if_neg mark, space, read]
  rfl

end Detour.Json
