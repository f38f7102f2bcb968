import Mathlib.Data.List.Lex
import Mathlib.Data.List.Sort
import Detour.Proofs.Classifier.Consistency
import Detour.Proofs.DomainList.Rereading

/-!
# What loading makes of seeds and files

Loading takes what is offered for the learned lists, by the lists themselves, the seeds and the
files, and drops what the administrator has listed; then learned-blocked names go before
learned-direct ones, and always-blocked names before always-direct ones. The result is described by
membership alone, so it does not depend on the order or repetition of names, and doing it again with
what is there gives the same.

A disk that cannot tell whether a list is there stops loading half-way. Everything else that goes
wrong with a file is logged, and the file counts as empty.

## Main definitions

* `Classifier.Merged` — the lists and marks that loading should leave.
* `Classifier.SameContents` — the same names in all lists, and the same marks.

## Main statements

* `Classifier.load_merged`, `Classifier.load_not_merged` — when loading leaves them.
* `Classifier.Merged.congr`, `Classifier.Merged.again` — order and repetition do not matter.
* `Classifier.load_merged_iff` — loading, put together.
-/
namespace Detour.Classifier

open DomainList Files Log Text

variable {c c' c'' : Classifier} {seeds seeds' : Learned → List Text}
  {read read' : Kind → List Text}

/-! ## The merged lists -/

/-- The names for a learned list before any is dropped. -/
def Offered (c : Classifier) (seeds : Learned → List Text) (read : Kind → List Text)
    (l : Learned) (n : Text) : Prop :=
  n ∈ c.learned l ∨ n ∈ seeds l ∨ n ∈ read l.kind

/-- Names in a list of the administrator. -/
def IsListed (read : Kind → List Text) (n : Text) : Prop :=
  n ∈ read .alwaysDirect ∨ n ∈ read .alwaysBlocked

/-- The lists and marks after seeds and files are merged; a learned list is marked if it was before
or if a name that was offered for it is not in it. -/
structure Merged (c : Classifier) (seeds : Learned → List Text) (read : Kind → List Text)
    (c' : Classifier) : Prop where
  alwaysBlocked : ∀ n, n ∈ c'.alwaysBlocked ↔ n ∈ read .alwaysBlocked
  alwaysDirect : ∀ n, n ∈ c'.alwaysDirect ↔ n ∈ read .alwaysDirect ∧ n ∉ read .alwaysBlocked
  blocked : ∀ n, n ∈ c'.blocked ↔ c.Offered seeds read .blocked n ∧ ¬ IsListed read n
  direct : ∀ n, n ∈ c'.direct ↔
    (c.Offered seeds read .direct n ∧ ¬ IsListed read n) ∧ n ∉ c'.blocked
  changed : ∀ l, c'.isChanged l = true ↔
    c.isChanged l = true ∨ ∃ n, c.Offered seeds read l n ∧ n ∉ c'.learned l

theorem mem_learned_learnAll {blocked direct : List Text} {l : Learned} {n : Text} :
    n ∈ (c.learnAll blocked direct).learned l ↔
      n ∈ c.learned l ∨ n ∈ (match l with | .blocked => blocked | .direct => direct) := by
  cases l with
  | blocked => exact mem_blocked_learnAll
  | direct => exact mem_direct_learnAll

/-- Merging what is offered leaves the merged lists. -/
theorem merge_merged (c : Classifier) (seeds : Learned → List Text) (read : Kind → List Text) :
    Merged c seeds read
      (((c.learnAll (seeds .blocked) (seeds .direct)).learnAll (read .blocked)
        (read .direct)).merge (read .alwaysBlocked) (read .alwaysDirect)) := by
  generalize hl : (c.learnAll (seeds .blocked) (seeds .direct)).learnAll (read .blocked)
    (read .direct) = learned
  have offered (l : Learned) (n : Text) : n ∈ learned.learned l ↔ c.Offered seeds read l n := by
    rw [← hl, mem_learned_learnAll, mem_learned_learnAll, Offered, or_assoc]
    cases l <;> rfl
  have unchanged (l : Learned) : learned.isChanged l = c.isChanged l := by
    rw [← hl]
    cases l <;> rfl
  have loses := learned.merge_loses (read .alwaysBlocked) (read .alwaysDirect)
  refine ⟨fun n => mem_alwaysBlocked_merge, fun n => mem_alwaysDirect_merge, fun n => ?_,
    fun n => ?_, fun l => ?_⟩
  · rw [mem_blocked_merge, IsListed, not_or]
    exact and_congr_left' (offered .blocked n)
  · rw [mem_direct_merge, IsListed, not_or]
    exact and_congr_left' (and_congr_left' (offered .direct n))
  · rw [loses.changed, unchanged]
    simp only [offered]

/-- The disk can tell of each list whether it is there: all lists are read, and merged. -/
theorem load_merged {d : Disk} (told : c.TellsLists d) (seeds : Learned → List Text) :
    Merged c seeds (c.readings d) (c.load (seeds .blocked) (seeds .direct) d).classifier := by
  obtain ⟨-, -, -, -, merged, -⟩ := load_told told (seeds .blocked) (seeds .direct)
  rw [merged]
  exact merge_merged c seeds (c.readings d)

/-- Loading that stops half-way leaves a seed in both learned lists. -/
theorem load_not_merged {d : Disk} (untold : ¬ c.TellsLists d) :
    ¬ Merged c (fun _ => ["example.com"]) (c.readings d)
      (c.load ["example.com"] ["example.com"] d).classifier := by
  intro merged
  obtain ⟨e, blocked, direct, -, stopped⟩ := load_untold untold ["example.com"] ["example.com"]
  rw [stopped] at merged
  exact ((merged.direct "example.com").1 (by simp)).2 (by simp)

theorem result_load_iff {d : Disk} (blocked direct : List Text) :
    (c.load blocked direct d).result = .ok () ↔ c.TellsLists d := by
  constructor
  · intro done
    by_contra untold
    obtain ⟨e, -, -, failed, -⟩ := load_untold untold blocked direct
    rw [failed] at done
    cases done
  · intro told
    obtain ⟨-, -, -, done, -⟩ := load_told told blocked direct
    exact done

/-! ## Order and repetition -/

/-- The same names in each list, and the same marks. -/
structure SameContents (c c' : Classifier) : Prop where
  names : ∀ k, c'.snapshot k = c.snapshot k
  changed : ∀ l, c'.isChanged l = c.isChanged l

theorem toSortedList_congr {s t : DomainSet} (same : ∀ n, n ∈ s ↔ n ∈ t) :
    s.toSortedList = t.toSortedList :=
  sorted_congr s.nodup t.nodup same

/-- Lists are the same if they have the same members. -/
theorem SameContents.of_mem (alwaysBlocked : ∀ n, n ∈ c'.alwaysBlocked ↔ n ∈ c.alwaysBlocked)
    (alwaysDirect : ∀ n, n ∈ c'.alwaysDirect ↔ n ∈ c.alwaysDirect)
    (learned : ∀ l n, n ∈ c'.learned l ↔ n ∈ c.learned l)
    (changed : ∀ l, c'.isChanged l = true ↔ c.isChanged l = true) : SameContents c c' := by
  refine ⟨fun k => ?_, fun l => Bool.eq_iff_iff.2 (changed l)⟩
  cases k with
  | blocked => exact toSortedList_congr (learned .blocked)
  | direct => exact toSortedList_congr (learned .direct)
  | alwaysBlocked => exact toSortedList_congr alwaysBlocked
  | alwaysDirect => exact toSortedList_congr alwaysDirect

/-- The merged lists depend on the members of seeds and files only. -/
theorem Merged.congr (h : Merged c seeds read c') (g : Merged c seeds' read' c'')
    (sameSeeds : ∀ l n, n ∈ seeds' l ↔ n ∈ seeds l) (same : ∀ k n, n ∈ read' k ↔ n ∈ read k) :
    SameContents c' c'' := by
  have offered (l : Learned) (n : Text) :
      c.Offered seeds' read' l n ↔ c.Offered seeds read l n := by
    simp only [Offered, sameSeeds, same]
  have listed (n : Text) : IsListed read' n ↔ IsListed read n := by simp only [IsListed, same]
  have blocked (n : Text) : n ∈ c''.blocked ↔ n ∈ c'.blocked := by
    rw [h.blocked, g.blocked, offered, listed]
  have learned (l : Learned) (n : Text) : n ∈ c''.learned l ↔ n ∈ c'.learned l := by
    cases l with
    | blocked => exact blocked n
    | direct =>
      change n ∈ c''.direct ↔ n ∈ c'.direct
      rw [h.direct, g.direct, offered, listed, blocked]
  refine .of_mem (fun n => ?_) (fun n => ?_) learned fun l => ?_
  · rw [h.alwaysBlocked, g.alwaysBlocked, same]
  · rw [h.alwaysDirect, g.alwaysDirect, same, same]
  · rw [h.changed, g.changed]
    simp only [offered, learned]

/-- Merging again what the files hold, without seeds, leaves all as it is. -/
theorem Merged.again (h : Merged c seeds read c') (g : Merged c' (fun _ => []) read' c'')
    (same : ∀ k n, n ∈ read' k ↔ n ∈ read k) : SameContents c' c'' := by
  have listed (n : Text) : IsListed read' n ↔ IsListed read n := by simp only [IsListed, same]
  have offered (l : Learned) (n : Text) :
      c'.Offered (fun _ => []) read' l n ↔ n ∈ c'.learned l ∨ n ∈ read l.kind := by
    simp [Offered, same]
  -- a name in the file was offered before, and was dropped before if it is dropped now
  have before {l : Learned} {n : Text} (hn : n ∈ read l.kind) : c.Offered seeds read l n :=
    .inr (.inr hn)
  have blocked (n : Text) : n ∈ c''.blocked ↔ n ∈ c'.blocked := by
    rw [g.blocked, offered, listed]
    constructor
    · rintro ⟨old | new, free⟩
      · exact old
      · exact (h.blocked n).2 ⟨before new, free⟩
    · exact fun hn => ⟨.inl hn, ((h.blocked n).1 hn).2⟩
  have learned (l : Learned) (n : Text) : n ∈ c''.learned l ↔ n ∈ c'.learned l := by
    cases l with
    | blocked => exact blocked n
    | direct =>
      change n ∈ c''.direct ↔ n ∈ c'.direct
      rw [g.direct, offered, listed, blocked]
      constructor
      · rintro ⟨⟨old | new, free⟩, apart⟩
        · exact old
        · exact (h.direct n).2 ⟨⟨before new, free⟩, apart⟩
      · intro hn
        obtain ⟨⟨-, free⟩, apart⟩ := (h.direct n).1 hn
        exact ⟨⟨.inl hn, free⟩, apart⟩
  refine .of_mem (fun n => ?_) (fun n => ?_) learned fun l => ?_
  · rw [h.alwaysBlocked, g.alwaysBlocked, same]
  · rw [h.alwaysDirect, g.alwaysDirect, same, same]
  · rw [g.changed]
    refine ⟨fun marked => marked.elim id ?_, .inl⟩
    rintro ⟨n, there, lost⟩
    rw [offered] at there
    rw [learned] at lost
    exact (h.changed l).2 (.inr ⟨n, before (there.resolve_left lost), lost⟩)

/-! ## What is logged -/

def warnings (messages : List Message) : List Message := messages.filter (·.level = .warn)

/-- The names that are in both lists of the administrator, each once and in ascending order, are
what is warned about. -/
structure Warned (read : Kind → List Text) (messages : List Message) (names : List Text) :
    Prop where
  ascending : names.Pairwise (List.Lex (· < ·))
  mem : ∀ n, n ∈ names ↔ n ∈ read .alwaysBlocked ∧ n ∈ read .alwaysDirect
  messages : warnings messages = names.map conflictMessage

theorem load_warned {d : Disk} (told : c.TellsLists d) (blocked direct : List Text) :
    ∃ names, Warned (c.readings d) (c.load blocked direct d).messages names := by
  obtain ⟨failed, errors, -, -, -, messages⟩ := load_told told blocked direct
  refine ⟨conflicts (.ofList (c.readings d .alwaysBlocked)) (.ofList (c.readings d .alwaysDirect)),
    pairwise_lex_sorted ((DomainSet.nodup _).filter _), fun n => ?_, ?_⟩
  · rw [conflicts, mem_sorted, List.mem_filter, decide_eq_true_iff, ← DomainSet.mem_def,
      DomainSet.mem_ofList, DomainSet.mem_ofList]
  · -- neither failed reads nor the sizes at the end are warnings
    have noError : failed.filter (·.level = .warn) = [] := by
      rw [List.filter_eq_nil_iff]
      intro m hm
      simp [errors m hm]
    have noSizes (c : Classifier) : [c.loadedMessage].filter (·.level = .warn) = [] := rfl
    rw [messages, warnings, List.filter_append, List.filter_append, noError, noSizes,
      List.nil_append, List.append_nil, mergeMessages, List.filter_eq_self]
    intro m hm
    obtain ⟨n, -, rfl⟩ := List.mem_map.1 hm
    rfl

theorem Warned.congr {messages messages' : List Message} {names names' : List Text}
    (h : Warned read messages names) (g : Warned read' messages' names')
    (same : ∀ k n, n ∈ read' k ↔ n ∈ read k) : warnings messages' = warnings messages := by
  have named : names' = names := g.ascending.eq_of_mem_iff h.ascending fun n => by
    rw [g.mem, h.mem, same, same]
  rw [h.messages, g.messages, named]

/-! ## Loading again -/

section Again

variable {d e : Disk}

theorem locations_load (told : c.TellsLists d) (blocked direct : List Text) :
    (c.load blocked direct d).classifier.locations = c.locations := by
  obtain ⟨-, -, -, -, merged, -⟩ := load_told told blocked direct
  rw [merged]
  rfl

theorem settings_load (told : c.TellsLists d) (blocked direct : List Text) :
    (c.load blocked direct d).classifier.settings = c.settings := by
  obtain ⟨-, -, -, -, merged, -⟩ := load_told told blocked direct
  rw [merged]
  rfl

theorem readings_congr (located : c'.locations = c.locations) : c'.readings d = c.readings d := by
  funext k
  simp only [readings, diskAt, listNames, located]

theorem TellsLists.congr (h : c.TellsLists d) (located : c'.locations = c.locations) :
    c'.TellsLists d := by
  intro k
  rw [located]
  exact h k

/-- Whether the file of a list can be opened does not depend on the calls before. -/
def Steady (c : Classifier) (d : Disk) : Prop :=
  ∀ k calls, d.refuses (⟨.openFile, [(c.locations.pathFor k).text]⟩ :: calls) =
    d.refuses [⟨.openFile, [(c.locations.pathFor k).text]⟩]

/-- A list is read alike from two disks with the same files if both open it or neither does. -/
theorem listNames_congr {k : Kind} (same : d.SameFiles e)
    (opened : e.refusal? .openFile [(c.locations.pathFor k).text] =
      d.refusal? .openFile [(c.locations.pathFor k).text]) :
    c.listNames k e = c.listNames k d := by
  have read : (e.read (c.locations.pathFor k)).1 = (d.read (c.locations.pathFor k)).1 := by
    cases refused : d.refusal? .openFile [(c.locations.pathFor k).text] with
    | some refusal => rw [Disk.read_refused refused, Disk.read_refused (opened.trans refused)]
    | none =>
      rw [Disk.read_allowed refused, Disk.read_allowed (opened.trans refused), same.content]
  have loaded (d : Disk) (there : d.exists? (c.locations.pathFor k) = .ok true) :
      c.listNames k d =
        ((d.read (c.locations.pathFor k)).1.toOption.map DomainList.decode).getD [] := by
    rw [listNames, DomainList.load, there]
    dsimp only
    split <;> next h => rw [h]; rfl
  rcases there : d.exists? (c.locations.pathFor k) with fault | _ | _
  · simp only [listNames, DomainList.load, same.exists?, there]
  · simp only [listNames, DomainList.load, same.exists?, there]
  · rw [loaded d there, loaded e (same.exists? _ ▸ there), read]

theorem Steady.readings (steady : c.Steady d) (same : d.SameFiles e) (k : Kind) :
    c.readings e k = c.readings d k := by
  have later {e : Disk} (same : d.SameFiles e) : c.listNames k e = c.listNames k d := by
    refine listNames_congr same ?_
    rw [Disk.refusal?, Disk.refusal?, same.refuses, steady, steady k d.calls]
  have first := c.diskAt_sameFiles k d
  have second := same.trans (c.diskAt_sameFiles k e)
  exact (later second).trans (later first).symm

end Again

/-- Loading merges seeds and files as it should, whatever the seeds are, just if the disk can tell
of each list whether it is there; and it goes through just then. After that one warning went out for
each name in both lists of the administrator, in ascending order. Other seeds or files with the same
members lead to the same lists, marks and warnings, and so does loading once more without seeds when
the same is read again, as it is from files that did not change. -/
theorem load_merged_iff (c : Classifier) (d : Disk) :
    ((∀ seeds : Learned → List Text, Merged c seeds (c.readings d)
      (c.load (seeds .blocked) (seeds .direct) d).classifier) ↔ c.TellsLists d) ∧
    ∀ seeds : Learned → List Text,
      let r := c.load (seeds .blocked) (seeds .direct) d
      (r.result = .ok () ↔ c.TellsLists d) ∧
      (c.TellsLists d →
        (∃ names, Warned (c.readings d) r.messages names) ∧
        (∀ (seeds' : Learned → List Text) (e : Disk), c.TellsLists e →
          (∀ l n, n ∈ seeds' l ↔ n ∈ seeds l) → (∀ k n, n ∈ c.readings e k ↔ n ∈ c.readings d k) →
          let r' := c.load (seeds' .blocked) (seeds' .direct) e
          SameContents r.classifier r'.classifier ∧
            warnings r'.messages = warnings r.messages) ∧
        (∀ e, c.TellsLists e → (∀ k n, n ∈ c.readings e k ↔ n ∈ c.readings d k) →
          SameContents r.classifier (r.classifier.load [] [] e).classifier) ∧
        (c.Steady d → SameContents r.classifier (r.classifier.load [] [] r.disk).classifier)) := by
  refine ⟨⟨fun merged => ?_, load_merged⟩, fun seeds => ⟨result_load_iff _ _, fun told => ?_⟩⟩
  · by_contra untold
    exact load_not_merged untold (merged fun _ => ["example.com"])
  have merged := load_merged told seeds
  obtain ⟨names, warned⟩ := load_warned told (seeds .blocked) (seeds .direct)
  obtain ⟨-, -, same, -⟩ := load_told told (seeds .blocked) (seeds .direct)
  have located := locations_load told (seeds .blocked) (seeds .direct)
  -- the second load asks for the same paths
  have again (e : Disk) (told' : c.TellsLists e)
      (sameNames : ∀ k n, n ∈ c.readings e k ↔ n ∈ c.readings d k) :
      SameContents (c.load (seeds .blocked) (seeds .direct) d).classifier
        ((c.load (seeds .blocked) (seeds .direct) d).classifier.load [] [] e).classifier := by
    refine merged.again (load_merged (told'.congr located) fun _ => []) fun k n => ?_
    rw [readings_congr located]
    exact sameNames k n
  refine ⟨⟨names, warned⟩, fun seeds' e told' sameSeeds sameNames => ?_, again, fun steady => ?_⟩
  · obtain ⟨names', warned'⟩ := load_warned told' (seeds' .blocked) (seeds' .direct)
    exact ⟨merged.congr (load_merged told' seeds') sameSeeds sameNames,
      warned.congr warned' sameNames⟩
  · refine again _ (fun k => ?_) fun k n => by rw [steady.readings same]
    rw [same.exists?]
    exact told k

/-- Lists of which two share a name, and two that are at odds with a seed. -/
def conflictingDisk : Disk where
  tree := ⟨[([Utf8.octets "lists"], .directory),
    ([Utf8.octets "lists", Utf8.octets "direct"], .file (Utf8.octets "a.com\nb.com\n")),
    ([Utf8.octets "lists", Utf8.octets "always_blocked"], .file (Utf8.octets "ads.net\nads.net\n")),
    ([Utf8.octets "lists", Utf8.octets "always_direct"], .file (Utf8.octets "ads.net\nc.com"))]⟩

def conflictingSeeds : Learned → List Text
  | .blocked => ["c.com", "a.com", "a.com"]
  | .direct => []

theorem load_merged_iff_conflicting :
    let c := Classifier.ofLocations (.inside (.ofText "/lists"))
    let r := c.load (conflictingSeeds .blocked) (conflictingSeeds .direct) conflictingDisk
    r.result = .ok () ∧ Merged c conflictingSeeds (c.readings conflictingDisk) r.classifier ∧
      (∃ names, Warned (c.readings conflictingDisk) r.messages names ∧
        ofString "ads.net" ∈ names) ∧
      (∀ n, n ∈ r.classifier.blocked ↔ n = "a.com") ∧ r.classifier.blockedChanged = true ∧
      (∀ n, n ∈ r.classifier.direct ↔ n = "b.com") ∧ r.classifier.directChanged = true ∧
      SameContents r.classifier (r.classifier.load [] [] r.disk).classifier := by
  intro c r
  have told : c.TellsLists conflictingDisk := fun k =>
    ⟨_, show conflictingDisk.exists? _ = .ok (decide (k ≠ .blocked)) by
      cases k <;> decide +kernel⟩
  obtain ⟨merged, later⟩ := load_merged_iff c conflictingDisk
  obtain ⟨result, later⟩ := later conflictingSeeds
  obtain ⟨⟨names, warned⟩, -, -, again⟩ := later told
  have blocked : r.classifier.blocked.names = [ofString "a.com"] := by decide +kernel
  have direct : r.classifier.direct.names = [ofString "b.com"] := by decide +kernel
  refine ⟨result.2 told, merged.2 told _, ⟨names, warned, ?_⟩, fun n => ?_, by decide +kernel,
    fun n => ?_, by decide +kernel, again fun k calls => rfl⟩
  · rw [warned.mem]
    decide +kernel
  · rw [DomainSet.mem_def, blocked, List.mem_singleton]
  · rw [DomainSet.mem_def, direct, List.mem_singleton]

/-- A learned-direct list whose name is too long stops loading: a seed that is always-blocked stays
learned, and the lists of the administrator are not read. -/
theorem load_not_merged_nameTooLong :
    let lists := Locations.inside (.ofText "/lists")
    let tooLong := Path.ofText ("/" ++ repeated 256 97)
    let c := Classifier.ofLocations { lists with direct := tooLong }
    let seeds : Learned → List Text := fun
      | .blocked => ["ads.net"]
      | .direct => []
    let r := c.load (seeds .blocked) (seeds .direct) conflictingDisk
    r.result ≠ .ok () ∧ ofString "ads.net" ∈ c.readings conflictingDisk .alwaysBlocked ∧
      ofString "ads.net" ∉ r.classifier.alwaysBlocked ∧ ofString "ads.net" ∈ r.classifier.blocked ∧
      ¬ Merged c seeds (c.readings conflictingDisk) r.classifier := by
  intro lists tooLong c seeds r
  obtain ⟨failed, listed, unread, learned⟩ : r.result ≠ .ok () ∧
      ofString "ads.net" ∈ c.readings conflictingDisk .alwaysBlocked ∧
      ofString "ads.net" ∉ r.classifier.alwaysBlocked ∧
      ofString "ads.net" ∈ r.classifier.blocked := by decide +kernel
  exact ⟨failed, listed, unread, learned, fun merged => unread ((merged.alwaysBlocked _).2 listed)⟩

end Detour.Classifier
