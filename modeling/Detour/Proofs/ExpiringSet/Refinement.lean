import Detour.ExpiringSet
import Detour.Proofs.Number.Order
import Mathlib.Data.Set.Card

/-!
# Expiring sets as sets that never reclaim

Expired names are dropped when they are looked up, on demand and after every so many insertions.
None of this shows, apart from the number of names in store: what a set says follows from a ledger
that has the latest insertion of each name and forgets nothing. The store is a part of the ledger
that has everything that is live; dropping what has expired keeps it so, for the clock does not go
back.

## Main statements

* `ExpiringSet.Tracks` — the store follows a ledger.
* `ExpiringSet.has_reclaims`, `purge_reclaims`, `sweep_reclaims` — only what has expired is dropped.
* `ExpiringSet.run_tracks` — the store follows the ledger through any calls.
* `ExpiringSet.run_reports` — what a set says after any calls.
-/
namespace Detour.ExpiringSet

open Text

/-! ## Calls -/

/-- What can be asked of a set. -/
inductive Request
  | add (name : Text)
  | has (name : Text)
  | contains (value : Json)
  | purge
  | snapshot
  | size
  | stored

/-- A request at a reading of the clock. -/
structure Call where
  now : Number
  request : Request

/-- The set after a call. -/
def after (s : ExpiringSet) (c : Call) : ExpiringSet :=
  match c.request with
  | .add name => ((s.add c.now name).map Prod.snd).getD s
  | .has name => (s.has c.now name).2
  | .contains v => (s.containsValue c.now v).2
  | .purge => (s.purge c.now).2
  | .snapshot | .size | .stored => s

def run (s : ExpiringSet) (calls : List Call) : ExpiringSet := calls.foldl after s

/-- Readings of a clock that does not go back. -/
def Ordered (times : List Number) : Prop :=
  times.Pairwise (fun a b => a.le b = true) ∧ ∀ t ∈ times, t.le t = true

instance (times : List Number) : Decidable (Ordered times) :=
  inferInstanceAs (Decidable (_ ∧ _))

/-! ## Ledgers -/

/-- The time of the latest insertion of each name. -/
abbrev Ledger := Text → Option Number

/-- Whether the time of what was inserted at some time is still running. -/
def isRunning (lifetime : Binary64) (now since : Number) : Bool :=
  (since.add? (.float lifetime)).any (isBefore now)

/-- What is running at some time was running before. -/
theorem isRunning_of_le {lifetime : Binary64} {now later since : Number}
    (order : now.le later = true) (running : isRunning lifetime later since = true) :
    isRunning lifetime now since = true := by
  simp only [isRunning, Option.any_eq_true] at running ⊢
  obtain ⟨expiry, sum, before⟩ := running
  exact ⟨expiry, sum, Number.lt_of_le_of_lt order before⟩

/-- Where sums are exact, a time runs while less than the lifetime has gone by. -/
theorem isRunning_iff {lifetime : Binary64} {now since : Number}
    (exact : since.AddsExactly (.float lifetime)) (here : now.AddsExactly (.float lifetime)) :
    isRunning lifetime now since = true ↔
      now.units < since.units + (Number.float lifetime).units := by
  obtain ⟨expiry, sum, before⟩ := exact.exactSum.lt_iff here.1
  rw [← before]
  simp [isRunning, sum, isBefore]

def Ledger.isLive (l : Ledger) (lifetime : Binary64) (now : Number) (name : Text) : Bool :=
  (l name).any (isRunning lifetime now)

/-- A name is inserted unless it is live, if the time at which it would expire can be told. -/
def Ledger.add (lifetime : Binary64) (l : Ledger) (now : Number) (name : Text) : Ledger :=
  if !l.isLive lifetime now name && (now.add? (.float lifetime)).isSome then
    Function.update l name (some now)
  else l

/-- The additions among some calls. -/
def additions (calls : List Call) : List (Number × Text) :=
  calls.filterMap fun c =>
    match c.request with
    | .add name => some (c.now, name)
    | _ => none

/-- A ledger after some additions. -/
def Ledger.addAll (lifetime : Binary64) (l : Ledger) (added : List (Number × Text)) : Ledger :=
  added.foldl (fun l (now, name) => l.add lifetime now name) l

theorem Ledger.addAll_append (lifetime : Binary64) (l : Ledger) (a b : List (Number × Text)) :
    l.addAll lifetime (a ++ b) = (l.addAll lifetime a).addAll lifetime b :=
  List.foldl_append

/-- A ledger after a call, going by what the set answered. -/
def note (s : ExpiringSet) (l : Ledger) (c : Call) : Ledger :=
  match c.request with
  | .add name =>
    if (s.add c.now name).map Prod.fst = some true then Function.update l name (some c.now) else l
  | _ => l

/-- A ledger after some calls, going by what the set answered. -/
def noteAll (s : ExpiringSet) (l : Ledger) : List Call → Ledger
  | [] => l
  | c :: r => (s.after c).noteAll (s.note l c) r

/-- When a name was last inserted by some calls: at the latest addition that was answered with
true. -/
def lastInserted (s : ExpiringSet) (calls : List Call) (name : Text) : Option Number :=
  s.noteAll (fun _ => none) calls name

/-! ## Reclaiming -/

/-- Some of what has expired is dropped. -/
structure Reclaims (now : Number) (s s' : ExpiringSet) : Prop where
  lifetime : s'.lifetime = s.lifetime
  dropped : ∃ keep : Text × Number → Bool, s'.expiries = s.expiries.filter keep ∧
    ∀ e ∈ s.expiries, now.lt e.2 = true → keep e = true

section Reclaiming

variable {s : ExpiringSet} {now : Number} {name : Text}

theorem Reclaims.refl : Reclaims now s s :=
  ⟨rfl, fun _ => true, by simp, fun _ _ _ => rfl⟩

theorem Reclaims.trans {s' s'' : ExpiringSet} (h : Reclaims now s s') (g : Reclaims now s' s'') :
    Reclaims now s s'' := by
  obtain ⟨lifetime, keep, left, running⟩ := h
  obtain ⟨lifetime', keep', left', running'⟩ := g
  refine ⟨lifetime'.trans lifetime, fun e => keep' e && keep e, ?_, fun e he later => ?_⟩
  · rw [left', left, List.filter_filter]
  · have kept := running e he later
    have here : e ∈ s'.expiries := left ▸ List.mem_filter.2 ⟨he, kept⟩
    simp [kept, running' e here later]

theorem Reclaims.nodup {s' : ExpiringSet} (h : Reclaims now s s') (nodup : s.expiries.keys.Nodup) :
    s'.expiries.keys.Nodup := by
  obtain ⟨-, keep, left, -⟩ := h
  exact left ▸ Table.nodup_keys_filter nodup keep

theorem purge_reclaims : Reclaims now s (s.purge now).2 := by
  refine ⟨rfl, fun e => !isOver now e.2, rfl, fun e _ running => ?_⟩
  simp [isOver, Number.not_le_of_lt running]

theorem sweep_reclaims : Reclaims now s (s.sweep now) := by
  unfold sweep
  split
  · exact purge_reclaims
  · exact .refl

theorem has_reclaims (nodup : s.expiries.keys.Nodup) : Reclaims now s (s.has now name).2 := by
  unfold has
  cases h : s.expiries.get? name with
  | none => exact .refl
  | some expiry =>
    by_cases running : isBefore now expiry = true
    · simp only [running, if_true]
      exact .refl
    · simp only [running]
      refine ⟨rfl, fun e => decide (e.1 ≠ name), rfl, fun e he later => ?_⟩
      have other : e.1 ≠ name := by
        rintro rfl
        have here := (Table.get?_eq_some_iff nodup).2 he
        obtain rfl := Option.some.inj (h.symm.trans here)
        exact running later
      simpa using other

theorem containsValue_reclaims (nodup : s.expiries.keys.Nodup) (v : Json) :
    Reclaims now s (s.containsValue now v).2 := by
  unfold containsValue
  split
  · exact has_reclaims nodup
  · exact .refl

theorem mem_live (nodup : s.expiries.keys.Nodup) :
    name ∈ s.live now ↔ s.isLive now name = true := by
  simp only [live, Table.keys, List.mem_map, List.mem_filter, isLive, Option.any_eq_true]
  constructor
  · rintro ⟨⟨n, expiry⟩, ⟨there, running⟩, rfl⟩
    exact ⟨expiry, (Table.get?_eq_some_iff nodup).2 there, running⟩
  · rintro ⟨expiry, there, running⟩
    exact ⟨(name, expiry), ⟨(Table.get?_eq_some_iff nodup).1 there, running⟩, rfl⟩

theorem nodup_live (nodup : s.expiries.keys.Nodup) : (s.live now).Nodup :=
  Table.nodup_keys_filter nodup _

end Reclaiming

/-! ## The store follows the ledger -/

/-- What is in store expires as the ledger says, and what is live by the ledger at a coming time is
in store. -/
structure Tracks (s : ExpiringSet) (l : Ledger) (coming : Number → Prop) : Prop where
  nodup : s.expiries.keys.Nodup
  stored : ∀ name expiry, s.expiries.get? name = some expiry →
    ∃ since, l name = some since ∧ since.add? (.float s.lifetime) = some expiry
  kept : ∀ name since expiry now, l name = some since →
    since.add? (.float s.lifetime) = some expiry → coming now → now.lt expiry = true →
    s.expiries.get? name = some expiry

section Tracking

variable {s s' : ExpiringSet} {l : Ledger} {coming : Number → Prop} {now : Number} {name : Text}

theorem Tracks.mono {later : Number → Prop} (h : Tracks s l coming)
    (imp : ∀ t, later t → coming t) : Tracks s l later :=
  ⟨h.nodup, h.stored,
    fun name since expiry t hl ha ht => h.kept name since expiry t hl ha (imp t ht)⟩

theorem Tracks.isLive (h : Tracks s l coming) (reached : coming now) (name : Text) :
    s.isLive now name = l.isLive s.lifetime now name := by
  rw [Bool.eq_iff_iff]
  simp only [ExpiringSet.isLive, Ledger.isLive, isRunning, Option.any_eq_true]
  constructor
  · rintro ⟨expiry, there, running⟩
    obtain ⟨since, noted, sum⟩ := h.stored name expiry there
    exact ⟨since, noted, expiry, sum, running⟩
  · rintro ⟨since, noted, expiry, sum, running⟩
    exact ⟨expiry, h.kept name since expiry now noted sum reached running, running⟩

/-- Dropping what has expired does not show any more. -/
theorem Tracks.reclaims (h : Tracks s l coming) (reached : coming now) (r : Reclaims now s s') :
    Tracks s' l fun t => coming t ∧ now.le t = true := by
  obtain ⟨lifetime, keep, left, running⟩ := r
  refine ⟨left ▸ Table.nodup_keys_filter h.nodup keep, fun name expiry there => ?_,
    fun name since expiry t noted sum later live => ?_⟩
  · rw [left, Table.get?_eq_some_iff (Table.nodup_keys_filter h.nodup keep)] at there
    rw [lifetime]
    exact h.stored name expiry
      ((Table.get?_eq_some_iff h.nodup).2 (List.mem_filter.1 there).1)
  · have before : now.lt expiry = true := Number.lt_of_le_of_lt later.2 live
    have there := h.kept name since expiry now noted (lifetime ▸ sum) reached before
    rw [Table.get?_eq_some_iff h.nodup] at there
    rw [left, Table.get?_eq_some_iff (Table.nodup_keys_filter h.nodup keep)]
    exact List.mem_filter.2 ⟨there, running _ there before⟩

theorem Tracks.insert (h : Tracks s l coming) (name : Text) {expiry : Number}
    (sum : now.add? (.float s.lifetime) = some expiry) (count : Nat) :
    Tracks { s with expiries := s.expiries.put name expiry, inserted := count }
      (Function.update l name (some now)) coming := by
  refine ⟨Table.nodup_keys_put h.nodup, fun other e there => ?_,
    fun other since e t noted sum' later live => ?_⟩
  · by_cases same : other = name
    · subst same
      obtain rfl := Option.some.inj ((Table.get?_put_self _ _ _).symm.trans there)
      exact ⟨now, Function.update_self .., sum⟩
    · rw [Function.update_of_ne same]
      exact h.stored other e ((Table.get?_put_of_ne same _ _).symm.trans there)
  · by_cases same : other = name
    · subst same
      rw [Function.update_self] at noted
      obtain rfl := Option.some.inj noted
      obtain rfl := Option.some.inj (sum.symm.trans sum')
      exact Table.get?_put_self _ _ _
    · rw [Function.update_of_ne same] at noted
      exact (Table.get?_put_of_ne same _ _).trans (h.kept other since e t noted sum' later live)

/-- How adding a name ends. -/
theorem add_eq (s : ExpiringSet) (now : Number) (name : Text) :
    s.add now name = if s.isLive now name then some (false, s)
      else (now.add? (.float s.lifetime)).map fun expiry => (true, sweep
        { s with expiries := s.expiries.put name expiry, inserted := s.inserted + 1 } now) := by
  unfold add
  split
  · rfl
  · split <;> next h => simp [h]

/-- Sweeping keeps what is live. -/
theorem isLive_sweep {s : ExpiringSet} {now : Number} {name : Text}
    (live : s.isLive now name = true) : (s.sweep now).isLive now name = true := by
  unfold sweep
  split
  · obtain ⟨expiry, there, before⟩ := Option.any_eq_true .. |>.1 live
    have running : isOver now expiry = false := Number.not_le_of_lt before
    have kept := Table.get?_filter (p := fun e => !isOver now e.2) there (by simp [running])
    exact Option.any_eq_true .. |>.2 ⟨expiry, kept, before⟩
  · exact live

/-- A name is live right after it was added, if its time runs at all. -/
theorem isLive_of_add {s s' : ExpiringSet} {now : Number} {name : Text} {new : Bool}
    (added : s.add now name = some (new, s')) (runs : isRunning s.lifetime now now = true) :
    s'.isLive now name = true := by
  rw [add_eq] at added
  split at added
  · next live =>
    cases added
    exact live
  · obtain ⟨expiry, sum, done⟩ := Option.map_eq_some_iff.1 added
    cases done
    refine isLive_sweep ?_
    simpa [isRunning, sum, isLive] using runs

theorem note_eq (h : Tracks s l coming) {c : Call} (reached : coming c.now) :
    s.note l c = l.addAll s.lifetime (additions [c]) := by
  obtain ⟨now, request⟩ := c
  cases request with
  | add name =>
    simp only [note, add_eq, h.isLive reached, additions, Ledger.addAll, Ledger.add,
      List.filterMap_cons, List.filterMap_nil, List.foldl_cons, List.foldl_nil]
    cases l.isLive s.lifetime now name <;> cases now.add? (.float s.lifetime) <;> simp
  | _ => rfl

/-- A call leaves a store that follows the ledger with the call noted. -/
theorem Tracks.after (h : Tracks s l coming) {c : Call} (reached : coming c.now)
    (told : c.now.le c.now = true) :
    (s.after c).lifetime = s.lifetime ∧
      Tracks (s.after c) (s.note l c) fun t => coming t ∧ c.now.le t = true := by
  have reclaimed {s' : ExpiringSet} (r : Reclaims c.now s s') :
      s'.lifetime = s.lifetime ∧ Tracks s' l fun t => coming t ∧ c.now.le t = true :=
    ⟨r.lifetime, h.reclaims reached r⟩
  obtain ⟨now, request⟩ := c
  cases request with
  | add name =>
    simp only [ExpiringSet.after, note, add_eq]
    by_cases live : s.isLive now name = true
    · simpa [live] using reclaimed .refl
    · cases sum : now.add? (.float s.lifetime) with
      | none => simpa [live] using reclaimed .refl
      | some expiry =>
        have tracks := (reclaimed .refl).2.insert name sum (s.inserted + 1)
        have swept := tracks.reclaims ⟨reached, told⟩ sweep_reclaims
        simp only [live, Bool.false_eq_true, if_false, Option.map_some, Option.getD_some, if_true]
        exact ⟨sweep_reclaims.lifetime, swept.mono fun t ht => ⟨ht, ht.2⟩⟩
  | has name => exact reclaimed (has_reclaims h.nodup)
  | contains v => exact reclaimed (containsValue_reclaims h.nodup v)
  | purge => exact reclaimed purge_reclaims
  | snapshot => exact reclaimed .refl
  | size => exact reclaimed .refl
  | stored => exact reclaimed .refl

/-- The store follows the ledger through any calls, and the ledger depends on additions alone. -/
theorem run_tracks {calls : List Call} (h : Tracks s l coming)
    (reached : ∀ c ∈ calls, coming c.now) (ordered : Ordered (calls.map Call.now)) :
    (s.run calls).lifetime = s.lifetime ∧
      s.noteAll l calls = l.addAll s.lifetime (additions calls) ∧
      Tracks (s.run calls) (s.noteAll l calls)
        fun t => coming t ∧ ∀ c ∈ calls, c.now.le t = true := by
  induction calls generalizing s l coming with
  | nil => exact ⟨rfl, rfl, h.mono fun t ht => ht.1⟩
  | cons c r ih =>
    obtain ⟨sorted, told⟩ := ordered
    obtain ⟨first, sorted⟩ := List.pairwise_cons.1 sorted
    have here := reached c List.mem_cons_self
    obtain ⟨lifetime, tracks⟩ := h.after here (told _ List.mem_cons_self)
    have later (x : Call) (hx : x ∈ r) : coming x.now ∧ c.now.le x.now = true :=
      ⟨reached x (List.mem_cons_of_mem _ hx), first _ (List.mem_map_of_mem hx)⟩
    obtain ⟨lifetime', noted, tracks⟩ :=
      ih tracks later ⟨sorted, fun t ht => told t (List.mem_cons_of_mem _ ht)⟩
    refine ⟨lifetime'.trans lifetime, ?_, tracks.mono fun t ht => ?_⟩
    · have split : additions (c :: r) = additions [c] ++ additions r :=
        List.filterMap_append (l := [c])
      rw [noteAll, noted, lifetime, note_eq h here, split, Ledger.addAll_append]
    · exact ⟨⟨ht.1, ht.2 c List.mem_cons_self⟩, fun x hx => ht.2 x (List.mem_cons_of_mem _ hx)⟩

end Tracking

/-! ## What a set says -/

/-- What a set says at a reading of the clock is what it has to say if exactly the names `live` are
live. -/
structure Reports (s : ExpiringSet) (now : Number) (live : Text → Prop) : Prop where
  added : ∀ name, (s.add now name).map Prod.fst = some true ↔
    ¬ live name ∧ (now.add? (.float s.lifetime)).isSome = true
  present : ∀ name, (s.add now name).map Prod.fst = some false ↔ live name
  has : ∀ name, (s.has now name).1 = true ↔ live name
  contains : ∀ v, (s.containsValue now v).1 = true ↔ ∃ name, v = .string name ∧ live name
  snapshot : ∀ name, name ∈ s.live now ↔ live name
  distinct : (s.live now).Nodup
  size : s.size now = Set.ncard { name | live name }

theorem Tracks.reports {s : ExpiringSet} {l : Ledger} {coming : Number → Prop} {now : Number}
    (h : Tracks s l coming) (reached : coming now) :
    Reports s now fun name => l.isLive s.lifetime now name = true := by
  have isLive := h.isLive reached
  have has (name : Text) : (s.has now name).1 = true ↔ l.isLive s.lifetime now name = true := by
    rw [has_fst, isLive]
  have snapshot (name : Text) : name ∈ s.live now ↔ l.isLive s.lifetime now name = true := by
    rw [mem_live h.nodup, isLive]
  refine ⟨fun name => ?_, fun name => ?_, has, fun v => ?_, snapshot, nodup_live h.nodup, ?_⟩
  · rw [add_eq, isLive]
    cases l.isLive s.lifetime now name <;> cases now.add? (.float s.lifetime) <;> simp
  · rw [add_eq, isLive]
    cases l.isLive s.lifetime now name <;> cases now.add? (.float s.lifetime) <;> simp
  · cases v with
    | string name => simpa [containsValue] using isLive name
    | _ => simp [containsValue]
  · have members : { name | l.isLive s.lifetime now name = true } = (s.live now).toFinset := by
      ext name
      simpa using (snapshot name).symm
    rw [members, Set.ncard_coe_finset, List.toFinset_card_of_nodup (nodup_live h.nodup)]
    rfl

theorem eq_of_create {lifetime sweepEvery : Json} {s : ExpiringSet}
    (fresh : create lifetime sweepEvery = .ok s) :
    Interval.seconds "ttl_seconds" lifetime = .ok s.lifetime ∧ s.expiries = [] := by
  unfold create at fresh
  split at fresh
  · next h =>
    cases sweep : sweepOf sweepEvery with
    | error f =>
      rw [sweep] at fresh
      cases fresh
    | ok n =>
      rw [sweep] at fresh
      cases fresh
      exact ⟨h, rfl⟩
  · split at fresh <;> cases fresh
  · cases fresh

theorem isLive_of_nil {s : ExpiringSet} (empty : s.expiries = []) (now : Number) (name : Text) :
    s.isLive now name = false := by
  rw [isLive, empty]
  rfl

/-- An empty set follows an empty ledger. -/
theorem tracks_of_nil {s : ExpiringSet} (empty : s.expiries = []) :
    Tracks s (fun _ => none) fun _ => True := by
  refine ⟨?_, ?_, ?_⟩
  · rw [empty]
    exact List.nodup_nil
  · intro name expiry there
    rw [empty] at there
    cases there
  · intro name since expiry now noted
    cases noted

theorem create_tracks {lifetime sweepEvery : Json} {s : ExpiringSet}
    (fresh : create lifetime sweepEvery = .ok s) : Tracks s (fun _ => none) fun _ => True :=
  tracks_of_nil (eq_of_create fresh).2

/-- Whether a name has to count as live: the time since its latest insertion is less than the
lifetime, as far as that time can be told. -/
def IsLiveAfter (s : ExpiringSet) (calls : List Call) (now : Number) (name : Text) : Prop :=
  ∃ since expiry, s.lastInserted calls name = some since ∧
    since.add? (.float s.lifetime) = some expiry ∧ now.lt expiry = true

theorem isLiveAfter_iff {s : ExpiringSet} {calls : List Call} {now : Number} {name : Text} :
    s.IsLiveAfter calls now name ↔
      Ledger.isLive (s.lastInserted calls) s.lifetime now name = true := by
  simp only [IsLiveAfter, Ledger.isLive, isRunning, Option.any_eq_true]
  exact ⟨fun ⟨since, expiry, noted, sum, running⟩ => ⟨since, noted, expiry, sum, running⟩,
    fun ⟨since, noted, expiry, sum, running⟩ => ⟨since, expiry, noted, sum, running⟩⟩

/-- Where sums are exact, a name is live while less than its lifetime has gone by. -/
theorem isLiveAfter_of_exactSum {s : ExpiringSet} {calls : List Call} {now since : Number}
    {name : Text} (last : s.lastInserted calls name = some since) {a b t : Int}
    (exact : Number.ExactSum since (.float s.lifetime) a b) (here : now.place? = some (.at t)) :
    s.IsLiveAfter calls now name ↔ t < a + b := by
  obtain ⟨expiry, sum, running⟩ := exact.lt_iff here
  rw [← running]
  constructor
  · rintro ⟨since', expiry', last', sum', live⟩
    obtain rfl := Option.some.inj (last.symm.trans last')
    obtain rfl := Option.some.inj (sum.symm.trans sum')
    exact live
  · intro live
    exact ⟨since, expiry, last, sum, live⟩

/-- A new set follows the ledger of the additions. -/
theorem run_created {lifetime sweepEvery : Json} {s : ExpiringSet}
    (fresh : create lifetime sweepEvery = .ok s) {past : List Call} {now : Number}
    (ordered : Ordered (past.map Call.now ++ [now])) :
    s.lastInserted past = Ledger.addAll s.lifetime (fun _ => none) (additions past) ∧
      Reports (s.run past) now (s.IsLiveAfter past now) := by
  obtain ⟨sorted, told⟩ := ordered
  obtain ⟨sorted, -, before⟩ := List.pairwise_append.1 sorted
  obtain ⟨lifetime, noted, tracks⟩ := run_tracks (create_tracks fresh) (fun _ _ => trivial)
    ⟨sorted, fun t ht => told t (List.mem_append_left _ ht)⟩
  have reached : ∀ c ∈ past, c.now.le now = true := fun c hc =>
    before _ (List.mem_map_of_mem hc) now List.mem_cons_self
  have live : s.IsLiveAfter past now =
      fun name => Ledger.isLive (s.lastInserted past) (s.run past).lifetime now name = true :=
    funext fun name => propext (by rw [isLiveAfter_iff, lifetime])
  exact ⟨noted, live ▸ tracks.reports ⟨trivial, reached⟩⟩

/-- After any calls a set says of exactly those names that they are live whose time is running since
they were last inserted, and inserts exactly the others. Where sums are exact, the time of a name
runs until its lifetime has gone by. Neither the interval of the sweeps nor any call but the
additions matters: another set with the same lifetime and the same additions says the same. -/
theorem run_reports {lifetime sweepEvery : Json} {s : ExpiringSet}
    (fresh : create lifetime sweepEvery = .ok s) {past : List Call} {now : Number}
    (ordered : Ordered (past.map Call.now ++ [now])) :
    Reports (s.run past) now (s.IsLiveAfter past now) ∧
    (∀ name since a b t, s.lastInserted past name = some since →
      Number.ExactSum since (.float s.lifetime) a b → now.place? = some (.at t) →
      (s.IsLiveAfter past now name ↔ t < a + b)) ∧
    ∀ (sweepEvery' : Json) (s' : ExpiringSet) (past' : List Call),
      create lifetime sweepEvery' = .ok s' → additions past' = additions past →
      Ordered (past'.map Call.now ++ [now]) →
      Reports (s'.run past') now (s.IsLiveAfter past now) := by
  obtain ⟨noted, reports⟩ := run_created fresh ordered
  refine ⟨reports, fun name since a b t last exact here =>
    isLiveAfter_of_exactSum last exact here, ?_⟩
  intro sweepEvery' s' past' fresh' same ordered'
  obtain ⟨noted', reports'⟩ := run_created fresh' ordered'
  have lifetime : s'.lifetime = s.lifetime :=
    Except.ok.inj ((eq_of_create fresh').1.symm.trans (eq_of_create fresh).1)
  have live : s'.IsLiveAfter past' now = s.IsLiveAfter past now :=
    funext fun name => propext (by
      rw [isLiveAfter_iff, isLiveAfter_iff, noted, noted', same, lifetime])
  exact live ▸ reports'

/-- A name that was looked up after its time was over, and then added again, while a sweep took
place in between. -/
theorem run_reports_readded :
    let past : List Call := [⟨.int 0, .add "a.com"⟩, ⟨.int 4, .add "b.com"⟩,
      ⟨.int 10, .has "a.com"⟩, ⟨.int 11, .add "a.com"⟩, ⟨.int 12, .add "a.com"⟩]
    let s : ExpiringSet := { lifetime := .ofInt 10, sweepEvery := .int 2 }
    create (.ofInt 10) (.ofInt 2) = .ok s ∧ Ordered (past.map Call.now ++ [.int 14]) ∧
      (∀ name, name ∈ (s.run past).live (.int 14) ↔ s.IsLiveAfter past (.int 14) name) ∧
      s.lastInserted past "a.com" = some (.int 11) ∧ (s.run past).live (.int 14) = ["a.com"] := by
  intro past s
  have fresh : create (.ofInt 10) (.ofInt 2) = .ok s := by decide +kernel
  have ordered : Ordered (past.map Call.now ++ [.int 14]) := by decide +kernel
  exact ⟨fresh, ordered, (run_reports fresh ordered).1.snapshot, by decide +kernel,
    by decide +kernel⟩

end Detour.ExpiringSet
