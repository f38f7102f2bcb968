import Detour.Proofs.Classifier.Durability
import Detour.Proofs.Classifier.Persisting
import Detour.Proofs.DomainList.Rereading

/-!
# What persisting writes

Persisting tries to write exactly the learned lists that are marked and updated, blocked names
first, and tells which were written. A failure that is reported does not keep the other list from
being written. The marks of the lists that were written go and nothing else changes in memory; on
the disk every list that is not tried is left as it was. To persist again is to try what failed.

There is one exception for a list that has no file: a free name may be where a list that could not
be written leaves its temporary file.

## Main definitions

* `Classifier.writes` — whether persisting writes a list.
* `Classifier.Separate` — the lists are different files, none on the way to a learned one.
* `Classifier.Contained` — every failure to write a list is reported.

## Main statements

* `Classifier.persistList_keeps` — what persisting one list does to the files.
* `Classifier.persist_exactly` — what persisting both lists does.
-/
namespace Detour.Classifier

open DomainList Files Text Utf8

/-- Whether persisting writes a list. -/
def writes (c : Classifier) (d : Disk) (l : Learned) : Bool := (c.attempt? d l).any Except.isOk

theorem writes_eq_true {c : Classifier} {d : Disk} {l : Learned} :
    c.writes d l = true ↔ c.attempt? d l = some (.ok ()) := by
  unfold writes
  rcases c.attempt? d l with _ | _ | _ <;> simp [Except.isOk, Except.toBool]

/-- All that persisting tries succeeds, or is reported to have failed. -/
def Contained (c : Classifier) (d : Disk) : Prop :=
  ∀ l e, c.attempt? d l ≠ some (.error (.escaped e))

/-- The lists are different files, none of them passed on the way to the file of a learned list. -/
structure Separate (locations : Locations) (working : Location) : Prop where
  proper : ∀ a : Learned, (locations.pathFor a.kind).Proper
  apart : ∀ (k : Kind) (a : Learned), k ≠ a.kind →
    ∀ l, (locations.pathFor k).target? working = some l →
      (locations.pathFor a.kind).target? working ≠ some l ∧
        l ∉ (locations.pathFor a.kind).way working

/-- Paths that can be handed to the file system make no fault escape. -/
theorem contained_of_sendable {c : Classifier} {d : Disk} (working : d.HasWorking)
    (proper : ∀ a : Learned, (c.locations.pathFor a.kind).Proper)
    (sendable : ∀ a : Learned, (c.locations.pathFor a.kind).Sendable) : c.Contained d :=
  fun l _ escaped => not_sendable_of_attempt working proper escaped (sendable l)

theorem OwnFiles.separate {locations : Locations} {d : Disk} (h : OwnFiles locations d) :
    Separate locations d.working where
  proper a := h.proper a.kind
  apart k a other l hl :=
    ⟨(h.spared k a other l hl).different, (h.spared k a other l hl).notPassed⟩

/-! ## One list -/

section OneList

variable {c : Classifier} {d : Disk} {l : Learned}

theorem isSome_stored? (c : Classifier) (d : Disk) (l : Learned) :
    (c.stored? l d).isSome = (c.isChanged l && c.isUpdated l) := by
  unfold stored?
  split <;> simp_all

theorem persistList_of_stored_none (h : c.stored? l d = none) (written : List Kind) :
    c.persistList l written d = ⟨.ok written, c, d, []⟩ := by
  have idle : (c.isChanged l && c.isUpdated l) = false := by
    rw [← isSome_stored? c d l, h]
    rfl
  unfold persistList
  split
  · rfl
  · next updated =>
    have unmarked : c.isChanged l = false := by simp_all
    simp [storeList, unmarked]

theorem persistList_of_storeList {stored : Bool} (updated : c.isUpdated l = true)
    (ended : (c.storeList l d).result = .ok stored) (written : List Kind) :
    (c.persistList l written d).result =
        .ok (if stored then written ++ [l.kind] else written) ∧
      (c.persistList l written d).disk = (c.storeList l d).disk := by
  unfold persistList
  rw [updated, Bool.not_true, if_neg Bool.false_ne_true]
  cases hs : c.storeList l d with
  | mk result c' d' messages =>
    rw [hs] at ended
    dsimp only at ended
    subst ended
    exact ⟨rfl, rfl⟩

/-- A list that is stored is told of if that succeeds, and is on the disk as storing leaves it. -/
theorem persistList_of_stored {r : Except DomainList.Fault Unit} (h : c.stored? l d = some r)
    (contained : ∀ e, r ≠ .error (.escaped e)) (written : List Kind) :
    (c.persistList l written d).result =
        .ok (if r.isOk then written ++ [l.kind] else written) ∧
      (c.persistList l written d).disk =
        (store (c.locations.pathFor l.kind) (c.learned l).names d).2 ∧
      (store (c.locations.pathFor l.kind) (c.learned l).names d).1 = r := by
  have due : (c.isChanged l && c.isUpdated l) = true := by
    rw [← isSome_stored? c d l, h]
    rfl
  rw [stored?, if_pos due, Option.some.injEq] at h
  obtain ⟨marked, updated⟩ := Bool.and_eq_true_iff.1 due
  cases c.storeList_cases l d with
  | unchanged unmarked =>
    rw [marked] at unmarked
    cases unmarked
  | stored _ disk done ended =>
    obtain ⟨result, kept⟩ := persistList_of_storeList updated ended written
    obtain rfl := h.symm.trans done
    exact ⟨result, kept.trans disk, h⟩
  | @reported f _ disk failed _ ended =>
    obtain ⟨result, kept⟩ := persistList_of_storeList updated ended written
    obtain rfl := h.symm.trans failed
    exact ⟨result, kept.trans disk, h⟩
  | @escaped f _ _ failed untold =>
    obtain rfl := h.symm.trans failed
    cases f with
    | escaped e => exact absurd rfl (contained e)
    | _ => cases untold

/-- What persisting one list does to the files: directories stay, and no location is touched but the
file of the list, the directories that are made for it and, if storing fails, a free name that is
called like a temporary file. -/
theorem persistList_keeps (working : d.HasWorking) (proper : (c.locations.pathFor l.kind).Proper)
    (contained : ∀ e, c.stored? l d ≠ some (.error (.escaped e))) (written : List Kind) :
    ∃ u calls, (c.persistList l written d).disk = { d with tree := u, calls } ∧
      d.tree.KeepsDirectories u ∧
      ∀ m, (c.stored? l d ≠ none → (c.locations.pathFor l.kind).target? d.working ≠ some m ∧
          m ∉ (c.locations.pathFor l.kind).way d.working) →
        (∀ f, c.stored? l d = some (.error f) → d.tree.node? m = none →
          ¬ IsTemporary (c.locations.pathFor l.kind).name m) →
        u.node? m = d.tree.node? m := by
  cases h : c.stored? l d with
  | none =>
    rw [persistList_of_stored_none h]
    exact ⟨d.tree, d.calls, rfl, fun _ hm => hm, fun _ _ _ => rfl⟩
  | some r =>
    have told : ∀ e, r ≠ .error (.escaped e) := fun e same => contained e (same ▸ h)
    obtain ⟨-, disk, ended⟩ := persistList_of_stored h told written
    obtain ⟨u, calls, hd, kept, same⟩ := store_keeps proper working (c.learned l).names
    refine ⟨u, calls, disk.trans hd, kept, fun m apart free => ?_⟩
    obtain ⟨different, notPassed⟩ := apart (Option.some_ne_none r)
    refine same m different notPassed fun missing isTemp => ?_
    rw [ended]
    cases r with
    | ok u => rfl
    | error f => exact absurd isTemp (free f rfl missing)

theorem persistList_result (contained : ∀ e, c.stored? l d ≠ some (.error (.escaped e)))
    (written : List Kind) : (c.persistList l written d).result =
      .ok (if (c.stored? l d).any Except.isOk then written ++ [l.kind] else written) := by
  cases h : c.stored? l d with
  | none => rw [persistList_of_stored_none h, if_neg (by simp)]
  | some r =>
    have told : ∀ e, r ≠ .error (.escaped e) := fun e same => contained e (same ▸ h)
    obtain ⟨result, -⟩ := persistList_of_stored h told written
    simpa using result

end OneList

/-! ## Both lists -/

section BothLists

variable {c : Classifier} {d : Disk}

/-- The disk between the two lists. -/
def between (c : Classifier) (d : Disk) : Disk := (c.persistList .blocked [] d).disk

/-- A failure of the first list that is reported does not keep the second one from being tried. -/
theorem attempt?_direct (contained : ∀ e, c.attempt? d .blocked ≠ some (.error (.escaped e))) :
    c.attempt? d .direct = c.stored? .direct (c.between d) := by
  have result := persistList_result (l := .blocked) contained []
  simp only [attempt?, reached?, between]
  cases hb : c.persistList .blocked [] d with
  | mk r c' d' messages =>
    rw [hb] at result
    dsimp only at result
    subst result
    rfl

/-- A list is tried if it is marked and updated at all. -/
theorem isSome_attempt? (contained : ∀ e, c.attempt? d .blocked ≠ some (.error (.escaped e)))
    (l : Learned) : (c.attempt? d l).isSome = (c.isChanged l && c.isUpdated l) := by
  cases l with
  | blocked => exact isSome_stored? c d .blocked
  | direct => rw [attempt?_direct contained, isSome_stored?]

/-- The second list goes as if nothing had been done about the first one but on the disk. -/
theorem stored?_direct_after (e : Disk) :
    (c.persistList .blocked [] d).classifier.stored? .direct e = c.stored? .direct e := by
  rw [persistList_classifier]
  rfl

theorem persist_parts (contained : ∀ e, c.attempt? d .blocked ≠ some (.error (.escaped e))) :
    ∃ first : List Kind, (c.persistList .blocked [] d).result = .ok first ∧
      (c.persist d).result = ((c.persistList .blocked [] d).classifier.persistList .direct first
        (c.between d)).result ∧
      (c.persist d).disk = ((c.persistList .blocked [] d).classifier.persistList .direct first
        (c.between d)).disk := by
  have result := persistList_result (l := .blocked) contained []
  refine ⟨_, result, ?_⟩
  unfold persist between
  cases hb : c.persistList .blocked [] d with
  | mk r c' d' messages =>
    rw [hb] at result
    dsimp only at result
    subst result
    exact ⟨rfl, rfl⟩

/-- Persisting tells of the lists that were written, blocked names first. -/
theorem result_persist (contained : c.Contained d) : (c.persist d).result =
    .ok (([.blocked, .direct].filter (c.writes d)).map Learned.kind) := by
  have direct := attempt?_direct (contained .blocked)
  obtain ⟨first, told, result, -⟩ := persist_parts (contained .blocked)
  obtain rfl := Except.ok.inj (told.symm.trans (persistList_result (contained .blocked) []))
  have blocked : (c.stored? .blocked d).any Except.isOk = c.writes d .blocked := rfl
  have after : ((c.persistList .blocked [] d).classifier.stored? .direct (c.between d)) =
      c.attempt? d .direct := by
    rw [stored?_direct_after, direct]
  rw [result, persistList_result fun e => after ▸ contained .direct e, after, blocked]
  simp only [List.filter_cons, List.filter_nil]
  unfold writes
  cases (c.attempt? d .blocked).any Except.isOk <;>
    cases (c.attempt? d .direct).any Except.isOk <;> rfl

/-- The marks of the lists that were written go; nothing else changes in memory. -/
theorem persist_unmarks (contained : c.Contained d) : (c.persist d).classifier =
    { c with
      blockedChanged := c.blockedChanged && !c.writes d .blocked
      directChanged := c.directChanged && !c.writes d .direct } := by
  have mark (l : Learned) : markAfter (c.isChanged l) (c.attempt? d l) =
      (c.isChanged l && !c.writes d l) := by
    unfold writes
    cases attempt : c.attempt? d l with
    | none => exact (Bool.and_true _).symm
    | some r =>
      rw [isChanged_of_attempt attempt]
      cases r with
      | ok u => rfl
      | error f =>
        cases f with
        | escaped e => exact absurd attempt (contained l e)
        | _ => rfl
  have blocked := mark .blocked
  have direct := mark .direct
  simp only [isChanged] at blocked direct
  rw [persist_classifier, blocked, direct]
  rfl

/-- A mark stays unless the list was written. -/
theorem isChanged_persist_of_contained (contained : c.Contained d) (l : Learned) :
    (c.persist d).classifier.isChanged l = (c.isChanged l && !c.writes d l) := by
  rw [persist_unmarks contained]
  cases l <;> rfl

/-! ## Files -/

/-- A free name at which a list that could not be written may have left its temporary file. -/
def MayLeave (c : Classifier) (d : Disk) (m : Location) : Prop :=
  d.tree.node? m = none ∧ ∃ a f, c.attempt? d a = some (.error f) ∧
    IsTemporary (c.locations.pathFor a.kind).name m

/-- Persisting does not touch a list that it does not try to write. -/
def Untouched (c : Classifier) (d : Disk) (k : Kind) : Prop :=
  ∀ m, (c.locations.pathFor k).target? d.working = some m → ¬ c.MayLeave d m →
    (c.persist d).disk.tree.node? m = d.tree.node? m

/-- Trying to write a list keeps all directories, and all files of lists but its own; it may leave a
temporary file where there was none, if it fails. -/
structure Touches (c : Classifier) (d : Disk) (a : Learned) (t u : Tree) : Prop where
  kept : t.KeepsDirectories u
  others : ∀ k m, (c.locations.pathFor k).target? d.working = some m →
    (k = a.kind → c.attempt? d a = none) →
    (∀ f, c.attempt? d a = some (.error f) → t.node? m = none →
      ¬ IsTemporary (c.locations.pathFor a.kind).name m) →
    u.node? m = t.node? m

theorem touches_of_persistList (working : d.HasWorking) (separate : Separate c.locations d.working)
    (contained : c.Contained d) {c' : Classifier} {t : Tree} {calls : List Call} {a : Learned}
    (attempt : c.attempt? d a = c'.stored? a { d with tree := t, calls })
    (located : c'.locations = c.locations) (written : List Kind) :
    ∃ u calls', (c'.persistList a written { d with tree := t, calls }).disk =
        { d with tree := u, calls := calls' } ∧ Touches c d a t u := by
  have contained : ∀ e, c'.stored? a { d with tree := t, calls } ≠ some (.error (.escaped e)) :=
    fun e => attempt ▸ contained a e
  have working' : ({ d with tree := t, calls } : Disk).HasWorking := working
  obtain ⟨u, calls', disk, kept, same⟩ := persistList_keeps working'
    (by rw [located]; exact separate.proper a) contained written
  rw [located, ← attempt] at same
  refine ⟨u, calls', disk, kept, fun k m target untried free => same m (fun tried => ?_) free⟩
  have other : k ≠ a.kind := fun own => tried (untried own)
  exact separate.apart k a other m target

/-- Persisting tries to write one list after the other. -/
theorem persist_touches (working : d.HasWorking) (separate : Separate c.locations d.working)
    (contained : c.Contained d) :
    ∃ u calls v calls', c.between d = { d with tree := u, calls } ∧
      (c.persist d).disk = { d with tree := v, calls := calls' } ∧
      Touches c d .blocked d.tree u ∧ Touches c d .direct u v := by
  obtain ⟨first, -, -, disk⟩ := persist_parts (contained .blocked)
  have blocked : c.attempt? d .blocked =
      c.stored? .blocked { d with tree := d.tree, calls := d.calls } := rfl
  obtain ⟨u, calls, between, touches⟩ :=
    touches_of_persistList working separate contained blocked rfl []
  have direct := attempt?_direct (contained .blocked)
  have located : (c.persistList .blocked [] d).classifier.locations = c.locations := by
    rw [persistList_classifier]
    rfl
  have between : c.between d = { d with tree := u, calls } := between
  rw [between] at disk direct
  rw [← stored?_direct_after (c := c) (d := d)] at direct
  obtain ⟨v, calls', after, touches'⟩ :=
    touches_of_persistList working separate contained direct located first
  exact ⟨u, calls, v, calls', between, disk.trans after, touches, touches'⟩

/-- A list that is not tried is left as it was. -/
theorem persist_untouched (working : d.HasWorking) (separate : Separate c.locations d.working)
    (contained : c.Contained d) {k : Kind}
    (untried : ∀ a : Learned, a.kind = k → c.attempt? d a = none) : c.Untouched d k := by
  intro m target free
  obtain ⟨u, calls, v, calls', -, disk, first, second⟩ := persist_touches working separate contained
  have kept : u.node? m = d.tree.node? m :=
    first.others k m target (fun own => untried .blocked own.symm)
      fun f failed missing isTemp => free ⟨missing, .blocked, f, failed, isTemp⟩
  rw [disk, ← kept]
  refine second.others k m target (fun own => untried .direct own.symm) ?_
  intro f failed missing isTemp
  exact free ⟨kept ▸ missing, .direct, f, failed, isTemp⟩

/-- The file of a list that was written has the names of the list. -/
theorem content_of_writes (working : d.HasWorking) (separate : Separate c.locations d.working)
    (contained : c.Contained d) {l : Learned} (written : c.writes d l = true) :
    ∃ content, encode (c.learned l).names = .ok content ∧
      (c.persist d).disk.content (c.locations.pathFor l.kind) = .ok content := by
  have attempt := writes_eq_true.1 written
  obtain ⟨u, calls, v, calls', between, disk, -, second⟩ :=
    persist_touches working separate contained
  cases l with
  | blocked =>
    obtain ⟨-, stored, done⟩ := persistList_of_stored attempt nofun []
    obtain ⟨m, content, encoded, leads, there⟩ :=
      leadsTo_of_store (separate.proper .blocked) working done
    rw [← stored] at leads there
    have between' : (c.persistList .blocked [] d).disk = { d with tree := u, calls } := between
    rw [between'] at leads there
    -- the second list does not touch the file of the first
    have target := leads
    obtain ⟨-, -, target, -⟩ := target
    have kept : v.node? m = u.node? m := second.others .blocked m target nofun fun f _ missing => by
      rw [there] at missing
      cases missing
    refine ⟨content, encoded, ?_⟩
    rw [disk]
    exact (leads.keeps second.kept calls').content (kept.trans there)
  | direct =>
    have direct := attempt?_direct (contained .blocked)
    rw [attempt, ← stored?_direct_after (c := c) (d := d)] at direct
    obtain ⟨first, -, -, after⟩ := persist_parts (contained .blocked)
    obtain ⟨-, stored, done⟩ := persistList_of_stored direct.symm nofun first
    have working' : (c.between d).HasWorking := by
      rw [between]
      exact working
    rw [persistList_classifier] at stored done
    rw [after, persistList_classifier, stored]
    exact content_of_store (separate.proper .direct) working' done

end BothLists

/-! ## All of it -/

/-- What persisting does: it tries exactly the lists that are marked and updated and tells which it
wrote; it takes away their marks and changes nothing else in memory; the files of the lists that it
wrote have their names, and no other list is touched but one that it tried in vain. Persisting again
tries exactly what failed. -/
structure PersistsExactly (c : Classifier) (d : Disk) : Prop where
  tried : ∀ l, (c.attempt? d l).isSome = (c.isChanged l && c.isUpdated l)
  result : (c.persist d).result =
    .ok (([.blocked, .direct].filter (c.writes d)).map Learned.kind)
  classifier : (c.persist d).classifier =
    { c with
      blockedChanged := c.blockedChanged && !c.writes d .blocked
      directChanged := c.directChanged && !c.writes d .direct }
  written : ∀ l, c.writes d l = true → ∃ content, encode (c.learned l).names = .ok content ∧
    (c.persist d).disk.content (c.locations.pathFor l.kind) = .ok content
  untouched : ∀ k, (∀ a : Learned, a.kind = k → (c.isChanged a && c.isUpdated a) = false) →
    c.Untouched d k
  again : (c.persist d).classifier.Contained (c.persist d).disk →
    ∀ l, ((c.persist d).classifier.attempt? (c.persist d).disk l).isSome =
      ((c.attempt? d l).isSome && !c.writes d l)

/-- Whatever is refused on the way, persisting does exactly what it has to do if the lists are
different files and every failure to write one is reported. -/
theorem persist_exactly {c : Classifier} {d : Disk} (working : d.HasWorking)
    (separate : Separate c.locations d.working) (contained : c.Contained d) :
    c.PersistsExactly d where
  tried := isSome_attempt? (contained .blocked)
  result := result_persist contained
  classifier := persist_unmarks contained
  written := fun _ => content_of_writes working separate contained
  untouched := by
    intro k idle
    refine persist_untouched working separate contained fun a own => ?_
    rw [← Option.not_isSome_iff_eq_none, isSome_attempt? (contained .blocked), idle a own]
    exact Bool.false_ne_true
  again := by
    intro contained' l
    have updated : (c.persist d).classifier.isUpdated l = c.isUpdated l := by
      rw [persist_unmarks contained]
      cases l <;> rfl
    rw [isSome_attempt? (contained' .blocked), isSome_attempt? (contained .blocked),
      isChanged_persist_of_contained contained, updated, Bool.and_right_comm]

/-- Both lists are to be written and the disk is busy once: the first list fails, the second does
not, and persisting again writes the first one. -/
theorem persist_exactly_busy :
    let busy := diskOf "old.org" [⟨.synchronise, ⟨false, "busy"⟩, some 1, none⟩]
    let start : Session := { Session.onEmptyDisk (.inside (.ofText "/lists")) with disk := busy }
    let s := start.run [.recordBlocked { host := "a.com", domain := "a.com" },
      .recordDirect { host := "b.com", domain := "b.com" }]
    let r := s.classifier.persist s.disk
    r.result = .ok [.direct] ∧ r.classifier.isChanged .blocked = true ∧
      r.classifier.isChanged .direct = false ∧
      (∃ content, encode (s.classifier.learned .direct).names = .ok content ∧
        r.disk.content (s.classifier.locations.pathFor .direct) = .ok content) ∧
      (r.classifier.attempt? r.disk .blocked).isSome = true ∧
      (r.classifier.attempt? r.disk .direct).isSome = false := by
  intro busy start s r
  have located : s.classifier.locations = .inside (.ofText "/lists") := by decide +kernel
  have working : s.disk.HasWorking := by decide +kernel
  have files : OwnFiles s.classifier.locations s.disk := by
    rw [located]
    exact ownFiles_lists (by decide +kernel) fun k calls => rfl
  have sendable (a : Learned) : (s.classifier.locations.pathFor a.kind).Sendable := by
    rw [located]
    cases a <;> decide +kernel
  have contained := contained_of_sendable working (fun a => files.proper a.kind) sendable
  have main : s.classifier.PersistsExactly s.disk :=
    persist_exactly working files.separate contained
  have blocked : s.classifier.writes s.disk .blocked = false := by decide +kernel
  have direct : s.classifier.writes s.disk .direct = true := by decide +kernel
  have result := main.result
  rw [List.filter_cons, blocked, List.filter_cons, direct] at result
  have marked : s.classifier.isChanged .blocked = true := by decide +kernel
  have located' : r.classifier.locations = .inside (.ofText "/lists") := by decide +kernel
  have proper (a : Learned) : (r.classifier.locations.pathFor a.kind).Proper := by
    rw [located', ← located]
    exact files.proper a.kind
  have contained' : r.classifier.Contained r.disk :=
    contained_of_sendable (by decide +kernel) proper fun a => by
      rw [located', ← located]
      exact sendable a
  have again := main.again contained'
  refine ⟨result, ?_, ?_, main.written .direct direct, ?_, ?_⟩
  · rw [isChanged_persist_of_contained contained, marked, blocked]
    rfl
  · rw [isChanged_persist_of_contained contained, direct, Bool.not_true, Bool.and_false]
  · rw [again, blocked, main.tried]
    decide +kernel
  · rw [again, direct, Bool.not_true, Bool.and_false]

end Detour.Classifier
