import Detour.Proofs.Classifier.Consistency
import Detour.Proofs.DomainList.Contents

/-!
# What persisting does to the marks

A mark is taken away before the list is written. It comes back if the write is reported to have
failed, and only then: a fault that escapes leaves a list unmarked that was not written, and nothing
tries to write it again. Only a path that cannot be handed to the file system makes faults escape.

## Main statements

* `Classifier.persist_classifier` — persisting changes the marks alone, by how storing ended.
* `Classifier.persist_keepsUnwritten_iff` — when no unwritten list loses its mark.
-/
namespace Detour

open DomainList Files Text

namespace Classifier

/-- How storing a list on a disk ends; none if it is not marked or not updated at all. -/
def stored? (c : Classifier) (l : Learned) (d : Disk) : Option (Except DomainList.Fault Unit) :=
  if c.isChanged l && c.isUpdated l then
    some (DomainList.store (c.locations.pathFor l.kind) (c.learned l).names d).1
  else none

/-- The disk on which persisting comes to a list; none if it ends before. -/
def reached? (c : Classifier) (d : Disk) : Learned → Option Disk
  | .blocked => some d
  | .direct =>
    match c.persistList .blocked [] d with
    | ⟨.ok _, _, d, _⟩ => some d
    | ⟨.error _, _, _, _⟩ => none

/-- How storing a list ends while persisting; none if nothing is stored. -/
def attempt? (c : Classifier) (d : Disk) (l : Learned) : Option (Except DomainList.Fault Unit) :=
  (c.reached? d l).bind (c.stored? l)

/-- Persisting lets no marked list look clean without having written it. -/
def KeepsUnwritten (c : Classifier) (d : Disk) : Prop :=
  ∀ l, c.isChanged l = true → c.attempt? d l ≠ some (.ok ()) →
    (c.persist d).classifier.isChanged l = true

/-- The mark of a list after it was stored or not. -/
def markAfter (changed : Bool) : Option (Except DomainList.Fault Unit) → Bool
  | none => changed
  | some (.ok ()) => false
  | some (.error f) => f.isReported

section Marks

variable (c : Classifier) (d : Disk)

theorem mark_isChanged (l : Learned) : c.mark (c.isChanged l) l = c := by
  cases l <;> rfl

/-- Storing a list changes its mark alone. -/
theorem persistList_classifier (l : Learned) (written : List Kind) :
    (c.persistList l written d).classifier =
      c.mark (markAfter (c.isChanged l) (c.stored? l d)) l := by
  have stored : c.isUpdated l = true →
      (c.storeList l d).classifier = c.mark (markAfter (c.isChanged l) (c.stored? l d)) l := by
    intro updated
    cases c.storeList_cases l d with
    | unchanged unmarked _ classifier =>
      simp only [classifier, stored?, unmarked, Bool.false_and, Bool.false_eq_true, if_false,
        markAfter]
      rw [← unmarked, mark_isChanged]
    | stored marked _ done _ classifier =>
      simp only [classifier, stored?, marked, updated, Bool.and_self, if_true, done, markAfter]
    | reported marked _ failed told _ classifier =>
      simp only [classifier, stored?, marked, updated, Bool.and_self, if_true, failed, markAfter,
        told]
      rw [← marked, mark_isChanged]
    | escaped marked _ failed untold _ classifier =>
      simp only [classifier, stored?, marked, updated, Bool.and_self, if_true, failed, markAfter,
        untold]
  unfold persistList
  split
  · next updated =>
    rw [Bool.not_eq_true'] at updated
    simp only [stored?, updated, Bool.and_false, Bool.false_eq_true, if_false, markAfter,
      mark_isChanged]
  · next updated =>
    rw [Bool.not_eq_true, Bool.not_eq_false'] at updated
    have stored := stored updated
    split <;> next hs => simpa only [hs] using stored

/-- Persisting changes the marks alone, each by how storing its list ended. -/
theorem persist_classifier :
    (c.persist d).classifier =
      (c.mark (markAfter c.blockedChanged (c.attempt? d .blocked)) .blocked).mark
        (markAfter c.directChanged (c.attempt? d .direct)) .direct := by
  have first := c.persistList_classifier d .blocked []
  unfold persist
  split
  · next hb =>
    rw [hb] at first
    simp only [attempt?, reached?, hb, Option.bind_some, Option.bind_none, markAfter]
    exact first
  · next written c' d' m hb =>
    rw [hb] at first
    have second := c'.persistList_classifier d' .direct written
    simp only [attempt?, reached?, hb, Option.bind_some]
    dsimp only at first
    subst first
    exact second

/-- The mark of a list after persisting. -/
theorem isChanged_persist (l : Learned) :
    (c.persist d).classifier.isChanged l = markAfter (c.isChanged l) (c.attempt? d l) := by
  rw [persist_classifier]
  cases l <;> rfl

end Marks

section Escaping

variable {c : Classifier} {d : Disk}

theorem isChanged_of_attempt {l : Learned} {r : Except DomainList.Fault Unit}
    (h : c.attempt? d l = some r) : c.isChanged l = true := by
  obtain ⟨e, -, h⟩ := Option.bind_eq_some_iff.1 h
  unfold stored? at h
  split at h
  · next marked => exact (Bool.and_eq_true_iff.1 marked).1
  · cases h

theorem persistList_working (working : d.HasWorking) {l : Learned}
    (proper : (c.locations.pathFor l.kind).Proper) (written : List Kind) :
    (c.persistList l written d).disk.HasWorking := by
  have stored (c' : Classifier) (d' : Disk) (h : c'.locations = c.locations ∧ d'.HasWorking) :
      (c'.storeList l d').classifier.locations = c.locations ∧
        (c'.storeList l d').disk.HasWorking := by
    obtain ⟨located, working⟩ := h
    refine ⟨(c'.storeList_sameLists l d').locations.trans located, ?_⟩
    rcases c'.storeList_disk l d' with disk | disk
    · rwa [disk]
    · rw [located] at disk
      obtain ⟨u, calls, hu, -, -⟩ := store_spares proper working (c'.learned l).names
      rw [disk, hu]
      exact working
  exact (persistList_preserves (P := fun c' d' => c'.locations = c.locations ∧ d'.HasWorking)
    stored ⟨rfl, working⟩ written).2

/-- A fault only escapes from a path that cannot be handed to the file system. -/
theorem not_sendable_of_attempt (working : d.HasWorking)
    (proper : ∀ l : Learned, (c.locations.pathFor l.kind).Proper) {l : Learned} {e : Files.Fault}
    (escaped : c.attempt? d l = some (.error (.escaped e))) :
    ¬ (c.locations.pathFor l.kind).Sendable := by
  intro sendable
  obtain ⟨d', reached, stored⟩ := Option.bind_eq_some_iff.1 escaped
  have working' : d'.HasWorking := by
    cases l with
    | blocked =>
      obtain rfl := Option.some.inj reached
      exact working
    | direct =>
      have first := c.persistList_working working (proper .blocked) []
      simp only [reached?] at reached
      split at reached
      · next hb =>
        obtain rfl := Option.some.inj reached
        rwa [hb] at first
      · cases reached
  unfold stored? at stored
  split at stored
  · have told := isReported_of_store (proper l) sendable working' (Option.some.inj stored)
    cases told
  · cases stored

end Escaping

/-- Persisting keeps the mark of every marked list that it does not write, exactly if no fault
escapes. The paths alone can make that happen: a fault that escapes comes from a path that has a
null or no octets at all. -/
theorem persist_keepsUnwritten_iff (c : Classifier) (d : Disk) :
    (c.KeepsUnwritten d ↔ ∀ l e, c.attempt? d l ≠ some (.error (.escaped e))) ∧
    (d.HasWorking → (∀ l : Learned, (c.locations.pathFor l.kind).Proper) →
      ∀ l e, c.attempt? d l = some (.error (.escaped e)) →
        ¬ (c.locations.pathFor l.kind).Sendable) := by
  refine ⟨⟨fun keeps l e escaped => ?_, fun contained l marked unwritten => ?_⟩,
    fun working proper l e => not_sendable_of_attempt working proper⟩
  · have kept := keeps l (isChanged_of_attempt escaped) (by simp [escaped])
    rw [isChanged_persist, escaped] at kept
    cases kept
  · rw [isChanged_persist, marked]
    cases attempt : c.attempt? d l with
    | none => rfl
    | some r =>
      cases r with
      | ok u => exact absurd attempt unwritten
      | error f =>
        cases f with
        | escaped e => exact absurd attempt (contained l e)
        | _ => rfl

end Classifier

namespace Session

/-- A disk that never gets a file written: the mark stays, attempt after attempt. -/
theorem persist_keepsUnwritten_full :
    let t : Target := { host := "www.example.com", domain := "example.com" }
    let full := diskOf "old.org" [⟨.synchronise, ⟨false, "full"⟩, none, none⟩]
    let start : Session := { onEmptyDisk (.inside (.ofText "/lists")) with disk := full }
    let s := start.run [.recordBlocked t, .persist]
    s.disk.HasWorking ∧ (∀ l : Classifier.Learned, (s.classifier.locations.pathFor l.kind).Proper) ∧
      s.classifier.KeepsUnwritten s.disk ∧ s.classifier.isChanged .blocked = true ∧
      s.classifier.attempt? s.disk .blocked ≠ some (.ok ()) := by
  intro t full start s
  have working : s.disk.HasWorking := by decide +kernel
  have located : s.classifier.locations = .inside (.ofText "/lists") := by decide +kernel
  have directory : (Path.ofText "/lists").Proper := Path.proper_ofText (by decide)
  have proper (l : Classifier.Learned) : (s.classifier.locations.pathFor l.kind).Proper := by
    have part : Path.IsPart l.kind.name := by
      cases l <;> exact ⟨by decide, by decide, by decide, by decide⟩
    rw [located]
    cases l <;> exact directory.child part
  have sendable (l : Classifier.Learned) : (s.classifier.locations.pathFor l.kind).Sendable := by
    rw [located]
    cases l <;> decide +kernel
  have iff := Classifier.persist_keepsUnwritten_iff s.classifier s.disk
  have keeps : s.classifier.KeepsUnwritten s.disk :=
    iff.1.2 fun l e escaped => iff.2 working proper l e escaped (sendable l)
  exact ⟨working, proper, keeps, by decide +kernel, by decide +kernel⟩

/-- A list whose path has a null is not written, and looks clean: the next attempt is none. -/
theorem persist_forgets_null :
    let t : Target := { host := "www.example.com", domain := "example.com" }
    let locations := { Locations.inside (.ofText "/lists") with
      blocked := .ofText (ofString "/lists/a" ++ [0]) }
    let s := (onEmptyDisk locations).run [.recordBlocked t]
    let p := s.classifier.persist s.disk
    s.classifier.isChanged .blocked = true ∧ p.result = .error (.escaped .nullOctet) ∧
      p.classifier.isChanged .blocked = false ∧ ofString "example.com" ∈ p.classifier.blocked ∧
      ¬ s.classifier.KeepsUnwritten s.disk ∧
      (p.classifier.persist p.disk).result = .ok [] := by
  intro t locations s p
  have marked : s.classifier.isChanged .blocked = true := by decide +kernel
  have unwritten : s.classifier.attempt? s.disk .blocked ≠ some (.ok ()) := by decide +kernel
  have clean : p.classifier.isChanged .blocked = false := by decide +kernel
  refine ⟨marked, by decide +kernel, clean, by decide +kernel, fun keeps => ?_, by decide +kernel⟩
  have kept := keeps .blocked marked unwritten
  rw [clean] at kept
  cases kept

end Session
end Detour
