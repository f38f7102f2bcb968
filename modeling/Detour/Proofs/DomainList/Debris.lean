import Detour.Proofs.DomainList.AtomicStore

/-!
# What storing a list leaves behind

However storing a list ends, the temporary file for it is renamed to the list or discarded. So
unless discarding is refused, no file but the list differs from what it was before.

## Main statements

* `DomainList.Pending.fill_error` — filling a temporary file that fails leaves it where it was.
* `DomainList.store_frame` — what storing changes.
* `DomainList.store_leavesNoDebris` — no temporary file is left, and no other file is changed.
-/
namespace Detour

open Text Utf8 Files

namespace Files.Disk

/-- No call to discard a temporary file is refused. -/
def Discards (d : Disk) : Prop :=
  ∀ arguments calls, d.refuses (⟨.discard, arguments⟩ :: calls) = none

theorem discards_under (d : Disk) {rules : List Rule} (h : ∀ r ∈ rules, r.operation ≠ .discard) :
    (d.under rules).Discards := by
  intro arguments calls
  have none : rules.find? (fun r => r.refusesLast (⟨.discard, arguments⟩ :: calls)) = none := by
    rw [List.find?_eq_none]
    intro r hr
    simp [Rule.refusesLast, Rule.fits, h r hr]
  simp [under, Rule.decision, none]

end Files.Disk

namespace DomainList

open Disk

/-- A temporary file that has not got its place yet: its path leads to it. -/
structure Pending (q : Path) (temp : Location) (d : Disk) : Prop where
  proper : q.Proper
  leads : LeadsTo q d temp
  file : ∃ content, d.tree.node? temp = some (.file content)

section Pending

variable {path q : Path} {temp : Location} {d e : Disk}

/-- A temporary file is not moved by anything that keeps directories and leaves a file there. -/
theorem Pending.keeps (h : Pending q temp d) {u : Tree} (kept : d.tree.KeepsDirectories u)
    {content : Octets} (file : u.node? temp = some (.file content)) (calls : List Call) :
    Pending q temp { d with tree := u, calls } :=
  ⟨h.proper, h.leads.keeps kept calls, content, file⟩

theorem Pending.notDirectory (h : Pending q temp d) {l : Location}
    (hl : d.tree.node? l = some .directory) : l ≠ temp := by
  obtain ⟨content, file⟩ := h.file
  rintro rfl
  simp [file] at hl

/-- Discarding a temporary file removes it. -/
theorem Pending.discard (h : Pending q temp d) (allowed : d.refusal? .discard [q.text] = none) :
    (d.discard q.text).2.tree.node? temp = none := by
  obtain ⟨place, hl, target, rfl⟩ := h.leads
  obtain ⟨content, file⟩ := h.file
  obtain ⟨parent, entry, -⟩ := Path.exists_entry_of_target? target
  obtain rfl := (h.proper.locate_eq_ok hl).2.trans entry
  have done : d.discard q.text = _ := attempt_removeEntry_eq_ok allowed hl file
  rw [done]
  exact Tree.node?_erase_self (Tree.ne_nil_of_file file)

/-- Replacing a list that fails leaves the temporary file where it was. -/
theorem Pending.replace_error (h : Pending q temp d) (proper : path.Proper)
    (apart : path.target? d.working ≠ some temp) {f : Files.Fault}
    (failed : replace q.text path d = (.error f, e)) :
    Pending q temp e ∧ e.refuses = d.refuses := by
  obtain ⟨place, hl, target, rfl⟩ := h.leads
  obtain ⟨content, file⟩ := h.file
  rcases replace_cases proper hl file apart with
    ⟨u, calls, l, hr, -⟩ | ⟨f, calls, hr, -⟩ | ⟨f, l, old, calls, hr, ⟨-, -, other, -⟩, there, -⟩
  · rw [hr] at failed
    cases failed
  · rw [hr] at failed
    cases failed
    exact ⟨h.keeps (fun _ hm => hm) file calls, rfl⟩
  · rw [hr] at failed
    cases failed
    have different : place.location ≠ l := by
      rintro rfl
      exact apart other
    have kept : (d.tree.erase l).node? place.location = some (.file content) := by
      rw [Tree.node?_erase_of_ne different, file]
    exact ⟨h.keeps (Tree.keepsDirectories_erase (by simp [there])) kept calls, rfl⟩

/-- Filling a temporary file that fails leaves it where it was. -/
theorem Pending.fill_error (h : Pending q temp d) (proper : path.Proper)
    (apart : path.target? d.working ≠ some temp) {names : List Text} {f : Files.Fault}
    (failed : fill q.text path names d = (.error f, e)) :
    Pending q temp e ∧ e.refuses = d.refuses := by
  obtain ⟨place, hl, target, same⟩ := h.leads
  obtain ⟨old, file⟩ := h.file
  rcases fill_cases h.proper ⟨place, hl, same⟩ file path names with
    ⟨f, u, calls, hf, ⟨content, there⟩, others, -⟩ | ⟨content, d₂, -, rfl, -, hf⟩
  · rw [hf] at failed
    cases failed
    exact ⟨h.keeps (fun m hm => (others m (h.notDirectory hm)).trans hm) there calls, rfl⟩
  · rw [hf] at failed
    have there : (d.tree.put temp (.file content)).node? temp = some (.file content) :=
      Tree.node?_put_self (Tree.ne_nil_of_file file)
    have filled : Pending q temp ((d.holding temp content).recording .synchronise []) :=
      h.keeps (Tree.keepsDirectories_put (by simp [file])) there _
    exact filled.replace_error proper apart failed

/-- Once a list could not be stored, its temporary file is gone. -/
theorem Pending.store_error (h : Pending q temp e) (proper : path.Proper)
    (apart : path.target? e.working ≠ some temp) (discards : e.Discards) {names : List Text}
    (prepared : prepare path d = (.ok q.text, e)) {f : Fault}
    (failed : (store path names d).1 = .error f) :
    (store path names d).2.tree.node? temp = none := by
  cases hf : fill q.text path names e with
  | mk r e' =>
    cases r with
    | ok =>
      rw [store_filled prepared hf] at failed
      cases failed
    | error f =>
      obtain ⟨pending, refuses⟩ := h.fill_error proper apart hf
      rw [store_unfilled prepared hf]
      refine pending.discard ?_
      rw [refusal?, refuses]
      exact discards _ _

end Pending

/-! ## Frames -/

section Frames

variable {path : Path} {d : Disk}

/-- Storing a list keeps all directories. Besides its own file it changes nothing but to make the
directory for it, if a free name that is called like a temporary file is free again: it is if
storing succeeds or temporary files can be discarded. -/
theorem store_frame (h : path.Proper) (working : d.HasWorking) (names : List Text) :
    ∃ u calls, (store path names d).2 = { d with tree := u, calls } ∧
      d.tree.KeepsDirectories u ∧
      ∀ l, path.target? d.working ≠ some l →
        (d.tree.node? l = none → IsTemporary path.name l →
          (store path names d).1 = .ok () ∨ d.Discards) →
        u.node? l = d.tree.node? l ∨
          (d.tree.node? l = none ∧ u.node? l = some .directory ∧
            path.parent.Along d.working l) := by
  obtain ⟨made, makes, ⟨f, calls, hp⟩ | ⟨q, temp, calls, hq, isTemp, free, leads, hp⟩⟩ :=
    prepare_cases h working
  · have ends : store path names d = _ := store_unprepared hp
    exact ⟨made, calls, congrArg Prod.snd ends, makes.keepsDirectories, fun l _ _ => makes l⟩
  have put (m : Location) (hm : m ≠ temp) :
      (made.put temp (.file [])).node? m = made.node? m := Tree.node?_put_of_ne hm
  have there : (made.put temp (.file [])).node? temp = some (.file []) :=
    Tree.node?_put_self (Tree.ne_nil_of_node? (t := made) (by simp [free]))
  have added : made.KeepsDirectories (made.put temp (.file [])) :=
    Tree.keepsDirectories_put (by simp [free])
  have apart := isTemp.ne_target d.working
  have pending : Pending q temp { d with tree := made.put temp (.file []), calls } :=
    ⟨hq, leads, [], there⟩
  obtain ⟨u, calls', hd, keeps, ends⟩ := store_prepared h hq hp leads there apart names
  refine ⟨u, calls', hd, makes.keepsDirectories.trans (added.trans keeps), fun l other left => ?_⟩
  by_cases hl : l = temp
  · subst hl
    have before : d.tree.node? l = none := by
      rcases makes l with same | ⟨none, -, -⟩
      · exact same.symm.trans free
      · exact none
    refine .inl (Eq.trans ?_ before.symm)
    -- whatever becomes of the list, the temporary file is gone
    have gone {f : Fault} (failed : (store path names d).1 = .error f) : u.node? l = none := by
      rcases left before isTemp with done | discards
      · rw [failed] at done
        cases done
      · have discarded := pending.store_error h apart discards hp failed
        rwa [hd] at discarded
    cases ends with
    | done _ _ _ _ _ _ gone => exact gone
    | failed result => exact gone result
    | lost result => exact gone result
  · have notTarget {m : Location} (hm : path.target? d.working = some m) : l ≠ m := by
      rintro rfl
      exact other hm
    have same : u.node? l = made.node? l := by
      cases ends with
      | done _ _ _ leads _ same =>
        obtain ⟨-, -, target, -⟩ := leads
        exact (same l hl (notTarget target)).trans (put l hl)
      | failed _ _ same => exact (same l hl).trans (put l hl)
      | lost _ _ target _ _ same => exact (same l hl (notTarget target)).trans (put l hl)
    rw [same]
    exact makes l

end Frames

/-- Where temporary files can be discarded, storing a list leaves none of them behind and changes no
file but the list, whether it succeeds or fails. No directory goes away, and new ones lead to the
list. -/
theorem store_leavesNoDebris {text : Text} (unicode : IsUnicode text) {d : Disk}
    (working : d.HasWorking) (discards : d.Discards) (names : List Text) :
    (∀ l, IsTemporary (Path.ofText text).name l →
      (store (.ofText text) names d).2.tree.file? l = d.tree.file? l) ∧
    (∀ l, (Path.ofText text).target? d.working ≠ some l →
      (store (.ofText text) names d).2.tree.file? l = d.tree.file? l) ∧
    d.tree.KeepsDirectories (store (.ofText text) names d).2.tree ∧
    ∀ l, (Path.ofText text).target? d.working ≠ some l →
      (store (.ofText text) names d).2.tree.node? l = some .directory →
        d.tree.node? l = some .directory ∨ (Path.ofText text).parent.Along d.working l := by
  have proper := Path.proper_ofText unicode
  generalize Path.ofText text = path at proper
  obtain ⟨u, calls, hd, keeps, frame⟩ := store_frame proper working names
  have others (l : Location) (apart : path.target? d.working ≠ some l) :=
    frame l apart fun _ _ => .inr discards
  rw [hd]
  have files (l : Location) (apart : path.target? d.working ≠ some l) :
      u.file? l = d.tree.file? l := by
    rcases others l apart with same | ⟨none, new, -⟩
    · exact Tree.file?_congr same
    · simp [Tree.file?, none, new]
  refine ⟨fun l isTemp => files l (isTemp.ne_target d.working), files, keeps, fun l apart new => ?_⟩
  rcases others l apart with same | ⟨-, -, along⟩
  · exact .inl (same ▸ new)
  · exact .inr along

/-- Where replacing is refused again and again, the list is lost, but no temporary file is left. -/
theorem store_leavesNoDebris_denied :
    (IsUnicode "/lists/blocked" ∧
      (diskOf "old.org" [⟨.replace, ⟨true, "denied"⟩, none, none⟩]).HasWorking ∧
      (diskOf "old.org" [⟨.replace, ⟨true, "denied"⟩, none, none⟩]).Discards) ∧
    IsTemporary "blocked" [octets "lists", octets ".blocked.00000000.tmp"] ∧
    (store (.ofText "/lists/blocked") ["new.org"]
      (diskOf "old.org" [⟨.replace, ⟨true, "denied"⟩, none, none⟩])).2.tree.file?
        [octets "lists", octets ".blocked.00000000.tmp"] = none := by
  have unicode : IsUnicode (ofString "/lists/blocked") := by decide
  have working : (diskOf "old.org" [⟨.replace, ⟨true, "denied"⟩, none, none⟩]).HasWorking := by
    decide
  have discards : (diskOf "old.org" [⟨.replace, ⟨true, "denied"⟩, none, none⟩]).Discards :=
    discards_under _ (by simp)
  have isTemp : IsTemporary "blocked" [octets "lists", octets ".blocked.00000000.tmp"] :=
    ⟨[octets "lists"], 0, by decide +kernel⟩
  obtain ⟨temporary, -⟩ := store_leavesNoDebris unicode working discards ["new.org"]
  refine ⟨⟨unicode, working, discards⟩, isTemp, (temporary _ ?_).trans ?_⟩
  · exact isTemp
  · decide +kernel

/-- Where discarding is refused as well, it stays. -/
example : (store (.ofText "/lists/blocked") ["new.org"] (diskOf "old.org"
    [⟨.replace, ⟨false, "busy"⟩, none, none⟩,
      ⟨.discard, ⟨false, "busy"⟩, none, none⟩])).2.tree.file?
      [octets "lists", octets ".blocked.00000000.tmp"] = some (octets "new.org\n") := by
  decide +kernel

end DomainList
end Detour
