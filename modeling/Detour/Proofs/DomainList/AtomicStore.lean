import Detour.Files.Refusal
import Detour.Proofs.Files.Changes

/-!
# Storing a list in one step

A list is written to a temporary file that then takes the place of the old one, so that a failure
leaves the old list. There is one exception: if replacing the list is refused for lack of
permission, the old list is removed, and if the second attempt is refused as well, the list is gone.

## Main statements

* `DomainList.prepare_cases`, `replace_cases`, `store_cases` — what storing does to the files.
* `DomainList.LosesFile` — how a list gets lost.
* `DomainList.store_allOrNothing_iff` — storing is all or nothing, unless it loses the list.
-/
namespace Detour.DomainList

open Files Text Utf8 Disk

/-- The content of the file that a path names, whether or not the path leads there. -/
def fileAt (path : Path) (d : Disk) : Option Octets :=
  (path.target? d.working).bind d.tree.file?

/-- The path leads to the location of a file or a free name. -/
def LeadsTo (path : Path) (e : Disk) (l : Location) : Prop :=
  ∃ place, e.locate path.text = .ok place ∧ path.target? e.working = some l ∧ place.location = l

theorem leadsTo_of_entry {path : Path} (h : path.Proper) {e : Disk} {p : Location} {n : Octets}
    (hl : e.locate path.text = .ok (.entry p n)) : LeadsTo path e (p ++ [n]) :=
  ⟨_, hl, Path.target?_of_entry (h.locate_eq_ok hl).2.symm, rfl⟩

theorem LeadsTo.keeps {path : Path} {e : Disk} {l : Location} (h : LeadsTo path e l) {u : Tree}
    (kept : e.tree.KeepsDirectories u) (calls : List Call) :
    LeadsTo path { e with tree := u, calls } l := by
  obtain ⟨place, hp, target, same⟩ := h
  exact ⟨place, kept.locate hp, target, same⟩

/-- A location that is called like a temporary file for a name. -/
def IsTemporary (name : Text) (l : Location) : Prop :=
  ∃ parent n, l = parent ++ [octets (temporaryName name n)]

/-- A temporary file has a longer name than the file it is for. -/
theorem IsTemporary.length_le {name : Text} {parent : Location} {n : Octets}
    (h : IsTemporary name (parent ++ [n])) : (octets name).length + 6 ≤ n.length := by
  obtain ⟨other, m, same⟩ := h
  have last := congrArg List.getLast? same
  simp only [List.getLast?_concat, Option.some.injEq] at last
  rw [last]
  exact length_temporaryName name m

/-- A temporary file has a name that starts with a full stop. -/
theorem IsTemporary.head? {name : Text} {parent : Location} {n : Octets}
    (h : IsTemporary name (parent ++ [n])) : n.head? = some 46 := by
  obtain ⟨other, m, same⟩ := h
  have last := congrArg List.getLast? same
  simp only [List.getLast?_concat, Option.some.injEq] at last
  have stop : octets (ofString ".") = [46] := by decide
  rw [last, temporaryName, temporaryStart]
  simp [octets_append, stop]

/-- A temporary file for a path is not what the path names. -/
theorem IsTemporary.ne_target {path : Path} {l : Location} (h : IsTemporary path.name l)
    (working : Location) : path.target? working ≠ some l := by
  intro ht
  obtain ⟨p, -, rfl⟩ := Path.exists_entry_of_target? ht
  have long := h.length_le
  omega

/-- Making ready to store a list adds directories and perhaps an empty temporary file. -/
theorem prepare_cases {path : Path} (h : path.Proper) {d : Disk} (working : d.HasWorking) :
    ∃ made, d.tree.Makes made (path.parent.Along d.working) ∧
      ((∃ f calls, prepare path d = (.error f, { d with tree := made, calls })) ∨
        ∃ q temp calls, q.Proper ∧ IsTemporary path.name temp ∧ made.node? temp = none ∧
          LeadsTo q { d with tree := made.put temp (.file []), calls } temp ∧
          prepare path d =
            (.ok q.text, { d with tree := made.put temp (.file []), calls })) := by
  obtain ⟨made, hd, makes⟩ := d.makeDirectories_makes h.parent
  refine ⟨made, makes, ?_⟩
  unfold prepare
  split
  · next f d' hm =>
    rw [hm] at hd
    subst hd
    exact .inl ⟨f, d.calls, rfl⟩
  · next d' hm =>
    rw [hm] at hd
    subst hd
    have working' : HasWorking { d with tree := made } := working
    rcases createTemporary_cases h working' with ⟨f, hc⟩ | ⟨n, parent, hl, free, hc⟩
    · exact .inl ⟨f, _, hc⟩
    · have proper := working'.temporaryPath h n
      exact .inr ⟨_, _, _, proper, ⟨parent, n, rfl⟩, free,
        (leadsTo_of_entry proper hl).keeps (Tree.keepsDirectories_put (by simp [free])) _, hc⟩

/-- The second tree is the first with a file moved to a location. -/
structure Moved (t u : Tree) (source target : Location) (content : Octets) : Prop where
  there : u.node? target = some (.file content)
  gone : u.node? source = none
  other : ∀ l, l ≠ source → l ≠ target → u.node? l = t.node? l

theorem moved_put {t : Tree} {source target : Location} {content : Octets}
    (file : t.node? source = some (.file content)) (free : t.node? target ≠ some .directory)
    (apart : source ≠ target) :
    Moved t ((t.erase source).put target (.file content)) source target content := by
  refine ⟨Tree.node?_put_self (Tree.ne_nil_of_node? free), ?_, fun l hls hlt => ?_⟩
  · rw [Tree.node?_put_of_ne apart, Tree.node?_erase_self (Tree.ne_nil_of_file file)]
  · rw [Tree.node?_put_of_ne hlt, Tree.node?_erase_of_ne hls]

section Replacing

variable {path : Path} {temporary : Text} {e : Disk} {content : Octets}

/-- Renaming a temporary file to a path either moves it there or changes nothing. -/
theorem rename_temporary_cases (h : path.Proper) {place : Place}
    (hs : e.locate temporary = .ok place)
    (file : e.tree.node? place.location = some (.file content))
    (apart : path.target? e.working ≠ some place.location) :
    (∃ f, e.rename temporary path.text =
      (.error f, e.recording .replace [temporary, path.text])) ∨
    ∃ u l, e.refusal? .replace [temporary, path.text] = none ∧ LeadsTo path e l ∧
      e.tree.node? l ≠ some .directory ∧ Moved e.tree u place.location l content ∧
      e.rename temporary path.text =
        (.ok (), { e.recording .replace [temporary, path.text] with tree := u }) := by
  rcases e.rename_cases temporary path.text with
    hr | ⟨source', p, n, content', allowed, hs', ht, file', free, hr⟩
  · exact .inl hr
  · obtain rfl := Except.ok.inj (hs.symm.trans hs')
    obtain rfl : content = content' := by simpa using file.symm.trans file'
    have leads := leadsTo_of_entry h ht
    have other : place.location ≠ p ++ [n] := by
      intro same
      obtain ⟨-, -, hl, -⟩ := leads
      exact apart (same ▸ hl)
    exact .inr ⟨_, p ++ [n], allowed, leads, free, moved_put file free other, hr⟩

/-- Once the list is removed, the temporary file gets its place unless that is refused. -/
theorem rename_removed_cases (h : path.Proper) {place : Place}
    (hs : e.locate temporary = .ok place)
    (file : e.tree.node? place.location = some (.file content))
    (apart : path.target? e.working ≠ some place.location) {p : Location} {n old : Octets}
    (ht : e.locate path.text = .ok (.entry p n))
    (there : e.tree.node? (p ++ [n]) = some (.file old)) {d : Disk}
    (tree : d.tree = e.tree.erase (p ++ [n])) (working : d.working = e.working) :
    (∃ f, d.rename temporary path.text = (.error f, d.recording .replace [temporary, path.text]) ∧
      d.refusal? .replace [temporary, path.text] ≠ none) ∨
    ∃ u, d.refusal? .replace [temporary, path.text] = none ∧
      Moved e.tree u place.location (p ++ [n]) content ∧
      d.rename temporary path.text =
        (.ok (), { d.recording .replace [temporary, path.text] with tree := u }) := by
  obtain ⟨-, -, target, -⟩ := leadsTo_of_entry h ht
  have other : place.location ≠ p ++ [n] := fun same => apart (same ▸ target)
  have kept : Tree.KeepsDirectories e.tree (e.tree.erase (p ++ [n])) :=
    Tree.keepsDirectories_erase (by simp [there])
  have locate {t : Text} {q : Place} (hp : e.locate t = .ok q) : d.locate t = .ok q := by
    rw [Disk.locate, tree, working]
    exact kept.locate hp
  have file' : d.tree.node? place.location = some (.file content) := by
    rw [tree, Tree.node?_erase_of_ne other, file]
  rcases rename_temporary_cases h (locate hs) file' (working ▸ apart) with
    ⟨f, hr⟩ | ⟨u, l, allowed, ⟨-, -, hl, -⟩, -, moved, hr⟩
  · refine .inl ⟨f, hr, fun allowed => ?_⟩
    have free : d.tree.node? (p ++ [n]) ≠ some .directory := by
      rw [tree, Tree.node?_erase_self (Tree.ne_nil_of_file there)]
      simp
    have done := rename_eq_ok allowed (locate hs) (locate ht) file' free
    rw [hr] at done
    cases done
  · obtain rfl : p ++ [n] = l := by
      rw [working, target] at hl
      exact Option.some.inj hl
    refine .inr ⟨u, allowed, ⟨moved.there, moved.gone, fun m hms hmt => ?_⟩, hr⟩
    rw [moved.other m hms hmt, tree, Tree.node?_erase_of_ne hmt]

/-- The list is removed for a temporary file that does not get its place: the first renaming is
refused for lack of permission, the list can be removed, and the second renaming is refused too. -/
def RemovesInVain (temporary : Text) (path : Path) (e : Disk) : Prop :=
  ∃ refusal d₁ d₂, e.rename temporary path.text = (.error (.refused refusal), d₁) ∧
    refusal.permission = true ∧ d₁.remove path.text = (.ok (), d₂) ∧
    d₂.refusal? .replace [temporary, path.text] ≠ none

theorem exists_of_remove {d d' : Disk} (h : d.remove path.text = (.ok (), d')) :
    d.exists? path = .ok true := by
  rcases d.remove_cases path.text with ⟨f, hm⟩ | ⟨p, n, old, -, ht, there, -⟩
  · rw [hm] at h
    cases h
  · rw [exists?, status, ht]
    simp [Place.location, there]

/-- Replacing a list puts the temporary file in its place, or leaves the files alone, or removes the
list in vain. -/
theorem replace_cases (h : path.Proper) {place : Place}
    (hs : e.locate temporary = .ok place)
    (file : e.tree.node? place.location = some (.file content))
    (apart : path.target? e.working ≠ some place.location) :
    (∃ u calls l, replace temporary path e = (.ok (), { e with tree := u, calls }) ∧
      LeadsTo path e l ∧ e.tree.node? l ≠ some .directory ∧
      Moved e.tree u place.location l content ∧ ¬ RemovesInVain temporary path e) ∨
    (∃ f calls, replace temporary path e = (.error f, { e with calls }) ∧
      ¬ RemovesInVain temporary path e) ∨
    (∃ f l old calls,
      replace temporary path e = (.error f, { e with tree := e.tree.erase l, calls }) ∧
      LeadsTo path e l ∧ e.tree.node? l = some (.file old) ∧ RemovesInVain temporary path e) := by
  unfold replace
  rcases rename_temporary_cases h hs file apart with
    ⟨f, hr⟩ | ⟨u, l, -, leads, free, moved, hr⟩
  swap
  · rw [hr]
    refine .inl ⟨u, _, l, rfl, leads, free, moved, ?_⟩
    rintro ⟨refusal, d₁, d₂, hr', -⟩
    rw [hr] at hr'
    cases hr'
  -- the first renaming failed, so what it left is the disk with one more call
  have removes (hv : RemovesInVain temporary path e) : f.isPermission = true ∧
      ∃ d, (e.recording .replace [temporary, path.text]).remove path.text = (.ok (), d) ∧
        d.refusal? .replace [temporary, path.text] ≠ none := by
    obtain ⟨refusal, d₁, d₂, hr', permission, hm, refused⟩ := hv
    rw [hr] at hr'
    obtain ⟨hf, rfl⟩ := Prod.mk.inj hr'
    rw [Except.error.inj hf]
    exact ⟨permission, d₂, hm, refused⟩
  rw [hr]
  dsimp only
  split
  swap
  · next notPermission =>
    exact .inr (.inl ⟨f, _, rfl, fun hv => notPermission (removes hv).1⟩)
  next permission =>
  rcases (e.recording .replace [temporary, path.text]).remove_cases path.text with
    ⟨f₂, hm⟩ | ⟨p, n, old, -, ht, there, hm⟩
  · have kept : ¬ RemovesInVain temporary path e := by
      intro hv
      obtain ⟨d, hd, -⟩ := (removes hv).2
      rw [hm] at hd
      cases hd
    split
    · exact .inr (.inl ⟨_, _, rfl, kept⟩)
    · exact .inr (.inl ⟨_, _, rfl, kept⟩)
    · rw [hm]
      exact .inr (.inl ⟨f₂, _, rfl, kept⟩)
  rw [exists_of_remove hm]
  dsimp only
  rw [hm]
  have leads := leadsTo_of_entry (e := e) h ht
  rcases rename_removed_cases h hs file apart ht there (d := { (e.recording .replace
      [temporary, path.text]).recording .remove [path.text] with tree := e.tree.erase (p ++ [n]) })
      rfl rfl with ⟨f₃, hr₃, refused⟩ | ⟨u, allowed, moved, hr₃⟩
  · obtain ⟨refusal, rfl, granted⟩ : ∃ r, f = .refused r ∧ r.permission = true := by
      cases f with
      | refused r => exact ⟨r, rfl, permission⟩
      | _ => cases permission
    exact .inr (.inr ⟨f₃, p ++ [n], old, _, hr₃, leads, there, refusal, _, _, hr, granted, hm,
      refused⟩)
  · refine .inl ⟨u, _, p ++ [n], hr₃, leads, ?_, moved, fun hv => ?_⟩
    · rw [show e.tree.node? (p ++ [n]) = some (.file old) from there]
      simp
    · obtain ⟨d, hd, refused⟩ := (removes hv).2
      rw [hm] at hd
      obtain ⟨-, rfl⟩ := Prod.mk.inj hd
      exact refused allowed

end Replacing

/-- The names are written to a temporary file, and have reached the disk. -/
def Fills (temporary : Text) (names : List Text) (e d : Disk) : Prop :=
  ∃ content d', encode names = .ok content ∧
    e.write (.ofText temporary) content = (.ok (), d') ∧ d'.synchronise = (.ok (), d)

/-- Storing a list loses it: all goes well up to replacing it, and then it is removed in vain. -/
def LosesFile (path : Path) (names : List Text) (d : Disk) : Prop :=
  ∃ temporary d₁ d₂, prepare path d = (.ok temporary, d₁) ∧ Fills temporary names d₁ d₂ ∧
    RemovesInVain temporary path d₂

/-- Filling a temporary file fails, or goes on with replacing the list by it. -/
theorem fill_cases {q : Path} (hq : q.Proper) {e : Disk} {l : Location} {old : Octets}
    (hs : ∃ place, e.locate q.text = .ok place ∧ place.location = l)
    (file : e.tree.node? l = some (.file old)) (path : Path) (names : List Text) :
    (∃ f u calls, fill q.text path names e = (.error f, { e with tree := u, calls }) ∧
      (∃ content, u.node? l = some (.file content)) ∧
      (∀ m, m ≠ l → u.node? m = e.tree.node? m) ∧ ∀ d, ¬ Fills q.text names e d) ∨
    ∃ content d, encode names = .ok content ∧
      d = (e.holding l content).recording .synchronise [] ∧
      (∀ d', Fills q.text names e d' ↔ d' = d) ∧
      fill q.text path names e = replace q.text path d := by
  obtain ⟨place, hp, rfl⟩ := hs
  have written := write_eq_ok hp (show e.tree.node? place.location ≠ _ by simp [file])
  have fills (d : Disk) : Fills q.text names e d ↔ ∃ content, encode names = .ok content ∧
      (e.holding place.location content).synchronise = (.ok (), d) := by
    simp only [Fills, Path.ofText_text hq, written, Prod.mk.injEq, true_and]
    exact ⟨fun ⟨c, _, hc, rfl, hd⟩ => ⟨c, hc, hd⟩, fun ⟨c, hc, hd⟩ => ⟨c, _, hc, rfl, hd⟩⟩
  unfold fill
  rw [Path.ofText_text hq]
  cases henc : encode names with
  | error x =>
    refine .inl ⟨_, e.tree, e.calls, rfl, ⟨old, file⟩, fun m _ => rfl, fun d hd => ?_⟩
    simp [fills, henc] at hd
  | ok content =>
    dsimp only
    rw [written]
    dsimp only
    cases hr : (e.holding place.location content).refusal? .synchronise [] with
    | some refusal =>
      have refused := attempt_refused (f := fun d => (.ok (), d)) hr
      have refused : (e.holding place.location content).synchronise = _ := refused
      rw [refused]
      refine .inl ⟨_, _, _, rfl, ⟨content, Tree.node?_put_self (Tree.ne_nil_of_file file)⟩,
        fun m hm => Tree.node?_put_of_ne hm, fun d hd => ?_⟩
      simp [fills, henc, refused] at hd
    | none =>
      have done := attempt_allowed (f := fun d => (.ok (), d)) hr
      have done : (e.holding place.location content).synchronise = _ := done
      rw [done]
      refine .inr ⟨content, _, rfl, rfl, fun d => ?_, rfl⟩
      simp [fills, henc, done, eq_comm]

theorem losesFile_iff {path : Path} {names : List Text} {d e : Disk} {temporary : Text}
    (h : prepare path d = (.ok temporary, e)) :
    LosesFile path names d ↔
      ∃ d', Fills temporary names e d' ∧ RemovesInVain temporary path d' := by
  unfold LosesFile
  simp only [h, Prod.mk.injEq, Except.ok.injEq]
  exact ⟨fun ⟨_, _, d', ⟨rfl, rfl⟩, hd⟩ => ⟨d', hd⟩, fun ⟨d', hd⟩ => ⟨_, _, d', ⟨rfl, rfl⟩, hd⟩⟩

/-- Discarding a temporary file leaves all else alone. -/
theorem discard_other {q : Path} (hq : q.Proper) {d : Disk} {l : Location}
    (target : q.target? d.working = some l) :
    ∃ u calls, (d.discard q.text).2 = { d with tree := u, calls } ∧
      ∀ m, m ≠ l → u.node? m = d.tree.node? m := by
  rcases d.discard_cases q.text with ⟨f, hd⟩ | ⟨p, n, content, -, hl, -, hd⟩
  · rw [hd]
    exact ⟨d.tree, _, rfl, fun m _ => rfl⟩
  · rw [hd]
    obtain ⟨-, -, target', -⟩ := leadsTo_of_entry hq hl
    obtain rfl := Option.some.inj (target.symm.trans target')
    exact ⟨_, _, rfl, fun m hm => Tree.node?_erase_of_ne hm⟩

section Stages

variable {path : Path} {names : List Text} {d e e' : Disk} {temporary : Text} {f : Files.Fault}

theorem store_unprepared (hp : prepare path d = (.error f, e)) :
    store path names d = (.error (if f.isSystem then .noTemporary path f else .escaped f), e) := by
  rw [store, hp]

theorem store_filled (hp : prepare path d = (.ok temporary, e))
    (hf : fill temporary path names e = (.ok (), e')) : store path names d = (.ok (), e') := by
  rw [store, hp]
  dsimp only
  rw [hf]

theorem store_unfilled (hp : prepare path d = (.ok temporary, e))
    (hf : fill temporary path names e = (.error f, e')) :
    store path names d = (.error (.notReplaced path temporary f), (e'.discard temporary).2) := by
  rw [store, hp]
  dsimp only
  rw [hf]

end Stages

/-- How storing names under a path ends, on a disk `e` whose files were those of `t` before the
temporary file was made: the names are in the list, or the list is as it was, or it was removed in
vain. -/
inductive StoreEnd (path : Path) (names : List Text) (d : Disk) (t : Tree) (temp : Location)
    (e : Disk) : Prop
  | done {l : Location} {content : Octets} (result : (store path names d).1 = .ok ())
      (kept : ¬ LosesFile path names d) (encoded : encode names = .ok content)
      (leads : LeadsTo path e l) (there : e.tree.node? l = some (.file content))
      (same : ∀ m, m ≠ temp → m ≠ l → e.tree.node? m = t.node? m)
      (gone : e.tree.node? temp = none)
  | failed {f : Fault} (result : (store path names d).1 = .error f)
      (kept : ¬ LosesFile path names d) (same : ∀ m, m ≠ temp → e.tree.node? m = t.node? m)
  | lost {f : Fault} {l : Location} {old : Octets} (result : (store path names d).1 = .error f)
      (lost : LosesFile path names d) (target : path.target? e.working = some l)
      (there : t.node? l = some (.file old)) (gone : e.tree.node? l = none)
      (same : ∀ m, m ≠ temp → m ≠ l → e.tree.node? m = t.node? m)

/-- What storing does once the temporary file is there. -/
theorem store_prepared {path q : Path} (h : path.Proper) (hq : q.Proper) {d e : Disk}
    (hp : prepare path d = (.ok q.text, e)) {temp : Location} (leads : LeadsTo q e temp)
    (file : e.tree.node? temp = some (.file [])) (apart : path.target? e.working ≠ some temp)
    (names : List Text) :
    ∃ u calls, (store path names d).2 = { e with tree := u, calls } ∧
      e.tree.KeepsDirectories u ∧
      StoreEnd path names d e.tree temp { e with tree := u, calls } := by
  obtain ⟨place, hs, target, same⟩ := leads
  have notTemp {m : Location} (hm : e.tree.node? m = some .directory) : m ≠ temp := by
    rintro rfl
    simp [file] at hm
  rcases fill_cases hq ⟨place, hs, same⟩ file path names with
    ⟨f, t, calls, hf, -, others, notFilled⟩ | ⟨content, d₂, encoded, hd₂, filled, hf⟩
  · -- the temporary file could not be filled
    have ends := store_unfilled hp hf
    obtain ⟨u, calls', hd, others'⟩ := discard_other hq (d := { e with tree := t, calls }) target
    have frame (m : Location) (hm : m ≠ temp) : u.node? m = e.tree.node? m :=
      (others' m hm).trans (others m hm)
    have kept : ¬ LosesFile path names d := by
      rw [losesFile_iff hp]
      exact fun ⟨d', fills, _⟩ => notFilled d' fills
    exact ⟨u, calls', (congrArg Prod.snd ends).trans hd,
      fun m hm => (frame m (notTemp hm)).trans hm, .failed (congrArg Prod.fst ends) kept frame⟩
  have tree : d₂.tree = e.tree.put temp (.file content) := by rw [hd₂]; rfl
  have working : d₂.working = e.working := by rw [hd₂]; rfl
  have written : d₂.tree.node? place.location = some (.file content) := by
    rw [tree, same, Tree.node?_put_self (Tree.ne_nil_of_file file)]
  have others (m : Location) (hm : m ≠ temp) : d₂.tree.node? m = e.tree.node? m := by
    rw [tree, Tree.node?_put_of_ne hm]
  have kept : e.tree.KeepsDirectories d₂.tree :=
    tree ▸ Tree.keepsDirectories_put (by simp [file])
  have remade (u : Tree) (calls : List Call) :
      { d₂ with tree := u, calls } = { e with tree := u, calls } := by rw [hd₂]; rfl
  have hs₂ : d₂.locate q.text = .ok place := by
    rw [Disk.locate, working]
    exact kept.locate hs
  have loses : LosesFile path names d ↔ RemovesInVain q.text path d₂ := by
    rw [losesFile_iff hp]
    simp [filled]
  rcases replace_cases h hs₂ written (by rw [working, same]; exact apart) with
    ⟨u, calls, l, hr, leads, free, moved, notLost⟩ | ⟨f, calls, hr, notLost⟩ |
    ⟨f, l, old, calls, hr, ⟨-, -, hl, -⟩, there, lost⟩
  · have ends := store_filled hp (hf.trans hr)
    have leads' : LeadsTo path { e with tree := u, calls } l := by
      rw [← remade]
      refine leads.keeps (fun m hm => ?_) calls
      rw [moved.other m ?_ ?_, hm]
      · rintro rfl
        simp [written] at hm
      · rintro rfl
        exact free hm
    have frame (m : Location) (hm : m ≠ temp) (hml : m ≠ l) : u.node? m = e.tree.node? m :=
      (moved.other m (same ▸ hm) hml).trans (others m hm)
    refine ⟨u, calls, (congrArg Prod.snd ends).trans (remade u calls),
      fun m hm => (frame m (notTemp hm) ?_).trans hm,
      .done (congrArg Prod.fst ends) (mt loses.1 notLost) encoded leads' moved.there frame
        (same ▸ moved.gone)⟩
    rintro rfl
    exact free ((others m (notTemp hm)).trans hm)
  · have ends := store_unfilled hp (hf.trans hr)
    obtain ⟨u, calls', hd, others'⟩ :=
      discard_other hq (d := { d₂ with calls }) (l := temp) (by rw [working, target])
    have frame (m : Location) (hm : m ≠ temp) : u.node? m = e.tree.node? m :=
      (others' m hm).trans (others m hm)
    exact ⟨u, calls', (congrArg Prod.snd ends).trans (hd.trans (remade u calls')),
      fun m hm => (frame m (notTemp hm)).trans hm,
      .failed (congrArg Prod.fst ends) (mt loses.1 notLost) frame⟩
  · have ends := store_unfilled hp (hf.trans hr)
    obtain ⟨u, calls', hd, others'⟩ := discard_other hq
      (d := { d₂ with tree := d₂.tree.erase l, calls }) (l := temp) (by rw [working, target])
    rw [working] at hl
    have hlt : l ≠ temp := fun hlt => apart (hlt ▸ hl)
    have there' : e.tree.node? l = some (.file old) := others l hlt ▸ there
    have frame (m : Location) (hm : m ≠ temp) (hml : m ≠ l) : u.node? m = e.tree.node? m := by
      rw [others' m hm]
      exact (Tree.node?_erase_of_ne hml).trans (others m hm)
    have gone : u.node? l = none :=
      (others' l hlt).trans (Tree.node?_erase_self (Tree.ne_nil_of_file there))
    refine ⟨u, calls', (congrArg Prod.snd ends).trans (hd.trans (remade u calls')),
      fun m hm => (frame m (notTemp hm) ?_).trans hm,
      .lost (congrArg Prod.fst ends) (loses.2 lost) hl there' gone frame⟩
    rintro rfl
    rw [hm] at there'
    cases there'

/-- Storing a list adds directories and perhaps a temporary file, and then ends in one of three
ways. -/
theorem store_cases {path : Path} (h : path.Proper) {d : Disk} (working : d.HasWorking)
    (names : List Text) :
    ∃ made temp u calls, d.tree.Makes made (path.parent.Along d.working) ∧
      IsTemporary path.name temp ∧ (store path names d).2 = { d with tree := u, calls } ∧
      d.tree.KeepsDirectories u ∧
      StoreEnd path names d made temp { d with tree := u, calls } := by
  obtain ⟨made, makes, ⟨f, calls, hp⟩ | ⟨q, temp, calls, hq, isTemp, free, leads, hp⟩⟩ :=
    prepare_cases h working
  · have ends : store path names d = _ := store_unprepared hp
    have kept : ¬ LosesFile path names d := by
      rintro ⟨_, _, _, hp', -⟩
      rw [hp] at hp'
      cases hp'
    refine ⟨made, [octets (temporaryName path.name 0)], made, calls, makes, ⟨[], 0, rfl⟩, ?_,
      makes.keepsDirectories, .failed (congrArg Prod.fst ends) kept fun m _ => rfl⟩
    exact congrArg Prod.snd ends
  have hne : temp ≠ [] := Tree.ne_nil_of_node? (t := made) (by simp [free])
  obtain ⟨u, calls', hd, keeps, result⟩ := store_prepared h hq hp leads (Tree.node?_put_self hne)
    (isTemp.ne_target d.working) names
  have others (m : Location) (hm : m ≠ temp) :
      (made.put temp (.file [])).node? m = made.node? m := Tree.node?_put_of_ne hm
  have added : made.KeepsDirectories (made.put temp (.file [])) :=
    Tree.keepsDirectories_put (by simp [free])
  refine ⟨made, temp, u, calls', makes, isTemp, hd,
    makes.keepsDirectories.trans (added.trans keeps), ?_⟩
  cases result with
  | done result kept encoded leads there same gone =>
    exact .done result kept encoded leads there
      (fun m hm hml => (same m hm hml).trans (others m hm)) gone
  | failed result kept same =>
    exact .failed result kept fun m hm => (same m hm).trans (others m hm)
  | @lost f l old result lost target there gone same =>
    have hlt : l ≠ temp := fun hlt => isTemp.ne_target d.working (hlt ▸ target)
    exact .lost result lost target ((others l hlt) ▸ there) gone
      fun m hm hml => (same m hm hml).trans (others m hm)

/-- After storing without fault the path leads to a file that has the names. -/
theorem leadsTo_of_store {path : Path} (h : path.Proper) {d : Disk} (working : d.HasWorking)
    {names : List Text} (done : (store path names d).1 = .ok ()) :
    ∃ l content, encode names = .ok content ∧ LeadsTo path (store path names d).2 l ∧
      (store path names d).2.tree.node? l = some (.file content) := by
  obtain ⟨made, temp, u, calls, -, -, hd, -, result⟩ := store_cases h working names
  rw [hd]
  cases result with
  | done _ _ encoded leads there => exact ⟨_, _, encoded, leads, there⟩
  | failed result =>
    rw [done] at result
    cases result
  | lost result =>
    rw [done] at result
    cases result

/-- Storing is done, and the list has the names in ascending order; or it fails, and the list is as
it was. -/
def AllOrNothing (path : Path) (names : List Text) (d : Disk) : Prop :=
  match (store path names d).1 with
  | .ok () => ∃ content, encode names = .ok content ∧
      (store path names d).2.content path = .ok content
  | .error _ => fileAt path (store path names d).2 = fileAt path d

theorem LeadsTo.content {path : Path} {d : Disk} {l : Location} {content : Octets}
    (h : LeadsTo path d l) (there : d.tree.node? l = some (.file content)) :
    d.content path = .ok content := by
  obtain ⟨place, hp, -, rfl⟩ := h
  simp [Disk.content, hp, Tree.read, there]

/-- Storing a list is all or nothing, unless the list is removed in vain. -/
theorem store_allOrNothing_iff {text : Text} (unicode : IsUnicode text) {d : Disk}
    (working : d.HasWorking) (names : List Text) :
    AllOrNothing (.ofText text) names d ↔ ¬ LosesFile (.ofText text) names d := by
  have proper := Path.proper_ofText unicode
  generalize Path.ofText text = path at proper
  obtain ⟨made, temp, u, calls, makes, isTemp, hd, -, result⟩ := store_cases proper working names
  have fileAt_eq (l : Location) (hl : path.target? d.working = some l) :
      fileAt path (store path names d).2 = u.file? l ∧ fileAt path d = made.file? l := by
    rw [hd, fileAt, fileAt, hl]
    exact ⟨rfl, (makes.file? l).symm⟩
  unfold AllOrNothing
  cases result with
  | @done l content result kept encoded leads there same =>
    have stored : (store path names d).2.content path = .ok content := by
      rw [hd]
      exact leads.content there
    rw [result]
    simp [kept, encoded, stored]
  | @failed f result kept same =>
    have unchanged : fileAt path (store path names d).2 = fileAt path d := by
      cases hl : path.target? d.working with
      | none => rw [hd, fileAt, fileAt, hl]; rfl
      | some l =>
        have hlt : l ≠ temp := fun hlt => isTemp.ne_target d.working (hlt ▸ hl)
        rw [(fileAt_eq l hl).1, (fileAt_eq l hl).2]
        exact Tree.file?_congr (same l hlt)
    rw [result]
    simp [kept, unchanged]
  | @lost f l old result lost target there gone same =>
    have changed : fileAt path (store path names d).2 ≠ fileAt path d := by
      rw [(fileAt_eq l target).1, (fileAt_eq l target).2, Tree.file?, Tree.file?, gone, there]
      simp
    rw [result]
    simp [lost, changed]

/-- A disk with one list of some content, under some rules. -/
def diskOf (content : Text) (rules : List Rule) : Disk :=
  ({ tree := ⟨[([octets "lists"], .directory),
    ([octets "lists", octets "blocked"], .file (octets content))]⟩ } : Disk).under rules

theorem store_allOrNothing_plainDisk :
    AllOrNothing (.ofText "/lists/blocked") ["new.org"] (diskOf "old.org" []) ∧
      ¬ LosesFile (.ofText "/lists/blocked") ["new.org"] (diskOf "old.org" []) := by
  have stored : AllOrNothing (.ofText "/lists/blocked") ["new.org"] (diskOf "old.org" []) := by
    have done :
        (store (.ofText "/lists/blocked") ["new.org"] (diskOf "old.org" [])).1 = .ok () := by
      decide +kernel
    rw [AllOrNothing, done]
    exact ⟨octets (ofString "new.org" ++ [10]), by decide +kernel, by decide +kernel⟩
  have unicode : IsUnicode (ofString "/lists/blocked") := by decide
  have working : (diskOf "old.org" []).HasWorking := by decide
  exact ⟨stored, (store_allOrNothing_iff unicode working ["new.org"]).1 stored⟩

/-- Where replacing is refused for lack of permission again and again, the old list is lost. -/
theorem store_not_allOrNothing_denied :
    ¬ AllOrNothing (.ofText "/lists/blocked") ["new.org"]
      (diskOf "old.org" [⟨.replace, ⟨true, "denied"⟩, none, none⟩]) := by
  intro all
  have before : fileAt (.ofText "/lists/blocked")
      (diskOf "old.org" [⟨.replace, ⟨true, "denied"⟩, none, none⟩]) = some (octets "old.org") := by
    decide +kernel
  have after : fileAt (.ofText "/lists/blocked") (store (.ofText "/lists/blocked") ["new.org"]
      (diskOf "old.org" [⟨.replace, ⟨true, "denied"⟩, none, none⟩])).2 = none := by
    decide +kernel
  have failed : (store (.ofText "/lists/blocked") ["new.org"]
      (diskOf "old.org" [⟨.replace, ⟨true, "denied"⟩, none, none⟩])).1 ≠ .ok () := by
    decide +kernel
  unfold AllOrNothing at all
  split at all
  · next done => exact failed done
  · rw [before, after] at all
    cases all

end Detour.DomainList
