import Detour.Proofs.Classifier.Effects

/-!
# The lists of a classifier stay apart

No name is learned both ways, no name is always-direct and always-blocked, and nothing is learned
against the lists of the administrator. Loading establishes this from any state and every other step
keeps it, while the files may be changed from outside at any time. Loading has to go through for
that: where the disk cannot tell whether a list is there, it stops after taking in names, and a name
may end up in both learned lists.

## Main statements

* `Classifier.Consistent` — the lists are apart.
* `Session.play_consistent` — they are, if the latest load could ask for all lists.
-/
namespace Detour

open DomainList Files Text

namespace Classifier

structure Consistent (c : Classifier) : Prop where
  learned : ∀ n ∈ c.blocked, n ∉ c.direct
  always : ∀ n ∈ c.alwaysDirect, n ∉ c.alwaysBlocked
  blocked : ∀ n ∈ c.blocked, n ∉ c.alwaysDirect
  direct : ∀ n ∈ c.direct, n ∉ c.alwaysDirect ∧ n ∉ c.alwaysBlocked

theorem SameLists.consistent {c c' : Classifier} (h : SameLists c c') (hc : c.Consistent) :
    c'.Consistent := by
  refine ⟨?_, ?_, ?_, ?_⟩
  · rw [h.blocked, h.direct]; exact hc.learned
  · rw [h.alwaysDirect, h.alwaysBlocked]; exact hc.always
  · rw [h.blocked, h.alwaysDirect]; exact hc.blocked
  · rw [h.direct, h.alwaysDirect, h.alwaysBlocked]; exact hc.direct

/-- Merging puts the lists apart, whatever was learned before. -/
theorem merge_consistent (c : Classifier) (alwaysBlocked alwaysDirect : List Text) :
    (c.merge alwaysBlocked alwaysDirect).Consistent := by
  refine ⟨?_, ?_, ?_, ?_⟩
  · intro n hb hd
    exact (mem_direct_merge.1 hd).2 hb
  · intro n hd hb
    exact (mem_alwaysDirect_merge.1 hd).2 (mem_alwaysBlocked_merge.1 hb)
  · intro n hb hd
    exact (mem_blocked_merge.1 hb).2.1 (mem_alwaysDirect_merge.1 hd).1
  · intro n hn
    obtain ⟨⟨-, notDirect, notBlocked⟩, -⟩ := mem_direct_merge.1 hn
    exact ⟨fun h => notDirect (mem_alwaysDirect_merge.1 h).1,
      fun h => notBlocked (mem_alwaysBlocked_merge.1 h)⟩

/-- The domain of a target that is not always-direct is not in the always-direct list. -/
theorem domain_not_alwaysDirect {c : Classifier} {t : Target} (h : c.isAlwaysDirect t = false) :
    t.domain ∉ c.alwaysDirect := by
  simp only [isAlwaysDirect, names, Bool.or_eq_false_iff, DomainSet.contains_eq_false] at h
  exact h.2.2

theorem domain_unlisted {c : Classifier} {t : Target} (h : c.isInAlwaysSets t = false) :
    t.domain ∉ c.alwaysDirect ∧ t.domain ∉ c.alwaysBlocked := by
  obtain ⟨-, direct, blocked⟩ := isInAlwaysSets_eq_false.1 h
  exact ⟨direct.2, blocked.2⟩

theorem learnBlocked_consistent {c : Classifier} {domain : Text} (hc : c.Consistent)
    (h : domain ∉ c.alwaysDirect) : (c.learnBlocked domain).classifier.Consistent := by
  rw [learnBlocked_classifier]
  refine ⟨?_, hc.always, ?_, ?_⟩
  · intro n hb hd
    rcases DomainSet.mem_insert.1 hb with rfl | hb
    · exact (DomainSet.mem_erase.1 hd).2 rfl
    · exact hc.learned n hb (DomainSet.mem_erase.1 hd).1
  · intro n hb
    rcases DomainSet.mem_insert.1 hb with rfl | hb
    · exact h
    · exact hc.blocked n hb
  · intro n hd
    exact hc.direct n (DomainSet.mem_erase.1 hd).1

theorem learnDirect_consistent {c : Classifier} {domain : Text} (hc : c.Consistent)
    (h : domain ∉ c.alwaysDirect ∧ domain ∉ c.alwaysBlocked) :
    (c.learnDirect domain).classifier.Consistent := by
  rw [learnDirect_classifier]
  refine ⟨?_, hc.always, ?_, ?_⟩
  · intro n hb hd
    rcases DomainSet.mem_insert.1 hd with rfl | hd
    · exact (DomainSet.mem_erase.1 hb).2 rfl
    · exact hc.learned n (DomainSet.mem_erase.1 hb).1 hd
  · intro n hb
    exact hc.blocked n (DomainSet.mem_erase.1 hb).1
  · intro n hd
    rcases DomainSet.mem_insert.1 hd with rfl | hd
    · exact h
    · exact hc.direct n hd

/-- Where the lists are apart, only a name whose time is running is known both ways. -/
theorem Consistent.isLive_of_lookups {c : Classifier} (hc : c.Consistent) {now : Number}
    {name : Text} (port : hasPort name = false) (hb : (c.lookupBlocked now name).1 = .ok true)
    (hd : c.lookupDirect name = .ok true) : c.transient.isLive now name = true := by
  rw [lookupBlocked_fst port, Except.ok.injEq, decide_eq_true_iff] at hb
  rw [lookupDirect_eq port, Except.ok.injEq, decide_eq_true_iff] at hd
  obtain ⟨notDirect, hb⟩ := hb
  obtain ⟨notBlocked, learned⟩ := hd.resolve_left notDirect
  rcases hb with hb | live | hb
  · exact absurd hb notBlocked
  · exact live
  · exact absurd learned (hc.learned name hb)

/-- A new classifier has nothing in its lists. -/
theorem create_consistent {settings : Settings} {locations : Locations} {c : Classifier}
    (h : create settings locations = .ok c) : c.Consistent := by
  obtain ⟨transient, -, rfl⟩ := create_eq_ok.1 h
  constructor <;> intro n hn <;> exact absurd hn (DomainSet.not_mem_empty n)

end Classifier

/-! ## Sessions whose files change -/

namespace Session

/-- What happens to a session: a step, or a change of the disk from outside. -/
inductive Turn
  | act (x : Step)
  | replaceDisk (disk : Disk)

def turn (s : Session) : Turn → Session
  | .act x => (s.step x).2
  | .replaceDisk disk => { s with disk }

/-- The session after some turns. -/
def play (s : Session) (turns : List Turn) : Session := turns.foldl turn s

def Turn.isLoad : Turn → Bool
  | .act x => x.isLoad
  | .replaceDisk _ => false

/-- Whether the disk could tell, at the latest load among some turns, of each list if it is there;
`before` if there is no load among them. -/
def ToldLists (s : Session) (before : Prop) : List Turn → Prop
  | [] => before
  | t :: r =>
    ToldLists (s.turn t) (if t.isLoad then s.classifier.TellsLists s.disk else before) r

theorem load_consistent {s : Session} (told : s.classifier.TellsLists s.disk)
    (blocked direct : List Text) :
    (s.step (.load blocked direct)).2.classifier.Consistent := by
  obtain ⟨-, -, -, -, merged, -⟩ := Classifier.load_told told blocked direct
  simp only [step, listed, merged]
  exact Classifier.merge_consistent _ _ _

/-- Loading puts the lists apart whatever the seeds are, exactly if the disk can tell of each list
whether it is there: a load that stops leaves a seed in both learned lists. -/
theorem load_consistent_iff {s : Session} :
    (∀ blocked direct, (s.step (.load blocked direct)).2.classifier.Consistent) ↔
      s.classifier.TellsLists s.disk := by
  refine ⟨fun apart => Classical.byContradiction fun untold => ?_, load_consistent⟩
  obtain ⟨e, blocked, direct, -, stopped⟩ :=
    Classifier.load_untold untold ["example.com"] ["example.com"]
  have learned := (apart ["example.com"] ["example.com"]).learned
  simp only [step, listed, stopped] at learned
  exact learned "example.com" (by simp) (by simp)

theorem step_consistent {s : Session} {x : Step} (noLoad : x.isLoad = false)
    (h : s.classifier.Consistent) : (s.step x).2.classifier.Consistent := by
  cases s.step_cases x with
  | load => cases noLoad
  | persist classifier =>
    rw [classifier]
    exact (s.classifier.persist_sameLists s.disk).consistent h
  | learnBlocked _ unlisted _ _ classifier =>
    rw [classifier]
    exact Classifier.learnBlocked_consistent h (Classifier.domain_not_alwaysDirect unlisted)
  | learnDirect _ unlisted _ _ classifier =>
    rw [classifier]
    exact Classifier.learnDirect_consistent h (Classifier.domain_unlisted unlisted)
  | @change settings classifier =>
    rw [classifier]
    have same : s.classifier.SameLists { s.classifier with settings } := ⟨rfl, rfl, rfl, rfl, rfl⟩
    exact same.consistent h
  | other _ classifier => exact classifier.sameLists.consistent h

/-- A load puts the lists apart if it can ask for all of them; any other turn keeps them apart. -/
theorem turn_consistent {s : Session} {t : Turn}
    (h : if t.isLoad then s.classifier.TellsLists s.disk else s.classifier.Consistent) :
    (s.turn t).classifier.Consistent := by
  cases t with
  | replaceDisk disk => exact h
  | act x =>
    cases x with
    | load blocked direct => exact load_consistent h blocked direct
    | _ => exact step_consistent rfl h

/-- The always-lists are even apart after a load that stopped. -/
theorem turn_always {s : Session} (t : Turn)
    (h : ∀ n ∈ s.classifier.alwaysDirect, n ∉ s.classifier.alwaysBlocked) :
    ∀ n ∈ (s.turn t).classifier.alwaysDirect, n ∉ (s.turn t).classifier.alwaysBlocked := by
  cases t with
  | replaceDisk disk => exact h
  | act x =>
    cases hl : x.isLoad with
    | false =>
      obtain ⟨direct, blocked⟩ := step_alwaysLists (s := s) hl
      rw [turn, direct, blocked]
      exact h
    | true =>
      cases x with
      | load blocked direct =>
        by_cases told : s.classifier.TellsLists s.disk
        · exact (load_consistent told blocked direct).always
        · obtain ⟨e, b, d, -, stopped⟩ := Classifier.load_untold told blocked direct
          simp only [turn, step, listed, stopped]
          exact h
      | _ => cases hl

theorem play_always {s : Session} (turns : List Turn)
    (h : ∀ n ∈ s.classifier.alwaysDirect, n ∉ s.classifier.alwaysBlocked) :
    ∀ n ∈ (s.play turns).classifier.alwaysDirect, n ∉ (s.play turns).classifier.alwaysBlocked := by
  induction turns generalizing s with
  | nil => exact h
  | cons t r ih => exact ih (turn_always t h)

theorem consistent_of_toldLists {s : Session} {before : Prop} (turns : List Turn)
    (h : before → s.classifier.Consistent) (told : s.ToldLists before turns) :
    (s.play turns).classifier.Consistent := by
  induction turns generalizing s before with
  | nil => exact h told
  | cons t r ih =>
    refine ih (fun ht => turn_consistent ?_) told
    cases hl : t.isLoad with
    | true => simpa [hl] using ht
    | false => exact h (by simpa [hl] using ht)

/-- In every state that a new classifier gets to, its files changing as they like, the always-lists
are apart; and if the latest load could tell of each list whether it is there, all lists are apart,
and a name is only known both ways while its time is running. A load that cannot tell puts nothing
apart for some seeds. -/
theorem play_consistent {settings : Settings} {locations : Locations} {c : Classifier}
    (fresh : Classifier.create settings locations = .ok c) (disk : Disk) (now : Moment)
    (turns : List Turn) :
    let start : Session := { classifier := c, disk, now }
    let s := start.play turns
    (∀ n ∈ s.classifier.alwaysDirect, n ∉ s.classifier.alwaysBlocked) ∧
    (start.ToldLists True turns →
      s.classifier.Consistent ∧
      ∀ name, Classifier.hasPort name = false →
        (s.classifier.lookupBlocked s.now.seconds name).1 = .ok true →
        s.classifier.lookupDirect name = .ok true →
        s.classifier.transient.isLive s.now.seconds name = true) ∧
    ((∀ blocked direct, (s.step (.load blocked direct)).2.classifier.Consistent) ↔
      s.classifier.TellsLists s.disk) := by
  intro start s
  have new := Classifier.create_consistent fresh
  refine ⟨play_always turns new.always, fun told => ?_, load_consistent_iff⟩
  have apart : s.classifier.Consistent := consistent_of_toldLists turns (fun _ => new) told
  exact ⟨apart, fun name port hb hd => apart.isLive_of_lookups port hb hd⟩

/-- At work on an empty disk, under the default settings. -/
def onEmptyDisk (locations : Locations) : Session where
  classifier := .ofLocations locations
  disk := { tree := ⟨[]⟩ }
  now := ⟨.int 0, []⟩

theorem play_consistent_relearned :
    let target : Target := { host := "www.example.com", domain := "example.com" }
    let turns : List Turn := [.act (.load ["example.com"] []), .act (.recordDirect target)]
    let s := (onEmptyDisk (.inside (.ofText "/lists"))).play turns
    s.classifier.Consistent ∧ ofString "example.com" ∈ s.classifier.direct := by
  intro target turns s
  have told : (onEmptyDisk (.inside (.ofText "/lists"))).ToldLists True turns := by
    intro k
    exact ⟨false, by cases k <;> decide +kernel⟩
  refine ⟨?_, by decide +kernel⟩
  exact ((play_consistent (Classifier.create_default (.inside (.ofText "/lists")))
    { tree := ⟨[]⟩ } ⟨.int 0, []⟩ turns).2.1 told).1

/-- A list whose name is too long stops a load: the seed then is in both learned lists, and both
lookups find it although no time is running. -/
theorem play_inconsistent_nameTooLong :
    let lists := Locations.inside (.ofText "/lists")
    let tooLong := Path.ofText ("/" ++ repeated 256 97)
    let s := (onEmptyDisk { lists with blocked := tooLong }).play
      [.act (.load ["example.com"] ["example.com"])]
    let name := ofString "example.com"
    name ∈ s.classifier.blocked ∧ name ∈ s.classifier.direct ∧
      Classifier.hasPort name = false ∧
      (s.classifier.lookupBlocked s.now.seconds name).1 = .ok true ∧
      s.classifier.lookupDirect name = .ok true ∧
      s.classifier.transient.isLive s.now.seconds name = false := by
  decide +kernel

end Session
end Detour
