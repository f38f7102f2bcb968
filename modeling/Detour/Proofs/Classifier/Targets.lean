import Detour.Proofs.Classifier.Durability
import Detour.Proofs.Classifier.History
import Detour.Proofs.Classifier.Precedence
import Detour.Proofs.Target.WellFormed

/-!
# Targets in sessions

A target that was read can be asked for and recorded in every session, whatever its lists hold: each
question has an answer, and a name that is learned on the way is the domain of the target, which
survives in a list file beside any other names.

## Main statements

* `Session.query_of_parse` — the answers to questions.
* `Session.new_of_records` — what recording a target adds to a learned list.
* `Session.parse_safe` — all of it.
-/
namespace Detour

open DomainList Text

namespace Classifier

theorem Learns.eq_of_new {c c' : Classifier} {l m : Learned} {domain n : Text}
    (h : c.Learns c' l domain) (after : n ∈ c'.learned m) (before : n ∉ c.learned m) :
    n = domain := by
  by_contra other
  have kept := (h m n).1 after
  rw [if_neg other] at kept
  exact before kept

theorem SameLists.not_new {c c' : Classifier} (h : SameLists c c') {m : Learned} {n : Text}
    (after : n ∈ c'.learned m) (before : n ∉ c.learned m) : False := by
  rw [h.learned] at after
  exact before after

theorem new_of_recordBlocked {c : Classifier} {now : Moment} {t : Target} {m : Learned} {n : Text}
    (after : n ∈ (c.recordBlocked now t).classifier.learned m) (before : n ∉ c.learned m) :
    n = t.domain ∧ t.domain ≠ [] := by
  rcases c.recordBlocked_cases now t with same | ⟨-, unlisted, -, -, learned⟩
  · exact (same.sameLists.not_new after before).elim
  · rw [learned] at after
    exact ⟨(c.learnBlocked_learns t.domain).eq_of_new after before,
      by simp_all [isAlwaysDirect]⟩

theorem new_of_recordDirect {c : Classifier} {t : Target} {m : Learned} {n : Text}
    (after : n ∈ (c.recordDirect t).classifier.learned m) (before : n ∉ c.learned m) :
    n = t.domain ∧ t.domain ≠ [] := by
  rcases c.recordDirect_cases t with same | ⟨-, unlisted, -, -, learned⟩
  · rw [same] at after
    exact absurd after before
  · rw [learned] at after
    exact ⟨(c.learnDirect_learns t.domain).eq_of_new after before,
      (isInAlwaysSets_eq_false.1 unlisted).1⟩

end Classifier

namespace Session

variable {encode : Host.Encoder} {s : Session} {t : Target}

/-- What a call that records a target adds to a learned list is the domain of the target. -/
theorem new_of_records {x : Step} (records : x.target? = some t) {m : Classifier.Learned} {n : Text}
    (after : n ∈ (s.step x).2.classifier.learned m) (before : n ∉ s.classifier.learned m) :
    n = t.domain ∧ t.domain ≠ [] := by
  cases x <;> cases records
  case recordBlocked => exact Classifier.new_of_recordBlocked after before
  case recordDirect => exact Classifier.new_of_recordDirect after before
  case recordTransientBlocked =>
    exact ((s.classifier.recordTransientBlocked_sameButTransient s.now t).sameLists.not_new
      after before).elim

/-- All questions about a target that was read are answered. -/
theorem query_of_parse (lawful : encode.Lawful) {input : Text}
    (h : Target.parse encode input = .ok t) (s : Session) :
    ∃ f, (s.step (.query t)).1 = .facts f ∧ (∃ b, f.blocked = .ok b) ∧ (∃ b, f.direct = .ok b) ∧
      ∃ route, f.route = .ok route := by
  have port := Classifier.portless_of_parse lawful h
  refine ⟨_, rfl, ⟨_, Classifier.isBlocked_fst port _ _⟩, ⟨_, Classifier.isDirect_eq port _⟩,
    ⟨_, Classifier.classify_fst (Classifier.isBlocked_fst port _ _)⟩⟩

/-- A target that was read is well formed, every question about it is answered in every session, and
what a call learns from it is its domain, which survives in a list file: alone, and beside any other
names that can be written. -/
theorem parse_safe (lawful : encode.Lawful) {input : Text} (h : Target.parse encode input = .ok t)
    (s : Session) :
    t.WellFormed ∧
    (∃ f, (s.step (.query t)).1 = .facts f ∧ (∃ b, f.blocked = .ok b) ∧ (∃ b, f.direct = .ok b) ∧
      ∃ route, f.route = .ok route) ∧
    ∀ x : Step, x.target? = some t → ∀ (l : Classifier.Learned) (n : Text),
      n ∈ (s.step x).2.classifier.learned l → n ∉ s.classifier.learned l →
        n = t.domain ∧ (∃ content, DomainList.encode [n] = .ok content ∧ decode content = [n]) ∧
        ∀ names content, n ∈ names → DomainList.encode names = .ok content →
          n ∈ decode content := by
  refine ⟨Target.wellFormed_of_parse lawful h, query_of_parse lawful h s,
    fun x records l n after before => ?_⟩
  obtain ⟨rfl, domain⟩ := new_of_records records after before
  have storable := storable_domain lawful h domain
  obtain ⟨-, chars⟩ := Target.chars_of_parse lawful h domain
  have scalar : ∀ c ∈ t.domain, Utf8.IsScalar c := fun c hc =>
    Utf8.isScalar_of_ascii (chars c hc).lt
  refine ⟨rfl, ?_, fun names content => mem_decode_of_mem storable scalar⟩
  have single : sorted [t.domain] = [t.domain] := List.mergeSort_singleton t.domain
  have all : ∀ n ∈ [t.domain], Storable n := by simpa using storable
  obtain ⟨content, written, read⟩ := decode_encode all
  exact ⟨content, written, read.trans single⟩

/-- A host with wide digits and a wide dot: its last labels are numbers, and they are learned and
survive as its domain. -/
theorem parse_safe_digits :
    let t : Target := ⟨"a.10.0.0.1", some 443, "0.1"⟩
    let s := onEmptyDisk (.inside (.ofText "/lists"))
    Target.parse .sample "A.\uff11\uff10.0\uff0e0.1:443" = .ok t ∧ t.WellFormed ∧
      ofString "0.1" ∈ (s.step (.recordBlocked t)).2.classifier.learned .blocked ∧
      ∃ content, DomainList.encode ["0.1"] = .ok content ∧ decode content = ["0.1"] := by
  intro t s
  have parsed : Target.parse .sample "A.\uff11\uff10.0\uff0e0.1:443" = .ok t := by decide +kernel
  have learned : ofString "0.1" ∈ (s.step (.recordBlocked t)).2.classifier.learned .blocked := by
    decide +kernel
  obtain ⟨wellFormed, -, survives⟩ := parse_safe Host.Encoder.lawful_sample parsed s
  exact ⟨parsed, wellFormed, learned,
    (survives (.recordBlocked t) rfl .blocked _ learned (by decide +kernel)).2.1⟩

end Session
end Detour
