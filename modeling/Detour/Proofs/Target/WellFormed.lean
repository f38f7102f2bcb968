import Detour.Proofs.Host.Domains
import Detour.Proofs.Target.Parts

/-!
# Well-formed targets

Whatever text a target was read from, its port is in range, its host is an address or made of the
characters of host names, and its domain is made of the last labels of its host. The domain is never
an address, even if the last labels are numbers, for it has too few of them.

## Main statements

* `Target.wellFormed_of_parse` — all targets that are read are well formed.
-/
namespace Detour

open Text

namespace Target

open Host

/-- What holds of a target whatever it was read from. -/
structure WellFormed (t : Target) : Prop where
  port : ∀ p ∈ t.port, 1 ≤ p ∧ p ≤ 65535
  present : t.host ≠ []
  host : isAddress t.host = true ∨ ∀ c ∈ t.host, IsHostChar c
  bare : t.domain = [] ↔ isAddress t.host = true ∨ 46 ∉ t.host
  suffix : t.domain ≠ [] →
    t.host = t.domain ∨ ∃ subdomain, t.host = subdomain ++ 46 :: t.domain
  dot : t.domain ≠ [] → 46 ∈ t.domain
  chars : ∀ c ∈ t.domain, c ≠ 58 ∧ isBlank c = false
  name : isAddress t.domain = false

variable {encode : Encoder}

theorem wellFormed_ofHost (lawful : encode.Lawful) {raw host : Text} {port : Option Nat}
    (h : normalize encode raw = .ok host) (range : ∀ n ∈ port, 0 < n ∧ n < 65536) :
    (ofHost port host).WellFormed := by
  have present := normalize_ne_nil lawful h
  have chars := normalize_chars lawful h
  have ports : ∀ p ∈ (ofHost port host).port, 1 ≤ p ∧ p ≤ 65535 := by
    intro p hp
    obtain ⟨n, hn, rfl⟩ := Option.map_eq_some_iff.1 hp
    have := range n hn
    simp only [Int.ofNat_eq_natCast]
    omega
  by_cases named : isAddress host = false ∧ 46 ∈ host
  · obtain ⟨literal, dot⟩ := named
    have registered := registered_of_mem literal dot
    have dotted := registered.dot
    have within : ∀ c ∈ registeredDomain host, IsHostChar c := fun c hc => by
      rcases mem_registeredDomain hc with rfl | hc
      · decide
      · exact (chars.resolve_left (by simp [literal])) c hc
    have colon : 58 ∉ registeredDomain host := fun colon => absurd (within 58 colon) (by decide)
    exact {
      port := ports
      present
      host := chars
      bare := iff_of_false (List.ne_nil_of_mem dotted) (by simp [ofHost, literal, dot])
      suffix := fun _ => registered.suffix
      dot := fun _ => dotted
      chars := fun c hc =>
        ⟨fun colon => absurd (within c hc) (by rw [colon]; decide),
          (front_isHostChar (within c hc)).1⟩
      name := registered.isAddress_eq_false colon }
  · have bare : isAddress host = true ∨ 46 ∉ host := by
      rwa [not_and_or, Bool.not_eq_false] at named
    have domain : (ofHost port host).domain = [] :=
      bare.elim registeredDomain_of_isAddress registeredDomain_of_not_mem
    exact {
      port := ports
      present
      host := chars
      bare := iff_of_true domain bare
      suffix := fun some => absurd domain some
      dot := fun some => absurd domain some
      chars := by simp [domain]
      name := by rw [domain]; rfl }

/-- All targets that are read are well formed. -/
theorem wellFormed_of_parse (lawful : encode.Lawful) {input : Text} {t : Target}
    (h : parse encode input = .ok t) : t.WellFormed := by
  obtain ⟨raw, text, port, host, -, read, hhost, rfl⟩ := parse_eq_ok.1 h
  refine wellFormed_ofHost lawful hhost fun n hn => ?_
  rcases readPort_eq_ok.1 read with ⟨-, rfl⟩ | ⟨m, rfl, positive, bound, -⟩
  · cases hn
  · cases hn
    exact ⟨positive, bound⟩

/-- A target that was read and has a domain is no address: both its names are made of the characters
of host names. -/
theorem chars_of_parse (lawful : encode.Lawful) {input : Text} {t : Target}
    (h : parse encode input = .ok t) (domain : t.domain ≠ []) :
    (∀ c ∈ t.host, IsHostChar c) ∧ ∀ c ∈ t.domain, IsHostChar c := by
  have wellFormed := wellFormed_of_parse lawful h
  have literal : ¬ isAddress t.host = true := fun address =>
    domain (wellFormed.bare.2 (.inl address))
  have host := wellFormed.host.resolve_left literal
  refine ⟨host, fun c hc => host c ?_⟩
  rcases wellFormed.suffix domain with same | ⟨subdomain, whole⟩
  · exact same ▸ hc
  · simp [whole, hc]

end Target
end Detour
