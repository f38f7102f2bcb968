import Detour.Host.Name
import Detour.Proofs.Host.Addresses

/-!
# Registered domains

A name is registered under its last two labels, or under three where the second one is a registry.
The labels in front of three others have no say in this. So a domain is its own domain, and all
hosts below one with three labels or more have the domain of that host.

## Main statements

* `Host.registeredDomain_of_not_mem`, `Host.registeredDomain_labels` — the domain of a host.
* `Host.registeredDomain_again`, `Host.registeredDomain_subdomain` — hosts with the same domain.
* `Host.registeredDomain_stable` — a domain is a last part of its host and its own domain.
-/
namespace Detour.Host

open Text

/-! ## How many labels count -/

theorem registeredLength_cases (labels : List Text) :
    registeredLength labels = 2 ∨ registeredLength labels = 3 ∧ 3 ≤ labels.length := by
  unfold registeredLength
  split
  · next top second third rest last =>
    have long : 3 ≤ labels.length := by
      rw [← List.length_reverse, last]
      simp
    split
    · exact .inr ⟨rfl, long⟩
    · exact .inl rfl
  · exact .inl rfl

theorem registeredLength_bounds (labels : List Text) :
    2 ≤ registeredLength labels ∧ registeredLength labels ≤ 3 := by
  rcases registeredLength_cases labels with two | ⟨three, -⟩ <;> omega

/-- Labels in front of three others do not count. -/
theorem registeredLength_append (front : List Text) {back : List Text} (long : 3 ≤ back.length) :
    registeredLength (front ++ back) = registeredLength back := by
  unfold registeredLength
  rw [List.reverse_append]
  match last : back.reverse with
  | top :: second :: third :: rest => rfl
  | [] | [_] | [_, _] =>
    have short := congrArg List.length last
    simp only [List.length_reverse, List.length_cons, List.length_nil] at short
    omega

/-- The labels that count are as many as count among themselves. -/
theorem registeredLength_drop (labels : List Text) :
    registeredLength (labels.drop (labels.length - registeredLength labels)) =
      registeredLength labels := by
  rcases registeredLength_cases labels with two | ⟨three, long⟩
  · rw [two]
    rcases registeredLength_cases (labels.drop (labels.length - 2)) with same | ⟨-, long⟩
    · exact same
    · rw [List.length_drop] at long
      omega
  · rw [three]
    have kept : 3 ≤ (labels.drop (labels.length - 3)).length := by
      rw [List.length_drop]
      omega
    rw [← registeredLength_append (labels.take (labels.length - 3)) kept, List.take_append_drop,
      three]

/-! ## The domain of a host -/

section Domains

variable {host : Text}

theorem registeredDomain_of_isAddress (literal : isAddress host = true) :
    registeredDomain host = [] := by
  simp [registeredDomain, literal]

/-- A host without a dot is bare. -/
theorem registeredDomain_of_not_mem (dot : 46 ∉ host) : registeredDomain host = [] := by
  have single : (splitOn 46 host).length = 1 := by rw [length_splitOn, List.count_eq_zero.2 dot]
  simp [registeredDomain, single]

theorem two_le_length_splitOn (dot : 46 ∈ host) : 2 ≤ (splitOn 46 host).length := by
  have := List.count_pos_iff.2 dot
  rw [length_splitOn]
  omega

theorem registeredDomain_of_mem (literal : isAddress host = false) (dot : 46 ∈ host) :
    registeredDomain host = joinWith [46] ((splitOn 46 host).drop
      ((splitOn 46 host).length - registeredLength (splitOn 46 host))) := by
  have present : host.isEmpty = false := by simpa using List.ne_nil_of_mem dot
  have several := two_le_length_splitOn dot
  have short : ¬ (splitOn 46 host).length < 2 := by omega
  simp [registeredDomain, present, literal, short]

/-- The domain of a host with a dot is made of its last labels, of as many as count among them. -/
theorem registeredDomain_labels (literal : isAddress host = false) (dot : 46 ∈ host) :
    ∃ front back, splitOn 46 host = front ++ back ∧ registeredDomain host = joinWith [46] back ∧
      back.length = registeredLength back := by
  have several := two_le_length_splitOn dot
  refine ⟨_, _, (List.take_append_drop _ _).symm, registeredDomain_of_mem literal dot, ?_⟩
  rw [registeredLength_drop, List.length_drop]
  rcases registeredLength_cases (splitOn 46 host) with two | ⟨three, long⟩ <;> omega

/-- The labels of the domain are the last ones of the host. -/
theorem splitOn_registeredDomain {front back : List Text} (labels : splitOn 46 host = front ++ back)
    (present : back ≠ []) : splitOn 46 (joinWith [46] back) = back := by
  have free : ∀ l ∈ back, 46 ∉ l := fun l hl dot =>
    (mem_of_mem_splitOn (labels ▸ List.mem_append_right front hl) 46 dot).2 rfl
  rw [splitOn_eq, joinWith, List.splitOn_intercalate 46 free present]

/-- The host is its domain, or ends in it at the boundary of a label. -/
theorem eq_append_of_labels {front back : List Text} (labels : splitOn 46 host = front ++ back)
    (present : back ≠ []) :
    host = joinWith [46] back ∨ ∃ subdomain, host = subdomain ++ 46 :: joinWith [46] back := by
  rw [← joinWith_splitOn 46 host, labels]
  by_cases none : front = []
  · exact .inl (by rw [none, List.nil_append])
  · exact .inr ⟨_, by rw [joinWith_append _ none present, List.append_assoc]; rfl⟩

/-- A domain has a host that ends in it, and two or three labels, all of which count. -/
structure Registered (host domain : Text) : Prop where
  suffix : host = domain ∨ ∃ subdomain, host = subdomain ++ 46 :: domain
  few : (splitOn 46 domain).length = 2 ∨ (splitOn 46 domain).length = 3
  all : (splitOn 46 domain).length = registeredLength (splitOn 46 domain)

theorem registered_of_mem (literal : isAddress host = false) (dot : 46 ∈ host) :
    Registered host (registeredDomain host) := by
  obtain ⟨front, back, labels, domain, all⟩ := registeredDomain_labels literal dot
  obtain ⟨low, high⟩ := registeredLength_bounds back
  have present : back ≠ [] := List.ne_nil_of_length_pos (by omega)
  have last := splitOn_registeredDomain labels present
  rw [domain]
  exact ⟨eq_append_of_labels labels present, by rw [last]; omega, by rw [last, all]⟩

section Registered

variable {domain : Text} (h : Registered host domain)
include h

theorem Registered.subset : domain ⊆ host := by
  rcases h.suffix with same | ⟨subdomain, whole⟩
  · simp [same]
  · simp [whole]

theorem Registered.dot : 46 ∈ domain := by
  have few := h.few
  rw [length_splitOn] at few
  exact List.count_pos_iff.1 (by omega)

/-- Two or three labels without a colon are no address, even if they are numbers. -/
theorem Registered.isAddress_eq_false (colon : 58 ∉ domain) : isAddress domain = false := by
  rw [Bool.eq_false_iff]
  intro address
  have dots := isDottedAddress_count (isDottedAddress_of_not_mem address colon)
  have few := h.few
  rw [length_splitOn, dots] at few
  omega

end Registered

theorem registeredDomain_eq_nil_iff (literal : isAddress host = false) :
    registeredDomain host = [] ↔ 46 ∉ host := by
  refine ⟨fun bare dot => ?_, registeredDomain_of_not_mem⟩
  have dotted := (registered_of_mem literal dot).dot
  rw [bare] at dotted
  cases dotted

/-- A domain is its own domain. -/
theorem registeredDomain_again (colon : 58 ∉ host) (literal : isAddress host = false) :
    registeredDomain (registeredDomain host) = registeredDomain host := by
  by_cases dot : 46 ∈ host
  · have registered := registered_of_mem literal dot
    generalize registeredDomain host = domain at registered
    have name := registered.isAddress_eq_false fun hc => colon (registered.subset hc)
    rw [registeredDomain_of_mem name registered.dot, ← registered.all, Nat.sub_self, List.drop_zero,
      joinWith_splitOn]
  · rw [registeredDomain_of_not_mem dot]
    rfl

/-- What stands in front of three labels does not matter for the domain. -/
theorem registeredDomain_subdomain {front : Text} (literal : isAddress host = false)
    (below : isAddress (front ++ 46 :: host) = false) (long : 3 ≤ (splitOn 46 host).length) :
    registeredDomain (front ++ 46 :: host) = registeredDomain host := by
  have labels : splitOn 46 (front ++ 46 :: host) = splitOn 46 front ++ splitOn 46 host := by
    simp only [splitOn_eq, List.splitOn_append_cons_self]
  have dot : 46 ∈ host := List.count_pos_iff.1 (by rw [length_splitOn] at long; omega)
  obtain ⟨-, high⟩ := registeredLength_bounds (splitOn 46 host)
  have kept : (splitOn 46 front ++ splitOn 46 host).length - registeredLength (splitOn 46 host) =
      (splitOn 46 front).length +
        ((splitOn 46 host).length - registeredLength (splitOn 46 host)) := by
    rw [List.length_append]
    omega
  rw [registeredDomain_of_mem below (by simp), registeredDomain_of_mem literal dot, labels,
    registeredLength_append _ long, kept, List.drop_length_add_append]

/-- With two labels it does: below a registry a label more belongs to the domain. -/
example : registeredDomain "co.uk" = "co.uk" ∧ registeredDomain "bbc.co.uk" = "bbc.co.uk" := by
  decide +kernel

/-- A host without a colon that is no address has a domain if it has a dot. The domain is the host
or stands behind a dot at the end of it, has two or three labels, and is its own domain. Hosts below
one with three labels or more have the domain of that host. -/
theorem registeredDomain_stable (colon : 58 ∉ host) (literal : isAddress host = false) :
    (registeredDomain host = [] ↔ 46 ∉ host) ∧
    (46 ∈ host →
      (host = registeredDomain host ∨
        ∃ subdomain, host = subdomain ++ 46 :: registeredDomain host) ∧
      ((splitOn 46 (registeredDomain host)).length = 2 ∨
        (splitOn 46 (registeredDomain host)).length = 3) ∧
      registeredDomain (registeredDomain host) = registeredDomain host) ∧
    ∀ front, isAddress (front ++ 46 :: host) = false → 3 ≤ (splitOn 46 host).length →
      registeredDomain (front ++ 46 :: host) = registeredDomain host := by
  refine ⟨registeredDomain_eq_nil_iff literal, fun dot => ?_, fun front below long =>
    registeredDomain_subdomain literal below long⟩
  have registered := registered_of_mem literal dot
  exact ⟨registered.suffix, registered.few, registeredDomain_again colon literal⟩

end Domains

/-- A host below a registry, and a host below that one. -/
theorem registeredDomain_stable_registry :
    (58 ∉ ofString "news.bbc.co.uk" ∧ isAddress "news.bbc.co.uk" = false) ∧
    46 ∈ ofString "news.bbc.co.uk" ∧ registeredDomain "news.bbc.co.uk" = "bbc.co.uk" ∧
    registeredDomain (registeredDomain "news.bbc.co.uk") = registeredDomain "news.bbc.co.uk" ∧
    isAddress (ofString "live" ++ 46 :: ofString "news.bbc.co.uk") = false ∧
    3 ≤ (splitOn 46 "news.bbc.co.uk").length ∧
    registeredDomain (ofString "live" ++ 46 :: ofString "news.bbc.co.uk") =
      registeredDomain "news.bbc.co.uk" := by
  have colon : 58 ∉ ofString "news.bbc.co.uk" := by decide
  have literal : isAddress "news.bbc.co.uk" = false := by decide +kernel
  have dot : 46 ∈ ofString "news.bbc.co.uk" := by decide
  have below : isAddress (ofString "live" ++ 46 :: ofString "news.bbc.co.uk") = false := by
    decide +kernel
  have long : 3 ≤ (splitOn 46 "news.bbc.co.uk").length := by decide
  obtain ⟨-, domain, subdomains⟩ := registeredDomain_stable colon literal
  exact ⟨⟨colon, literal⟩, dot, by decide +kernel, (domain dot).2.2, below, long,
    subdomains _ below long⟩

end Detour.Host
