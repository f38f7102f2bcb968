import Detour.Proofs.Target.Parts

/-!
# Targets and their texts

The text of a target that was read is read as that target, up to the canonical form of its host: all
targets are given back but those with a host that ends in a dot or a blank.

## Main statements

* `Target.parse_hostPort` — what the text of a target is read as.
* `Target.parse_hostPort_iff` — the targets that are given back, and the hosts.
* `Target.parse_hostPort_of_ascii` — all targets in ASCII are, if they have no scope.
-/
namespace Detour

open Text Host

namespace Host

/-- A canonical host has no colon, or has several. -/
theorem count_colon_ne_one {encode : Encoder} (lawful : encode.Lawful) {raw host : Text}
    (h : normalize encode raw = .ok host) : host.count 58 ≠ 1 := by
  by_cases colon : 58 ∈ host
  · rcases normalize_chars lawful h with literal | chars
    · have := two_le_count_of_isAddress literal colon
      omega
    · exact absurd (chars 58 colon) (by decide)
  · rw [List.count_eq_zero.2 colon]
    decide

end Host

namespace Target

variable {encode : Encoder} {input raw text : Text}

/-- A host in front of a port has no closing bracket, or has no colon. -/
theorem not_mem_of_splitParts (h : splitParts input = .ok (raw, text)) (port : text ≠ []) :
    93 ∉ raw ∨ 58 ∉ raw := by
  have cut := splitParts_eq_ok.1 h
  generalize strip input = value at cut
  cases cut with
  | whole | brackets => exact absurd rfl port
  | colon first before => exact .inr before
  | bracketsColon closing => exact .inl closing

theorem hostPort_of_mem {host : Text} (colon : 58 ∈ host) (n : Nat) :
    (ofHost (some n) host).hostPort = 91 :: (host ++ 93 :: 58 :: ofNat n) := by
  simp [hostPort, ofHost, colon, ofInt_natCast, show ofString "[" = [91] from rfl,
    show ofString "]:" = [93, 58] from rfl]

theorem hostPort_of_not_mem {host : Text} (colon : 58 ∉ host) (n : Nat) :
    (ofHost (some n) host).hostPort = host ++ 58 :: ofNat n := by
  simp [hostPort, ofHost, colon, ofInt_natCast, show ofString ":" = [58] from rfl]

/-- Reading the text of a target brings its host to the canonical form once more. -/
theorem parse_hostPort (lawful : encode.Lawful) {t : Target} (h : parse encode input = .ok t) :
    parse encode t.hostPort = ((normalize encode t.host).mapError .ofHost).map
      fun host => { t with host, domain := registeredDomain host } := by
  obtain ⟨raw, text, port, host, parts, read, hhost, rfl⟩ := parse_eq_ok.1 h
  obtain ⟨c, r, rfl, blank, bracket⟩ := normalize_head lawful hhost
  rcases readPort_eq_ok.1 read with ⟨-, rfl⟩ | ⟨n, rfl, positive, bound, present, -, -⟩
  · have again := splitParts_host blank bracket (count_colon_ne_one lawful hhost)
    have noPort : readPort (ofHost none (c :: r)).hostPort [] = .ok none := rfl
    exact (parse_of_parts again noPort).trans (by rw [normalize_strip]; rfl)
  · have digits : ∀ d ∈ ofNat n, isBlank d = false := fun d => isBlank_ofNat
    have noColon := colon_not_mem_ofNat n
    have again : splitParts (ofHost (some n) (c :: r)).hostPort = .ok (c :: r, ofNat n) := by
      by_cases colon : 58 ∈ c :: r
      · have closing : 93 ∉ c :: r := fun closing =>
          have sign : ∀ d ∈ c :: r, d = 58 ∨ d = 93 → d ∈ raw := fun d hd same =>
            mem_of_mem_normalize lawful hhost hd (by rcases same with rfl | rfl <;> decide)
              (by rcases same with rfl | rfl <;> decide)
          (not_mem_of_splitParts parts present).elim (· (sign 93 closing (.inr rfl)))
            (· (sign 58 colon (.inl rfl)))
        rw [hostPort_of_mem colon, splitParts_brackets closing digits]
      · rw [hostPort_of_not_mem colon,
          splitParts_colon (by simp [blank, bracket]) colon noColon digits]
    exact (parse_of_parts again (readPort_ofNat _ positive bound)).trans rfl

theorem parse_hostPort_eq_ok (lawful : encode.Lawful) {t : Target}
    (h : parse encode input = .ok t) :
    parse encode t.hostPort = .ok t ↔ IsTrimmed t.host := by
  obtain ⟨raw, text, port, host, parts, read, hhost, rfl⟩ := parse_eq_ok.1 h
  rw [parse_hostPort lawful h]
  change ((normalize encode host).mapError _).map _ = _ ↔ IsTrimmed host
  rw [← normalize_normalized lawful hhost]
  cases normalize encode host with
  | error fault => simp [Except.mapError, Except.map]
  | ok again =>
    simp only [Except.mapError, Except.map, Except.ok.injEq]
    exact ⟨congrArg Target.host, fun same => by rw [same]; rfl⟩

theorem splitParts_subset (h : splitParts input = .ok (raw, text)) : raw ⊆ input := by
  refine List.Subset.trans ?_ (strip_subset input)
  have cut := splitParts_eq_ok.1 h
  generalize strip input = value at cut
  cases cut <;> simp

/-- Targets in ASCII without a scope are given back. -/
theorem parse_hostPort_of_ascii (lawful : encode.Lawful) {t : Target}
    (h : parse encode input = .ok t) (ascii : isAscii input = true) (scope : 37 ∉ input) :
    parse encode t.hostPort = .ok t := by
  obtain ⟨raw, text, port, host, parts, read, hhost, rfl⟩ := parse_eq_ok.1 h
  have within := splitParts_subset parts
  have ascii : isAscii raw = true :=
    List.all_eq_true.2 fun c hc => List.all_eq_true.1 ascii c (within hc)
  exact (parse_hostPort_eq_ok lawful h).2
    (isTrimmed_of_ascii lawful hhost ascii fun percent => scope (within percent))

/-- The targets and hosts that are given back: all but those with a dot or a blank at the end of the
host. -/
theorem parse_hostPort_iff (lawful : encode.Lawful) (input raw : Text) :
    (∀ t, parse encode input = .ok t → (parse encode t.hostPort = .ok t ↔ IsTrimmed t.host)) ∧
    ∀ host, normalize encode raw = .ok host →
      (normalize encode host = .ok host ↔ IsTrimmed host) :=
  ⟨fun _ => parse_hostPort_eq_ok lawful, fun _ => normalize_normalized lawful⟩

/-- An address with a scope, and a name with an umlaut, in capitals and with dots after it. -/
theorem parse_hostPort_iff_scope :
    parse .sample "[fe80::1%En0]:443" = .ok ⟨"fe80::1%en0", some 443, []⟩ ∧
    parse .sample (hostPort ⟨"fe80::1%en0", some 443, []⟩) =
      .ok ⟨"fe80::1%en0", some 443, []⟩ ∧
    normalize .sample " B\u00dcCHER.Example.." = .ok "xn--bcher-kva.example" ∧
    normalize .sample "xn--bcher-kva.example" = .ok "xn--bcher-kva.example" := by
  have read : parse .sample "[fe80::1%En0]:443" = .ok ⟨"fe80::1%en0", some 443, []⟩ := by
    decide +kernel
  have name : normalize .sample " B\u00dcCHER.Example.." = .ok "xn--bcher-kva.example" := by
    decide +kernel
  obtain ⟨targets, hosts⟩ :=
    parse_hostPort_iff Encoder.lawful_sample "[fe80::1%En0]:443" " B\u00dcCHER.Example.."
  exact ⟨read, (targets _ read).2 (by decide +kernel), name,
    (hosts _ name).2 (by decide +kernel)⟩

/-- An ideographic full stop behind a name is no dot when dots are taken off, and becomes one. The
target has another text than its text has, and the name is not its own canonical form. -/
theorem parse_hostPort_fullStop :
    parse .sample "example.com\u3002" = .ok ⟨"example.com.", none, "com."⟩ ∧
    parse .sample (hostPort ⟨"example.com.", none, "com."⟩) =
      .ok ⟨"example.com", none, "example.com"⟩ ∧
    normalize .sample "example.com\u3002" = .ok "example.com." ∧
    normalize .sample "example.com." = .ok "example.com" := by
  decide +kernel

end Target
end Detour
