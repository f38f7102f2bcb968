import Detour.Config.Storage
import Detour.Proofs.Config.Reading
import Detour.Proofs.DomainList.Encoding
import Detour.Proofs.Files.Changes
import Detour.Proofs.Json.RoundTrip

/-!
# Configurations are kept in files

A well-formed configuration that is saved where a file can be written is loaded from there again,
unless one of its whole numbers is too long to be written.

## Main definitions

* `Configuration.Fits` — no whole number is too long.
* `Configuration.CanSaveTo` — a file can be written, once the directories above it are made.

## Main statements

* `Configuration.load_save_iff` — what is saved is loaded.
-/
namespace Detour.Configuration

open Files Text Utf8 DomainList

/-- The numbers of a configuration. -/
def numbers (c : Configuration) : List Json :=
  [c.settings.transientLifetime, c.settings.flushInterval] ++ (c.webhook.map (·.timeout)).toList

/-- No whole number has more digits than are written. -/
def Fits (c : Configuration) : Prop :=
  ∀ n : Int, .number (.int n) ∈ c.numbers → (ofNat n.natAbs).length ≤ numeralLimit

/-- A file can be written, once the directories above it are made. -/
def CanSaveTo (file : Path) (d : Disk) : Prop :=
  (d.makeDirectories file.parent).1 = .ok () ∧
    ((d.makeDirectories file.parent).2.write file []).1 = .ok ()

/-! ## The document -/

section Document

variable {depth : Nat}

theorem restorable_interval {v : Json} (h : IsInterval v)
    (short : ∀ n : Int, v = .number (.int n) → (ofNat n.natAbs).length ≤ numeralLimit) :
    Json.Restorable depth v := by
  cases h with
  | @whole n positive => exact .int (short n rfl)
  | decimal positive back => exact .float back

theorem restorable_path {p : Path} (h : p.Literal) : Json.Restorable depth (pathJson p) :=
  .string h.scalar

theorem restorable_headers {headers : Table Text Text} (distinct : headers.keys.Nodup)
    (scalar : ∀ h ∈ headers, (∀ c ∈ h.1, IsScalar c) ∧ ∀ c ∈ h.2, IsScalar c) :
    Json.Restorable (depth + 1) (headersJson headers) := by
  have names : Table.keys (headers.map fun h => (h.1, Json.string h.2)) = headers.keys := by
    simp [Table.keys]
  refine .object (names ▸ distinct) (fun name hn => ?_) fun m hm => ?_
  · rw [names] at hn
    obtain ⟨h, hh, rfl⟩ := List.mem_map.1 hn
    exact (scalar h hh).1
  · obtain ⟨h, hh, rfl⟩ := List.mem_map.1 hm
    exact .string (scalar h hh).2

theorem restorable_locations {l : Locations} (directory : l.directory.Literal)
    (lists : ∀ kind, (l.pathFor kind).Literal) : Json.Restorable (depth + 1) (locationsJson l) := by
  refine Json.readable_section ("directory" :: Kind.all.map Kind.name) rfl (by decide) (by decide)
    fun m hm => ?_
  rcases List.mem_cons.1 hm with rfl | hm
  · exact restorable_path directory
  · obtain ⟨kind, -, rfl⟩ := List.mem_map.1 hm
    exact restorable_path (lists kind)

theorem restorable_settings {s : Settings} (lifetime : Json.Restorable depth s.transientLifetime)
    (flush : Json.Restorable depth s.flushInterval) :
    Json.Restorable (depth + 1) (settingsJson s) := by
  refine Json.readable_section ["update_blocked", "update_direct", "transient_ttl_seconds",
    "flush_interval_seconds"] rfl (by decide) (by decide) ?_
  simp only [List.forall_mem_cons, List.not_mem_nil, false_imp_iff, implies_true, and_true]
  exact ⟨.bool _, .bool _, lifetime, flush⟩

theorem restorable_logging (level : Log.Level) (format : Log.Format) :
    Json.Restorable (depth + 1) (loggingJson level format) := by
  refine Json.readable_section ["level", "output_format"] rfl (by decide) (by decide) ?_
  simp only [List.forall_mem_cons, List.not_mem_nil, false_imp_iff, implies_true, and_true]
  refine ⟨.string fun c hc => isScalar_of_ascii ?_, .string fun c hc => isScalar_of_ascii ?_⟩
  · revert c
    cases level <;> decide
  · revert c
    cases format <;> decide

theorem restorable_webhook {w : WebhookSettings} (h : IsWebhook w)
    (timeout : Json.Restorable (depth + 1) w.timeout) :
    Json.Restorable (depth + 2) (webhookJson (some w)) := by
  obtain ⟨t, url, -, scalar⟩ := h.url
  obtain ⟨headers, he, distinct, all⟩ := h.headers
  refine Json.readable_section ["enabled", "url", "headers", "timeout_seconds"] rfl (by decide)
    (by decide) ?_
  simp only [List.forall_mem_cons, List.not_mem_nil, false_imp_iff, implies_true, and_true]
  exact ⟨.bool _, url ▸ .string scalar, he ▸ restorable_headers distinct all, timeout⟩

theorem restorable_noWebhook : Json.Restorable (depth + 2) (webhookJson none) := by
  refine Json.readable_section ["enabled"] rfl (by decide) (by decide) ?_
  simp only [List.forall_mem_cons, List.not_mem_nil, false_imp_iff, implies_true, and_true]
  exact .bool _

/-- The document of a configuration is four levels deep. -/
theorem restorable_toJson {c : Configuration} (h : c.WellFormed) (fits : c.Fits) :
    Json.Restorable (depth + 4) c.toJson := by
  have interval {k : Nat} {v : Json} (hv : IsInterval v) (hm : v ∈ c.numbers) :
      Json.Restorable k v := restorable_interval hv fun n e => fits n (e ▸ hm)
  have webhook : Json.Restorable (depth + 2) (webhookJson c.webhook) := by
    cases hw : c.webhook with
    | none => exact restorable_noWebhook
    | some w =>
      have isWebhook := h.webhook w hw
      exact restorable_webhook isWebhook (interval isWebhook.timeout (by simp [numbers, hw]))
  have notifications : Json.Restorable (depth + 3) (.object
      [("simulation_mode", .bool c.simulation), ("webhook", webhookJson c.webhook)]) := by
    refine Json.readable_section ["simulation_mode", "webhook"] rfl (by decide) (by decide) ?_
    simp only [List.forall_mem_cons, List.not_mem_nil, false_imp_iff, implies_true, and_true]
    exact ⟨.bool _, webhook⟩
  refine Json.readable_section ["paths", "classifier", "logging", "notifications"] rfl (by decide)
    (by decide) ?_
  simp only [List.forall_mem_cons, List.not_mem_nil, false_imp_iff, implies_true, and_true]
  exact ⟨restorable_locations h.directory h.lists,
    restorable_settings (interval h.lifetime (by simp [numbers]))
      (interval h.flush (by simp [numbers])),
    restorable_logging c.level c.format, notifications⟩

end Document

/-! ## The content of the file -/

theorem encodePieces_of_written {ps : List (Option Text)} {t : Text} (h : Json.Written ps t)
    (scalar : ∀ c ∈ t, IsScalar c) : encodePieces ps = (octets t, none) := by
  obtain ⟨parts, rfl, rfl⟩ := h
  induction parts with
  | nil => rfl
  | cons p r ih =>
    simp only [List.flatten_cons, List.mem_append] at scalar
    rw [List.map_cons, encodePieces, encode_of_scalar fun c hc => scalar c (.inl hc)]
    simp only [ih fun c hc => scalar c (.inr hc), List.flatten_cons, octets_append]

/-- Writing stops at a piece that is missing. -/
theorem encodePieces_of_missing {ps : List (Option Text)} (h : none ∈ ps) :
    (encodePieces ps).2 ≠ none := by
  induction ps with
  | nil => cases h
  | cons p r ih =>
    cases p with
    | none => simp [encodePieces]
    | some p =>
      rw [encodePieces]
      split
      · simp
      · exact ih ((List.mem_cons.1 h).resolve_left (by simp))

/-- What is written for a configuration is read as that configuration. -/
theorem ofContent_content {c : Configuration} (h : c.WellFormed) (fits : c.Fits)
    (homes : Path.Homes) :
    ∃ content, c.content = (content, none) ∧ ofContent homes content = .ok c := by
  have document : Json.Restorable Json.nestingLimit c.toJson := restorable_toJson h fits
  obtain ⟨t, written, reads⟩ := document.readsAs 0
  have scalar : ∀ c ∈ t, IsScalar c := fun c hc => (reads.plain c hc).1
  have noReturn : 13 ∉ t := fun hc => (reads.plain 13 hc).2 rfl
  refine ⟨octets t, encodePieces_of_written written scalar, ?_⟩
  simp only [ofContent, decode_octets scalar, unifyLineEnds_of_not_mem noReturn,
    Json.document_of_readsAs reads, ofJson_toJson h homes]
  rfl

theorem mem_pieces_of_mem_numbers {c : Configuration} {v : Json} (h : v ∈ c.numbers) :
    ∃ level, ∀ p ∈ Json.pieces level v, p ∈ Json.pieces 0 c.toJson := by
  have settings {p : Option Text} (hp : p ∈ Json.pieces 1 (settingsJson c.settings)) :
      p ∈ Json.pieces 0 c.toJson := Json.mem_pieces_object (.tail _ (.head _)) hp
  have webhook {p : Option Text} (hp : p ∈ Json.pieces 2 (webhookJson c.webhook)) :
      p ∈ Json.pieces 0 c.toJson :=
    Json.mem_pieces_object (.tail _ (.tail _ (.tail _ (.head _))))
      (Json.mem_pieces_object (.tail _ (.head _)) hp)
  simp only [numbers, List.cons_append, List.nil_append, List.mem_cons, Option.mem_toList,
    Option.map_eq_some_iff] at h
  rcases h with rfl | rfl | ⟨w, hw, rfl⟩
  · exact ⟨2, fun p hp =>
      settings (Json.mem_pieces_object (.tail _ (.tail _ (.head _))) hp)⟩
  · exact ⟨2, fun p hp =>
      settings (Json.mem_pieces_object (.tail _ (.tail _ (.tail _ (.head _)))) hp)⟩
  · rw [hw] at webhook
    exact ⟨3, fun p hp =>
      webhook (Json.mem_pieces_object (.tail _ (.tail _ (.tail _ (.head _)))) hp)⟩

/-- A number that does not fit is a piece that is missing. -/
theorem content_of_not_fits {c : Configuration} (h : ¬ c.Fits) : c.content.2 ≠ none := by
  simp only [Fits, not_forall, Nat.not_le] at h
  obtain ⟨n, hn, long⟩ := h
  obtain ⟨level, all⟩ := mem_pieces_of_mem_numbers hn
  refine encodePieces_of_missing (all none ?_)
  have missing : Json.scalarPiece (.number (.int n)) = none := if_pos long
  rw [show Json.pieces level (.number (.int n)) = [Json.scalarPiece (.number (.int n))] from rfl,
    missing]
  exact List.mem_singleton_self _

/-! ## Files -/

theorem save_of_content {c : Configuration} {file : Path} {d : Disk} {content : Octets}
    (written : c.content = (content, none)) (writable : CanSaveTo file d) :
    (c.save file d).1 = .ok () ∧ (c.save file d).2.content file = .ok content := by
  obtain ⟨made, opened⟩ := writable
  obtain ⟨saved, found⟩ := Disk.write_content opened content
  rw [save]
  rcases hm : d.makeDirectories file.parent with ⟨r, e⟩
  rw [hm] at made saved found
  obtain rfl : r = .ok () := made
  rcases hw : e.write file content with ⟨r, f⟩
  rw [hw] at saved found
  obtain rfl : r = .ok () := saved
  simp only [written, hw, true_and]
  exact found

theorem not_saved_of_content {c : Configuration} (failed : c.content.2 ≠ none) (file : Path)
    (d : Disk) : (c.save file d).1 ≠ .ok () := by
  obtain ⟨failure, hf⟩ := Option.ne_none_iff_exists'.1 failed
  rw [save]
  rcases d.makeDirectories file.parent with ⟨_ | _, e⟩
  · simp
  · dsimp only
    rcases e.write file c.content.1 with ⟨_ | _, f⟩
    · simp
    · simp [hf]

/-- A configuration that is saved is loaded again, and it is saved if its numbers fit. -/
theorem load_save_iff {c : Configuration} (h : c.WellFormed) {file : Path} {d : Disk}
    (writable : CanSaveTo file d) (homes : Path.Homes) :
    (c.save file d).1 = .ok () ∧ load homes file (c.save file d).2 = .ok c ↔ c.Fits := by
  constructor
  · rintro ⟨saved, -⟩
    by_contra long
    exact not_saved_of_content (content_of_not_fits long) file d saved
  · intro fits
    obtain ⟨content, written, read⟩ := ofContent_content h fits homes
    obtain ⟨saved, found⟩ := save_of_content written writable
    exact ⟨saved, by rw [load, found]; exact read⟩

/-- A configuration whose paths and webhook have signs that are escaped. -/
def sample : Configuration where
  locations :=
    { directory := .ofText "/lists", blocked := .ofText "/lists/blocked",
      direct := .ofText "direct \"list\"", alwaysBlocked := .ofText "../always",
      alwaysDirect := .ofText "/srv/\u3000" }
  settings := { flushInterval := .number (.int 60) }
  level := .info
  format := .text
  webhook := some
    { url := .string "https://example.org/?q=\\", headers := headersJson [("x-key", "a\nb")] }

theorem wellFormed_sample : sample.WellFormed where
  directory := Path.literal_ofText (by decide) (by decide) (by decide)
  lists kind := by
    cases kind <;> exact Path.literal_ofText (by decide) (by decide) (by decide)
  lifetime := .decimal (by decide +kernel) (by decide +kernel)
  flush := .whole (by decide)
  webhook w hw := by
    cases hw
    exact {
      url := ⟨_, rfl, by decide, by decide⟩
      headers := ⟨_, rfl, by decide, by decide⟩
      timeout := .decimal (by decide +kernel) (by decide +kernel) }

theorem canSaveTo_empty : CanSaveTo (.ofText "/etc/app/config.json") { tree := ⟨[]⟩ } :=
  ⟨by decide +kernel, by decide +kernel⟩

/-- It is loaded from where it is saved. -/
theorem load_save_sample :
    sample.WellFormed ∧ CanSaveTo (.ofText "/etc/app/config.json") { tree := ⟨[]⟩ } ∧
      (sample.save (.ofText "/etc/app/config.json") { tree := ⟨[]⟩ }).1 = .ok () ∧
      load ⟨"/root", Path.systemAccounts⟩ (.ofText "/etc/app/config.json")
        (sample.save (.ofText "/etc/app/config.json") { tree := ⟨[]⟩ }).2 = .ok sample := by
  have fits : sample.Fits := by
    intro n hn
    obtain rfl : n = 60 := by simpa [numbers, sample, ExpiringSet.defaultLifetime] using hn
    decide
  exact ⟨wellFormed_sample, canSaveTo_empty,
    (load_save_iff wellFormed_sample canSaveTo_empty ⟨"/root", Path.systemAccounts⟩).2 fits⟩

/-! ### Numbers that are too long -/

/-- The configuration with another interval between flushes. -/
def flushingEvery (c : Configuration) (seconds : Int) : Configuration :=
  { c with settings := { c.settings with flushInterval := .number (.int seconds) } }

theorem WellFormed.flushingEvery {c : Configuration} (h : c.WellFormed) {seconds : Int}
    (positive : 0 < seconds) : (c.flushingEvery seconds).WellFormed where
  directory := h.directory
  lists := h.lists
  lifetime := h.lifetime
  flush := .whole positive
  webhook := h.webhook

theorem not_fits_flushingEvery (c : Configuration) {k : Nat} (long : numeralLimit ≤ k) :
    ¬ (c.flushingEvery (10 ^ k : Nat)).Fits := by
  intro fits
  have short : (ofNat (10 ^ k)).length ≤ numeralLimit :=
    fits (10 ^ k : Nat) (by simp [numbers, Configuration.flushingEvery])
  have positive : 0 < k := Nat.lt_of_lt_of_le (by decide) long
  exact absurd (lt_length_ofNat positive le_rfl) (Nat.not_lt.2 (short.trans long))

/-- An interval with one digit more than is written is not saved. -/
theorem not_load_save_long :
    (sample.flushingEvery (10 ^ numeralLimit : Nat)).WellFormed ∧
      CanSaveTo (.ofText "/etc/app/config.json") { tree := ⟨[]⟩ } ∧
      ¬ (((sample.flushingEvery (10 ^ numeralLimit : Nat)).save
          (.ofText "/etc/app/config.json") { tree := ⟨[]⟩ }).1 = .ok () ∧
        load ⟨"/root", Path.systemAccounts⟩ (.ofText "/etc/app/config.json")
          ((sample.flushingEvery (10 ^ numeralLimit : Nat)).save
            (.ofText "/etc/app/config.json") { tree := ⟨[]⟩ }).2 =
          .ok (sample.flushingEvery (10 ^ numeralLimit : Nat))) := by
  have positive : (0 : Int) < (10 ^ numeralLimit : Nat) :=
    Int.natCast_pos.2 (Nat.pow_pos (by decide))
  have failed := not_saved_of_content (content_of_not_fits (not_fits_flushingEvery sample le_rfl))
  exact ⟨wellFormed_sample.flushingEvery positive, canSaveTo_empty,
    fun saved => failed _ _ saved.1⟩

end Detour.Configuration
