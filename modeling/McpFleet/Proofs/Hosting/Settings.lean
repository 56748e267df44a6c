/-
  File:      McpFleet/Proofs/Hosting/Settings.lean
  Subject:   Which settings of a container are accepted.

  * `Settings.Admissible`: what settings have to meet.
  * **`Spec.ofSettings_eq_ok`**: they are accepted exactly when they do, and
    become one spec.
  * `Spec.admissible_toSettings`: that spec asks for admissible settings.
-/
import McpFleet.Hosting
import McpFleet.Proofs.Checks
import McpFleet.Proofs.Text

namespace McpFleet.Hosting

/-! ## 1. Conditions -/

/-- What settings have to meet to be accepted. -/
structure Settings.Admissible (s : Settings) : Prop where
  port : s.port ≠ 0
  environment : 0 < s.environmentId
  image : Text.trim s.image ≠ ""
  startup : s.startupTimeout = 0 ∨ (30 ≤ s.startupTimeout ∧ s.startupTimeout ≤ 3600)
  running : s.runningTimeout = 0 ∨ (60 ≤ s.runningTimeout ∧ s.runningTimeout ≤ 86400)
  mounts : ∀ m ∈ s.mounts, Text.trim m.path ≠ ""

/-- The spec of settings: texts are trimmed, and blank ones are left out. -/
def Settings.spec (s : Settings) : Spec where
  environmentId := ⟨s.environmentId⟩
  packageId := s.packageId.bind Text.trimmed?
  port := s.port
  command := s.command.bind Text.trimmed?
  initScript := s.initScript.bind Text.trimmed?
  image := Text.trim s.image
  env := s.env
  mounts := s.mounts
  timeouts := ⟨s.startupTimeout, s.runningTimeout⟩
  tokens := s.tokens.filter (fun t => !Text.isBlankText t)

/-! ## 2. Checks -/

theorem ofInt64_eq_ok {n : Int64} {e : EnvironmentId} :
    EnvironmentId.ofInt64 n = .ok e ↔ 0 < n ∧ e = ⟨n⟩ := by
  unfold EnvironmentId.ofInt64
  by_cases h : n ≤ 0
  · have notPositive : ¬ 0 < n := Int64.not_lt.mpr h
    simp [h, notPositive]
  · have positive : 0 < n := Int64.not_le.mp h
    simp [h, positive, eq_comm]

theorem Timeouts.startupInRange_iff {startup : UInt32} :
    startupInRange startup = true ↔ startup = 0 ∨ (30 ≤ startup ∧ startup ≤ 3600) := by
  simp [startupInRange]

theorem Timeouts.runningInRange_iff {running : UInt32} :
    runningInRange running = true ↔ running = 0 ∨ (60 ≤ running ∧ running ≤ 86400) := by
  simp [runningInRange]

theorem Timeouts.ofSeconds_eq_ok {startup running : UInt32} {t : Timeouts} :
    Timeouts.ofSeconds startup running = .ok t ↔
      (startup = 0 ∨ (30 ≤ startup ∧ startup ≤ 3600)) ∧
      (running = 0 ∨ (60 ≤ running ∧ running ≤ 86400)) ∧ t = ⟨startup, running⟩ := by
  rw [← startupInRange_iff, ← runningInRange_iff]
  unfold ofSeconds
  cases startupInRange startup <;> cases runningInRange running <;> simp [eq_comm]

theorem any_blank_iff {mounts : List Mount} :
    ¬ (mounts.any fun m => Text.isBlankText m.path) = true ↔
      ∀ m ∈ mounts, Text.trim m.path ≠ "" := by
  simp [Text.isBlankText]

/-- **Settings are accepted exactly when they are admissible**, and become
    their spec. -/
theorem Spec.ofSettings_eq_ok {s : Settings} {spec : Spec} :
    ofSettings s = .ok spec ↔ s.Admissible ∧ spec = s.spec := by
  unfold ofSettings
  rw [guard_eq_ok, bind_eq_ok]
  constructor
  · rintro ⟨port, e, positive, h⟩
    obtain ⟨environment, rfl⟩ := ofInt64_eq_ok.mp positive
    split at h
    · rename_i image given
      obtain ⟨t, limits, h⟩ := bind_eq_ok.mp h
      obtain ⟨startup, running, rfl⟩ := Timeouts.ofSeconds_eq_ok.mp limits
      obtain ⟨mounts, h⟩ := guard_eq_ok.mp h
      obtain ⟨rfl, nonempty⟩ := Text.trimmed?_eq_some.mp given
      exact ⟨⟨port, environment, nonempty, startup, running, any_blank_iff.mp mounts⟩,
        (pure_eq_ok.mp h).symm⟩
    · exact absurd h throw_ne_ok
  · rintro ⟨⟨port, environment, image, startup, running, mounts⟩, rfl⟩
    refine ⟨port, _, ofInt64_eq_ok.mpr ⟨environment, rfl⟩, ?_⟩
    have given : Text.trimmed? s.image = some (Text.trim s.image) :=
      Text.trimmed?_eq_some.mpr ⟨rfl, image⟩
    simp only [given]
    exact bind_eq_ok.mpr ⟨_, Timeouts.ofSeconds_eq_ok.mpr ⟨startup, running, rfl⟩,
      guard_eq_ok.mpr ⟨any_blank_iff.mpr mounts, rfl⟩⟩

/-- What an accepted spec asks for is admissible again. -/
theorem Spec.admissible_toSettings {s : Settings} {spec : Spec} (h : ofSettings s = .ok spec) :
    spec.toSettings.Admissible := by
  obtain ⟨⟨port, environment, image, startup, running, mounts⟩, rfl⟩ := ofSettings_eq_ok.mp h
  refine ⟨port, environment, ?_, startup, running, mounts⟩
  show Text.trim (Text.trim s.image) ≠ ""
  rw [Text.trim_idem]
  exact image

theorem Spec.usesImage_iff {spec : Spec} {starts : List String} :
    spec.usesImage starts = true ↔ ∃ start ∈ starts, start.toList <+: spec.image.toList := by
  simp [usesImage, Text.startsWith, List.isPrefixOf_iff_prefix]

end McpFleet.Hosting
