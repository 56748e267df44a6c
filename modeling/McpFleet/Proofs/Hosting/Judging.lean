/-
  File:      McpFleet/Proofs/Hosting/Judging.lean
  Subject:   How settings of a container are judged: what is demanded, which
             error is given, and what an accepted spec says.

  * `Settings.demands`: the demands in their order, each with its error;
    `FirstUnmet` picks the error of the first one that is not met.
  * `Spec.ofSettings_eq_error`: settings are refused with that error.
  * `Becomes`: what a spec keeps of its settings.
  * `Spec.spec_toSettings`: a spec is its own normal form.
  * **`settings_judged_exactly`**: all of it.
-/
import McpFleet.Proofs.Hosting.Settings

namespace McpFleet

/-- Empty, or white space only. -/
def Text.AllBlank (s : String) : Prop := ∀ c ∈ s.toList, Text.isBlank c = true

instance (s : String) : Decidable (Text.AllBlank s) :=
  decidable_of_iff (s.toList.all Text.isBlank = true) List.all_eq_true

theorem Text.trim_ne_empty {s : String} : trim s ≠ "" ↔ ¬ AllBlank s := not_congr trim_eq_empty

theorem Text.trimmed?_bind_trimmed? (o : Option String) :
    (o.bind trimmed?).bind trimmed? = o.bind trimmed? := by
  cases o with
  | none => rfl
  | some s =>
    cases left : trimmed? s with
    | none => simp [left]
    | some t =>
      obtain ⟨rfl, nonempty⟩ := trimmed?_eq_some.mp left
      have again : trimmed? (trim s) = some (trim s) :=
        trimmed?_eq_some.mpr ⟨trim_idem s, nonempty⟩
      simp [left, again]

/-- A text that can be missing is kept trimmed, and a blank one is left out. -/
theorem Text.bind_trimmed?_eq_some {o : Option String} {t : String} :
    o.bind trimmed? = some t ↔ ∃ s, o = some s ∧ ¬ AllBlank s ∧ t = trim s := by
  rw [Option.bind_eq_some_iff]
  refine exists_congr fun s => and_congr_right fun _ => ?_
  rw [trimmed?_eq_some, ← trim_ne_empty]
  constructor
  · rintro ⟨rfl, nonempty⟩
    exact ⟨nonempty, rfl⟩
  · rintro ⟨nonempty, rfl⟩
    exact ⟨rfl, nonempty⟩

namespace Hosting

/-! ## 1. Demands -/

/-- What is demanded of settings, in the order in which it is judged, with the
    error for settings that do not meet it. -/
def Settings.demands (s : Settings) : List (Prop × DomainError) :=
  [(s.port ≠ 0, .invalidPort),
   (0 < s.environmentId, .invalidEnvironmentId s.environmentId),
   (¬ Text.AllBlank s.image, .emptyImage),
   (s.startupTimeout = 0 ∨ (30 ≤ s.startupTimeout ∧ s.startupTimeout ≤ 3600),
     .startupTimeoutOutOfRange s.startupTimeout),
   (s.runningTimeout = 0 ∨ (60 ≤ s.runningTimeout ∧ s.runningTimeout ≤ 86400),
     .runningTimeoutOutOfRange s.runningTimeout),
   (∀ m ∈ s.mounts, ¬ Text.AllBlank m.path, .emptyMountPath)]

/-- The error of the first demand that is not met. -/
inductive FirstUnmet : List (Prop × DomainError) → DomainError → Prop where
  | here {p : Prop} {e : DomainError} {rest : List (Prop × DomainError)} (unmet : ¬ p) :
    FirstUnmet ((p, e) :: rest) e
  | later {p : Prop} {e x : DomainError} {rest : List (Prop × DomainError)} (met : p)
    (unmet : FirstUnmet rest x) : FirstUnmet ((p, e) :: rest) x

theorem not_firstUnmet_nil {x : DomainError} : ¬ FirstUnmet [] x := nofun

theorem firstUnmet_cons {p : Prop} {e x : DomainError} {rest : List (Prop × DomainError)} :
    FirstUnmet ((p, e) :: rest) x ↔ (¬ p ∧ x = e) ∨ (p ∧ FirstUnmet rest x) := by
  constructor
  · intro h
    cases h with
    | here unmet => exact .inl ⟨unmet, rfl⟩
    | later met unmet => exact .inr ⟨met, unmet⟩
  · rintro (⟨unmet, rfl⟩ | ⟨met, unmet⟩)
    · exact .here unmet
    · exact .later met unmet

theorem Settings.admissible_iff {s : Settings} : s.Admissible ↔ ∀ d ∈ s.demands, d.1 := by
  simp only [demands, List.forall_mem_cons, List.not_mem_nil, false_implies, implies_true, and_true,
    ← Text.trim_ne_empty]
  constructor
  · rintro ⟨port, environment, image, startup, running, mounts⟩
    exact ⟨port, environment, image, startup, running, mounts⟩
  · rintro ⟨port, environment, image, startup, running, mounts⟩
    exact ⟨port, environment, image, startup, running, mounts⟩

/-! ## 2. Refusals -/

theorem ofInt64_eq_error {n : Int64} {x : DomainError} :
    EnvironmentId.ofInt64 n = .error x ↔ ¬ 0 < n ∧ x = .invalidEnvironmentId n := by
  unfold EnvironmentId.ofInt64
  by_cases h : n ≤ 0
  · have notPositive : ¬ 0 < n := Int64.not_lt.mpr h
    simp [h, notPositive, eq_comm]
  · have positive : 0 < n := Int64.not_le.mp h
    simp [h, positive]

theorem Timeouts.ofSeconds_eq_error {startup running : UInt32} {x : DomainError} :
    Timeouts.ofSeconds startup running = .error x ↔
      (¬ (startup = 0 ∨ (30 ≤ startup ∧ startup ≤ 3600)) ∧ x = .startupTimeoutOutOfRange startup) ∨
      ((startup = 0 ∨ (30 ≤ startup ∧ startup ≤ 3600)) ∧
        ¬ (running = 0 ∨ (60 ≤ running ∧ running ≤ 86400)) ∧
        x = .runningTimeoutOutOfRange running) := by
  rw [← startupInRange_iff, ← runningInRange_iff]
  unfold ofSeconds
  cases startupInRange startup <;> cases runningInRange running <;> simp [eq_comm]

/-- **Refused settings get the error of the first demand that they do not
    meet.** -/
theorem Spec.ofSettings_eq_error {s : Settings} {x : DomainError} :
    ofSettings s = .error x ↔ FirstUnmet s.demands x := by
  unfold Settings.demands
  simp only [firstUnmet_cons, not_firstUnmet_nil, and_false, or_false, not_not,
    ← Text.trim_ne_empty]
  unfold ofSettings
  rw [guard_eq_error, bind_eq_error, ofInt64_eq_error]
  refine or_congr_right (and_congr_right fun _ => or_congr_right ?_)
  simp only [ofInt64_eq_ok, and_assoc, exists_and_left, exists_eq_left]
  refine and_congr_right fun _ => ?_
  cases given : Text.trimmed? s.image with
  | none =>
    have blank : Text.trim s.image = "" := Text.trim_eq_empty.mpr (Text.trimmed?_eq_none.mp given)
    simp only [blank, ne_eq, not_true_eq_false, false_and, or_false, true_and]
    exact throw_eq_error.trans eq_comm
  | some image =>
    obtain ⟨rfl, nonempty⟩ := Text.trimmed?_eq_some.mp given
    have mounts : (s.mounts.any fun m => Text.isBlankText m.path) = true ↔
        ¬ ∀ m ∈ s.mounts, Text.trim m.path ≠ "" := not_not.symm.trans (not_congr any_blank_iff)
    simp only [bind_eq_error, Timeouts.ofSeconds_eq_error, Timeouts.ofSeconds_eq_ok,
      guard_eq_error, pure_ne_error, and_false, or_false, nonempty, ne_eq, not_false_eq_true,
      false_and, false_or, true_and, and_assoc, exists_and_left, exists_eq_left, mounts,
      and_or_left, or_assoc]

/-! ## 3. What is kept -/

/-- What a spec keeps of its settings: the image and the texts that can be
    missing are trimmed, blank ones of these are left out, and so are blank
    tokens. -/
structure Settings.Becomes (s : Settings) (spec : Spec) : Prop where
  environment : spec.environmentId = ⟨s.environmentId⟩
  port : spec.port = s.port
  image : spec.image = Text.trim s.image
  command : ∀ t, spec.command = some t ↔
    ∃ given, s.command = some given ∧ ¬ Text.AllBlank given ∧ t = Text.trim given
  initScript : ∀ t, spec.initScript = some t ↔
    ∃ given, s.initScript = some given ∧ ¬ Text.AllBlank given ∧ t = Text.trim given
  packageId : ∀ t, spec.packageId = some t ↔
    ∃ given, s.packageId = some given ∧ ¬ Text.AllBlank given ∧ t = Text.trim given
  env : spec.env = s.env
  mounts : spec.mounts = s.mounts
  timeouts : spec.timeouts = ⟨s.startupTimeout, s.runningTimeout⟩
  tokens : spec.tokens = s.tokens.filter fun t => ¬ Text.AllBlank t

theorem Settings.becomes_spec (s : Settings) : s.Becomes s.spec where
  environment := rfl
  port := rfl
  image := rfl
  command _ := Text.bind_trimmed?_eq_some
  initScript _ := Text.bind_trimmed?_eq_some
  packageId _ := Text.bind_trimmed?_eq_some
  env := rfl
  mounts := rfl
  timeouts := rfl
  tokens := by
    refine List.filter_congr fun t _ => ?_
    rw [← Bool.coe_iff_coe, decide_eq_true_iff, ← Text.trim_ne_empty]
    simp [Text.isBlankText]

/-- **A spec is its own normal form.** -/
theorem Spec.spec_toSettings (s : Settings) : s.spec.toSettings.spec = s.spec := by
  unfold Settings.spec toSettings
  simp only [Text.trimmed?_bind_trimmed?, Text.trim_idem, List.filter_filter, Bool.and_self]

/-- **Settings are judged exactly, and what was accepted is accepted again.**
    Settings are accepted when they meet every demand, and refused with the
    error of the first demand that they do not meet. An accepted spec says what
    its settings say, trimmed; asking for exactly that spec gives it again, and
    with it the same answer to whether the image is one of those that start
    with given texts. -/
theorem settings_judged_exactly (s : Settings) :
    ((∃ spec, Spec.ofSettings s = .ok spec) ↔ ∀ d ∈ s.demands, d.1) ∧
    (∀ x, Spec.ofSettings s = .error x ↔ FirstUnmet s.demands x) ∧
    (∀ spec, Spec.ofSettings s = .ok spec → s.Becomes spec ∧
      ∃ again, Spec.ofSettings spec.toSettings = .ok again ∧ again = spec ∧
        ∀ starts, again.usesImage starts = spec.usesImage starts ∧
          (spec.usesImage starts = true ↔
            ∃ start ∈ starts, start.toList <+: (Text.trim s.image).toList)) := by
  refine ⟨?_, fun x => Spec.ofSettings_eq_error, fun spec accepted => ?_⟩
  · rw [← Settings.admissible_iff]
    constructor
    · rintro ⟨spec, accepted⟩
      exact (Spec.ofSettings_eq_ok.mp accepted).1
    · intro admissible
      exact ⟨s.spec, Spec.ofSettings_eq_ok.mpr ⟨admissible, rfl⟩⟩
  · have again := Spec.admissible_toSettings accepted
    obtain ⟨-, rfl⟩ := Spec.ofSettings_eq_ok.mp accepted
    exact ⟨s.becomes_spec, s.spec,
      Spec.ofSettings_eq_ok.mpr ⟨again, (Spec.spec_toSettings s).symm⟩, rfl,
      fun _ => ⟨rfl, Spec.usesImage_iff⟩⟩

/-- Settings with blanks around the image, a blank command and a blank token. -/
def sampleSettings : Settings :=
  { Settings.blank with
    environmentId := 1
    port := 8000
    image := " registry.local/runtime:1\n"
    command := some " \t"
    packageId := some " bundle "
    runningTimeout := 86400
    tokens := ["secret", " ", "other"] }

theorem settings_judged_exactly_sampleSettings :
    (∃ spec, Spec.ofSettings sampleSettings = .ok spec ∧
      spec.image = "registry.local/runtime:1" ∧ spec.command = none ∧
      spec.packageId = some "bundle" ∧ spec.tokens = ["secret", "other"] ∧
      Spec.ofSettings spec.toSettings = .ok spec ∧ spec.usesImage ["registry.local"] = true) ∧
    Spec.ofSettings { sampleSettings with image := "\u00a0", startupTimeout := 29 } =
      .error .emptyImage := by
  constructor
  · obtain ⟨accepted, -, kept⟩ := settings_judged_exactly sampleSettings
    have admissible : sampleSettings.Admissible :=
      ⟨by decide, by decide, by decide, by decide, by decide, nofun⟩
    obtain ⟨spec, made⟩ := accepted.mpr (Settings.admissible_iff.mp admissible)
    obtain ⟨becomes, again, made', same, starts⟩ := kept spec made
    have read : (Spec.ofSettings sampleSettings).toOption.map (fun spec =>
        (spec.command, spec.packageId)) = some (none, some "bundle") := by decide
    rw [made] at read
    obtain ⟨command, packageId⟩ := Prod.mk.inj (Option.some.inj read)
    exact ⟨spec, made, becomes.image.trans (by decide), command, packageId,
      becomes.tokens.trans (by decide), same ▸ made',
      (starts ["registry.local"]).2.mpr ⟨_, List.mem_singleton_self _, by decide⟩⟩
  · exact ((settings_judged_exactly _).2.1 .emptyImage).mpr
      (.later (by decide) (.later (by decide) (.here (by decide))))

end Hosting

end McpFleet
