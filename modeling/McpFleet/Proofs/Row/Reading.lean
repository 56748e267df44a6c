/-
  File:      McpFleet/Proofs/Row/Reading.lean
  Subject:   Which rows are read, and what is read from them.

  * `InstanceName.isNormal_iff_accepted`, `isNormal_iff_ends`: normal names are
    those that a text can give, and need no trimming.
  * `toInstance_ofInstance_eq`: of an instance's own row, reading judges the
    name and nothing else.
  * **`round_trip_exact`**: so an instance is read back from its row exactly
    when its name is normal, and what was read from any row is.
  * **`toInstance_withContainer`**: the settings in the hosting column are not
    judged. Every container is read from it.
-/
import McpFleet.Proofs.Checks
import McpFleet.Proofs.Instance
import McpFleet.Proofs.Row

namespace McpFleet

/-! ## 1. Normal names -/

namespace InstanceName

variable {n : InstanceName}

/-- **Normal names are those that a text can give.** -/
theorem isNormal_iff_accepted : n.IsNormal ↔ ∃ s, ofText s = .ok n := by
  constructor
  · intro normal
    exact ⟨n.text, ofText_of_isNormal normal⟩
  · rintro ⟨s, accepted⟩
    obtain ⟨text, -, short⟩ := ofText_eq_ok.mp accepted
    have trimmed : Text.trim n.text = n.text := by
      rw [text]
      exact Text.trim_idem s
    exact ⟨text_ne_empty accepted, short, trimmed⟩

/-- Normal names have 1 to 100 characters, and no blank at either end. -/
theorem isNormal_iff_ends : n.IsNormal ↔
    n.text ≠ "" ∧ n.text.length ≤ 100 ∧
      (∀ c, n.text.toList.head? = some c → Text.isBlank c = false) ∧
      (∀ c, n.text.toList.getLast? = some c → Text.isBlank c = false) := by
  rw [← Text.trim_eq_self_iff]
  exact Iff.rfl

end InstanceName

/-! ## 2. Rows of instances -/

namespace Row

variable {r : Row} {i : Instance}

/-- **Of an instance's own row, reading judges the name.** -/
theorem toInstance_ofInstance_eq (i : Instance) : (ofInstance i).toInstance =
    ((InstanceName.ofText i.name.text).mapError .name).map fun name => { i with name } := by
  have container : (ofInstance i).container? = .ok i.container := container?_ofInstance i
  unfold toInstance
  rw [container]
  unfold ofInstance
  simp only [i.access.ofText_name, i.protocol.ofText_name, i.status.ofText_name]
  cases InstanceName.ofText i.name.text <;> rfl

/-- An instance is read back exactly when its name is one that a text gives. -/
theorem toInstance_ofInstance_iff : (ofInstance i).toInstance = .ok i ↔ i.name.IsNormal := by
  refine ⟨fun h => ?_, toInstance_ofInstance⟩
  rw [toInstance_ofInstance_eq] at h
  cases given : InstanceName.ofText i.name.text with
  | error e =>
    rw [given] at h
    cases h
  | ok name =>
    rw [given] at h
    have same : name = i.name := congrArg Instance.name (Except.ok.inj h)
    rw [same] at given
    exact InstanceName.isNormal_iff_accepted.mpr ⟨_, given⟩

/-- The name that is read from a row is normal. -/
theorem isNormal_of_toInstance (h : r.toInstance = .ok i) : i.name.IsNormal := by
  unfold toInstance at h
  obtain ⟨name, named, h⟩ := bind_eq_ok.mp h
  obtain ⟨access, -, h⟩ := bind_eq_ok.mp h
  obtain ⟨protocol, -, h⟩ := bind_eq_ok.mp h
  obtain ⟨status, -, h⟩ := bind_eq_ok.mp h
  obtain ⟨container, -, h⟩ := bind_eq_ok.mp h
  obtain rfl := pure_eq_ok.mp h
  exact InstanceName.isNormal_iff_accepted.mpr ⟨r.name, mapError_eq_ok.mp named⟩

/-- **An instance is read back from its row exactly when its name is normal.**
    Normal names are those that a text gives: 1 to 100 characters, with no
    blank at either end. What was read from a row, however its texts were
    written, is read back from the row that is written for it. -/
theorem round_trip_exact :
    (∀ i : Instance, (ofInstance i).toInstance = .ok i ↔
      ∃ s, InstanceName.ofText s = .ok i.name) ∧
    (∀ n : InstanceName, (∃ s, InstanceName.ofText s = .ok n) ↔
      n.text ≠ "" ∧ n.text.length ≤ 100 ∧
        (∀ c, n.text.toList.head? = some c → Text.isBlank c = false) ∧
        (∀ c, n.text.toList.getLast? = some c → Text.isBlank c = false)) ∧
    (∀ (r : Row) (i : Instance), r.toInstance = .ok i → (ofInstance i).toInstance = .ok i) := by
  refine ⟨fun i => ?_, fun n => ?_, fun r i h => ?_⟩
  · rw [toInstance_ofInstance_iff, InstanceName.isNormal_iff_accepted]
  · rw [← InstanceName.isNormal_iff_accepted, InstanceName.isNormal_iff_ends]
  · exact toInstance_ofInstance (isNormal_of_toInstance h)

/-- A row with texts in another case and between blanks, and a container with
    a field too many and two left out. -/
def lenientRow : Row where
  id := ⟨7⟩
  name := " files\n"
  access := " HOSTING"
  protocol := "Sse "
  source := .ofJson .null
  target := .ofJson .null
  publicProxy := .ofJson .null
  status := "Active"
  hosting := some (.ofJson (.object [("containerIsReady", .bool true),
    ("containerName", .text "mcp-7"), ("containerStatus", .text "running"), ("note", .null),
    ("serviceName", .text "mcp-svc-7"), ("spec", .object [("command", .null),
      ("environmentId", .integer 1), ("environmentVariables", .object []),
      ("imageAddress", .text "tools"), ("initScript", .null), ("port", .integer 80),
      ("timeouts", .object [("runningTimeout", .integer 0), ("startupTimeout", .integer 30)]),
      ("tokens", .array []), ("volumeMounts", .array [])])]))
  message := none
  createdAt := ⟨0, 0⟩
  updatedAt := ⟨0, 0⟩

theorem round_trip_exact_lenientRow :
    ∃ i, lenientRow.toInstance = .ok i ∧ i.name.text = "files" ∧ i.access = .hosting ∧
      i.container.isSome ∧ (ofInstance i).toInstance = .ok i := by
  have accepted : (lenientRow.toInstance.toOption.map fun i =>
      (i.name.text, i.access, i.container.isSome)) = some ("files", .hosting, true) := by
    decide +kernel
  cases read : lenientRow.toInstance with
  | error e =>
    rw [read] at accepted
    cases accepted
  | ok i =>
    rw [read] at accepted
    obtain ⟨name, others⟩ := Prod.mk.inj (Option.some.inj accepted)
    obtain ⟨access, container⟩ := Prod.mk.inj others
    exact ⟨i, rfl, name, access, container, round_trip_exact.2.2 lenientRow i read⟩

/-! ## 3. The hosting column -/

/-- **Every container is read from the hosting column**, whatever its settings
    are, when the other columns can be read. -/
theorem toInstance_withContainer (h : r.toInstance = .ok i) (k : Hosting.Container) :
    { r with hosting := some (.ofJson k.toJson) }.toInstance =
      .ok { i with container := some k } := by
  have column : { r with hosting := some (.ofJson k.toJson) }.container? = .ok (some k) := by
    unfold container?
    simp only [tree_toJson, k.ofJson?_toJson]
  unfold toInstance at h ⊢
  obtain ⟨name, named, h⟩ := bind_eq_ok.mp h
  obtain ⟨access, reached, h⟩ := bind_eq_ok.mp h
  obtain ⟨protocol, spoken, h⟩ := bind_eq_ok.mp h
  obtain ⟨status, used, h⟩ := bind_eq_ok.mp h
  obtain ⟨container, -, h⟩ := bind_eq_ok.mp h
  obtain rfl := pure_eq_ok.mp h
  exact bind_eq_ok.mpr ⟨name, named, bind_eq_ok.mpr ⟨access, reached, bind_eq_ok.mpr ⟨protocol,
    spoken, bind_eq_ok.mpr ⟨status, used, bind_eq_ok.mpr ⟨some k, column, rfl⟩⟩⟩⟩⟩

end Row

end McpFleet
