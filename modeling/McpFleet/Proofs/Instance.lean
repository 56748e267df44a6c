/-
  File:      McpFleet/Proofs/Instance.lean
  Subject:   Names of instances, and what a change of state leaves alone.

  A text gives a name when 1 to 100 characters are left of it once it is
  trimmed (`ofText_eq_ok`).

  Restarting an instance, putting it into a state of use and taking a report
  keep everything about it but its state, its message and the time of the
  change; of its container they keep all but what it reports. `Kept` says so
  of the instance itself, `SameDocuments` of what it is published as.
-/
import McpFleet.Instance
import McpFleet.Proofs.Text

namespace McpFleet

/-- **A text gives its trimmed form as a name**, if that has 1 to 100
    characters. -/
theorem InstanceName.ofText_eq_ok {s : String} {n : InstanceName} :
    ofText s = .ok n ↔ n.text = Text.trim s ∧ 1 ≤ n.text.length ∧ n.text.length ≤ maxLength := by
  unfold ofText
  have empty : (Text.trim s).isEmpty = true ↔ (Text.trim s).length = 0 := by
    rw [String.isEmpty_iff, String.length_eq_zero_iff]
  obtain ⟨text⟩ := n
  by_cases nothing : (Text.trim s).length = 0
  · simp only [empty.mpr nothing, if_true, reduceCtorEq, false_iff]
    rintro ⟨rfl, some, -⟩
    omega
  · have something : (Text.trim s).isEmpty = false := by
      rw [Bool.eq_false_iff]
      exact mt empty.mp nothing
    simp only [something, Bool.false_eq_true, if_false]
    by_cases long : maxLength < (Text.trim s).length
    · simp only [if_pos long, reduceCtorEq, false_iff]
      rintro ⟨rfl, -, short⟩
      omega
    · simp only [if_neg long, Except.ok.injEq, InstanceName.mk.injEq]
      constructor
      · rintro rfl
        exact ⟨rfl, by omega, by omega⟩
      · rintro ⟨rfl, -, -⟩
        rfl

theorem InstanceName.text_ne_empty {s : String} {n : InstanceName} (given : ofText s = .ok n) :
    n.text ≠ "" := by
  obtain ⟨-, long, -⟩ := ofText_eq_ok.mp given
  intro empty
  rw [empty] at long
  exact absurd long (by decide)

/-- What a container keeps when its report is put aside. -/
theorem Hosting.Container.resetToPending_eq {k l : Hosting.Container} :
    k.resetToPending = l.resetToPending ↔
      k.spec = l.spec ∧ k.name = l.name ∧ k.service = l.service ∧ k.generation = l.generation := by
  cases k
  cases l
  simp [resetToPending]

namespace Instance

/-- The same instance with the same container, in another state. -/
structure Kept (s i : Instance) : Prop where
  id : i.id = s.id
  name : i.name = s.name
  access : i.access = s.access
  createdAt : i.createdAt = s.createdAt
  container : i.container.map (·.resetToPending) = s.container.map (·.resetToPending)

variable {s i : Instance} {now : Instant}

theorem kept_withStatus? {status : InstanceStatus} (h : s.withStatus? status now = some i) :
    s.Kept i := by
  unfold withStatus? at h
  split at h
  · cases h
  · cases h
    exact ⟨rfl, rfl, rfl, rfl, rfl⟩

theorem kept_withReport? {r : StatusReport} (h : s.withReport? r now = some i) : s.Kept i := by
  unfold withReport? at h
  split at h
  · cases h
  · rename_i k hk
    split at h
    · cases h
      refine ⟨rfl, rfl, rfl, rfl, ?_⟩
      rw [hk]
      rfl
    · cases h

theorem kept_markRestarting {message : String} (h : s.markRestarting message now = .ok i) :
    s.Kept i := by
  unfold markRestarting at h
  split at h
  · cases h
  · rename_i k hk
    cases h
    refine ⟨rfl, rfl, rfl, rfl, ?_⟩
    rw [hk]
    rfl

/-- The same protocol and the same documents. -/
structure SameDocuments (s i : Instance) : Prop where
  protocol : i.protocol = s.protocol
  source : i.source = s.source
  target : i.target = s.target
  publicProxy : i.publicProxy = s.publicProxy

theorem sameDocuments_withStatus? {status : InstanceStatus}
    (h : s.withStatus? status now = some i) : s.SameDocuments i := by
  unfold withStatus? at h
  split at h
  · cases h
  · cases h
    exact ⟨rfl, rfl, rfl, rfl⟩

theorem sameDocuments_withReport? {r : StatusReport} (h : s.withReport? r now = some i) :
    s.SameDocuments i := by
  unfold withReport? at h
  split at h
  · cases h
  · split at h
    · cases h
      exact ⟨rfl, rfl, rfl, rfl⟩
    · cases h

theorem sameDocuments_markRestarting {message : String}
    (h : s.markRestarting message now = .ok i) : s.SameDocuments i := by
  unfold markRestarting at h
  split at h
  · cases h
  · cases h
    exact ⟨rfl, rfl, rfl, rfl⟩

/-- The container of an instance, apart from what it reports. -/
theorem Kept.container_eq (h : s.Kept i) {k : Hosting.Container} (hk : s.container = some k) :
    ∃ l, i.container = some l ∧ l.spec = k.spec ∧ l.name = k.name ∧ l.service = k.service ∧
      l.generation = k.generation := by
  have same := h.container
  rw [hk] at same
  obtain ⟨l, hl, e⟩ := Option.map_eq_some_iff.mp same
  exact ⟨l, hl, Hosting.Container.resetToPending_eq.mp e⟩

theorem Kept.container_none (h : s.Kept i) (hk : s.container = none) : i.container = none := by
  have same := h.container
  rw [hk] at same
  exact Option.map_eq_none_iff.mp same

/-- An instance with a container can be marked. -/
theorem markRestarting_of_some {k : Hosting.Container} (hk : s.container = some k)
    (message : String) (now : Instant) : ∃ i, s.markRestarting message now = .ok i := by
  unfold markRestarting
  rw [hk]
  exact ⟨_, rfl⟩

end Instance

end McpFleet
