/-
  File:      McpFleet/Proofs/Row.lean
  Subject:   Reading an instance back from its row.

  * `InstanceName.ofText_of_isNormal`: a normal name is accepted as it is.
  * `Row.container?_ofInstance`: the container is read from its column.
  * **`Row.toInstance_ofInstance`**: an instance with a normal name is read
    back from its row.
-/
import McpFleet.Proofs.Hosting.Json
import McpFleet.Row

namespace McpFleet

theorem InstanceName.ext_text {m n : InstanceName} (h : m.text = n.text) : m = n := by
  cases m; cases n; cases h; rfl

theorem InstanceName.ofText_of_isNormal {n : InstanceName} (h : n.IsNormal) :
    InstanceName.ofText n.text = .ok n := by
  obtain ⟨nonempty, short, trimmed⟩ := h
  have inhabited : n.text.isEmpty = false := by
    rw [Bool.eq_false_iff]
    exact fun e => nonempty (String.isEmpty_iff.mp e)
  unfold InstanceName.ofText
  simp only [trimmed, inhabited, Bool.false_eq_true, if_false]
  exact if_neg (Nat.not_lt.mpr short)

theorem Access.ofText_name (a : Access) : Access.ofText a.name = .ok a := by
  cases a <;> rfl

theorem Protocol.ofText_name (p : Protocol) : Protocol.ofText p.name = .ok p := by
  cases p <;> rfl

theorem InstanceStatus.ofText_name (s : InstanceStatus) : InstanceStatus.ofText s.name = .ok s := by
  cases s <;> rfl

namespace Row

/-- The document of a container is the tree that was written. -/
theorem tree_toJson (c : Hosting.Container) : (Document.ofJson c.toJson).tree = c.toJson :=
  Json.canonical_eq_self c.toJson (c.lossless_toJson (n := 0)).ordered

theorem container?_ofInstance (i : Instance) : (ofInstance i).container? = .ok i.container := by
  unfold container? ofInstance
  cases i.container with
  | none => rfl
  | some c =>
    simp only [Option.map_some]
    rw [tree_toJson, c.ofJson?_toJson]

/-- **An instance is read back from its row.** -/
theorem toInstance_ofInstance {i : Instance} (h : i.name.IsNormal) :
    (ofInstance i).toInstance = .ok i := by
  have container := container?_ofInstance i
  have name := InstanceName.ofText_of_isNormal h
  unfold toInstance
  rw [container]
  unfold ofInstance
  simp only [name, i.access.ofText_name, i.protocol.ofText_name, i.status.ofText_name]
  rfl

end Row

end McpFleet
