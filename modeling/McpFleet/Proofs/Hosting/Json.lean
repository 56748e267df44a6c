/-
  File:      McpFleet/Proofs/Hosting/Json.lean
  Subject:   The JSON form of a container says all of it.

  * `Timeouts.lossless_toJson`, ..., **`Container.lossless_toJson`**: it is a
    document as it is written, and its text says all of it.
  * `Timeouts.ofJson?_toJson`, ..., **`Container.ofJson?_toJson`**: what is
    written is read back.
  * `Timeouts.fits_toJson`, ..., `Container.fits_toJson`: a reader that
    passes over fields it does not know passes over none of a container.
-/
import McpFleet.Hosting.Json
import McpFleet.Proofs.Json.Reading
import McpFleet.Proofs.Json.RoundTrip

namespace McpFleet

theorem ContainerStatus.ofJson?_toJson (s : ContainerStatus) : ofJson? s.toJson = some s := by
  cases s <;> rfl

theorem EnvironmentId.ofJson?_toJson (e : EnvironmentId) : ofJson? e.toJson = some e := by
  unfold ofJson? toJson
  rw [Json.int64?_integer]
  rfl

namespace Hosting

open Json (Lossless)

/-! ## 1. What is written -/

/-- A number of at most 64 bits without a sign. -/
theorem lossless_natural {n m bound : Nat} (small : m < bound)
    (fits : bound ≤ 0x10000000000000000) : (Json.integer m).Lossless n :=
  .integer (by omega) (by omega)

theorem lossless_int64 {n : Nat} (v : Int64) : (Json.integer v.toInt).Lossless n := by
  have lo := v.le_toInt
  have hi := v.toInt_lt
  exact .integer (by omega) (by omega)

theorem Timeouts.lossless_toJson {n : Nat} (t : Timeouts) : t.toJson.Lossless (n + 1) := by
  refine .object (Json.ascending_of_keys ["runningTimeout", "startupTimeout"] rfl (by decide)) ?_
  simp only [List.forall_mem_cons]
  exact ⟨lossless_natural t.running.toNat_lt (by decide),
    lossless_natural t.startup.toNat_lt (by decide), List.forall_mem_nil _⟩

theorem Mount.lossless_toJson {n : Nat} (m : Mount) : m.toJson.Lossless (n + 1) := by
  refine .object (Json.ascending_of_keys ["mountPath", "readOnly", "source"] rfl (by decide)) ?_
  simp only [List.forall_mem_cons]
  exact ⟨.text _, .bool _, .text _, List.forall_mem_nil _⟩

theorem Spec.lossless_toJson {n : Nat} (s : Spec) : s.toJson.Lossless (n + 3) := by
  refine .object (Json.ascending_of_keys ["command", "environmentId", "environmentVariables",
    "imageAddress", "initScript", "packageId", "port", "timeouts", "tokens", "volumeMounts"] rfl
    (by decide)) ?_
  simp only [List.forall_mem_cons]
  exact ⟨.option .text _, lossless_int64 _, .textDict _, .text _, .option .text _, .option .text _,
    lossless_natural s.port.toNat_lt (by decide), s.timeouts.lossless_toJson, .list .text _,
    .list Mount.lossless_toJson _, List.forall_mem_nil _⟩

/-- **The text of a container says all of it.** -/
theorem Container.lossless_toJson {n : Nat} (c : Container) : c.toJson.Lossless (n + 4) := by
  refine .object (Json.ascending_of_keys ["containerIsReady", "containerName", "containerStatus",
    "generation", "serviceName", "spec"] rfl (by decide)) ?_
  simp only [List.forall_mem_cons]
  exact ⟨.bool _, .text _, .text _, lossless_natural c.generation.toNat_lt (by decide), .text _,
    c.spec.lossless_toJson, List.forall_mem_nil _⟩

/-! ## 2. Reading back -/

theorem Timeouts.ofJson?_toJson (t : Timeouts) : ofJson? t.toJson = some t := by
  have keys := (t.lossless_toJson (n := 0)).keys
  unfold ofJson? toJson
  rw [Json.record?_object keys]
  simp only [Option.bind_eq_bind, Option.bind_some]
  rw [Json.required_recordOf (by decide) Json.uint32? (by rfl),
    Json.required_recordOf (by decide) Json.uint32? (by rfl)]
  simp only [Json.uint32?_integer, Option.bind_some]
  rfl

theorem Mount.ofJson?_toJson (m : Mount) : ofJson? m.toJson = some m := by
  have keys := (m.lossless_toJson (n := 0)).keys
  unfold ofJson? toJson
  rw [Json.record?_object keys]
  simp only [Option.bind_eq_bind, Option.bind_some]
  rw [Json.required_recordOf (by decide) Json.text? (by rfl),
    Json.required_recordOf (by decide) Json.text? (by rfl),
    Json.withDefault_recordOf (by decide) false Json.bool? (by rfl)]
  rfl

theorem Spec.ofJson?_toJson (s : Spec) : ofJson? s.toJson = some s := by
  have keys := (s.lossless_toJson (n := 0)).keys
  have mounts : Json.list? Mount.ofJson? (ofMounts s.mounts) = some s.mounts :=
    Json.list?_map Mount.ofJson?_toJson s.mounts
  unfold ofJson? toJson
  rw [Json.record?_object keys]
  simp only [Option.bind_eq_bind, Option.bind_some]
  rw [Json.required_recordOf (by decide) EnvironmentId.ofJson? (by rfl),
    Json.optional_recordOf (by decide) Json.text? (by rfl),
    Json.required_recordOf (by decide) Json.uint16? (by rfl),
    Json.optional_recordOf (by decide) Json.text? (by rfl),
    Json.optional_recordOf (by decide) Json.text? (by rfl),
    Json.required_recordOf (by decide) Json.text? (by rfl),
    Json.required_recordOf (by decide) Json.textDict? (by rfl),
    Json.required_recordOf (by decide) (Json.list? Mount.ofJson?) (by rfl),
    Json.required_recordOf (by decide) Timeouts.ofJson? (by rfl),
    Json.required_recordOf (by decide) (Json.list? Json.text?) (by rfl)]
  simp only [s.environmentId.ofJson?_toJson, Json.nullable?_ofOption, Json.uint16?_integer,
    Json.textDict?_ofTextDict, mounts, s.timeouts.ofJson?_toJson, Json.list?_ofTexts,
    Option.bind_some]
  rfl

/-- **A container is read back from its text.** -/
theorem Container.ofJson?_toJson (c : Container) : ofJson? c.toJson = some c := by
  have keys := (c.lossless_toJson (n := 0)).keys
  unfold ofJson? toJson
  rw [Json.record?_object keys]
  simp only [Option.bind_eq_bind, Option.bind_some]
  rw [Json.required_recordOf (by decide) Spec.ofJson? (by rfl),
    Json.required_recordOf (by decide) Json.text? (by rfl),
    Json.required_recordOf (by decide) Json.text? (by rfl),
    Json.required_recordOf (by decide) ContainerStatus.ofJson? (by rfl),
    Json.required_recordOf (by decide) Json.bool? (by rfl),
    Json.withDefault_recordOf (by decide) 0 Json.uint32? (by rfl)]
  simp only [c.spec.ofJson?_toJson, c.status.ofJson?_toJson, Json.uint32?_integer,
    Option.bind_some]
  rfl

/-! ## 3. Fields that are wanted -/

open Json (fits_whole)

theorem Timeouts.fits_toJson (t : Timeouts) : t.toJson.Fits Timeouts.shape := by
  refine .record ?_
  simp only [List.forall_mem_cons]
  exact ⟨⟨.whole, rfl, fits_whole _⟩, ⟨.whole, rfl, fits_whole _⟩, List.forall_mem_nil _⟩

theorem Mount.fits_toJson (m : Mount) : m.toJson.Fits Mount.shape := by
  refine .record ?_
  simp only [List.forall_mem_cons]
  exact ⟨⟨.whole, rfl, fits_whole _⟩, ⟨.whole, rfl, fits_whole _⟩, ⟨.whole, rfl, fits_whole _⟩,
    List.forall_mem_nil _⟩

theorem fits_ofMounts (mounts : List Mount) : (ofMounts mounts).Fits (.list Mount.shape) := by
  refine .list fun x hx => ?_
  obtain ⟨m, -, rfl⟩ := List.mem_map.mp hx
  exact m.fits_toJson

theorem Spec.fits_toJson (s : Spec) : s.toJson.Fits Spec.shape := by
  refine .record ?_
  simp only [List.forall_mem_cons]
  exact ⟨⟨.whole, rfl, fits_whole _⟩, ⟨.whole, rfl, fits_whole _⟩, ⟨.whole, rfl, fits_whole _⟩,
    ⟨.whole, rfl, fits_whole _⟩, ⟨.whole, rfl, fits_whole _⟩, ⟨.whole, rfl, fits_whole _⟩,
    ⟨.whole, rfl, fits_whole _⟩, ⟨Timeouts.shape, rfl, s.timeouts.fits_toJson⟩,
    ⟨.whole, rfl, fits_whole _⟩, ⟨.list Mount.shape, rfl, fits_ofMounts _⟩,
    List.forall_mem_nil _⟩

/-- **No field of a container is passed over.** -/
theorem Container.fits_toJson (c : Container) : c.toJson.Fits Container.shape := by
  refine .record ?_
  simp only [List.forall_mem_cons]
  exact ⟨⟨.whole, rfl, fits_whole _⟩, ⟨.whole, rfl, fits_whole _⟩, ⟨.whole, rfl, fits_whole _⟩,
    ⟨.whole, rfl, fits_whole _⟩, ⟨.whole, rfl, fits_whole _⟩,
    ⟨Spec.shape, rfl, c.spec.fits_toJson⟩, List.forall_mem_nil _⟩

end Hosting

end McpFleet
