/-
  File:      McpFleet/Proofs/Cluster/Labels.lean
  Subject:   The names of containers and services are labels that a cluster
             takes, and no name is given twice.

  * `IsLabel`: what a cluster demands of a name.
  * `isLabel_of_suffix`: a short beginning of lower-case letters and hyphens
    makes a label of the identifier and the generation behind it.
  * `containerName_ne_serviceName`: both kinds of names begin with `mcp-`, and
    behind it one goes on with `s`, which is no hexadecimal digit.
  * **`names_valid_and_apart`**: the names of all deployments.
-/
import McpFleet.Proofs.Cluster.Naming
import McpFleet.Proofs.Cluster.Operations
import Mathlib.Data.Nat.Digits.Defs

namespace McpFleet

namespace Deployment

/-! ## 1. Labels -/

/-- Lower-case letters and digits. -/
def isLabelEnd (c : Char) : Bool := c.isLower || c.isDigit

/-- A label of a DNS name: lower-case letters, digits and hyphens, a letter
    first and no hyphen last, 63 characters at most. -/
structure IsLabel (name : String) : Prop where
  first : name.toList.head?.any Char.isLower = true
  chars : ∀ c ∈ name.toList, isLabelEnd c = true ∨ c = '-'
  last : name.toList.getLast?.any isLabelEnd = true
  length : name.toList.length ≤ 63

variable {id a b : Uuid} {g h : UInt32} {c : Char}

theorem isLabelEnd_of_mem_digits (hc : c ∈ id.digits) : isLabelEnd c = true ∧ c ≠ 's' :=
  Uuid.of_mem_digits (p := fun c => isLabelEnd c = true ∧ c ≠ 's') (by decide) hc

theorem isLabelEnd_of_mem_toDigits {n : Nat} (hc : c ∈ Nat.toDigits 10 n) :
    isLabelEnd c = true := by
  have digit : c.isDigit = true := Nat.isDigit_of_mem_toDigits (by decide) (by decide) hc
  exact Bool.or_eq_true_iff.mpr (.inr digit)

/-! ## 2. The common end of both names -/

theorem generationMark_chars (hc : c ∈ generationMark g) : isLabelEnd c = true ∨ c = '-' := by
  unfold generationMark at hc
  split at hc
  · cases hc
  · rcases List.mem_cons.mp hc with rfl | digit
    · exact .inr rfl
    · exact .inl (isLabelEnd_of_mem_toDigits digit)

theorem suffix_chars (hc : c ∈ (suffix id g).toList) : isLabelEnd c = true ∨ c = '-' := by
  rw [toList_suffix] at hc
  rcases List.mem_append.mp hc with digit | mark
  · exact .inl (isLabelEnd_of_mem_digits digit).1
  · exact generationMark_chars mark

/-- A generation has ten digits at most. -/
theorem length_generationMark (g : UInt32) : (generationMark g).length ≤ 11 := by
  unfold generationMark
  split
  · exact Nat.zero_le _
  · have small : g.toNat < 10 ^ 10 := Nat.lt_trans g.toNat_lt (by decide)
    have digits := Nat.toDigits_length 10 g.toNat 10 (by decide) small
    rw [List.length_cons]
    omega

theorem length_suffix (id : Uuid) (g : UInt32) : (suffix id g).toList.length ≤ 43 := by
  have mark := length_generationMark g
  rw [toList_suffix, List.length_append, Uuid.length_digits]
  omega

theorem suffix_last (id : Uuid) (g : UInt32) :
    ∃ c, (suffix id g).toList.getLast? = some c ∧ isLabelEnd c = true := by
  rw [toList_suffix]
  by_cases first : g = 0
  · have bare : generationMark g = [] := if_pos first
    rw [bare, List.append_nil]
    cases ends : id.digits.getLast? with
    | none =>
      have length := id.length_digits
      rw [List.getLast?_eq_none_iff.mp ends] at length
      cases length
    | some c => exact ⟨c, rfl, (isLabelEnd_of_mem_digits (List.mem_of_getLast? ends)).1⟩
  · have marked : generationMark g = '-' :: Nat.toDigits 10 g.toNat := if_neg first
    cases ends : (Nat.toDigits 10 g.toNat).getLast? with
    | none => exact absurd (List.getLast?_eq_none_iff.mp ends) Nat.toDigits_ne_nil
    | some c =>
      refine ⟨c, ?_, isLabelEnd_of_mem_toDigits (List.mem_of_getLast? ends)⟩
      rw [marked, List.getLast?_append, List.getLast?_cons, ends]
      rfl

/-! ## 3. Names -/

/-- **A short beginning makes a label** of an identifier and a generation. -/
theorem isLabel_of_suffix {start : String} (id : Uuid) (g : UInt32)
    (first : start.toList.head?.any Char.isLower = true)
    (chars : start.toList.all (fun c => isLabelEnd c || c == '-') = true)
    (short : start.toList.length ≤ 20) : IsLabel (start ++ suffix id g) where
  first := by
    rw [String.toList_append, List.head?_append]
    cases begins : start.toList.head? with
    | none =>
      rw [begins] at first
      cases first
    | some c =>
      rw [begins] at first
      exact first
  chars c hc := by
    rw [String.toList_append] at hc
    rcases List.mem_append.mp hc with front | back
    · have fit := List.all_eq_true.mp chars c front
      exact (Bool.or_eq_true_iff.mp fit).imp_right beq_iff_eq.mp
    · exact suffix_chars back
  last := by
    obtain ⟨c, ends, fit⟩ := suffix_last id g
    rw [String.toList_append, List.getLast?_append, ends]
    exact fit
  length := by
    have back := length_suffix id g
    rw [String.toList_append, List.length_append]
    omega

theorem isLabel_containerName (id : Uuid) (g : UInt32) : IsLabel (containerName id g) :=
  isLabel_of_suffix id g (by decide) (by decide) (by decide)

theorem isLabel_serviceName (id : Uuid) (g : UInt32) : IsLabel (serviceName id g) :=
  isLabel_of_suffix id g (by decide) (by decide) (by decide)

/-- **No container has the name of a service.** -/
theorem containerName_ne_serviceName (a b : Uuid) (g h : UInt32) :
    containerName a g ≠ serviceName b h := by
  intro same
  have split : "mcp-svc-" = "mcp-" ++ "svc-" := rfl
  unfold containerName serviceName at same
  rw [split, String.append_assoc, String.append_right_inj] at same
  have chars := congrArg String.toList same
  rw [toList_suffix, String.toList_append] at chars
  cases digits : a.digits with
  | nil =>
    have length := a.length_digits
    rw [digits] at length
    cases length
  | cons c cs =>
    rw [digits] at chars
    have letter : c = 's' := (List.cons.inj chars).1
    exact (isLabelEnd_of_mem_digits (digits ▸ List.mem_cons_self : c ∈ a.digits)).2 letter

/-- **Names are labels, and tell deployments apart.** Whatever instance and
    generation a request is for, it gets a deployment unless it is for a local
    process without a command. Container and service then have names that a
    cluster takes. Two deployments have one container name, and likewise one
    service name, exactly when they are for the same instance and generation,
    and no container has the name of a service. -/
theorem names_valid_and_apart :
    (∀ r : Request, (∃ d, ofRequest r = .ok d) ↔
      (r.protocol = .stdio → r.spec.command ≠ none ∨ r.launchCommand ≠ none)) ∧
    (∀ (r : Request) (d : Deployment), ofRequest r = .ok d → IsLabel d.container ∧ IsLabel d.service) ∧
    (∀ (r r' : Request) (d d' : Deployment), ofRequest r = .ok d → ofRequest r' = .ok d' →
      (d.container = d'.container ↔ r.id = r'.id ∧ r.generation = r'.generation) ∧
      (d.service = d'.service ↔ r.id = r'.id ∧ r.generation = r'.generation) ∧
      d.container ≠ d'.service) := by
  refine ⟨fun r => ?_, fun r d made => ?_, fun r r' d d' made made' => ?_⟩
  · have command : r.spec.command.or r.launchCommand ≠ none ↔
        r.spec.command ≠ none ∨ r.launchCommand ≠ none := by
      cases r.spec.command <;> simp
    rw [← command]
    constructor
    · rintro ⟨d, made⟩
      exact (ofRequest_eq_ok.mp made).1
    · intro passed
      exact ⟨_, ofRequest_eq_ok.mpr ⟨passed, rfl⟩⟩
  · obtain ⟨container, service, -, -⟩ := ofRequest_spec made
    rw [container, service]
    exact ⟨isLabel_containerName _ _, isLabel_serviceName _ _⟩
  · obtain ⟨container, service, -, -⟩ := ofRequest_spec made
    obtain ⟨container', service', -, -⟩ := ofRequest_spec made'
    rw [container, service, container', service']
    exact ⟨containerName_inj, serviceName_inj, containerName_ne_serviceName _ _ _ _⟩

/-- A local process in the last generation of the last identifier. -/
def sampleRequest : Request where
  id := ⟨BitVec.allOnes 128⟩
  protocol := .stdio
  spec := ⟨⟨1⟩, none, 8000, none, none, "mcp-hosting-runtime:1", .empty, [], ⟨0, 0⟩, []⟩
  launchCommand := some "npx server"
  nameSpace := "tools"
  generation := 0xFFFFFFFF

theorem names_valid_and_apart_sampleRequest :
    ∃ d d', ofRequest sampleRequest = .ok d ∧
      ofRequest { sampleRequest with generation := 0 } = .ok d' ∧
      d.service = "mcp-svc-ffffffffffffffffffffffffffffffff-4294967295" ∧
      IsLabel d.container ∧ IsLabel d.service ∧ d.container ≠ d'.container ∧
      d.service ≠ d'.service ∧ d.container ≠ d'.service := by
  obtain ⟨accepted, valid, apart⟩ := names_valid_and_apart
  have command : sampleRequest.launchCommand ≠ none := nofun
  obtain ⟨d, made⟩ := (accepted sampleRequest).mpr fun _ => .inr command
  obtain ⟨d', made'⟩ := (accepted { sampleRequest with generation := 0 }).mpr fun _ => .inr command
  have later : ¬ (sampleRequest.id = sampleRequest.id ∧ sampleRequest.generation = 0) := by decide
  obtain ⟨container, service, kinds⟩ := apart _ _ d d' made made'
  have named : d.service = "mcp-svc-ffffffffffffffffffffffffffffffff-4294967295" := by
    rw [(ofRequest_spec made).2.1]
    decide +kernel
  exact ⟨d, d', made, made', named, (valid _ _ made).1, (valid _ _ made).2,
    fun same => later (container.mp same), fun same => later (service.mp same), kinds⟩

end Deployment

end McpFleet
