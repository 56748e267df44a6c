/-
  File:      McpFleet/Proofs/Server/Keys.lean
  Subject:   The service keys that are made from the names of instances.

  A name may have any characters; a key has few. The key of a name has a dash
  for every character that keys do not have, and `mcp-` before a digit in
  front (`toList_serviceKeyOf`).

  * `isKey_serviceKeyOf`: so it is a service key, if there is a name at all.
  * `serviceKeyOf_eq_self`: a name that is a service key is left alone.
  * **`names_give_keys`**: both, for every name that a text gives.
-/
import McpFleet.Fleet.Plan
import McpFleet.Proofs.Instance
import McpFleet.Proofs.Server.Grammar

namespace McpFleet.Fleet

variable {name : InstanceName} {c : Char}

/-! ## 1. Characters -/

theorem isWordChar_keyChar (c : Char) : Text.isWordChar (keyChar c) = true := by
  unfold keyChar
  split
  · assumption
  · decide

theorem keyChar_of_isWordChar (h : Text.isWordChar c = true) : keyChar c = c := if_pos h

/-- The characters of a name with a dash for each that keys do not have. -/
def dashed (name : InstanceName) : List Char := name.text.toList.map keyChar

theorem isWordChar_of_mem_dashed (h : c ∈ dashed name) : Text.isWordChar c = true := by
  obtain ⟨a, -, rfl⟩ := List.mem_map.mp h
  exact isWordChar_keyChar a

theorem dashed_ne_nil (nonempty : name.text ≠ "") : dashed name ≠ [] := by
  intro none
  exact nonempty (String.toList_eq_nil_iff.mp (List.map_eq_nil_iff.mp none))

/-- A key has no characters to be replaced. -/
theorem dashed_of_isKey (key : Server.IsKey name.text) : dashed name = name.text.toList := by
  have kept : ∀ c ∈ name.text.toList, keyChar c = id c :=
    fun c hc => keyChar_of_isWordChar (key.word c hc)
  unfold dashed
  rw [List.map_congr_left kept, List.map_id]

/-! ## 2. Keys -/

/-- **What the key of a name is made of**: the name with dashes, behind `mcp-`
    when it begins with a digit. -/
theorem toList_serviceKeyOf (name : InstanceName) : (serviceKeyOf name).toList =
    if (dashed name).head?.any Text.isAsciiDigit then "mcp-".toList ++ dashed name
    else dashed name := by
  unfold serviceKeyOf dashed
  cases name.text.toList.map keyChar with
  | nil => rfl
  | cons c cs =>
    have first : (c :: cs).head?.any Text.isAsciiDigit = Text.isAsciiDigit c := rfl
    rw [first]
    by_cases digit : Text.isAsciiDigit c = true
    · simp only [if_pos digit, String.toList_append, String.toList_ofList]
    · simp only [if_neg digit, String.toList_ofList]

/-- Digits of another script are no digits in a key: they are replaced, and
    nothing is put before them. -/
example : serviceKeyOf ⟨"42 tools"⟩ = "mcp-42-tools" ∧ serviceKeyOf ⟨"٤٢ tools"⟩ = "---tools" := by
  decide +kernel

/-- A name that is a service key is its own key. -/
theorem serviceKeyOf_eq_self (key : Server.isKey name.text = true) :
    serviceKeyOf name = name.text := by
  have key := Server.isKey_iff.mp key
  have same := dashed_of_isKey key
  have letter : (dashed name).head?.any Text.isAsciiDigit = false := by
    rw [same, Option.any_eq_false]
    exact key.first
  have chars := toList_serviceKeyOf name
  rw [letter, if_neg Bool.false_ne_true, same] at chars
  exact String.toList_inj.mp chars

/-- Every character of the key of a name can stand in a key. -/
theorem isWordChar_of_mem_serviceKeyOf (h : c ∈ (serviceKeyOf name).toList) :
    Text.isWordChar c = true := by
  have lead : "mcp-".toList.all Text.isWordChar = true := by decide
  rw [toList_serviceKeyOf] at h
  split at h
  · rcases List.mem_append.mp h with front | back
    · exact List.all_eq_true.mp lead c front
    · exact isWordChar_of_mem_dashed back
  · exact isWordChar_of_mem_dashed h

/-- The key of a name has no digit in front: `mcp-` stands before it. -/
theorem head?_serviceKeyOf (h : (serviceKeyOf name).toList.head? = some c) :
    Text.isAsciiDigit c = false := by
  rw [toList_serviceKeyOf] at h
  split at h
  · obtain rfl : 'm' = c := Option.some.inj h
    decide
  · rename_i letter
    exact (Option.any_eq_false _ _).mp (Bool.eq_false_iff.mpr letter) c h

/-- **A key made from a name is a service key**, whatever the name is made of. -/
theorem isKey_serviceKeyOf (nonempty : name.text ≠ "") :
    Server.isKey (serviceKeyOf name) = true := by
  refine Server.isKey_iff.mpr ⟨fun empty => ?_, fun c => isWordChar_of_mem_serviceKeyOf,
    fun c => head?_serviceKeyOf⟩
  have chars := toList_serviceKeyOf name
  rw [empty] at chars
  split at chars
  · cases chars
  · exact dashed_ne_nil nonempty chars.symm

/-- **Every name gives a service key**, and it is the name itself exactly when
    the name is a service key already. -/
theorem names_give_keys {text : String} (given : InstanceName.ofText text = .ok name) :
    Server.isKey (serviceKeyOf name) = true ∧
      (serviceKeyOf name = name.text ↔ Server.isKey name.text = true) := by
  have key := isKey_serviceKeyOf (InstanceName.text_ne_empty given)
  refine ⟨key, fun same => ?_, serviceKeyOf_eq_self⟩
  rw [← same]
  exact key

theorem names_give_keys_numbered :
    InstanceName.ofText " 42 tools" = .ok ⟨"42 tools"⟩ ∧
      Server.isKey (serviceKeyOf ⟨"42 tools"⟩) = true ∧
      (serviceKeyOf ⟨"42 tools"⟩ = "42 tools" ↔ Server.isKey "42 tools" = true) := by
  have given : InstanceName.ofText " 42 tools" = .ok ⟨"42 tools"⟩ := by decide +kernel
  exact ⟨given, names_give_keys given⟩

end McpFleet.Fleet
