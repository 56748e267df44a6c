/-
  File:      McpFleet/Proofs/Cluster/Naming.lean
  Subject:   The names of containers and services tell instances and
             generations apart.

  * `Uuid.digits_inj`: 32 digits write one identifier.
  * `Deployment.suffix_inj`: the digits have a fixed length, so what follows
    them is the generation.
  * `containerName_inj`, `serviceName_inj`: one name, one instance and one
    generation.
-/
import McpFleet.Cluster
import Mathlib.Algebra.Group.Nat.Defs

namespace McpFleet

/-! ## 1. Digits of a number -/

theorem Text.hexDigit_inj {m n : Nat} (hm : m < 16) (hn : n < 16)
    (h : hexDigit m = hexDigit n) : m = n := by
  have e : some m = some n := by
    rw [← hexValue?_hexDigit hm, ← hexValue?_hexDigit hn, h]
  exact Option.some.inj e

theorem Text.ofNat_inj {m n : Nat} (h : Text.ofNat m = Text.ofNat n) : m = n := by
  have e : Nat.toDigits 10 m = Nat.toDigits 10 n := String.ofList_injective h
  rw [← Nat.ofDigitChars_ten_toDigits (n := m), e, Nat.ofDigitChars_ten_toDigits]

/-- A number is fixed by its last `d` hexadecimal digits if it has no more. -/
theorem eq_of_hexDigits : ∀ (d m n : Nat), m < 16 ^ d → n < 16 ^ d →
    (∀ k < d, m >>> (4 * k) % 16 = n >>> (4 * k) % 16) → m = n
  | 0, m, n, hm, hn, _ => by omega
  | d + 1, m, n, hm, hn, h => by
    have last : m % 16 = n % 16 := by simpa using h 0 (Nat.succ_pos d)
    have front : m / 16 = n / 16 := by
      refine eq_of_hexDigits d _ _ (by rw [Nat.pow_succ] at hm; omega)
        (by rw [Nat.pow_succ] at hn; omega) fun k hk => ?_
      have shift (x : Nat) : (x / 16) >>> (4 * k) = x >>> (4 * (k + 1)) := by
        rw [show 4 * (k + 1) = 4 + 4 * k by omega, Nat.shiftRight_add]
        simp [Nat.shiftRight_eq_div_pow]
      rw [shift m, shift n]
      exact h (k + 1) (by omega)
    omega

/-! ## 2. Identifiers -/

namespace Uuid

theorem length_digits (u : Uuid) : u.digits.length = 32 := by simp [digits]

/-- What holds of the sixteen digits holds of those that an identifier is
    written with. -/
theorem of_mem_digits {p : Char → Prop} {u : Uuid} {c : Char}
    (all : ∀ n ∈ List.range 16, p (Text.hexDigit n)) (h : c ∈ u.digits) : p c := by
  obtain ⟨place, -, rfl⟩ := List.mem_map.mp h
  exact all _ (List.mem_range.mpr (Nat.mod_lt _ (by decide)))

/-- **32 digits write one identifier.** -/
theorem digits_inj {a b : Uuid} (h : a.digits = b.digits) : a = b := by
  have same : a.bits.toNat = b.bits.toNat := by
    refine eq_of_hexDigits 32 _ _ a.bits.isLt b.bits.isLt fun k hk => ?_
    have place : a.digit (31 - k) = b.digit (31 - k) :=
      List.map_inj_left.mp h (31 - k) (List.mem_range.mpr (by omega))
    unfold digit at place
    rw [show 31 - (31 - k) = k by omega] at place
    exact Text.hexDigit_inj (Nat.mod_lt _ (by decide)) (Nat.mod_lt _ (by decide)) place
  cases a
  cases b
  exact congrArg Uuid.mk (BitVec.eq_of_toNat_eq same)

end Uuid

/-! ## 3. Names -/

namespace Deployment

/-- What follows the identifier in a name. -/
def generationMark (generation : UInt32) : List Char :=
  if generation = 0 then [] else '-' :: Nat.toDigits 10 generation.toNat

theorem toList_suffix (id : Uuid) (g : UInt32) :
    (suffix id g).toList = id.digits ++ generationMark g := by
  unfold suffix generationMark
  split <;> simp [Uuid.plainText, Text.ofNat]

theorem generationMark_inj {g h : UInt32} (e : generationMark g = generationMark h) : g = h := by
  unfold generationMark at e
  split at e <;> split at e
  · rename_i hg hh; rw [hg, hh]
  · cases e
  · cases e
  · exact UInt32.toNat_inj.mp (Text.ofNat_inj (congrArg String.ofList (List.cons.inj e).2))

/-- **An end of a name belongs to one instance and one generation.** -/
theorem suffix_inj {a b : Uuid} {g h : UInt32} (e : suffix a g = suffix b h) : a = b ∧ g = h := by
  have e' := congrArg String.toList e
  rw [toList_suffix, toList_suffix] at e'
  obtain ⟨hid, hg⟩ := List.append_inj e' (by rw [Uuid.length_digits, Uuid.length_digits])
  exact ⟨Uuid.digits_inj hid, generationMark_inj hg⟩

/-- **One container name, one instance and one generation.** -/
theorem containerName_inj {a b : Uuid} {g h : UInt32} :
    containerName a g = containerName b h ↔ a = b ∧ g = h := by
  refine ⟨fun e => suffix_inj (String.append_right_inj _ |>.mp e), ?_⟩
  intro parts
  obtain ⟨rfl, rfl⟩ := parts
  rfl

/-- **One service name, one instance and one generation.** -/
theorem serviceName_inj {a b : Uuid} {g h : UInt32} :
    serviceName a g = serviceName b h ↔ a = b ∧ g = h := by
  refine ⟨fun e => suffix_inj (String.append_right_inj _ |>.mp e), ?_⟩
  intro parts
  obtain ⟨rfl, rfl⟩ := parts
  rfl

end Deployment

end McpFleet
