/-
  File:      McpFleet/Proofs/Checks.lean
  Subject:   Chains of checks that succeed or are refused, taken apart check by
             check.
-/

namespace McpFleet

variable {α β ε ε' : Type}

/-- **A chain succeeds when its first check does and the rest does with its
    result.** -/
theorem bind_eq_ok {e : Except ε α} {f : α → Except ε β} {b : β} :
    e >>= f = .ok b ↔ ∃ a, e = .ok a ∧ f a = .ok b := by
  cases e with
  | error x => simp [bind, Except.bind]
  | ok a => simp [bind, Except.bind]

theorem isOk_iff {e : Except ε α} : e.isOk = true ↔ ∃ a, e = .ok a := by
  cases e with
  | error x => exact ⟨nofun, nofun⟩
  | ok a => exact ⟨fun _ => ⟨a, rfl⟩, fun _ => rfl⟩

theorem mapError_eq_ok {e : Except ε α} {wrap : ε → ε'} {a : α} :
    e.mapError wrap = .ok a ↔ e = .ok a := by
  cases e with
  | error x => exact ⟨nofun, nofun⟩
  | ok b =>
    change (.ok b : Except ε' α) = .ok a ↔ (.ok b : Except ε α) = .ok a
    rw [Except.ok.injEq, Except.ok.injEq]

theorem pure_eq_ok {a b : α} : (pure a : Except ε α) = .ok b ↔ a = b := by
  simp [pure, Except.pure]

theorem throw_ne_ok {e : ε} {a : α} : (throw e : Except ε α) ≠ .ok a := by
  simp [throw, throwThe, MonadExceptOf.throw]

/-- A guard passes when its condition does not hold. -/
theorem guard_eq_ok {c : Prop} [Decidable c] {e : ε} {f : α → Except ε β} {rest : Except ε β}
    {b : β} : (if c then (throw e : Except ε α) >>= f else rest) = .ok b ↔ ¬ c ∧ rest = .ok b := by
  by_cases h : c
  · simp [h, bind, Except.bind, throw, throwThe, MonadExceptOf.throw]
  · simp [h]

/-- A check that is no part of a chain. -/
theorem ite_error_eq_ok {c : Prop} [Decidable c] {e : ε} {rest : Except ε α} {a : α} :
    (if c then .error e else rest) = .ok a ↔ ¬ c ∧ rest = .ok a := by
  by_cases h : c
  · simp [h]
  · simp [h]

/-- A chain is refused by its first check, or by the rest. -/
theorem bind_eq_error {e : Except ε α} {f : α → Except ε β} {x : ε} :
    e >>= f = .error x ↔ e = .error x ∨ ∃ a, e = .ok a ∧ f a = .error x := by
  cases e with
  | error y => simp [bind, Except.bind]
  | ok a => simp [bind, Except.bind]

theorem guard_eq_error {c : Prop} [Decidable c] {e x : ε} {f : α → Except ε β}
    {rest : Except ε β} :
    (if c then (throw e : Except ε α) >>= f else rest) = .error x ↔
      (c ∧ x = e) ∨ (¬ c ∧ rest = .error x) := by
  by_cases h : c
  · simp [h, bind, Except.bind, throw, throwThe, MonadExceptOf.throw, eq_comm]
  · simp [h]

theorem throw_eq_error {e x : ε} : (throw e : Except ε α) = .error x ↔ e = x := by
  simp [throw, throwThe, MonadExceptOf.throw]

theorem pure_ne_error {a : α} {x : ε} : (pure a : Except ε α) ≠ .error x := by
  simp [pure, Except.pure]

theorem exists_ok_of_toBool {e : Except ε α} (h : e.toBool = true) : ∃ a, e = .ok a := by
  cases e with
  | error x => cases h
  | ok a => exact ⟨a, rfl⟩

end McpFleet
