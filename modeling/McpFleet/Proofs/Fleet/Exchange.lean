/-
  File:      McpFleet/Proofs/Fleet/Exchange.lean
  Subject:   Runs of tasks, call by call.

  * `Program.exchanges`: the calls of a run with their answers and the states
    behind them; `calls_exchanges` ties it to the trace.
  * `Task.Runs`: a whole run, from the state before to the result and the
    state after; `runs_bind` takes a run of two parts apart.
  * `Task.Yields`: a run that succeeds, without its exchanges; `yields_bind`
    takes it apart.
  * `Task.ReadOnly`: tasks that only look things up; `ReadOnly.still` says
    that they leave the state alone at every call.
-/
import McpFleet.Fleet.World

namespace McpFleet.Fleet

/-! ## 1. Exchanges -/

/-- A call, what it was answered with, and the state behind it. -/
structure Exchange where
  call : Call
  answer : call.Answer
  after : World

namespace Program

variable {α β : Type}

/-- The exchanges of a run, in order. -/
def exchanges : Program α → World → List Exchange
  | done _, _ => []
  | call c next, w =>
    ⟨c, (w.answer c).1, (w.answer c).2⟩ :: (next (w.answer c).1).exchanges (w.answer c).2

theorem calls_exchanges (p : Program α) (w : World) :
    (p.exchanges w).map (·.call) = p.trace w := by
  induction p generalizing w with
  | done a => rfl
  | call c next ih => exact congrArg (c :: ·) (ih _ _)

theorem exchanges_bind (p : Program α) (f : α → Program β) (w : World) :
    (p.bind f).exchanges w = p.exchanges w ++ (f (p.run w).1).exchanges (p.run w).2 := by
  induction p generalizing w with
  | done a => rfl
  | call c next ih => exact congrArg (_ :: ·) (ih _ _)

end Program

/-! ## 2. Looking things up -/

/-- Calls that are answered without a change. -/
def Call.isLookup : Call → Bool
  | findRecord _ => true
  | findRecordByName _ => true
  | listRecords => true
  | findEnvironment _ => true
  | containerStatus _ => true
  | containerLogs _ _ => true
  | probe _ _ => true
  | readClock => true
  | _ => false

/-- Nothing but look-ups, and the state behind each is `w`. -/
def Still (w : World) (xs : List Exchange) : Prop := ∀ x ∈ xs, x.call.isLookup ∧ x.after = w

theorem still_nil (w : World) : Still w [] := fun _ h => nomatch h

theorem Still.append {w : World} {xs ys : List Exchange} (hx : Still w xs) (hy : Still w ys) :
    Still w (xs ++ ys) := fun x h => (List.mem_append.mp h).elim (hx x) (hy x)

namespace World

variable {α : Type}

theorem withRegistry_lookup (w : World) (operation : StoreOperation) (f : Registry → α) :
    (w.withRegistry operation fun r => .ok (f r, r)).2 = w := by
  unfold withRegistry
  split <;> rfl

theorem answer_lookup {c : Call} (h : c.isLookup) (w : World) : (w.answer c).2 = w := by
  cases c with
  | findRecord id => exact w.withRegistry_lookup _ _
  | findRecordByName name => exact w.withRegistry_lookup _ _
  | listRecords => exact w.withRegistry_lookup _ _
  | findEnvironment | containerStatus | containerLogs | probe | readClock => rfl
  | createRecord | updateRecord | deleteRecord | createContainer | restartContainer
  | deleteContainer => cases h

end World

namespace Program

variable {α β : Type}

/-- Programs that only look things up, whatever the answers are. -/
def ReadOnly : Program α → Prop
  | done _ => True
  | call c next => c.isLookup ∧ ∀ answer, (next answer).ReadOnly

theorem ReadOnly.bind {p : Program α} {f : α → Program β} (hp : p.ReadOnly)
    (hf : ∀ a, (f a).ReadOnly) : (p.bind f).ReadOnly := by
  induction p with
  | done a => exact hf a
  | call c next ih => exact ⟨hp.1, fun answer => ih answer (hp.2 answer)⟩

theorem ReadOnly.run {p : Program α} (h : p.ReadOnly) (w : World) : (p.run w).2 = w := by
  induction p generalizing w with
  | done a => rfl
  | call c next ih =>
    show ((next (w.answer c).1).run (w.answer c).2).2 = w
    rw [World.answer_lookup h.1]
    exact ih _ (h.2 _) w

theorem ReadOnly.still {p : Program α} (h : p.ReadOnly) (w : World) : Still w (p.exchanges w) := by
  induction p generalizing w with
  | done a => exact fun _ hx => nomatch hx
  | call c next ih =>
    intro x hx
    rcases List.mem_cons.mp hx with rfl | hx
    · exact ⟨h.1, World.answer_lookup h.1 w⟩
    · rw [World.answer_lookup h.1] at hx
      exact ih _ (h.2 _) w x hx

end Program

/-! ## 3. Runs -/

namespace Task

variable {α β ε : Type}

/-- A whole run: its exchanges, its result, and the state behind it. -/
def Runs (t : Task α) (w : World) (xs : List Exchange) (r : Except Error α) (w' : World) : Prop :=
  t.runIn w = (r, w') ∧ Program.exchanges t w = xs

theorem runs_self (t : Task α) (w : World) :
    t.Runs w (Program.exchanges t w) (t.runIn w).1 (t.runIn w).2 := ⟨rfl, rfl⟩

theorem runs_pure {a : α} {w w' : World} {xs : List Exchange} {r : Except Error α} :
    (pure a : Task α).Runs w xs r w' ↔ xs = [] ∧ r = .ok a ∧ w' = w := by
  constructor
  · intro parts
    obtain ⟨h, rfl⟩ := parts
    cases h
    exact ⟨rfl, rfl, rfl⟩
  · intro parts
    obtain ⟨rfl, rfl, rfl⟩ := parts
    exact ⟨rfl, rfl⟩

theorem runs_throw {e : Error} {w w' : World} {xs : List Exchange} {r : Except Error α} :
    (throw e : Task α).Runs w xs r w' ↔ xs = [] ∧ r = .error e ∧ w' = w := by
  constructor
  · intro parts
    obtain ⟨h, rfl⟩ := parts
    cases h
    exact ⟨rfl, rfl, rfl⟩
  · intro parts
    obtain ⟨rfl, rfl, rfl⟩ := parts
    exact ⟨rfl, rfl⟩

/-- What a task goes on with behind the result of its first part. -/
theorem bind_eq (t : Task α) (f : α → Task β) :
    (t >>= f : Task β) = Program.bind t fun
      | .ok a => f a
      | .error e => .done (.error e) := by
  show Program.bind t _ = _
  congr 1
  funext r
  cases r <;> rfl

/-- **A run of two parts ends in the first part with a refusal, or goes
    through both.** -/
theorem runs_bind {t : Task α} {f : α → Task β} {w w' : World} {xs : List Exchange}
    {r : Except Error β} :
    (t >>= f).Runs w xs r w' ↔
      (∃ e, r = .error e ∧ t.Runs w xs (.error e) w') ∨
      ∃ ys zs a w₁, xs = ys ++ zs ∧ t.Runs w ys (.ok a) w₁ ∧ (f a).Runs w₁ zs r w' := by
  unfold Runs
  rw [bind_eq]
  unfold runIn
  rw [Program.run_bind, Program.exchanges_bind]
  cases h : Program.run t w with
  | mk s w₁ =>
    cases s with
    | error e =>
      simp only [Program.run_done, Prod.mk.injEq, Program.exchanges, List.append_nil]
      constructor
      · intro parts
        obtain ⟨⟨rfl, rfl⟩, rfl⟩ := parts
        exact .inl ⟨e, rfl, ⟨rfl, rfl⟩, rfl⟩
      · intro ways
        rcases ways with ⟨e', rfl, ⟨h', rfl⟩, rfl⟩ | ⟨_, _, _, _, _, ⟨⟨h', _⟩, _⟩, _⟩
        · cases h'
          exact ⟨⟨rfl, rfl⟩, rfl⟩
        · cases h'
    | ok a =>
      simp only [Prod.mk.injEq]
      constructor
      · intro parts
        obtain ⟨h', rfl⟩ := parts
        exact .inr ⟨_, _, a, w₁, rfl, ⟨⟨rfl, rfl⟩, rfl⟩, h', rfl⟩
      · intro ways
        rcases ways with ⟨_, _, ⟨h', _⟩, _⟩ | ⟨ys, zs, b, w₂, rfl, ⟨⟨h', rfl⟩, rfl⟩, h'', rfl⟩
        · cases h'
        · cases h'
          exact ⟨h'', rfl⟩

/-- A run that succeeds goes through both parts. -/
theorem runs_bind_ok {t : Task α} {f : α → Task β} {w w' : World} {xs : List Exchange} {b : β} :
    (t >>= f).Runs w xs (.ok b) w' ↔
      ∃ ys zs a w₁, xs = ys ++ zs ∧ t.Runs w ys (.ok a) w₁ ∧ (f a).Runs w₁ zs (.ok b) w' := by
  rw [runs_bind]
  constructor
  · intro ways
    rcases ways with ⟨_, e, _⟩ | h
    · cases e
    · exact h
  · exact .inr

/-- A result that is made from another one takes no further call. -/
theorem runs_bind_pure {t : Task α} {f : α → β} {w w' : World} {xs : List Exchange}
    {r : Except Error β} :
    (t >>= fun a => pure (f a)).Runs w xs r w' ↔ ∃ s, t.Runs w xs s w' ∧ r = s.map f := by
  rw [runs_bind]
  constructor
  · intro ways
    rcases ways with ⟨e, rfl, h⟩ | ⟨ys, zs, a, w₁, rfl, h, hf⟩
    · exact ⟨_, h, rfl⟩
    · obtain ⟨rfl, rfl, rfl⟩ := runs_pure.mp hf
      rw [List.append_nil]
      exact ⟨_, h, rfl⟩
  · intro parts
    obtain ⟨s, h, rfl⟩ := parts
    cases s with
    | error e => exact .inl ⟨e, rfl, h⟩
    | ok a =>
      exact .inr ⟨xs, [], a, w', (List.append_nil xs).symm, h, runs_pure.mpr ⟨rfl, rfl, rfl⟩⟩

theorem runs_map {t : Task α} {f : α → β} {w w' : World} {xs : List Exchange}
    {r : Except Error β} :
    (f <$> t).Runs w xs r w' ↔ ∃ s, t.Runs w xs s w' ∧ r = s.map f := by
  rw [← bind_pure_comp, runs_bind_pure]

/-! ## 4. Runs that succeed -/

/-- A run that succeeds with a result and leaves a state behind. -/
def Yields (t : Task α) (w : World) (a : α) (w' : World) : Prop := t.runIn w = (.ok a, w')

theorem yields_iff_runs {t : Task α} {w w' : World} {a : α} :
    t.Yields w a w' ↔ ∃ xs, t.Runs w xs (.ok a) w' :=
  ⟨fun h => ⟨_, h, rfl⟩, fun parts => parts.elim fun _ h => h.1⟩

/-- **Two parts succeed when the first does, and the second from there.** -/
theorem yields_bind {t : Task α} {f : α → Task β} {w w' : World} {b : β} :
    (t >>= f).Yields w b w' ↔ ∃ a w₁, t.Yields w a w₁ ∧ (f a).Yields w₁ b w' := by
  rw [yields_iff_runs]
  constructor
  · intro parts
    obtain ⟨_, h⟩ := parts
    obtain ⟨_, _, a, w₁, -, ha, hb⟩ := runs_bind_ok.mp h
    exact ⟨a, w₁, ha.1, hb.1⟩
  · intro parts
    obtain ⟨a, w₁, ha, hb⟩ := parts
    exact ⟨_, runs_bind_ok.mpr ⟨_, _, a, w₁, rfl, ⟨ha, rfl⟩, ⟨hb, rfl⟩⟩⟩

theorem yields_pure {a b : α} {w w' : World} :
    (pure a : Task α).Yields w b w' ↔ a = b ∧ w' = w := by
  rw [yields_iff_runs]
  simp [runs_pure, eq_comm]

theorem not_yields_throw {e : Error} {a : α} {w w' : World} :
    ¬ (throw e : Task α).Yields w a w' := by
  rw [yields_iff_runs]
  simp [runs_throw]

theorem yields_map {t : Task α} {f : α → β} {w w' : World} {b : β} :
    (f <$> t).Yields w b w' ↔ ∃ a, t.Yields w a w' ∧ f a = b := by
  rw [← bind_pure_comp, yields_bind]
  constructor
  · intro parts
    obtain ⟨a, w₁, ha, hb⟩ := parts
    obtain ⟨rfl, rfl⟩ := yields_pure.mp hb
    exact ⟨a, ha, rfl⟩
  · intro parts
    obtain ⟨a, ha, rfl⟩ := parts
    exact ⟨a, w', ha, yields_pure.mpr ⟨rfl, rfl⟩⟩

/-- A run that succeeds, with whatever result. -/
def Succeeds (t : Task α) (w : World) : Prop := ∃ a w', t.Yields w a w'

theorem succeeds_iff {t : Task α} {w : World} : t.Succeeds w ↔ ∃ a, (t.runIn w).1 = .ok a :=
  ⟨fun parts => parts.elim fun a h => ⟨a, h.elim fun _ e => congrArg Prod.fst e⟩,
    fun parts => parts.elim fun a e => ⟨a, (t.runIn w).2, Prod.ext e rfl⟩⟩

theorem succeeds_bind {t : Task α} {f : α → Task β} {w : World} :
    (t >>= f).Succeeds w ↔ ∃ a w₁, t.Yields w a w₁ ∧ (f a).Succeeds w₁ := by
  unfold Succeeds
  simp only [yields_bind]
  constructor
  · intro parts
    obtain ⟨b, w', a, w₁, ha, hb⟩ := parts
    exact ⟨a, w₁, ha, b, w', hb⟩
  · intro parts
    obtain ⟨a, w₁, ha, b, w', hb⟩ := parts
    exact ⟨b, w', a, w₁, ha, hb⟩

theorem succeeds_pure (a : α) (w : World) : (pure a : Task α).Succeeds w :=
  ⟨a, w, yields_pure.mpr ⟨rfl, rfl⟩⟩

theorem succeeds_map {t : Task α} {f : α → β} {w : World} :
    (f <$> t).Succeeds w ↔ t.Succeeds w := by
  unfold Succeeds
  simp only [yields_map]
  constructor
  · intro parts
    obtain ⟨_, w', a, h, -⟩ := parts
    exact ⟨a, w', h⟩
  · intro parts
    obtain ⟨a, w', h⟩ := parts
    exact ⟨f a, w', a, h, rfl⟩

/-! ## 5. Tasks that only look things up -/

/-- Tasks that only look things up. -/
def ReadOnly (t : Task α) : Prop := Program.ReadOnly t

theorem ReadOnly.still {t : Task α} (h : t.ReadOnly) {w w' : World} {xs : List Exchange}
    {r : Except Error α} (hr : t.Runs w xs r w') : w' = w ∧ Still w xs := by
  obtain ⟨hrun, rfl⟩ := hr
  refine ⟨?_, Program.ReadOnly.still h w⟩
  rw [← Program.ReadOnly.run h w]
  exact (congrArg Prod.snd hrun).symm

theorem ReadOnly.bind {t : Task α} {f : α → Task β} (ht : t.ReadOnly) (hf : ∀ a, (f a).ReadOnly) :
    (t >>= f).ReadOnly := by
  unfold ReadOnly
  rw [bind_eq]
  refine Program.ReadOnly.bind ht fun r => ?_
  cases r with
  | error e => exact trivial
  | ok a => exact hf a

theorem ReadOnly.ofCall {p : Program (Except ε α)} (h : p.ReadOnly) (wrap : ε → Error) :
    (ofCall p wrap).ReadOnly := Program.ReadOnly.bind h fun _ => trivial

theorem ReadOnly.ofAnswer {p : Program α} (h : p.ReadOnly) : (ofAnswer p).ReadOnly :=
  Program.ReadOnly.bind h fun _ => trivial

theorem ReadOnly.attempt {t : Task α} (h : t.ReadOnly) : t.attempt.ReadOnly :=
  Program.ReadOnly.bind h fun _ => trivial

theorem readOnly_pure (a : α) : (pure a : Task α).ReadOnly := trivial

theorem readOnly_throw (e : Error) : (throw e : Task α).ReadOnly := trivial

theorem readOnly_ofExcept (e : Except ε α) (wrap : ε → Error) : (ofExcept e wrap).ReadOnly :=
  trivial

theorem readOnly_findRecord (id : Uuid) : (findRecord id).ReadOnly :=
  .ofCall (p := .ask (.findRecord id)) ⟨rfl, fun _ => trivial⟩ _

theorem readOnly_findRecordByName (name : InstanceName) : (findRecordByName name).ReadOnly :=
  .ofCall (p := .ask (.findRecordByName name)) ⟨rfl, fun _ => trivial⟩ _

theorem readOnly_listRecords : listRecords.ReadOnly :=
  .ofCall (p := .ask .listRecords) ⟨rfl, fun _ => trivial⟩ _

theorem readOnly_findEnvironment (id : EnvironmentId) : (findEnvironment id).ReadOnly :=
  .ofCall (p := .ask (.findEnvironment id)) ⟨rfl, fun _ => trivial⟩ _

theorem readOnly_containerStatus (i : Instance) : (containerStatus i).ReadOnly :=
  .ofCall (p := .ask (.containerStatus i)) ⟨rfl, fun _ => trivial⟩ _

theorem readOnly_containerLogs (i : Instance) (n : Nat) : (containerLogs i n).ReadOnly :=
  .ofCall (p := .ask (.containerLogs i n)) ⟨rfl, fun _ => trivial⟩ _

theorem readOnly_probe (url : String) (timeout : UInt64) : (probe url timeout).ReadOnly :=
  .ofAnswer (p := .ask (.probe url timeout)) ⟨rfl, fun _ => trivial⟩

end Task

end McpFleet.Fleet
