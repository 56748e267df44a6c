/-
  File:      McpFleet/Proofs/Fleet/Interleaving.lean
  Subject:   Two programs that take turns, call by call.

  * `Duo`: two programs in one state, and what they have called so far;
    `Duo.course` is what is left of them behind any turns. Between two calls
    anything may happen around the fleet.
  * `Pact`: the facts that each side relies on. `Meets` says of a program that
    it keeps the facts of the other side at every call, and what holds of its
    result, as long as its own facts are kept.
  * **`Duo.Abides.course`**: two programs that meet a pact do so behind any
    turns.
-/
import McpFleet.Proofs.Fleet.Incidents

namespace McpFleet.Fleet

/-! ## 1. Turns -/

inductive Side where
  | left
  | right
deriving DecidableEq

def Side.other : Side → Side
  | left => right
  | right => left

/-- The state, and the calls that were made so far, the last one first. -/
structure Scene where
  world : World
  log : List (Side × Exchange)

namespace Scene

/-- The scene behind a call of one side. -/
def ask (σ : Scene) (side : Side) (c : Call) : Scene :=
  ⟨(σ.world.answer c).2, (side, ⟨c, (σ.world.answer c).1, (σ.world.answer c).2⟩) :: σ.log⟩

/-- The scene behind an incident. -/
def behind (σ : Scene) (x : Incident) : Scene := { σ with world := σ.world.behind x }

end Scene

def Incident.isRequest : Incident → Bool
  | event e => e.isRequest
  | storeOutage _ _ => false

/-- Who moves next: a side makes its next call, or something happens around
    the fleet. -/
inductive Turn where
  | call (side : Side)
  | around (x : Incident) (aside : x.isRequest = false)

section Running

variable {α β : Type}

/-- What is left of a program behind its next call. -/
def Program.advance (p : Program α) (side : Side) (σ : Scene) : Program α × Scene :=
  match p with
  | done a => (done a, σ)
  | call c next => (next (σ.world.answer c).1, σ.ask side c)

def Program.result? : Program α → Option α
  | done a => some a
  | call _ _ => none

/-- What is left of two programs, and the scene behind their calls. -/
structure Duo (α β : Type) where
  left : Program α
  right : Program β
  scene : Scene

namespace Duo

def start (p : Program α) (q : Program β) (w : World) : Duo α β := ⟨p, q, ⟨w, []⟩⟩

/-- One turn; a side that is done lets it pass. -/
def step (t : Duo α β) : Turn → Duo α β
  | .call .left =>
    { t with
      left := (t.left.advance .left t.scene).1
      scene := (t.left.advance .left t.scene).2 }
  | .call .right =>
    { t with
      right := (t.right.advance .right t.scene).1
      scene := (t.right.advance .right t.scene).2 }
  | .around x _ => { t with scene := t.scene.behind x }

/-- One turn after the other. -/
def course (t : Duo α β) (turns : List Turn) : Duo α β := turns.foldl step t

end Duo

end Running

/-! ## 2. Pacts -/

/-- Facts about a scene. -/
abbrev Facts : Type := (Scene → Prop) → Prop

/-- The facts that each side relies on. -/
abbrev Pact : Type := Side → Facts

/-- The facts that hold before hold behind as well. -/
def Keeps (facts : Facts) (σ τ : Scene) : Prop := ∀ P, facts P → P σ → P τ

theorem Keeps.refl (facts : Facts) (σ : Scene) : Keeps facts σ σ := fun _ _ h => h

theorem Keeps.trans {facts : Facts} {σ τ υ : Scene} (h : Keeps facts σ τ) (h' : Keeps facts τ υ) :
    Keeps facts σ υ := fun P hP hσ => h' P hP (h P hP hσ)

section Meeting

variable {α β ε : Type} {pact : Pact} {side : Side} {σ τ : Scene}

/-- **A program meets a pact** from a scene on: wherever the scene has come to
    while the facts of its side were kept, each of its calls keeps the facts of
    the other side, and `post` holds of its result. -/
def Program.Meets (pact : Pact) (side : Side) (post : α → Scene → Prop) :
    Program α → Scene → Prop
  | done a, σ => ∀ τ, Keeps (pact side) σ τ → post a τ
  | call c next, σ => ∀ τ, Keeps (pact side) σ τ →
    Keeps (pact side.other) τ (τ.ask side c) ∧
      (next (τ.world.answer c).1).Meets pact side post (τ.ask side c)

namespace Program

variable {P P' : α → Scene → Prop} {Q : β → Scene → Prop}

/-- The others may move, as long as they keep the facts of this side. -/
theorem Meets.wait {p : Program α} (h : p.Meets pact side P σ) (kept : Keeps (pact side) σ τ) :
    p.Meets pact side P τ := by
  cases p with
  | done a => exact fun υ hυ => h υ (kept.trans hυ)
  | call c next => exact fun υ hυ => h υ (kept.trans hυ)

theorem Meets.imp {p : Program α} (h : p.Meets pact side P σ) (weaker : ∀ a τ, P a τ → P' a τ) :
    p.Meets pact side P' σ := by
  induction p generalizing σ with
  | done a => exact fun τ hτ => weaker a τ (h τ hτ)
  | call c next ih => exact fun τ hτ => ⟨(h τ hτ).1, ih _ (h τ hτ).2⟩

/-- **A program of two parts meets a pact** when the first part does, and the
    second from wherever the first may end. -/
theorem Meets.bind {p : Program α} {f : α → Program β} (h : p.Meets pact side P σ)
    (next : ∀ a τ, P a τ → (f a).Meets pact side Q τ) : (p.bind f).Meets pact side Q σ := by
  induction p generalizing σ with
  | done a => exact next a σ (h σ (Keeps.refl _ σ))
  | call c rest ih => exact fun τ hτ => ⟨(h τ hτ).1, ih _ (h τ hτ).2⟩

/-- A result that is made from another one takes no further call. -/
theorem Meets.map {p : Program α} {f : α → β} (h : p.Meets pact side (fun a τ => Q (f a) τ) σ) :
    (p.bind fun a => done (f a)).Meets pact side Q σ := by
  induction p generalizing σ with
  | done a => exact h
  | call c rest ih => exact fun τ hτ => ⟨(h τ hτ).1, ih _ (h τ hτ).2⟩

end Program

/-- A call that keeps the facts of both sides. -/
def Call.Quiet (pact : Pact) (side : Side) (c : Call) : Prop :=
  ∀ σ : Scene, Keeps (pact side) σ (σ.ask side c) ∧ Keeps (pact side.other) σ (σ.ask side c)

namespace Program

theorem Meets.ask {c : Call} {P : c.Answer → Scene → Prop}
    (h : ∀ τ, Keeps (pact side) σ τ → Keeps (pact side.other) τ (τ.ask side c) ∧
      ∀ υ, Keeps (pact side) (τ.ask side c) υ → P (τ.world.answer c).1 υ) :
    (Program.ask c).Meets pact side P σ := h

/-- Behind a quiet call the facts of the side are what they were. -/
theorem Meets.quiet {c : Call} (quiet : c.Quiet pact side) :
    (Program.ask c).Meets pact side (fun _ τ => Keeps (pact side) σ τ) σ :=
  .ask fun τ hτ => ⟨(quiet τ).2, fun _ hυ => (hτ.trans (quiet τ).1).trans hυ⟩

/-- Look-ups that are quiet. -/
theorem ReadOnly.meets {p : Program α} (h : p.ReadOnly)
    (quiet : ∀ c : Call, c.isLookup → c.Quiet pact side) :
    p.Meets pact side (fun _ τ => Keeps (pact side) σ τ) σ := by
  induction p generalizing σ with
  | done a => exact fun τ hτ => hτ
  | call c next ih =>
    intro τ hτ
    obtain ⟨own, other⟩ := quiet c h.1 τ
    exact ⟨other, (ih _ (h.2 _)).imp fun _ _ hυ => (hτ.trans own).trans hυ⟩

end Program

/-! ## 3. Tasks -/

/-- A task meets a pact, and `post` holds of its result unless it is
    refused. -/
def Task.Meets (pact : Pact) (side : Side) (post : α → Scene → Prop) (t : Task α) (σ : Scene) :
    Prop :=
  Program.Meets pact side (fun r τ => ∀ a, r = .ok a → post a τ) t σ

namespace Task

variable {P P' : α → Scene → Prop} {Q : β → Scene → Prop}

theorem Meets.imp {t : Task α} (h : t.Meets pact side P σ) (weaker : ∀ a τ, P a τ → P' a τ) :
    t.Meets pact side P' σ :=
  Program.Meets.imp h fun _ τ hr a ha => weaker a τ (hr a ha)

theorem Meets.bind {t : Task α} {f : α → Task β} (h : t.Meets pact side P σ)
    (next : ∀ a τ, P a τ → (f a).Meets pact side Q τ) : (t >>= f).Meets pact side Q σ := by
  unfold Meets
  rw [bind_eq]
  refine Program.Meets.bind h fun r τ hr => ?_
  cases r with
  | error e => exact fun _ _ _ he => nomatch he
  | ok a => exact next a τ (hr a rfl)

theorem meets_pure {a : α} (h : ∀ τ, Keeps (pact side) σ τ → P a τ) :
    (pure a : Task α).Meets pact side P σ := by
  intro τ hτ b hb
  exact Except.ok.inj hb ▸ h τ hτ

theorem meets_throw (e : Error) : (throw e : Task α).Meets pact side P σ :=
  fun _ _ _ he => nomatch he

theorem meets_ofExcept {e : Except ε α} {wrap : ε → Error}
    (h : ∀ a, e = .ok a → ∀ τ, Keeps (pact side) σ τ → P a τ) :
    (ofExcept e wrap).Meets pact side P σ := by
  intro τ hτ a ha
  cases e with
  | error x => cases ha
  | ok b => exact Except.ok.inj ha ▸ h b rfl τ hτ

theorem Meets.map {t : Task α} {f : α → β} (h : t.Meets pact side (fun a τ => Q (f a) τ) σ) :
    (f <$> t).Meets pact side Q σ := by
  have e : (f <$> t : Task β) = Program.bind t fun r => .done (r.map f) := by
    rw [← bind_pure_comp, bind_eq]
    congr 1
    funext r
    cases r <;> rfl
  unfold Meets
  rw [e]
  refine Program.Meets.map (Program.Meets.imp h fun r τ hr b hb => ?_)
  cases r with
  | error x => cases hb
  | ok a => exact Except.ok.inj hb ▸ hr a rfl

theorem Meets.ofCall {p : Program (Except ε α)} {wrap : ε → Error}
    (h : p.Meets pact side (fun r τ => ∀ a, r = .ok a → P a τ) σ) :
    (ofCall p wrap).Meets pact side P σ := by
  refine Program.Meets.map (Program.Meets.imp h fun r τ hr b hb => ?_)
  cases r with
  | error x => cases hb
  | ok a => exact Except.ok.inj hb ▸ hr a rfl

theorem Meets.ofAnswer {p : Program α} (h : p.Meets pact side P σ) :
    (ofAnswer p).Meets pact side P σ :=
  Program.Meets.map (Program.Meets.imp h fun _ _ ha _ hb => Except.ok.inj hb ▸ ha)

/-- An attempt meets what its task does, refused or not. -/
theorem Meets.attempt {t : Task α} {R : Except Error α → Scene → Prop}
    (h : Program.Meets pact side R t σ) : t.attempt.Meets pact side R σ :=
  Program.Meets.map (Program.Meets.imp h fun _ _ ha _ hb => Except.ok.inj hb ▸ ha)

/-- Quiet look-ups in front leave the facts of the side what they were. -/
theorem ReadOnly.meets_bind {t : Task α} {f : α → Task β} (h : t.ReadOnly)
    (quiet : ∀ c : Call, c.isLookup → c.Quiet pact side)
    (next : ∀ a τ, Keeps (pact side) σ τ → (f a).Meets pact side Q τ) :
    (t >>= f).Meets pact side Q σ :=
  .bind (P := fun _ τ => Keeps (pact side) σ τ)
    (Program.Meets.imp (Program.ReadOnly.meets h quiet) fun _ _ hτ _ _ => hτ) next

end Task

end Meeting

/-! ## 4. Both sides -/

section Both

variable {α β : Type} {pact : Pact} {P : α → Scene → Prop} {Q : β → Scene → Prop}

/-- Both programs meet the pact from the present scene on. -/
structure Duo.Abides (pact : Pact) (P : α → Scene → Prop) (Q : β → Scene → Prop) (t : Duo α β) :
    Prop where
  left : t.left.Meets pact .left P t.scene
  right : t.right.Meets pact .right Q t.scene

/-- What happens around the fleet keeps the facts of both sides. -/
def Pact.Sheltered (pact : Pact) : Prop :=
  ∀ (side : Side) (σ : Scene) (x : Incident), x.isRequest = false →
    Keeps (pact side) σ (σ.behind x)

/-- A call of one side takes that side on, and keeps the facts of the other. -/
theorem Program.Meets.advance {α : Type} {side : Side} {p : Program α} {σ : Scene}
    {P : α → Scene → Prop} (h : p.Meets pact side P σ) :
    (p.advance side σ).1.Meets pact side P (p.advance side σ).2 ∧
      Keeps (pact side.other) σ (p.advance side σ).2 := by
  cases p with
  | done a => exact ⟨h, Keeps.refl _ σ⟩
  | call c next => exact (h σ (Keeps.refl _ σ)).symm

/-- **Every turn keeps to the pact.** -/
theorem Duo.Abides.step {t : Duo α β} (h : t.Abides pact P Q) (sheltered : pact.Sheltered)
    (turn : Turn) : (t.step turn).Abides pact P Q := by
  cases turn with
  | call side =>
    cases side with
    | left =>
      obtain ⟨own, other⟩ := h.left.advance
      exact ⟨own, h.right.wait other⟩
    | right =>
      obtain ⟨own, other⟩ := h.right.advance
      exact ⟨h.left.wait other, own⟩
  | around x aside =>
    exact ⟨h.left.wait (sheltered .left t.scene x aside),
      h.right.wait (sheltered .right t.scene x aside)⟩

/-- **Two programs that meet a pact meet it behind any turns.** -/
theorem Duo.Abides.course {t : Duo α β} (h : t.Abides pact P Q) (sheltered : pact.Sheltered)
    (turns : List Turn) : (t.course turns).Abides pact P Q := by
  induction turns generalizing t with
  | nil => exact h
  | cons turn turns ih => exact ih (h.step sheltered turn)

/-- What holds of a result that is reached. -/
theorem Program.Meets.result {p : Program α} {side : Side} {σ : Scene} {a : α}
    (h : p.Meets pact side P σ) (reached : p.result? = some a) : P a σ := by
  cases p with
  | done b =>
    obtain rfl := Option.some.inj reached
    exact h σ (Keeps.refl _ σ)
  | call c next => cases reached

end Both

end McpFleet.Fleet
