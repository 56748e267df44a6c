/-
  File:      McpFleet/Proofs/Fleet/Identity.lean
  Subject:   What an instance keeps for life, and what only grows.

  * `Instance.Continues`: the same instance at a later moment, with a container
    of a generation that is not lower. It is a preorder.
  * `Passage`: everything that one incident can do to one record: nothing, or
    the record is made, carried on or removed.
  * **`Filed.passage`**: each incident of a run is a passage of each record.
  * `Timely`: while the clock does not go back, no record is created behind its
    last change, and none is changed in the future.
  * **`identity_stable`**: what follows for two moments of a run between which
    the record is not deleted.
-/
import McpFleet.Proofs.Fleet.Ledger

namespace McpFleet

/-! ## 1. The order of moments -/

/-- Not later. -/
instance : LE Instant := ⟨fun a b => ¬ b < a⟩

namespace Instant

theorem le_refl (a : Instant) : a ≤ a := SortKey.irrefl a

theorem le_trans {a b c : Instant} (h : a ≤ b) (h' : b ≤ c) : a ≤ c := by
  intro before
  rcases SortKey.connected a b with lt | rfl | gt
  · exact h' (SortKey.trans before lt)
  · exact h' before
  · exact h gt

end Instant

/-! ## 2. Instances at a later moment -/

namespace Instance

variable {s i j : Instance} {now : Instant}

/-- **The same instance at a later moment**; its container may have been
    replaced by one of a higher generation. -/
structure Continues (s i : Instance) : Prop where
  id : i.id = s.id
  access : i.access = s.access
  createdAt : i.createdAt = s.createdAt
  generation : ∀ k, s.container = some k →
    ∃ l, i.container = some l ∧ k.generation ≤ l.generation

theorem continues_refl (s : Instance) : s.Continues s :=
  ⟨rfl, rfl, rfl, fun k hk => ⟨k, hk, UInt32.le_refl _⟩⟩

theorem Continues.trans (h : s.Continues i) (h' : i.Continues j) : s.Continues j where
  id := h'.id.trans h.id
  access := h'.access.trans h.access
  createdAt := h'.createdAt.trans h.createdAt
  generation k hk := by
    obtain ⟨l, hl, le⟩ := h.generation k hk
    obtain ⟨m, hm, le'⟩ := h'.generation l hl
    exact ⟨m, hm, UInt32.le_trans le le'⟩

theorem Kept.continues (h : s.Kept i) : s.Continues i where
  id := h.id
  access := h.access
  createdAt := h.createdAt
  generation k hk := by
    obtain ⟨l, hl, -, -, -, same⟩ := h.container_eq hk
    exact ⟨l, hl, same ▸ UInt32.le_refl _⟩

theorem updatedAt_withStatus? {status : InstanceStatus} (h : s.withStatus? status now = some i) :
    i.updatedAt = now := by
  unfold withStatus? at h
  split at h
  · cases h
  · cases h
    rfl

theorem updatedAt_markRestarting {message : String} (h : s.markRestarting message now = .ok i) :
    i.updatedAt = now := by
  unfold markRestarting at h
  split at h
  · cases h
  · cases h
    rfl

/-- A report dates the change and leaves the state of use alone. -/
theorem updatedAt_withReport? {r : StatusReport} (h : s.withReport? r now = some i) :
    i.updatedAt = now ∧ i.status = s.status := by
  unfold withReport? at h
  split at h
  · cases h
  · split at h
    · cases h
      exact ⟨rfl, rfl⟩
    · cases h

end Instance

namespace Fleet

/-! ## 3. Requests that were granted -/

/-- The incident is a request of a kind, and it succeeds. -/
def World.Grants (w : World) (asked : Request → Prop) : Incident → Prop
  | .event (.request cfg q) => asked q ∧ ∃ b, (w.serve cfg q).1 = .ok b
  | _ => False

/-- Some request of a kind succeeds in the run. -/
def World.GrantsIn (w : World) (asked : Request → Prop) : List Incident → Prop
  | [] => False
  | x :: xs => w.Grants asked x ∨ (w.behind x).GrantsIn asked xs

/-- Requests that put an instance into a state of use. -/
def Request.Switches (id : Uuid) (q : Request) : Prop :=
  q = .disable id ∨ q = .enable id ∨ q = .restart id

/-- The clock does not go back in the run. -/
def World.clockAdvances (w : World) : List Incident → Bool
  | [] => true
  | x :: xs => !decide ((w.behind x).clock < w.clock) && (w.behind x).clockAdvances xs

variable {allowed : Config → Prop} {calm fresh : Prop} {used : List Uuid} {cfg : Config}
  {w w' : World} {id a : Uuid} {i s : Instance} {d : Definition} {v : Revision} {q : Request}
  {x : Incident} {xs ys : List Incident} {r : Registry}

-- The checks of a name stay closed: no argument here looks into them.
attribute [local irreducible] Text.trim

theorem clockAdvances_cons : w.clockAdvances (x :: xs) ↔
    w.clock ≤ (w.behind x).clock ∧ (w.behind x).clockAdvances xs := by
  rw [World.clockAdvances, Bool.and_eq_true, Bool.not_eq_true', decide_eq_false_iff_not]
  rfl

theorem clockAdvances_append :
    w.clockAdvances (xs ++ ys) ↔ w.clockAdvances xs ∧ (w.course xs).clockAdvances ys := by
  induction xs generalizing w with
  | nil =>
    rw [List.nil_append, World.clockAdvances]
    exact (and_iff_right rfl).symm
  | cons x xs ih =>
    rw [List.cons_append, clockAdvances_cons, clockAdvances_cons, ih, and_assoc]
    rfl

/-! ## 4. One incident and one record -/

/-- **What an incident can do to the record under an identifier**: the record
    before it, and the record behind it. -/
inductive Passage (w : World) (x : Incident) (id : Uuid) :
    Option Instance → Option Instance → Prop where
  | same (record : Option Instance) : Passage w x id record record
  | made {i : Instance} (created : i.createdAt = w.clock) (updated : i.updatedAt = w.clock) :
    Passage w x id none (some i)
  | carried {s i : Instance} (continues : s.Continues i) (updated : i.updatedAt = w.clock)
    (status : i.status ≠ s.status → w.Grants (Request.Switches id) x) :
    Passage w x id (some s) (some i)
  | removed {s : Instance} (granted : w.Grants (· = .delete id) x) : Passage w x id (some s) none

theorem passage_of_same (same : w'.registry = w.registry) :
    Passage w x id (w.registry.find? id) (w'.registry.find? id) := by
  rw [same]
  exact .same _

/-- Putting a record in is a passage of every record, if it is one of its
    own. -/
theorem passage_put (puts : w.registry.Puts i r)
    (own : Passage w x i.id (w.registry.find? i.id) (some i)) (id : Uuid) :
    Passage w x id (w.registry.find? id) (r.find? id) := by
  rw [puts.find?]
  split
  · rename_i e
    exact e ▸ own
  · exact .same _

theorem passage_drop (drops : w.registry.Drops a r) (stored : w.registry.find? a = some s)
    (granted : w.Grants (· = .delete a) x) (id : Uuid) :
    Passage w x id (w.registry.find? id) (r.find? id) := by
  rw [drops.find?]
  split
  · rename_i e
    rw [← e, stored]
    exact .removed granted
  · exact .same _

/-- An edited record goes on with the next generation. -/
theorem Replaced.continues {ys : List Exchange} {w₁ : World} {now : Instant}
    (h : Replaced cfg w s d v ys w₁) (filed : Filed allowed calm fresh used w)
    (stored : w.registry.find? id = some s) : s.Continues (s.revise v now) := by
  refine ⟨rfl, rfl, rfl, fun k hk => ?_⟩
  cases h with
  | passthrough own judged => exact absurd (filed.named stored hk).2 own
  | hosted own prepared made =>
    obtain ⟨-, l, hl, generation, -⟩ := prepared_serves prepared made
    exact ⟨l, hl, generation ▸ le_nextGeneration hk⟩

/-- **Every effect of a request** is a passage of every record, as the request
    succeeds. -/
theorem Effect.passage {reply : Reply} {es : List Exchange} (e : Effect cfg w es q reply w')
    (h : Filed allowed calm fresh used w) (ok : (w.serve cfg q).1 = .ok reply) (id : Uuid) :
    Passage w (.event (.request cfg q)) id (w.registry.find? id) (w'.registry.find? id) := by
  have carry {a : Uuid} {s i : Instance} {r : Registry}
      (stored : w.registry.find? a = some s) (continues : s.Continues i)
      (puts : w.registry.Puts i r) (updated : i.updatedAt = w.clock)
      (status : i.status ≠ s.status → q.Switches a) :
      Passage w (.event (.request cfg q)) id (w.registry.find? id) (r.find? id) := by
    obtain rfl : i.id = a := continues.id.trans (h.exact.key stored)
    refine passage_put puts ?_ id
    rw [stored]
    exact .carried continues updated fun other => ⟨status other, reply, ok⟩
  cases e with
  | unchanged => exact .same _
  | @created a access d v c r fresh planned puts =>
    refine passage_put puts ?_ id
    rw [show w.registry.find? (Instance.create a access v w.clock).id = none from fresh]
    exact .made rfl rfl
  | edited stored replaced made puts =>
    exact carry stored (replaced.continues h stored) puts rfl fun other => absurd rfl other
  | restarted stored own done marked puts =>
    exact carry stored (Instance.kept_markRestarting marked).continues puts
      (Instance.updatedAt_markRestarting marked) fun _ => .inr (.inr rfl)
  | switched asked stored changed puts =>
    refine carry stored (Instance.kept_withStatus? changed).continues puts
      (Instance.updatedAt_withStatus? changed) fun _ => ?_
    rcases asked with ⟨rfl, -⟩ | ⟨rfl, -⟩
    · exact .inl rfl
    · exact .inr (.inl rfl)
  | refreshed stored own asked changed puts =>
    obtain ⟨updated, status⟩ := Instance.updatedAt_withReport? changed
    exact carry stored (Instance.kept_withReport? changed).continues puts updated
      fun other => absurd status other
  | @deleted a s c r stored removed drops =>
    have granted : w.Grants (· = .delete a) (.event (.request cfg (.delete a))) :=
      ⟨rfl, .removed, ok⟩
    exact passage_drop drops stored granted id

/-- A record that is not saved is not changed. -/
theorem Unsaved.registry (u : Unsaved cfg w q w') : w'.registry = w.registry := by
  cases u with
  | created => rfl
  | edited failing stored replaced => rw [replaced.frame]
  | restarted => rfl
  | deleted => rfl

/-- **Every incident is a passage of every record.** -/
theorem Filed.passage (h : Filed allowed calm fresh used w) (x : Incident) (id : Uuid) :
    Passage w x id (w.registry.find? id) ((w.behind x).registry.find? id) := by
  cases x with
  | storeOutage operation failing => exact .same _
  | event e =>
    cases served : e.isRequest with
    | false => exact passage_of_same (after_around w served).1
    | true =>
      obtain ⟨cfg, q, rfl⟩ := e.eq_request served
      show Passage w _ id _ ((w.serve cfg q).2.registry.find? id)
      rcases closes_request h.exact (Task.runs_self (q.task cfg) w) with
        (⟨-, same⟩ | ⟨b, ok, effect⟩) | ⟨-, unsaved⟩
      · exact passage_of_same (congrArg World.registry same)
      · exact effect.passage h ok id
      · exact passage_of_same unsaved.registry

/-! ## 5. Whole runs -/

/-- **A record that is not deleted is carried on**, and its state of use changes
    only when that was asked for. -/
theorem Filed.carried (h : Filed (fun _ => True) False False used w)
    (stored : w.registry.find? id = some s) (kept : ¬ w.GrantsIn (· = .delete id) ys) :
    ∃ i, (w.course ys).registry.find? id = some i ∧ s.Continues i ∧
      (i.status ≠ s.status → w.GrantsIn (Request.Switches id) ys) := by
  induction ys generalizing used w s with
  | nil => exact ⟨s, stored, s.continues_refl, fun other => absurd rfl other⟩
  | cons x ys ih =>
    have next := h.anyhow x
    have later : ¬ (w.behind x).GrantsIn (· = .delete id) ys := fun granted => kept (.inr granted)
    have passage := h.passage x id
    rw [stored] at passage
    generalize behind : (w.behind x).registry.find? id = record at passage
    cases passage with
    | same =>
      obtain ⟨i, hi, continues, status⟩ := ih next behind later
      exact ⟨i, hi, continues, fun other => .inr (status other)⟩
    | @carried _ j continues updated status =>
      obtain ⟨i, hi, continues', status'⟩ := ih next behind later
      refine ⟨i, hi, continues.trans continues', fun other => ?_⟩
      by_cases here : j.status = s.status
      · exact .inr (status' (here ▸ other))
      · exact .inl (status here)
    | removed granted => exact absurd (.inl granted) kept

/-- No record was changed before it was created, or will be changed later. -/
def Timely (w : World) : Prop :=
  ∀ id i, w.registry.find? id = some i → i.createdAt ≤ i.updatedAt ∧ i.updatedAt ≤ w.clock

/-- Behind a passage the last change is not earlier, and not in the future. -/
theorem Timely.behind (t : Timely w) (h : Filed allowed calm fresh used w)
    (advances : w.clock ≤ (w.behind x).clock) : Timely (w.behind x) := by
  intro id i now
  have passage := h.passage x id
  rw [now] at passage
  generalize before : w.registry.find? id = record at passage
  cases passage with
  | same =>
    obtain ⟨ordered, past⟩ := t id i before
    exact ⟨ordered, Instant.le_trans past advances⟩
  | made created updated =>
    rw [created, updated]
    exact ⟨Instant.le_refl _, advances⟩
  | @carried s _ continues updated _ =>
    obtain ⟨ordered, past⟩ := t id s before
    rw [continues.createdAt, updated]
    exact ⟨Instant.le_trans ordered past, advances⟩

theorem Timely.course (t : Timely w) (h : Filed (fun _ => True) False False used w)
    (advances : w.clockAdvances xs) : Timely (w.course xs) := by
  induction xs generalizing used w with
  | nil => exact t
  | cons x xs ih =>
    obtain ⟨here, later⟩ := clockAdvances_cons.mp advances
    exact ih (t.behind h here) (h.anyhow x) later

/-- **The time of the last change does not go back** while the record is not
    deleted. -/
theorem Timely.updatedAt_le (t : Timely w) (h : Filed (fun _ => True) False False used w)
    (advances : w.clockAdvances ys) (stored : w.registry.find? id = some s)
    (kept : ¬ w.GrantsIn (· = .delete id) ys)
    (now : (w.course ys).registry.find? id = some i) : s.updatedAt ≤ i.updatedAt := by
  induction ys generalizing used w s with
  | nil =>
    have now : w.registry.find? id = some i := now
    obtain rfl := Option.some.inj (stored.symm.trans now)
    exact Instant.le_refl _
  | cons x ys ih =>
    obtain ⟨here, later⟩ := clockAdvances_cons.mp advances
    have next := h.anyhow x
    have rest : ¬ (w.behind x).GrantsIn (· = .delete id) ys := fun granted => kept (.inr granted)
    have passage := h.passage x id
    rw [stored] at passage
    generalize behind : (w.behind x).registry.find? id = record at passage
    cases passage with
    | same => exact ih (t.behind h here) next later behind rest now
    | @carried _ j _ updated _ =>
      have onward : j.updatedAt ≤ i.updatedAt := ih (t.behind h here) next later behind rest now
      exact Instant.le_trans (t id s stored).2 (updated ▸ onward)
    | removed granted => exact absurd (.inl granted) kept

/-- **Identity and history of an instance are stable.** Take a run that starts
    empty, whatever fails in it, and two moments of it between which no
    deletion of the instance succeeds. If the instance is stored at the first
    moment it is stored at the second, with the same identifier, kind of access
    and time of creation, and with a container of a generation that is not
    lower; its state of use is another one only if disabling, enabling or
    restarting it succeeded between. If the clock does not go back, it is at
    neither moment changed before it was created, and its last change at the
    second moment is not before its last change at the first. -/
theorem identity_stable {clock : Instant} {probe : String → ProbeOutcome} {xs ys : List Incident}
    {id : Uuid} {s : Instance} :
    let start := World.empty clock probe
    let w := start.course xs
    w.registry.find? id = some s → ¬ w.GrantsIn (· = .delete id) ys →
    ∃ i, (w.course ys).registry.find? id = some i ∧ s.Continues i ∧
      (i.status ≠ s.status → w.GrantsIn (Request.Switches id) ys) ∧
      (start.clockAdvances (xs ++ ys) →
        s.createdAt ≤ s.updatedAt ∧ i.createdAt ≤ i.updatedAt ∧ s.updatedAt ≤ i.updatedAt) := by
  intro start w stored kept
  have empty : Filed (fun _ => True) False False [] start := filed_empty _ _ _ clock probe
  have filed : Filed (fun _ => True) False False (drawnBy xs) w := filed_course clock probe xs
  obtain ⟨i, now, continues, status⟩ := filed.carried stored kept
  refine ⟨i, now, continues, status, fun advances => ?_⟩
  obtain ⟨before, between⟩ := clockAdvances_append.mp advances
  have timely : Timely w := Timely.course (fun _ _ found => nomatch found) empty before
  exact ⟨(timely id s stored).1, (timely.course filed between id i now).1,
    timely.updatedAt_le filed between stored kept now⟩

/-- Time passes, the instance is edited, restarted and disabled, and another
    one is deleted. -/
def sampleLife : List Incident :=
  [.event (.clock ⟨60, 0⟩),
    .event (.request .default (.edit ⟨7⟩ none (sampleDefinition "search-3"))),
    .event (.request .default (.restart ⟨7⟩)),
    .event (.clock ⟨90, 0⟩),
    .event (.request .default (.disable ⟨7⟩)),
    .event (.request .default (.delete ⟨8⟩))]

theorem identity_stable_sampleLife :
    sampleStart.clockAdvances (sampleIncidents ++ sampleLife) ∧
    ∃ s, (sampleStart.course sampleIncidents).registry.find? ⟨7⟩ = some s ∧
      ¬ (sampleStart.course sampleIncidents).GrantsIn (· = .delete ⟨7⟩) sampleLife ∧
      ∃ i, ((sampleStart.course sampleIncidents).course sampleLife).registry.find? ⟨7⟩ = some i ∧
        s.Continues i ∧
        (i.status ≠ s.status →
          (sampleStart.course sampleIncidents).GrantsIn (Request.Switches ⟨7⟩) sampleLife) ∧
        (sampleStart.clockAdvances (sampleIncidents ++ sampleLife) →
          s.createdAt ≤ s.updatedAt ∧ i.createdAt ≤ i.updatedAt ∧ s.updatedAt ≤ i.updatedAt) := by
  have there : ((sampleStart.course sampleIncidents).registry.find? ⟨7⟩).isSome := by
    decide +kernel
  obtain ⟨s, stored⟩ := Option.isSome_iff_exists.mp there
  have kept : ¬ (sampleStart.course sampleIncidents).GrantsIn (· = .delete ⟨7⟩) sampleLife := by
    simp [sampleLife, World.GrantsIn, World.Grants]
  exact ⟨by decide +kernel, s, stored, kept, identity_stable stored kept⟩

end Fleet

end McpFleet
