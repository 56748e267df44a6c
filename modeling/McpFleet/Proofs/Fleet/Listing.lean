/-
  File:      McpFleet/Proofs/Fleet/Listing.lean
  Subject:   The list of all instances, now and later in a run.

  * `World.stays`: an instance is stored now and behind every incident of a run.
  * `Filed.stays`: it is one and the same instance all the time, with the time of
    creation that it had.
  * **`listing_exact_and_stable`**: a list has every stored instance once, in
    ascending order, and two instances that stay are in the same order in every
    list.

  The clock may stand still or go back in these runs: only the two moments of
  creation count, and neither is written again.
-/
import McpFleet.Proofs.Fleet.Identity
import McpFleet.Proofs.Store.Listing

namespace McpFleet

/-- The order of two instances is that of their moments of creation. -/
theorem Instance.Continues.precedes_iff {i j s t : Instance} (h : s.Continues i)
    (h' : t.Continues j) : i.Precedes j ↔ s.Precedes t := by
  unfold Instance.Precedes
  rw [h.createdAt, h.id, h'.createdAt, h'.id]

namespace Fleet

/-- The instance is stored now and behind every incident of the run. -/
def World.stays (w : World) (id : Uuid) : List Incident → Bool
  | [] => (w.registry.find? id).isSome
  | x :: xs => (w.registry.find? id).isSome && (w.behind x).stays id xs

variable {used : List Uuid} {cfg : Config} {w w' : World} {id : Uuid} {s : Instance}
  {l : List Instance} {ys : List Incident}

/-! ## 1. Lists -/

/-- A list that is answered is the list of the registry, and looking at it
    changes nothing. -/
theorem serve_list_eq_ok :
    w.serve cfg .list = (.ok (.listed l), w') ↔
      w.storeFailing .listAll = false ∧ w.registry.list = l ∧ w' = w := by
  show (Reply.listed <$> listAll).Yields w (.listed l) w' ↔ _
  rw [Task.yields_map]
  constructor
  · rintro ⟨is, listed, e⟩
    obtain rfl := Reply.listed.inj e
    exact Task.yields_listRecords.mp listed
  · intro parts
    exact ⟨l, Task.yields_listRecords.mpr parts, rfl⟩

/-! ## 2. Instances that stay -/

theorem stored_of_stays (h : w.stays id ys = true) : ∃ s, w.registry.find? id = some s := by
  cases ys with
  | nil => exact Option.isSome_iff_exists.mp h
  | cons x ys => exact Option.isSome_iff_exists.mp (Bool.and_eq_true_iff.mp h).1

/-- **An instance that stays is one and the same** at both ends of a run. -/
theorem Filed.stays (h : Filed (fun _ => True) False False used w)
    (stays : w.stays id ys = true) (stored : w.registry.find? id = some s) :
    ∃ i, (w.course ys).registry.find? id = some i ∧ s.Continues i := by
  induction ys generalizing used w s with
  | nil => exact ⟨s, stored, s.continues_refl⟩
  | cons x ys ih =>
    have later : (w.behind x).stays id ys = true := (Bool.and_eq_true_iff.mp stays).2
    obtain ⟨j, there⟩ := stored_of_stays later
    have passage := h.passage x id
    rw [stored, there] at passage
    have onward : s.Continues j := by
      cases passage with
      | same => exact s.continues_refl
      | carried continues => exact continues
    obtain ⟨i, hi, continues⟩ := ih (h.anyhow x) later there
    exact ⟨i, hi, onward.trans continues⟩

/-! ## 3. Whole runs -/

/-- **Listing is exact and stable.** In every state of every run a list of all
    instances can be had as long as the store answers, and having it changes
    nothing. A list has every stored instance once and nothing else, in strictly
    ascending order of the time of creation and then of the identifier. And
    whatever happens from there on, as long as two instances stay stored, each
    later list has them in the same order. -/
theorem listing_exact_and_stable {clock : Instant} {probe : String → ProbeOutcome}
    {xs : List Incident} :
    let w := (World.empty clock probe).course xs
    (∀ cfg, (Calm xs ∨ w.storeFailing .listAll = false) →
      ∃ l, w.serve cfg .list = (.ok (.listed l), w)) ∧
    ∀ cfg l, (w.serve cfg .list).1 = .ok (.listed l) →
      w.registry.Enumerates l ∧
      ∀ ys cfg' l', ((w.course ys).serve cfg' .list).1 = .ok (.listed l') →
        ∀ a b, w.stays a ys = true → w.stays b ys = true →
          ([a, b].Sublist (l.map (·.id)) ↔ [a, b].Sublist (l'.map (·.id))) := by
  intro w
  have filed : Filed (fun _ => True) False False (drawnBy xs) w := filed_course clock probe xs
  refine ⟨fun cfg answering => ?_, fun cfg l answered => ?_⟩
  · exact ⟨w.registry.list, serve_list_eq_ok.mpr ⟨course_answers answering, rfl, rfl⟩⟩
  · obtain ⟨-, rfl, -⟩ := serve_list_eq_ok.mp (Prod.ext answered rfl)
    refine ⟨filed.exact.enumerates, fun ys cfg' l' later a b staysA staysB => ?_⟩
    obtain ⟨-, rfl, -⟩ := serve_list_eq_ok.mp (Prod.ext later rfl)
    have exact' : (w.course ys).registry.Exact :=
      (filed.course ys (fun _ _ _ => trivial) False.elim False.elim).exact
    obtain ⟨s, storedA⟩ := stored_of_stays staysA
    obtain ⟨t, storedB⟩ := stored_of_stays staysB
    obtain ⟨i, hi, continuesA⟩ := filed.stays staysA storedA
    obtain ⟨j, hj, continuesB⟩ := filed.stays staysB storedB
    rw [filed.exact.enumerates.sublist_iff filed.exact storedA storedB,
      exact'.enumerates.sublist_iff exact' hi hj, continuesA.precedes_iff continuesB]

/-- The clock goes back, another instance is created and deleted again, and the
    two of the sample run are edited and started again. -/
def sampleRelisted : List Incident :=
  [.event (.clock ⟨-60, 0⟩),
    .event (.request .default (.create ⟨9⟩ .hosting (sampleDefinition "notes"))),
    .event (.request .default (.edit ⟨7⟩ none (sampleDefinition "search-3"))),
    .event (.request .default (.restart ⟨8⟩)),
    .event (.request .default (.status ⟨8⟩)),
    .event (.clock ⟨-90, 0⟩),
    .event (.request .default (.delete ⟨9⟩))]

/-- The two instances were created at the same moment. -/
theorem listing_exact_and_stable_sampleRelisted :
    ∃ l l', ((sampleStart.course sampleIncidents).serve .default .list).1 = .ok (.listed l) ∧
      (((sampleStart.course sampleIncidents).course sampleRelisted).serve .default .list).1 =
        .ok (.listed l') ∧
      (sampleStart.course sampleIncidents).registry.Enumerates l ∧
      (sampleStart.course sampleIncidents).stays ⟨7⟩ sampleRelisted = true ∧
      (sampleStart.course sampleIncidents).stays ⟨8⟩ sampleRelisted = true ∧
      l.map (·.id) = [⟨7⟩, ⟨8⟩] ∧ [⟨7⟩, ⟨8⟩].Sublist (l'.map (·.id)) := by
  obtain ⟨listed, exact⟩ := @listing_exact_and_stable ⟨0, 0⟩ (fun _ => ⟨true, none⟩) sampleIncidents
  obtain ⟨l, served⟩ := listed .default (.inl calm_sampleIncidents)
  have answered := congrArg Prod.fst served
  obtain ⟨enumerates, stable⟩ := exact .default l answered
  -- asked together, so that the run is evaluated once
  have evaluated : (sampleStart.course sampleIncidents).stays ⟨7⟩ sampleRelisted = true ∧
      (sampleStart.course sampleIncidents).stays ⟨8⟩ sampleRelisted = true ∧
      ((sampleStart.course sampleIncidents).course sampleRelisted).storeFailing .listAll =
        false := by
    decide +kernel
  obtain ⟨stays, stays', failing⟩ := evaluated
  have later : ((sampleStart.course sampleIncidents).course sampleRelisted).serve .default .list =
      (.ok (.listed _), _) := serve_list_eq_ok.mpr ⟨failing, rfl, rfl⟩
  have later := congrArg Prod.fst later
  have order : l.map (·.id) = [⟨7⟩, ⟨8⟩] := by
    obtain ⟨-, rfl, -⟩ := serve_list_eq_ok.mp served
    have sorted : (sampleStart.course sampleIncidents).registry.list =
        (sampleStart.course sampleIncidents).registry.instances.values :=
      List.mergeSort_of_pairwise (by decide +kernel)
    have ids : (sampleStart.course sampleIncidents).registry.instances.values.map (·.id) =
        [⟨7⟩, ⟨8⟩] := by decide +kernel
    exact (congrArg (List.map (·.id)) sorted).trans ids
  refine ⟨l, _, answered, later, enumerates, stays, stays', order, ?_⟩
  refine (stable sampleRelisted .default _ later ⟨7⟩ ⟨8⟩ stays stays').mp ?_
  rw [order]

end Fleet

end McpFleet
