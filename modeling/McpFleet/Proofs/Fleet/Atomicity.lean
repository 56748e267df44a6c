/-
  File:      McpFleet/Proofs/Fleet/Atomicity.lean
  Subject:   A request is served as a whole or not at all.

  Creating, editing, restarting and deleting change the cluster before the
  registry. That no half of a change stays behind a refusal rests on the
  change of the registry never being refused in a state that a run reaches
  (`Sound.served`).
-/
import McpFleet.Proofs.Fleet.Reachable

namespace McpFleet.Fleet

theorem drawnIds_append (es es' : List Event) :
    drawnIds (es ++ es') = drawnIds es ++ drawnIds es' :=
  List.filterMap_append

/-- **A refused request changes nothing.** Whatever was asked before, whatever
    the cluster is made to refuse and whatever the directory knows: behind an
    error the registry with its name index, the cluster with its containers,
    their reports and logs, and all the rest are what they were. -/
theorem refused_request_changes_nothing {clock : Instant} {probe : String → ProbeOutcome}
    {es : List Event} {cfg : Config} {q : Request} (fresh : FreshIds (es ++ [.request cfg q]))
    {e : Error} :
    let w := (World.empty clock probe).history es
    (w.serve cfg q).1 = .error e → (w.serve cfg q).2 = w := by
  intro w refused
  have ids : (drawnIds es ++ drawnIds [.request cfg q]).Nodup := drawnIds_append es _ ▸ fresh
  have sound : Sound (drawnIds es) w := sound_history (List.nodup_append.mp ids).1
  rw [drawnIds_cons, ← List.append_assoc] at ids
  rcases sound.served (fresh_head ids) with ⟨-, same⟩ | ⟨b, ok, -⟩
  · exact same
  · rw [ok] at refused
    cases refused

/-- The run goes on with a cluster that refuses to create containers. -/
def sampleOutage : List Event := sampleRun ++ [.outage .create true]

theorem refused_request_changes_nothing_sampleOutage :
    ∃ e, ((sampleStart.history sampleOutage).serve .default
        (.edit ⟨7⟩ none (sampleDefinition "search-3"))).1 = .error e ∧
      ((sampleStart.history sampleOutage).serve .default
        (.edit ⟨7⟩ none (sampleDefinition "search-3"))).2 = sampleStart.history sampleOutage := by
  have fresh : FreshIds (sampleOutage ++
      [.request .default (.edit ⟨7⟩ none (sampleDefinition "search-3"))]) := by decide +kernel
  have refused : ((sampleStart.history sampleOutage).serve .default
      (.edit ⟨7⟩ none (sampleDefinition "search-3"))).1.toBool = false := by decide +kernel
  cases answer : ((sampleStart.history sampleOutage).serve .default
      (.edit ⟨7⟩ none (sampleDefinition "search-3"))).1 with
  | error e => exact ⟨e, rfl, refused_request_changes_nothing fresh answer⟩
  | ok b =>
    rw [answer] at refused
    cases refused

end McpFleet.Fleet
