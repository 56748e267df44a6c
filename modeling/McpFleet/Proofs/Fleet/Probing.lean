/-
  File:      McpFleet/Proofs/Fleet/Probing.lean
  Subject:   The health of an instance that runs elsewhere.

  The target document of a record is judged again when the instance is probed.
  The branch for a document without a url cannot be reached, since a record in
  place has the document that was judged when it was made.

  * `InPlace.targetUrl?`: the url that is probed is the trimmed one of the
    record's source document.
  * `runs_status_passthrough`: a whole look at such an instance, call by call.
  * **`passthrough_probed`**: in every state of every run it is probed once, and
    the answer is the probe's.
-/
import McpFleet.Proofs.Fleet.Incidents
import McpFleet.Proofs.Server.Location

namespace McpFleet.Fleet

variable {allowed : Config → Prop} {sure : UInt32 → Prop} {c : Cluster} {cfg : Config}
  {w : World} {id : Uuid} {i : Instance} {url : String}

/-! ## 1. The url that is probed -/

/-- **The traffic of a passthrough record goes to the url of its source
    document**, trimmed; there is one. -/
theorem InPlace.targetUrl? (h : InPlace allowed sure c i) (own : i.access ≠ .hosting) :
    ∃ u, Server.urlText? i.source = some u ∧ Fleet.targetUrl? i = some (Text.trim u) := by
  cases h with
  | @passthrough cfg s settings _ container source protocol url routes =>
    obtain ⟨target, -⟩ := Gateway.routes_of_passthrough own routes
    have same : i.target = i.source := target.trans (Server.accepts_of_ofDocument source).document
    obtain ⟨v, reached⟩ := Option.ne_none_iff_exists'.mp url
    obtain ⟨u, there, trimmed⟩ := Server.urlText?_of_ofDocument source reached
    refine ⟨u, there, ?_⟩
    unfold Fleet.targetUrl?
    rw [same, source, trimmed]
    exact reached
  | hosted settings hosted => exact absurd hosted own

/-! ## 2. A look at a passthrough instance -/

theorem runs_get_stored (answers : w.storeFailing .findById = false)
    (stored : w.registry.find? id = some i) :
    (get id).Runs w [⟨.findRecord id, .ok (some i), w⟩] (.ok i) w := by
  have answer : w.answer (.findRecord id) = (.ok (some i), w) := by
    show w.withRegistry .findById (fun r => .ok (r.find? id, r)) = _
    rw [w.withRegistry_find .findById (fun r => r.find? id), answers, stored]
    rfl
  have looked : (Task.findRecord id).Runs w [⟨.findRecord id, .ok (some i), w⟩] (.ok (some i)) w := by
    refine Task.runs_ofCall.mpr ⟨?_, ?_, ?_⟩
    · simp only [Program.ask, Program.exchanges, answer]
    · rw [Program.run_ask, answer]
      rfl
    · rw [Program.run_ask, answer]
  exact Task.runs_bind_ok.mpr ⟨_, [], some i, w, rfl, looked, Task.runs_pure.mpr ⟨rfl, rfl, rfl⟩⟩

/-- An instance that runs elsewhere is probed at its target. -/
theorem runs_check_passthrough (own : i.access ≠ .hosting) (target : targetUrl? i = some url) :
    (check cfg i).Runs w [⟨.probe url cfg.probeTimeout, w.probe url, w⟩]
      (.ok ⟨i.id, i.access, i.status, .endpoint (w.probe url)⟩) w := by
  have probed : (Task.probe url cfg.probeTimeout).Runs w
      [⟨.probe url cfg.probeTimeout, w.probe url, w⟩] (.ok (w.probe url)) w := ⟨rfl, rfl⟩
  unfold check
  simp only [if_neg own, target]
  exact Task.runs_bind_pure.mpr ⟨_, probed, rfl⟩

/-- **A look at a passthrough instance**: its record is looked up, its target is
    probed, and nothing is written back. -/
theorem runs_status_passthrough (answers : w.storeFailing .findById = false)
    (stored : w.registry.find? id = some i) (own : i.access ≠ .hosting)
    (target : targetUrl? i = some url) :
    (status cfg id).Runs w
      [⟨.findRecord id, .ok (some i), w⟩, ⟨.probe url cfg.probeTimeout, w.probe url, w⟩]
      (.ok ⟨i.id, i.access, i.status, .endpoint (w.probe url)⟩) w := by
  refine Task.runs_bind_ok.mpr ⟨_, _, i, w, rfl, runs_get_stored answers stored, ?_⟩
  refine Task.runs_bind_ok.mpr
    ⟨_, [], _, w, rfl, runs_check_passthrough own target, Task.runs_pure.mpr ⟨rfl, rfl, rfl⟩⟩

/-! ## 3. Whole runs -/

/-- **A passthrough instance is probed at its own url, and never refused.** In
    every state of every run, whatever fails in the cluster: as long as the
    store can be asked for the record, a look at a stored instance that is not
    hosted succeeds. It makes two calls: it looks the record up, and it probes
    one url, the trimmed url of the one service in the record's source document.
    The report is what the probe found there, and the state stays as it was. -/
theorem passthrough_probed {clock : Instant} {probe : String → ProbeOutcome}
    {xs : List Incident} {cfg : Config} {id : Uuid} {i : Instance} :
    let w := (World.empty clock probe).course xs
    w.registry.find? id = some i → i.access ≠ .hosting →
    (Calm xs ∨ w.storeFailing .findById = false) →
    ∃ u, Server.urlText? i.source = some u ∧ targetUrl? i = some (Text.trim u) ∧
      w.serve cfg (.status id) =
        (.ok (.health ⟨id, i.access, i.status, .endpoint (w.probe (Text.trim u))⟩), w) ∧
      Program.trace ((Request.status id).task cfg) w =
        [.findRecord id, .probe (Text.trim u) cfg.probeTimeout] := by
  intro w stored own answering
  have filed : Filed (fun _ => True) False False (drawnBy xs) w := filed_course clock probe xs
  obtain rfl : i.id = id := filed.exact.key stored
  obtain ⟨u, there, target⟩ := (filed.inPlace stored).targetUrl? own
  have looked : (status cfg i.id).Runs w _ _ w :=
    runs_status_passthrough (course_answers answering) stored own target
  obtain ⟨served, exchanged⟩ := Task.runs_map.mpr ⟨_, looked, rfl⟩
  refine ⟨u, there, target, served, ?_⟩
  have calls := Program.calls_exchanges ((Request.status i.id).task cfg) w
  rw [← calls]
  exact congrArg (List.map (·.call)) exchanged

/-- A server elsewhere; its url is written with blanks around it. -/
def sampleUpstream : Definition where
  name := "docs"
  protocol := .streamableHttp
  servers := some (endpointTree "docs" .streamableHttp " https://docs.example.org/mcp " none).render
  hosting := none

/-- A proxy instance is created, the cluster fails to say how containers do, and
    one url can be reached. -/
def sampleElsewhere : List Incident :=
  [Event.request .default (.create ⟨9⟩ .proxy sampleUpstream), .outage .status true,
    .probe fun url => ⟨url = "https://docs.example.org/mcp", none⟩].map .event

theorem passthrough_probed_sampleElsewhere :
    Calm sampleElsewhere ∧
    ∃ i u, (sampleStart.course sampleElsewhere).registry.find? ⟨9⟩ = some i ∧
      i.access ≠ .hosting ∧ Server.urlText? i.source = some u ∧
      targetUrl? i = some (Text.trim u) ∧
      (sampleStart.course sampleElsewhere).serve .default (.status ⟨9⟩) =
        (.ok (.health ⟨⟨9⟩, i.access, i.status, .endpoint ⟨true, none⟩⟩),
          sampleStart.course sampleElsewhere) ∧
      Program.trace ((Request.status ⟨9⟩).task .default) (sampleStart.course sampleElsewhere) =
        [.findRecord ⟨9⟩, .probe (Text.trim u) Config.default.probeTimeout] := by
  have still : Calm sampleElsewhere := calm_events _
  have found : ((sampleStart.course sampleElsewhere).registry.find? ⟨9⟩).map (fun i =>
      (i.access, Server.urlText? i.source)) =
        some (.proxy, some " https://docs.example.org/mcp ") := by decide +kernel
  obtain ⟨i, stored, e⟩ := Option.map_eq_some_iff.mp found
  obtain ⟨access, written⟩ := Prod.mk.inj e
  have own : i.access ≠ .hosting := by rw [access]; decide
  obtain ⟨u, there, target, served, calls⟩ :=
    @passthrough_probed _ _ _ .default _ _ stored own (.inl still)
  obtain rfl := Option.some.inj (written.symm.trans there)
  have reached : ((World.empty ⟨0, 0⟩ fun _ => ⟨true, none⟩).course sampleElsewhere).probe
      (Text.trim " https://docs.example.org/mcp ") = ⟨true, none⟩ := by decide +kernel
  rw [reached] at served
  exact ⟨still, i, _, stored, own, there, target, served, calls⟩

end McpFleet.Fleet
