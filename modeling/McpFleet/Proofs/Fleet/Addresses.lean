/-
  File:      McpFleet/Proofs/Fleet/Addresses.lean
  Subject:   A public url tells which instance it belongs to.

  The base url of a gateway is free text: it may itself look like the path of an
  instance. So a public url is read from its end, which has the same length for
  every instance and protocol.

  * `Gateway.publicEnd_inj`: what stands behind the base url belongs to one
    instance and one protocol.
  * `Gateway.publicUrl_inj_of_trim`: so does a whole public url, and cutting the
    blanks off its ends takes nothing of that away.
  * **`public_urls_identify`**: no two instances are published at one url, in
    any state of any run.
-/
import McpFleet.Proofs.Fleet.Publication
import McpFleet.Proofs.Server.Location
import McpFleet.Proofs.Uuid

namespace McpFleet

/-! ## 1. Public urls -/

namespace Gateway

theorem length_endpointPath (p : Protocol) : (endpointPath p).toList.length = 4 := by
  cases p <;> rfl

theorem length_publicEnd (id : Uuid) (p : Protocol) : (publicEnd id p).length = 45 := by
  have front : "/mcp/".toList.length = 5 := rfl
  unfold publicEnd
  rw [List.length_append, List.length_append, front, id.length_text, length_endpointPath]

/-- Clients speak two protocols, and each has its own path. -/
theorem endpointPath_upgraded_inj {p q : Protocol} :
    endpointPath p.upgraded = endpointPath q.upgraded ↔ p.upgraded = q.upgraded := by
  cases p <;> cases q <;> decide

/-- **The end of a public url belongs to one instance and one protocol.** -/
theorem publicEnd_inj {a b : Uuid} {p q : Protocol} :
    publicEnd a p = publicEnd b q ↔ a = b ∧ p.upgraded = q.upgraded := by
  unfold publicEnd
  rw [List.append_cancel_left_eq, ← Uuid.text_inj, ← endpointPath_upgraded_inj]
  constructor
  · intro same
    obtain ⟨front, back⟩ := List.append_inj same (by rw [Uuid.length_text, Uuid.length_text])
    exact ⟨String.toList_inj.mp front, String.toList_inj.mp back⟩
  · rintro ⟨front, back⟩
    rw [front, back]

/-- Cutting blanks off a public url takes them from the base url. -/
theorem trimChars_publicUrl (g : Gateway) (id : Uuid) (p : Protocol) :
    Text.trimChars (g.publicUrl id p).toList =
      g.baseUrl.toList.dropWhile Text.isBlank ++ publicEnd id p := by
  rw [toList_publicUrl]
  refine Text.stripWhile_append (fun none => ?_) (fun c hc => ?_) (fun c hc => ?_)
  · have length := length_publicEnd id p
    rw [none] at length
    cases length
  · obtain rfl : '/' = c := Option.some.inj hc
    decide
  · obtain ⟨b, last, hb⟩ := getLast?_endpointPath p.upgraded
    have here : (publicEnd id p).getLast? = some b := by
      unfold publicEnd
      rw [List.getLast?_append, List.getLast?_append, last]
      rfl
    obtain rfl := Option.some.inj (here.symm.trans hc)
    exact hb

variable {g h : Gateway} {a b : Uuid} {p q : Protocol}

/-- **A public url belongs to one instance and one protocol**, whatever the base
    urls are, and also when its blanks are cut off. -/
theorem publicUrl_inj_of_trim
    (same : Text.trim (g.publicUrl a p) = Text.trim (h.publicUrl b q)) :
    a = b ∧ p.upgraded = q.upgraded := by
  have chars := congrArg String.toList same
  unfold Text.trim at chars
  rw [String.toList_ofList, String.toList_ofList, trimChars_publicUrl, trimChars_publicUrl] at chars
  have ends := List.append_inj' chars (by rw [length_publicEnd, length_publicEnd])
  exact publicEnd_inj.mp ends.2

end Gateway

namespace Fleet

/-! ## 2. Stored instances -/

variable {allowed : Config → Prop} {sure : UInt32 → Prop} {c : Cluster} {i : Instance}

/-- What is not published as it is, is published at a gateway's url for it. -/
theorem InPlace.publicUrl (h : InPlace allowed sure c i) (own : i.access ≠ .direct) :
    ∃ g : Gateway, Server.urlText? i.publicProxy = some (g.publicUrl i.id i.protocol) := by
  obtain ⟨cfg, t, -, -, -, told⟩ := h.told own
  refine ⟨cfg.gateway, ?_⟩
  rw [told, ← Gateway.publicUrl_upgraded]
  exact Server.urlText?_endpointDocument _ _ _ _

/-- **A public url identifies its instance.** When the public urls of any two
    gateways for two instances and protocols are the same, the instances are,
    and so are the protocols that clients speak. In every state of every run,
    whatever fails in it and whatever settings its requests are served under,
    two stored instances that are not direct are each published at a url, and
    these are the same, with or without the blanks at their ends, for one and
    the same instance only. -/
theorem public_urls_identify :
    (∀ (g h : Gateway) (a b : Uuid) (p q : Protocol), g.publicUrl a p = h.publicUrl b q →
      a = b ∧ p.upgraded = q.upgraded) ∧
    ∀ (clock : Instant) (probe : String → ProbeOutcome) (xs : List Incident),
      let w := (World.empty clock probe).course xs
      ∀ a b i j, w.registry.find? a = some i → w.registry.find? b = some j →
        i.access ≠ .direct → j.access ≠ .direct →
        ∃ u v, Server.urlText? i.publicProxy = some u ∧ Server.urlText? j.publicProxy = some v ∧
          (u = v → a = b) ∧ (Text.trim u = Text.trim v → a = b) := by
  refine ⟨fun g h a b p q same => Gateway.publicUrl_inj_of_trim (congrArg Text.trim same), ?_⟩
  intro clock probe xs w a b i j hi hj own own'
  have filed : Filed (fun _ => True) False False (drawnBy xs) w := filed_course clock probe xs
  obtain rfl : i.id = a := filed.exact.key hi
  obtain rfl : j.id = b := filed.exact.key hj
  obtain ⟨g, here⟩ := (filed.inPlace hi).publicUrl own
  obtain ⟨h, there⟩ := (filed.inPlace hj).publicUrl own'
  have apart (same : Text.trim (g.publicUrl i.id i.protocol) =
      Text.trim (h.publicUrl j.id j.protocol)) : i.id = j.id :=
    (Gateway.publicUrl_inj_of_trim same).1
  exact ⟨_, _, here, there, fun same => apart (congrArg Text.trim same), apart⟩

/-- Other settings, whose base url looks like the address of the second
    instance. -/
def sampleSettings : Config :=
  { Config.default with publicBaseUrl := Config.default.gateway.publicUrl ⟨8⟩ .sse }

/-- The first instance is edited under the other settings. -/
def sampleMoved : List Incident :=
  sampleIncidents ++ [.event (.request sampleSettings (.edit ⟨7⟩ none (sampleDefinition "search")))]

theorem public_urls_identify_sampleMoved :
    (∃ (g h : Gateway) (a b : Uuid) (p q : Protocol), g ≠ h ∧ p ≠ q ∧
      g.publicUrl a p = h.publicUrl b q ∧ a = b ∧ p.upgraded = q.upgraded) ∧
    ∃ i j u v, (sampleStart.course sampleMoved).registry.find? ⟨7⟩ = some i ∧
      (sampleStart.course sampleMoved).registry.find? ⟨8⟩ = some j ∧
      i.access ≠ .direct ∧ j.access ≠ .direct ∧
      Server.urlText? i.publicProxy = some u ∧ Server.urlText? j.publicProxy = some v ∧
      Text.trim u ≠ Text.trim v := by
  constructor
  · have same : (⟨"https://mcp", "a"⟩ : Gateway).publicUrl ⟨7⟩ .stdio =
        (⟨"https://mcp", "b"⟩ : Gateway).publicUrl ⟨7⟩ .sse := rfl
    exact ⟨_, _, _, _, _, _, by decide, by decide, same, public_urls_identify.1 _ _ _ _ _ _ same⟩
  · have found : ((sampleStart.course sampleMoved).registry.find? ⟨7⟩).map (·.access) =
        some .hosting := by decide +kernel
    have found' : ((sampleStart.course sampleMoved).registry.find? ⟨8⟩).map (·.access) =
        some .hosting := by decide +kernel
    obtain ⟨i, hi, own⟩ := Option.map_eq_some_iff.mp found
    obtain ⟨j, hj, own'⟩ := Option.map_eq_some_iff.mp found'
    have own : i.access ≠ .direct := by rw [own]; decide
    have own' : j.access ≠ .direct := by rw [own']; decide
    obtain ⟨u, v, here, there, -, identify⟩ :=
      public_urls_identify.2 ⟨0, 0⟩ _ sampleMoved ⟨7⟩ ⟨8⟩ i j hi hj own own'
    exact ⟨i, j, u, v, hi, hj, own, own', here, there, fun same => absurd (identify same) (by decide)⟩

end Fleet

end McpFleet
