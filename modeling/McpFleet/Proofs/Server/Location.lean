/-
  File:      McpFleet/Proofs/Server/Location.lean
  Subject:   The url that stands in a server document.

  * `Server.urlText?`: the url as it is written, without judging the document.
  * **`urlText?_of_ofDocument`**: the url that is read from an accepted document
    is the written one without the blanks at its ends.
  * `urlText?_endpointDocument`: a document for an endpoint has its url.
-/
import McpFleet.Proofs.Gateway

namespace McpFleet.Server

/-- The text under `url` in the entry of the one service of a document. -/
def urlText? (d : Document) : Option String :=
  match soleService d.tree with
  | .ok (_, .object entry) =>
    match Entries.get? "url" entry with
    | some (.text u) => some u
    | _ => none
  | _ => none

variable {d : Document} {s : Server} {u : String}

theorem urlText?_of_entry {key : String} {entry : Entry}
    (sole : soleService d.tree = .ok (key, .object entry))
    (there : Entries.get? "url" entry = some (.text u)) : urlText? d = some u := by
  unfold urlText?
  rw [sole]
  simp only [there]

theorem ordered_of_soleService {key field : String} {entry : Entry} {j : Json}
    (sole : soleService d.tree = .ok (key, .object entry))
    (there : Entries.get? field entry = some j) : j.Ordered := by
  have services := ordered_of_get? d.ordered (soleService_eq_ok.mp sole)
  have value : (Json.object entry).Ordered := by
    cases services with
    | object values keys => exact values _ List.mem_cons_self
  exact ordered_of_get? value there

/-- What is read from an accepted document is what its one service offers. -/
theorem offers_of_ofDocument (h : ofDocument d = .ok s) :
    ∃ key entry, soleService d.tree = .ok (key, .object entry) ∧
      Offers entry s.protocol s.endpoint := by
  obtain ⟨key, entry, sole, -, p, -, e, read, rfl⟩ := ofDocument_eq_ok.mp h
  exact ⟨key, entry, sole, (readEndpoint_eq_ok (ordered_of_soleService sole)).mp read⟩

/-- **The url of an accepted document is the one that stands there**, trimmed. -/
theorem urlText?_of_ofDocument (h : ofDocument d = .ok s) (url : s.url? = some u) :
    ∃ t, urlText? d = some t ∧ Text.trim t = u := by
  obtain ⟨key, entry, sole, offered⟩ := offers_of_ofDocument h
  unfold Server.url? at url
  generalize s.protocol = p, s.endpoint = e at offered url
  cases offered with
  | launch stated lists maps => cases url
  | remote network stated maps =>
    obtain rfl := Option.some.inj url
    obtain ⟨t, there, trimmed, -⟩ := stated
    exact ⟨t, urlText?_of_entry sole there, trimmed⟩

theorem urlText?_endpointDocument (key : String) (p : Protocol) (url : String)
    (token : Option String) : urlText? (endpointDocument key p url token) = some url := by
  obtain ⟨-, location, -, -⟩ := endpointEntry_get? p url token
  have sole : soleService (endpointDocument key p url token).tree =
      .ok (key, .object (endpointEntry p url token)) := rfl
  exact urlText?_of_entry sole location

end McpFleet.Server
