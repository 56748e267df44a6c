/-
  File:      McpFleet/Proofs/Instance/Json.lean
  Subject:   What the JSON form of an instance says.

  * `ofJson?_toJson`: what is written for an instance is read as that
    instance, whichever of its members are left out.
  * `asRead?`: the instance that its text says, each number of its documents
    as its digits are read.
  * **`json_form_says_all`**: the value says all of an instance. The text says
    all but the last digits of fractions.
  * `text_loses_digits`: those it can lose.

  The times are those whose texts are read as themselves.
-/
import McpFleet.Instance.Json
import McpFleet.Proofs.Hosting.Json
import McpFleet.Proofs.Uuid

namespace McpFleet

/-! ## 1. Members -/

theorem Access.ofJson?_toJson (a : Access) : ofJson? a.toJson = some a := by cases a <;> rfl

theorem InstanceName.ofJson?_toJson (n : InstanceName) : ofJson? n.toJson = some n := rfl

theorem Protocol.ofJson?_toJson (p : Protocol) : ofJson? p.toJson = some p := by cases p <;> rfl

theorem InstanceStatus.ofJson?_toJson (s : InstanceStatus) : ofJson? s.toJson = some s := by
  cases s <;> rfl

namespace Json

variable {α : Type} {read : Json → Option α}

/-- A value that is not `null` is no missing value. -/
theorem nullable?_of_read {j : Json} {a : α} (present : j.isNull = false) (h : read j = some a) :
    nullable? read j = some (some a) := by
  unfold nullable?
  rw [present, h]
  rfl

/-- A member that may be left out is read back, there or not. -/
theorem withDefault_memberOf {fields : List String} {ms : List (String × Json)} {key : String}
    (wanted : key ∈ fields) {write : α → Json} {o : Option α}
    (there : Entries.get? key ms = o.map write) (present : ∀ a, (write a).isNull = false)
    (back : ∀ a, read (write a) = some a) :
    (recordOf fields ms).withDefault key none (nullable? read) = some o := by
  cases o with
  | none =>
    have absent : Entries.get? key (recordOf fields ms).slots = none :=
      (get?_slots wanted).trans there
    unfold Record.withDefault
    rw [absent]
  | some a =>
    have present := nullable?_of_read (present a) (back a)
    rw [withDefault_recordOf wanted none (nullable? read) there, present]

end Json

namespace Instance

theorem keys_memberOf {α : Type} (key : String) (write : α → Json) (o : Option α) :
    ((memberOf key write o).map Prod.fst).Sublist [key] := by
  cases o with
  | none => exact List.nil_sublist _
  | some a => exact List.Sublist.refl _

/-- **The members stand in key order**, also when some are left out. -/
theorem ascending_members (i : Instance) : Entries.Ascending i.members := by
  have keys : (i.members.map Prod.fst).Sublist (["accessType", "createdAt"] ++ ["hosting"] ++
      ["instanceId", "mcpProtocol", "name", "publicProxyConfig", "sourceConfig", "status"] ++
      ["statusMessage"] ++ ["targetConfig", "updatedAt"]) := by
    unfold members
    simp only [List.map_append]
    exact ((((List.Sublist.refl _).append (keys_memberOf _ _ _)).append (.refl _)).append
      (keys_memberOf _ _ _)).append (.refl _)
  exact List.pairwise_map.mp (List.Pairwise.sublist keys (by decide))

theorem get?_of_mem_members {i : Instance} {key : String} {j : Json} (h : (key, j) ∈ i.members) :
    Entries.get? key i.members = some j :=
  Entries.get?_eq_some_of_mem i.ascending_members h

/-- The two members that are left out when there is nothing to write. -/
theorem get?_memberOf (i : Instance) :
    Entries.get? "hosting" i.members = i.container.map Hosting.Container.toJson ∧
      Entries.get? "statusMessage" i.members = i.message.map Json.text := by
  unfold members
  cases i.container <;> cases i.message <;> exact ⟨rfl, rfl⟩

/-! ## 2. Reading back -/

/-- The record that is written for an instance. -/
def record (i : Instance) : Json.Record := Json.recordOf fields i.members

/-- A member that is always there is read as what was written. -/
theorem required_of_mem {α : Type} {i : Instance} {key : String} {j : Json} {read : Json → Option α}
    {a : α} (wanted : key ∈ fields) (there : (key, j) ∈ i.members) (back : read j = some a) :
    i.record.required key read = some a :=
  (Json.required_recordOf wanted read (get?_of_mem_members there)).trans back

/-- **What is written for an instance is read as that instance.** -/
theorem ofJson?_toJson {i : Instance} (created : Instant.ofText? i.createdAt.text = some i.createdAt)
    (updated : Instant.ofText? i.updatedAt.text = some i.updatedAt) :
    ofJson? i.toJson = some i := by
  obtain ⟨hosting, message⟩ := i.get?_memberOf
  have createdBack : Instant.ofJson? i.createdAt.toJson = some i.createdAt := created
  have updatedBack : Instant.ofJson? i.updatedAt.toJson = some i.updatedAt := updated
  have document (d : Document) : Json.document? d.tree = some d := congrArg some d.ofJson_tree
  have record : i.toJson.record? fields = some i.record := Json.record?_object i.ascending_members
  have id : i.record.required "instanceId" Uuid.ofJson? = some i.id :=
    required_of_mem (by decide) (by simp [members]) i.id.ofJson?_toJson
  have name : i.record.required "name" InstanceName.ofJson? = some i.name :=
    required_of_mem (by decide) (by simp [members]) i.name.ofJson?_toJson
  have access : i.record.required "accessType" Access.ofJson? = some i.access :=
    required_of_mem (by decide) (by simp [members]) i.access.ofJson?_toJson
  have protocol : i.record.required "mcpProtocol" Protocol.ofJson? = some i.protocol :=
    required_of_mem (by decide) (by simp [members]) i.protocol.ofJson?_toJson
  have source : i.record.required "sourceConfig" Json.document? = some i.source :=
    required_of_mem (by decide) (by simp [members]) (document i.source)
  have target : i.record.required "targetConfig" Json.document? = some i.target :=
    required_of_mem (by decide) (by simp [members]) (document i.target)
  have publicProxy : i.record.required "publicProxyConfig" Json.document? = some i.publicProxy :=
    required_of_mem (by decide) (by simp [members]) (document i.publicProxy)
  have status : i.record.required "status" InstanceStatus.ofJson? = some i.status :=
    required_of_mem (by decide) (by simp [members]) i.status.ofJson?_toJson
  have container : i.record.withDefault "hosting" none
      (Json.nullable? Hosting.Container.ofJson?) = some i.container :=
    Json.withDefault_memberOf (by decide) hosting (fun _ => rfl) Hosting.Container.ofJson?_toJson
  have text : i.record.withDefault "statusMessage" none (Json.nullable? Json.text?) =
      some i.message :=
    Json.withDefault_memberOf (by decide) message (fun _ => rfl) (fun _ => rfl)
  have createdAt : i.record.required "createdAt" Instant.ofJson? = some i.createdAt :=
    required_of_mem (by decide) (by simp [members]) createdBack
  have updatedAt : i.record.required "updatedAt" Instant.ofJson? = some i.updatedAt :=
    required_of_mem (by decide) (by simp [members]) updatedBack
  -- The members are read in the order of `fields`.
  unfold ofJson?
  refine Option.bind_eq_some_iff.mpr ⟨_, record, ?_⟩
  refine Option.bind_eq_some_iff.mpr ⟨_, id, ?_⟩
  refine Option.bind_eq_some_iff.mpr ⟨_, name, ?_⟩
  refine Option.bind_eq_some_iff.mpr ⟨_, access, ?_⟩
  refine Option.bind_eq_some_iff.mpr ⟨_, protocol, ?_⟩
  refine Option.bind_eq_some_iff.mpr ⟨_, source, ?_⟩
  refine Option.bind_eq_some_iff.mpr ⟨_, target, ?_⟩
  refine Option.bind_eq_some_iff.mpr ⟨_, publicProxy, ?_⟩
  refine Option.bind_eq_some_iff.mpr ⟨_, status, ?_⟩
  refine Option.bind_eq_some_iff.mpr ⟨_, container, ?_⟩
  refine Option.bind_eq_some_iff.mpr ⟨_, text, ?_⟩
  refine Option.bind_eq_some_iff.mpr ⟨_, createdAt, ?_⟩
  exact Option.bind_eq_some_iff.mpr ⟨_, updatedAt, rfl⟩

/-! ## 3. What the text says -/

end Instance

/-- The document that the text of a document says. -/
def Document.asRead? (d : Document) : Option Document := d.tree.asRead?.map ofJson

theorem Document.tree_asRead {d d' : Document} (h : d.asRead? = some d') :
    d.tree.asRead? = some d'.tree := by
  obtain ⟨j, said, rfl⟩ := Option.map_eq_some_iff.mp h
  have own : j.canonical = j := Json.canonical_eq_self j (Json.ordered_of_asRead d.ordered said)
  rw [said]
  exact congrArg some own.symm

theorem Document.asRead?_of_plain {n : Nat} {d : Document} (h : d.tree.Plain n) :
    d.asRead? = some d := by
  unfold asRead?
  rw [h.asRead?, Option.map_some, ofJson_tree]

namespace Instance

/-- The instance that the text of an instance says. -/
def asRead? (i : Instance) : Option Instance := do
  let source ← i.source.asRead?
  let target ← i.target.asRead?
  let publicProxy ← i.publicProxy.asRead?
  return { i with source, target, publicProxy }

theorem asRead?_eq_some {i i' : Instance} : i.asRead? = some i' ↔ ∃ source target publicProxy,
    i.source.asRead? = some source ∧ i.target.asRead? = some target ∧
      i.publicProxy.asRead? = some publicProxy ∧ i' = { i with source, target, publicProxy } := by
  unfold asRead?
  simp only [Option.bind_eq_bind, Option.bind_eq_some_iff, Option.pure_def, Option.some.injEq]
  constructor
  · rintro ⟨s, hs, t, ht, p, hp, rfl⟩
    exact ⟨s, t, p, hs, ht, hp, rfl⟩
  · rintro ⟨s, t, p, hs, ht, hp, rfl⟩
    exact ⟨s, hs, t, ht, p, hp, rfl⟩

theorem membersAsRead?_memberOf {α : Type} (key : String) {write : α → Json}
    (h : ∀ a, (write a).asRead? = some (write a)) (o : Option α) :
    Json.membersAsRead? (memberOf key write o) = some (memberOf key write o) := by
  refine Json.membersAsRead?_self fun m hm => ?_
  cases o with
  | none => cases hm
  | some a =>
    obtain rfl := List.mem_singleton.mp hm
    exact h a

theorem asRead?_toJson_of_some {i i' : Instance} (h : i.asRead? = some i') :
    i.toJson.asRead? = some i'.toJson := by
  obtain ⟨s, t, p, source, target, publicProxy, rfl⟩ := asRead?_eq_some.mp h
  have front : Json.membersAsRead? [("accessType", i.access.toJson),
      ("createdAt", i.createdAt.toJson)] = some _ := rfl
  have middle : Json.membersAsRead? [("instanceId", i.id.toJson),
      ("mcpProtocol", i.protocol.toJson), ("name", i.name.toJson),
      ("publicProxyConfig", i.publicProxy.tree), ("sourceConfig", i.source.tree),
      ("status", i.status.toJson)] = some [("instanceId", i.id.toJson),
      ("mcpProtocol", i.protocol.toJson), ("name", i.name.toJson), ("publicProxyConfig", p.tree),
      ("sourceConfig", s.tree), ("status", i.status.toJson)] := by
    simp only [Json.membersAsRead?, Document.tree_asRead source, Document.tree_asRead publicProxy]
    rfl
  have back : Json.membersAsRead? [("targetConfig", i.target.tree),
      ("updatedAt", i.updatedAt.toJson)] =
      some [("targetConfig", t.tree), ("updatedAt", i.updatedAt.toJson)] := by
    simp only [Json.membersAsRead?, Document.tree_asRead target]
    rfl
  have hosting := membersAsRead?_memberOf "hosting"
    (fun c : Hosting.Container => (c.lossless_toJson (n := 0)).plain.asRead?) i.container
  have message : Json.membersAsRead? (memberOf "statusMessage" Json.text i.message) = some _ :=
    membersAsRead?_memberOf _ (fun _ => rfl) _
  have all := Json.membersAsRead?_append (Json.membersAsRead?_append (Json.membersAsRead?_append
    (Json.membersAsRead?_append front hosting) middle) message) back
  unfold toJson members
  rw [Json.asRead?, all]
  rfl

/-- **The text of an instance says the instance that its documents say.** -/
theorem asRead?_toJson (i : Instance) : i.toJson.asRead? = i.asRead?.map toJson := by
  cases said : i.asRead? with
  | some i' => exact asRead?_toJson_of_some said
  | none =>
    refine Option.eq_none_iff_forall_not_mem.mpr fun j read => ?_
    obtain ⟨ns, inner, -⟩ := Option.map_eq_some_iff.mp read
    have document (key : String) (d : Document) (there : (key, d.tree) ∈ i.members) :
        ∃ d', d.asRead? = some d' := by
      obtain ⟨j, back⟩ := Json.asRead?_of_mem inner there
      exact ⟨.ofJson j, congrArg (Option.map Document.ofJson) back⟩
    obtain ⟨s, source⟩ := document "sourceConfig" i.source (by simp [members])
    obtain ⟨t, target⟩ := document "targetConfig" i.target (by simp [members])
    obtain ⟨p, publicProxy⟩ := document "publicProxyConfig" i.publicProxy (by simp [members])
    rw [asRead?_eq_some.mpr ⟨s, t, p, source, target, publicProxy, rfl⟩] at said
    cases said

/-- The deepest nesting among the documents of the instance. -/
def nesting (i : Instance) : Nat :=
  max i.source.tree.nesting (max i.target.tree.nesting i.publicProxy.tree.nesting)

theorem nesting_memberOf {α : Type} {n : Nat} (key : String) {write : α → Json}
    (h : ∀ a, (write a).nesting ≤ n) (o : Option α) :
    ∀ m ∈ memberOf key write o, m.2.nesting ≤ n := by
  intro m hm
  cases o with
  | none => cases hm
  | some a =>
    obtain rfl := List.mem_singleton.mp hm
    exact h a

/-- The form of an instance is one object around its documents. -/
theorem nesting_toJson {n : Nat} (i : Instance) (room : 4 ≤ n) :
    i.toJson.nesting ≤ n + 1 ↔ i.nesting ≤ n := by
  have texts (s : String) : (Json.text s).nesting ≤ n := Nat.zero_le n
  have container (c : Hosting.Container) : c.toJson.nesting ≤ n :=
    Nat.le_trans (c.lossless_toJson (n := 0)).plain.nesting_le room
  have hosting := nesting_memberOf "hosting" container i.container
  have message := nesting_memberOf "statusMessage" texts i.message
  unfold toJson nesting
  rw [Json.nesting, Nat.succ_le_succ_iff, Json.membersNesting_le]
  unfold members
  simp only [List.forall_mem_append, List.forall_mem_cons, Nat.max_le]
  constructor
  · rintro ⟨⟨⟨-, -, -, -, publicProxy, source, -⟩, -⟩, target, -⟩
    exact ⟨source, target, publicProxy⟩
  · rintro ⟨source, target, publicProxy⟩
    exact ⟨⟨⟨⟨⟨texts _, texts _, List.forall_mem_nil _⟩, hosting⟩,
      texts _, texts _, texts _, publicProxy, source, texts _, List.forall_mem_nil _⟩, message⟩,
      target, texts _, List.forall_mem_nil _⟩

theorem fits_memberOf {α : Type} {fields : List (String × Json.Shape)} {key : String}
    {part : Json.Shape} {write : α → Json} (wanted : fields.lookup key = some part)
    (fits : ∀ a, (write a).Fits part) (o : Option α) :
    ∀ m ∈ memberOf key write o, ∃ part, fields.lookup m.1 = some part ∧ m.2.Fits part := by
  intro m hm
  cases o with
  | none => cases hm
  | some a =>
    obtain rfl := List.mem_singleton.mp hm
    exact ⟨part, wanted, fits a⟩

/-- No member of an instance is passed over. -/
theorem fits_toJson (i : Instance) : i.toJson.Fits shape := by
  have whole (j : Json) : j.Fits .whole := Json.fits_whole j
  refine .record ?_
  unfold members
  simp only [List.forall_mem_append, List.forall_mem_cons]
  refine ⟨⟨⟨⟨⟨⟨.whole, rfl, whole _⟩, ⟨.whole, rfl, whole _⟩, List.forall_mem_nil _⟩,
    fits_memberOf (by rfl) Hosting.Container.fits_toJson _⟩,
    ⟨.whole, rfl, whole _⟩, ⟨.whole, rfl, whole _⟩, ⟨.whole, rfl, whole _⟩,
      ⟨.whole, rfl, whole _⟩, ⟨.whole, rfl, whole _⟩, ⟨.whole, rfl, whole _⟩,
      List.forall_mem_nil _⟩,
    fits_memberOf (by rfl) (fun _ => whole _) _⟩,
    ⟨.whole, rfl, whole _⟩, ⟨.whole, rfl, whole _⟩, List.forall_mem_nil _⟩

/-- **The text of an instance is read as the instance it says**, unless a
    document is nested too deep. -/
theorem ofText?_text {i : Instance}
    (created : Instant.ofText? i.createdAt.text = some i.createdAt)
    (updated : Instant.ofText? i.updatedAt.text = some i.updatedAt) :
    ofText? i.text = if i.nesting ≤ 126 then i.asRead? else none := by
  have tree : Json.parseAs? shape i.text =
      if i.toJson.nesting ≤ 127 then i.toJson.asRead? else none :=
    Json.parseAs?_render i.fits_toJson
  have depth : i.toJson.nesting ≤ 127 ↔ i.nesting ≤ 126 := i.nesting_toJson (by decide)
  unfold ofText?
  simp only [tree, depth, asRead?_toJson]
  by_cases shallow : i.nesting ≤ 126
  · simp only [if_pos shallow]
    cases said : i.asRead? with
    | none => rfl
    | some i' =>
      obtain ⟨s, t, p, -, -, -, rfl⟩ := asRead?_eq_some.mp said
      exact ofJson?_toJson created updated
  · simp only [if_neg shallow, Option.bind_none]

/-- **The JSON form of an instance loses nothing but digits.** The value is
    read as the instance. The text is read as the instance it says, when its
    documents are nested at most 126 deep, and this is the instance itself
    when their numbers are whole. -/
theorem json_form_says_all (i : Instance)
    (created : Instant.ofText? i.createdAt.text = some i.createdAt)
    (updated : Instant.ofText? i.updatedAt.text = some i.updatedAt) :
    ofJson? i.toJson = some i ∧
      ofText? i.text = (if i.nesting ≤ 126 then i.asRead? else none) ∧
      (i.source.tree.Plain 126 → i.target.tree.Plain 126 → i.publicProxy.tree.Plain 126 →
        ofText? i.text = some i) := by
  refine ⟨ofJson?_toJson created updated, ofText?_text created updated, ?_⟩
  intro source target publicProxy
  have said : i.asRead? = some i := asRead?_eq_some.mpr ⟨i.source, i.target, i.publicProxy,
    Document.asRead?_of_plain source, Document.asRead?_of_plain target,
    Document.asRead?_of_plain publicProxy, rfl⟩
  have shallow : i.nesting ≤ 126 :=
    Nat.max_le.mpr ⟨source.nesting_le, Nat.max_le.mpr ⟨target.nesting_le, publicProxy.nesting_le⟩⟩
  rw [ofText?_text created updated, if_pos shallow, said]

/-! ## 4. Two instances -/

def sampleSpec : Hosting.Spec where
  environmentId := ⟨7⟩
  packageId := none
  port := 8000
  command := some "serve \"quickly\""
  initScript := none
  image := "registry/tools:1"
  env := .ofList [("MODE", "tools"), ("LEVEL", "")]
  mounts := [⟨"/srv", "/data", true⟩, ⟨"logs", "/var/log", false⟩]
  timeouts := ⟨30, 0⟩
  tokens := ["secret", "spare"]

/-- A hosted instance with every part of its container, and a fraction among
    its documents. -/
def sampleHosted (fraction : Binary64) : Instance where
  id := ⟨0x7⟩
  name := ⟨"file\ttools"⟩
  access := .hosting
  protocol := .streamableHttp
  source := .ofJson (.object [("rate", .real fraction)])
  target := .ofJson (.array [.integer (-3), .null])
  publicProxy := .ofJson (.text "none")
  status := .inactive
  container := some ⟨sampleSpec, "mcp-7-2", "mcp-svc-7-2", .runningUnready, false, 2⟩
  message := some "restarting"
  createdAt := ⟨1767225600, 0⟩
  updatedAt := ⟨1767225601, 500000000⟩

theorem sampleHosted_times (fraction : Binary64) :
    Instant.ofText? (sampleHosted fraction).createdAt.text =
        some (sampleHosted fraction).createdAt ∧
      Instant.ofText? (sampleHosted fraction).updatedAt.text =
        some (sampleHosted fraction).updatedAt := by
  refine ⟨?_, ?_⟩
  · show Instant.ofText? (Instant.mk 1767225600 0).text = some ⟨1767225600, 0⟩
    decide +kernel
  · show Instant.ofText? (Instant.mk 1767225601 500000000).text = some ⟨1767225601, 500000000⟩
    decide +kernel

theorem sampleHosted_asRead {x y : Binary64} (h : (Json.real x).asRead? = some (.real y)) :
    (sampleHosted x).asRead? = some (sampleHosted y) := by
  have source : (sampleHosted x).source.tree.asRead? = some (.object [("rate", .real y)]) := by
    show (Json.object [("rate", .real x)]).asRead? = _
    simp only [Json.asRead?, Json.membersAsRead?] at h ⊢
    rw [h]
    rfl
  have target : (sampleHosted x).target.tree.Plain 1 :=
    .array (by simp [Json.canonicalItems, Json.canonical, Json.Plain.null, Json.Plain.integer])
  refine asRead?_eq_some.mpr ⟨(sampleHosted y).source, (sampleHosted x).target,
    (sampleHosted x).publicProxy, ?_, Document.asRead?_of_plain target,
    Document.asRead?_of_plain (.text (n := 0) "none"), rfl⟩
  unfold Document.asRead?
  rw [source]
  rfl

/-- One and a half is read back from its text, and with it the instance. -/
theorem json_form_says_all_sampleHosted :
    let i := sampleHosted ⟨false, 6755399441055744, -52⟩
    Instant.ofText? i.createdAt.text = some i.createdAt ∧
      Instant.ofText? i.updatedAt.text = some i.updatedAt ∧ i.asRead? = some i ∧ i.nesting = 1 ∧
      ofJson? i.toJson = some i ∧ ofText? i.text = some i := by
  intro i
  obtain ⟨created, updated⟩ := sampleHosted_times ⟨false, 6755399441055744, -52⟩
  have said : i.asRead? = some i := sampleHosted_asRead (by decide +kernel)
  have nesting : i.nesting = 1 := rfl
  obtain ⟨value, text, -⟩ := json_form_says_all i created updated
  rw [nesting, said] at text
  exact ⟨created, updated, said, nesting, value, text⟩

/-- **A text can lose digits.** The fraction 9860.356463153581 is read as the
    number below it. -/
theorem text_loses_digits :
    ¬ ∀ i : Instance, Instant.ofText? i.createdAt.text = some i.createdAt →
      Instant.ofText? i.updatedAt.text = some i.updatedAt → ofText? i.text = some i := by
  intro loses_nothing
  obtain ⟨created, updated⟩ := sampleHosted_times ⟨false, 5420788292626798, -39⟩
  have same := loses_nothing _ created updated
  have said : (sampleHosted ⟨false, 5420788292626798, -39⟩).asRead? =
      some (sampleHosted ⟨false, 5420788292626797, -39⟩) := sampleHosted_asRead (by decide +kernel)
  have read := ofText?_text created updated
  have nesting : (sampleHosted ⟨false, 5420788292626798, -39⟩).nesting = 1 := rfl
  rw [same, nesting, said] at read
  have trees := congrArg (fun i : Instance => i.source.tree) (Option.some.inj read)
  cases trees

end Instance

end McpFleet
