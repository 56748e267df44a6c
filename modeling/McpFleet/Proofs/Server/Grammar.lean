/-
  File:      McpFleet/Proofs/Server/Grammar.lean
  Subject:   The grammar of server documents, and that documents are judged
             by it.

  * `Missing`, `Says`, `Lists`, `Maps`: what a field of an entry can be.
  * `Implies`: the protocol of an entry, by the first of its fields that is
    not missing; `Offers`: the endpoint of an entry, by its protocol.
  * `Describes`: the grammar, with what is read from a document of it.
  * **`ofDocument_eq_ok_iff_describes`**: a document is accepted exactly when
    it is in the grammar, and what is read from it is what it describes.

  A field behind the one that decides is not looked at: an entry with a
  `type` may have any `transport`.
-/
import McpFleet.Proofs.Checks
import McpFleet.Proofs.Json.Reading
import McpFleet.Proofs.Text
import McpFleet.Server

namespace McpFleet

namespace Server

/-! ## 1. Fields -/

/-- A field that is absent or `null`. -/
def Unset (entry : Entry) (field : String) : Prop :=
  Entries.get? field entry = none ∨ Entries.get? field entry = some .null

/-- A field that says nothing: absent, `null`, or a text of blanks. -/
def Missing (entry : Entry) (field : String) : Prop :=
  Unset entry field ∨
    ∃ s, Entries.get? field entry = some (.text s) ∧ ∀ c ∈ s.toList, Text.isBlank c = true

/-- A field whose text is `t` between the blanks at its ends. -/
def Says (entry : Entry) (field t : String) : Prop :=
  ∃ s, Entries.get? field entry = some (.text s) ∧ Text.trim s = t ∧ t ≠ ""

/-- A field that is a list of texts; an unset one lists none. -/
inductive Lists (entry : Entry) (field : String) : List String → Prop where
  | unset (h : Unset entry field) : Lists entry field []
  | set {texts : List String} (h : Entries.get? field entry = some (Json.ofTexts texts)) :
    Lists entry field texts

/-- A field that is an object of texts; an unset one has none. -/
inductive Maps (entry : Entry) (field : String) : Dict String String → Prop where
  | unset (h : Unset entry field) : Maps entry field .empty
  | set {texts : Dict String String} (h : Entries.get? field entry = some (Json.ofTextDict texts)) :
    Maps entry field texts

section Fields

variable {entry : Entry} {field t : String}

theorem textField?_eq_none : textField? entry field = .ok none ↔ Missing entry field := by
  unfold textField? Missing Unset
  cases Entries.get? field entry with
  | none => simp
  | some j =>
    cases j with
    | text s => simp [Text.trimmed?_eq_none]
    | _ => simp

theorem textField?_eq_some : textField? entry field = .ok (some t) ↔ Says entry field t := by
  unfold textField? Says
  cases Entries.get? field entry with
  | none => simp
  | some j =>
    cases j with
    | text s => simp [Text.trimmed?_eq_some]
    | _ => simp

theorem textsField_eq_ok {texts : List String} :
    textsField entry field = .ok texts ↔ Lists entry field texts := by
  constructor
  · intro h
    unfold textsField at h
    split at h
    · rename_i absent
      obtain rfl := Except.ok.inj h
      exact .unset (.inl absent)
    · rename_i null
      obtain rfl := Except.ok.inj h
      exact .unset (.inr null)
    · rename_i j _ there
      split at h
      · rename_i read
        obtain rfl := Except.ok.inj h
        exact .set (there.trans (congrArg some (Json.list?_text?_eq_some.mp read)))
      · cases h
  · intro h
    cases h with
    | unset unset =>
      unfold textsField
      rcases unset with absent | null
      · rw [absent]
      · rw [null]
    | set there =>
      have read := Json.list?_ofTexts texts
      unfold textsField
      rw [there]
      unfold Json.ofTexts at read ⊢
      simp only [read]

theorem textDictField_eq_ok {texts : Dict String String}
    (ordered : ∀ {j}, Entries.get? field entry = some j → j.Ordered) :
    textDictField entry field = .ok texts ↔ Maps entry field texts := by
  constructor
  · intro h
    unfold textDictField at h
    split at h
    · rename_i absent
      obtain rfl := Except.ok.inj h
      exact .unset (.inl absent)
    · rename_i null
      obtain rfl := Except.ok.inj h
      exact .unset (.inr null)
    · rename_i j _ there
      split at h
      · rename_i read
        obtain rfl := Except.ok.inj h
        exact .set (there.trans (congrArg some ((Json.textDict?_eq_some (ordered there)).mp read)))
      · cases h
  · intro h
    cases h with
    | unset unset =>
      unfold textDictField
      rcases unset with absent | null
      · rw [absent]
      · rw [null]
    | set there =>
      have read := Json.textDict?_ofTextDict texts
      unfold textDictField
      rw [there]
      unfold Json.ofTextDict at read ⊢
      simp only [read]

end Fields

/-! ## 2. Protocols -/

/-- A text that names a protocol, in whatever case its letters are. -/
def Names (t : String) (p : Protocol) : Prop := (Text.lower t, p) ∈ Protocol.documentOptions

/-- The protocol of an entry: what the first of `type` and `transport` names
    that is not missing; or else what the url suggests; or else that of a
    local process, when there is a command for it. -/
inductive Implies (entry : Entry) : Protocol → Prop where
  | type {t : String} {p : Protocol} (stated : Says entry "type" t) (names : Names t p) :
    Implies entry p
  | transport {t : String} {p : Protocol} (type : Missing entry "type")
    (stated : Says entry "transport" t) (names : Names t p) : Implies entry p
  | eventUrl {u : String} (type : Missing entry "type") (transport : Missing entry "transport")
    (stated : Says entry "url" u) (events : "sse".toList <:+: u.toList) : Implies entry .sse
  | otherUrl {u : String} (type : Missing entry "type") (transport : Missing entry "transport")
    (stated : Says entry "url" u) (events : ¬ "sse".toList <:+: u.toList) :
    Implies entry .streamableHttp
  | command {c : String} (type : Missing entry "type") (transport : Missing entry "transport")
    (url : Missing entry "url") (stated : Says entry "command" c) : Implies entry .stdio

section Protocols

variable {entry : Entry} {field t : String} {p : Protocol}

theorem ofDocumentName?_eq_some (trimmed : Text.trim t = t) :
    Protocol.ofDocumentName? t = some p ↔ Names t p := by
  have distinct : (Protocol.documentOptions.map (·.1)).Nodup := by decide
  unfold Protocol.ofDocumentName? foldName Names
  rw [trimmed]
  exact lookup_eq_some_iff_mem distinct

theorem Says.trimmed (h : Says entry field t) : Text.trim t = t := by
  obtain ⟨s, -, rfl, -⟩ := h
  exact Text.trim_idem s

theorem declaredProtocol?_eq_none :
    declaredProtocol? entry field = .ok none ↔ Missing entry field := by
  rw [← textField?_eq_none]
  unfold declaredProtocol?
  constructor
  · intro h
    obtain ⟨given, found, h⟩ := bind_eq_ok.mp h
    cases given with
    | none => exact found
    | some t =>
      simp only at h
      split at h
      · cases h
      · cases h
  · intro missing
    exact bind_eq_ok.mpr ⟨none, missing, rfl⟩

theorem declaredProtocol?_eq_some :
    declaredProtocol? entry field = .ok (some p) ↔ ∃ t, Says entry field t ∧ Names t p := by
  unfold declaredProtocol?
  constructor
  · intro h
    obtain ⟨given, found, h⟩ := bind_eq_ok.mp h
    cases given with
    | none => cases h
    | some t =>
      have stated := textField?_eq_some.mp found
      simp only at h
      split at h
      · rename_i named
        cases h
        exact ⟨t, stated, (ofDocumentName?_eq_some stated.trimmed).mp named⟩
      · cases h
  · intro parts
    obtain ⟨t, stated, names⟩ := parts
    refine bind_eq_ok.mpr ⟨some t, textField?_eq_some.mpr stated, ?_⟩
    simp only [(ofDocumentName?_eq_some stated.trimmed).mpr names]
    rfl

/-- A chain goes on with what was found, or with nothing. -/
theorem bind_option_eq_ok {ε α β : Type} {first : Except ε (Option α)}
    {next : Option α → Except ε β} {b : β} :
    first >>= next = .ok b ↔
      (∃ a, first = .ok (some a) ∧ next (some a) = .ok b) ∨
        (first = .ok none ∧ next none = .ok b) := by
  rw [bind_eq_ok]
  constructor
  · intro parts
    obtain ⟨found, h, hn⟩ := parts
    cases found with
    | some a => exact .inl ⟨a, h, hn⟩
    | none => exact .inr ⟨h, hn⟩
  · intro ways
    rcases ways with ⟨a, h, hn⟩ | ⟨h, hn⟩
    · exact ⟨some a, h, hn⟩
    · exact ⟨none, h, hn⟩

theorem protocolOfUrl_of_events {u : String} (events : "sse".toList <:+: u.toList) :
    protocolOfUrl u = .sse :=
  if_pos (Text.contains_iff.mpr events)

theorem protocolOfUrl_of_no_events {u : String} (events : ¬ "sse".toList <:+: u.toList) :
    protocolOfUrl u = .streamableHttp :=
  if_neg (mt Text.contains_iff.mp events)

/-- **The protocol that is inferred is the one that the entry implies.** -/
theorem inferProtocol_eq_ok {key : String} :
    inferProtocol key entry = .ok p ↔ Implies entry p := by
  unfold inferProtocol
  simp only [bind_option_eq_ok, pure_eq_ok, throw_ne_ok, declaredProtocol?_eq_some,
    declaredProtocol?_eq_none, textField?_eq_some, textField?_eq_none, exists_eq_right, and_false,
    or_false]
  constructor
  · rintro (⟨t, stated, names⟩ | ⟨type, ⟨t, stated, names⟩ | ⟨transport, ⟨u, stated, e⟩ |
      ⟨url, c, stated, rfl⟩⟩⟩)
    · exact .type stated names
    · exact .transport type stated names
    · by_cases events : "sse".toList <:+: u.toList
      · rw [protocolOfUrl_of_events events] at e
        exact e ▸ .eventUrl type transport stated events
      · rw [protocolOfUrl_of_no_events events] at e
        exact e ▸ .otherUrl type transport stated events
    · exact .command type transport url stated
  · intro implied
    cases implied with
    | type stated names => exact .inl ⟨_, stated, names⟩
    | transport type stated names => exact .inr ⟨type, .inl ⟨_, stated, names⟩⟩
    | eventUrl type transport stated events =>
      have implied := protocolOfUrl_of_events events
      exact .inr ⟨type, .inr ⟨transport, .inl ⟨_, stated, implied⟩⟩⟩
    | otherUrl type transport stated events =>
      have implied := protocolOfUrl_of_no_events events
      exact .inr ⟨type, .inr ⟨transport, .inl ⟨_, stated, implied⟩⟩⟩
    | command type transport url stated =>
      exact .inr ⟨type, .inr ⟨transport, .inr ⟨url, _, stated, rfl⟩⟩⟩

end Protocols

/-! ## 3. Endpoints -/

/-- The endpoint of an entry with a protocol: a command with its arguments and
    environment, or a url with its headers. -/
inductive Offers (entry : Entry) : Protocol → Endpoint → Prop where
  | launch {command : String} {args : List String} {env : Dict String String}
    (stated : Says entry "command" command) (lists : Lists entry "args" args)
    (maps : Maps entry "env" env) : Offers entry .stdio (.launch ⟨command, args, env⟩)
  | remote {p : Protocol} {url : String} {headers : Dict String String} (network : p ≠ .stdio)
    (stated : Says entry "url" url) (maps : Maps entry "headers" headers) :
    Offers entry p (.remote ⟨url, headers⟩)

/-- **The endpoint that is read is the one that the entry offers.** -/
theorem readEndpoint_eq_ok {entry : Entry} {p : Protocol} {e : Endpoint}
    (ordered : ∀ {field j}, Entries.get? field entry = some j → j.Ordered) :
    readEndpoint p entry = .ok e ↔ Offers entry p e := by
  unfold readEndpoint
  by_cases process : p = .stdio
  · subst process
    rw [if_pos rfl, bind_option_eq_ok]
    simp only [bind_eq_ok, pure_eq_ok, throw_ne_ok, textField?_eq_some, textsField_eq_ok,
      textDictField_eq_ok ordered, and_false, or_false]
    constructor
    · rintro ⟨command, stated, args, lists, env, maps, rfl⟩
      exact .launch stated lists maps
    · intro offered
      cases offered with
      | launch stated lists maps => exact ⟨_, stated, _, lists, _, maps, rfl⟩
      | remote network => exact absurd rfl network
  · rw [if_neg process, bind_option_eq_ok]
    simp only [bind_eq_ok, pure_eq_ok, throw_ne_ok, textField?_eq_some,
      textDictField_eq_ok ordered, and_false, or_false]
    constructor
    · rintro ⟨url, stated, headers, maps, rfl⟩
      exact .remote process stated maps
    · intro offered
      cases offered with
      | launch => exact absurd rfl process
      | remote _ stated maps => exact ⟨_, stated, _, maps, rfl⟩

/-! ## 4. Documents -/

/-- Letters, digits, `_` and `-`, at least one, and no digit in front. -/
structure IsKey (key : String) : Prop where
  nonempty : key ≠ ""
  word : ∀ c ∈ key.toList, Text.isWordChar c = true
  first : ∀ c, key.toList.head? = some c → Text.isAsciiDigit c = false

theorem isKey_iff {key : String} : isKey key = true ↔ IsKey key := by
  have chars : key ≠ "" ↔ key.toList ≠ [] := by
    rw [← String.toList_inj.ne]
    rfl
  unfold isKey
  constructor
  · intro h
    split at h
    · cases h
    · rename_i c cs cut
      simp only [Bool.and_eq_true, Bool.not_eq_true', List.all_eq_true] at h
      obtain ⟨⟨word, letter⟩, rest⟩ := h
      refine ⟨chars.mpr (cut ▸ List.cons_ne_nil c cs), fun a ha => ?_, fun a ha => ?_⟩
      · rw [cut] at ha
        rcases List.mem_cons.mp ha with rfl | ha
        · exact word
        · exact rest a ha
      · rw [cut] at ha
        exact Option.some.inj ha ▸ letter
  · intro h
    cases cut : key.toList with
    | nil => exact absurd cut (chars.mp h.nonempty)
    | cons c cs =>
      have word (a : Char) (ha : a ∈ c :: cs) : Text.isWordChar a = true := h.word a (cut ▸ ha)
      have letter : Text.isAsciiDigit c = false := h.first c (by rw [cut]; rfl)
      have rest : cs.all Text.isWordChar = true :=
        List.all_eq_true.mpr fun a ha => word a (List.mem_cons_of_mem c ha)
      simp only [word c List.mem_cons_self, letter, rest, Bool.not_false, Bool.and_self]

/-- **The grammar.** A document describes a server when it is an object whose
    `mcpServers` is an object of one entry under a key, and the entry implies
    the server's protocol and offers its endpoint. -/
inductive Describes (d : Document) : Server → Prop where
  | service {key : String} {entry : Entry} {p : Protocol} {e : Endpoint}
    (sole : d.tree.get? "mcpServers" = some (.object [(key, .object entry)])) (isKey : IsKey key)
    (implies : Implies entry p) (offers : Offers entry p e) :
    Describes d ⟨key, p, presentFields entry, e, d⟩

theorem soleService_eq_ok {j : Json} {service : String × Json} :
    soleService j = .ok service ↔ j.get? "mcpServers" = some (.object [service]) := by
  unfold soleService
  constructor
  · intro h
    split at h
    · cases h
    · rename_i there
      cases h
      exact there
    · cases h
    · cases h
  · intro there
    rw [there]

/-- The values in a document are documents. -/
theorem ordered_of_get? {j v : Json} {key : String} (h : j.Ordered) (there : j.get? key = some v) :
    v.Ordered := by
  cases h with
  | object values keys => exact values _ (Entries.mem_of_get? there)
  | _ => cases there

theorem ofDocument_eq_ok {d : Document} {s : Server} :
    ofDocument d = .ok s ↔
      ∃ key entry, soleService d.tree = .ok (key, .object entry) ∧ isKey key = true ∧
        ∃ p, inferProtocol key entry = .ok p ∧
          ∃ e, readEndpoint p entry = .ok e ∧ s = ⟨key, p, presentFields entry, e, d⟩ := by
  unfold ofDocument
  rw [bind_eq_ok]
  constructor
  · intro parts
    obtain ⟨⟨key, value⟩, sole, h⟩ := parts
    cases good : isKey key with
    | false =>
      simp only [good, Bool.not_false, if_true] at h
      obtain ⟨_, h, -⟩ := bind_eq_ok.mp h
      exact absurd h throw_ne_ok
    | true =>
      simp only [good, Bool.not_true, Bool.false_eq_true, if_false] at h
      cases value with
      | object entry =>
        obtain ⟨p, inferred, h⟩ := bind_eq_ok.mp h
        obtain ⟨e, read, h⟩ := bind_eq_ok.mp h
        exact ⟨key, entry, sole, good, p, inferred, e, read, (pure_eq_ok.mp h).symm⟩
      | _ => exact absurd h throw_ne_ok
  · intro parts
    obtain ⟨key, entry, sole, good, p, inferred, e, read, rfl⟩ := parts
    refine ⟨(key, .object entry), sole, ?_⟩
    simp only [good, Bool.not_true, Bool.false_eq_true, if_false]
    exact bind_eq_ok.mpr ⟨p, inferred, bind_eq_ok.mpr ⟨e, read, rfl⟩⟩

/-- **Documents are judged by the grammar.** A document is accepted if and
    only if it describes a server, and what is read from it is that server:
    its key, its protocol, its endpoint, and the document itself. -/
theorem ofDocument_eq_ok_iff_describes {d : Document} {s : Server} :
    ofDocument d = .ok s ↔ Describes d s := by
  rw [ofDocument_eq_ok]
  have nested {key : String} {entry : Entry}
      (sole : d.tree.get? "mcpServers" = some (.object [(key, .object entry)])) {field : String}
      {j : Json} (there : Entries.get? field entry = some j) : j.Ordered := by
    have services := ordered_of_get? d.ordered sole
    have value : (Json.object entry).Ordered := by
      cases services with
      | object values keys => exact values _ List.mem_cons_self
    exact ordered_of_get? value there
  constructor
  · intro parts
    obtain ⟨key, entry, sole, good, p, inferred, e, read, rfl⟩ := parts
    have there := soleService_eq_ok.mp sole
    exact .service there (isKey_iff.mp good) (inferProtocol_eq_ok.mp inferred)
      ((readEndpoint_eq_ok (nested there)).mp read)
  · intro described
    cases described with
    | service there good implies offers =>
      exact ⟨_, _, soleService_eq_ok.mpr there, isKey_iff.mpr good, _,
        inferProtocol_eq_ok.mpr implies, _, (readEndpoint_eq_ok (nested there)).mpr offers, rfl⟩

end Server

end McpFleet
