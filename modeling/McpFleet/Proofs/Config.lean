/-
  File:      McpFleet/Proofs/Config.lean
  Subject:   Which settings give public urls that clients can use.

  The base url is judged as the parser reads it, without the blanks and controls
  at its ends, and a public url is that text, its last slashes cut off, with the
  path of an instance behind it. So a base url may be accepted whose public urls
  no parser reads, or whose path ends up in a query.

  * `check_eq_ok`: which settings are accepted.
  * `Gateway.isPath_publicEnd`: the end of a public url is a path that can stand
    behind any URL.
  * **`public_urls_usable`**: which accepted settings give urls that can be used,
    and that these have the scheme, host and port of the base url.
-/
import McpFleet.Proofs.Gateway
import McpFleet.Proofs.Url.Paths
import McpFleet.Proofs.Uuid

namespace McpFleet

/-! ## 1. The path of a public url -/

namespace Gateway

open Url (IsPath isPathChar)

variable {id : Uuid} {p : Protocol}

theorem publicEnd_eq (id : Uuid) (p : Protocol) : publicEnd id p =
    '/' :: ("mcp".toList ++ '/' :: (id.text.toList ++ (endpointPath p.upgraded).toList)) := rfl

/-- The end of a public url is a path, whose first piece could be a host. -/
theorem isPath_publicEnd (id : Uuid) (p : Protocol) : IsPath (publicEnd id p) := by
  have chars : ∀ c ∈ '/' :: (id.text.toList ++ (endpointPath p.upgraded).toList),
      isPathChar c = true := by
    intro c hc
    rcases List.mem_cons.mp hc with rfl | hc
    · decide
    rcases List.mem_append.mp hc with written | path
    · exact Url.isPathChar_of_isWordChar (Uuid.isWordChar_of_mem_text written)
    · have all : (endpointPath p.upgraded).toList.all isPathChar = true := by
        cases p <;> decide
      exact List.all_eq_true.mp all c path
  rw [publicEnd_eq]
  exact .pieces (by decide) (List.all_eq_true.mp (by decide)) (by decide +kernel)
    (fun c hc => (Option.some.inj hc).symm) chars

/-- A base url is a gateway's and the slashes that were cut off its end. -/
theorem exists_toList_eq_append (base domain : String) :
    ∃ n, base.toList = (ofTexts base domain).baseUrl.toList ++ List.replicate n '/' := by
  obtain ⟨ws, parts, slashes⟩ := Text.exists_dropEndWhile_append (· == '/') base.toList
  have same : ws = List.replicate ws.length '/' :=
    List.eq_replicate_of_mem fun c hc => beq_iff_eq.mp (slashes c hc)
  have base : (ofTexts base domain).baseUrl.toList = Text.dropEndWhile (· == '/') base.toList :=
    String.toList_ofList
  exact ⟨ws.length, by rw [base, ← same, parts]⟩

end Gateway

namespace Config

/-! ## 2. Accepted settings -/

theorem isAbsoluteUrl_eq (s : String) : isAbsoluteUrl s = (Url.ofText s).isOk := by
  unfold isAbsoluteUrl
  cases Url.ofText s <;> rfl

/-- **Settings are accepted when each value is in its range.** -/
theorem check_eq_ok {c : Config} : c.check = .ok () ↔
    c.probeTimeout ≠ 0 ∧ c.probeTimeout ≤ maxProbeTimeout ∧ isAbsoluteUrl c.publicBaseUrl = true ∧
      c.gateway.clusterDomain ≠ "" ∧ c.logTailLines ≠ 0 := by
  have domain : (Gateway.trimDots c.clusterDomain).isEmpty = true ↔ c.gateway.clusterDomain = "" :=
    String.isEmpty_iff
  unfold check
  simp only [ite_error_eq_ok, domain, UInt64.not_lt, Bool.not_eq_true', Bool.not_eq_false,
    and_true, ne_eq]

/-! ## 3. Public urls -/

/-- **A url that clients can use**: an absolute URL that begins with no blank and
    has no query and no fragment, so its end is the end of its path. -/
structure IsUsable (url : String) : Prop where
  absolute : isAbsoluteUrl url = true
  flush : url.toList.head?.any Text.isBlank = false
  noQuery : '?' ∉ url.toList
  noFragment : '#' ∉ url.toList

instance (url : String) : Decidable (IsUsable url) :=
  decidable_of_iff (isAbsoluteUrl url = true ∧ url.toList.head?.any Text.isBlank = false ∧
      '?' ∉ url.toList ∧ '#' ∉ url.toList)
    ⟨fun h => ⟨h.1, h.2.1, h.2.2.1, h.2.2.2⟩, fun h => ⟨h.1, h.2, h.3, h.4⟩⟩

variable {url : String} {cs ws t : List Char}

/-- What a usable url begins with has no blank in front, no query and no
    fragment. -/
theorem IsUsable.front (usable : IsUsable url) (chars : url.toList = cs ++ ws) :
    cs.head?.any Text.isBlank = false ∧ '?' ∉ cs ∧ '#' ∉ cs := by
  obtain ⟨-, flush, noQuery, noFragment⟩ := usable
  rw [chars] at flush noQuery noFragment
  refine ⟨?_, fun h => noQuery (List.mem_append_left ws h),
    fun h => noFragment (List.mem_append_left ws h)⟩
  cases cs with
  | nil => rfl
  | cons c cs => exact flush

/-- **A path behind a url adds no blank, no query and no fragment.** -/
theorem isUsable_iff_of_path (path : Url.IsPath t) (chars : url.toList = cs ++ t) :
    IsUsable url ↔ isAbsoluteUrl url = true ∧
      cs.head?.any Text.isBlank = false ∧ '?' ∉ cs ∧ '#' ∉ cs := by
  constructor
  · exact fun usable => ⟨usable.absolute, usable.front chars⟩
  · rintro ⟨absolute, flush, noQuery, noFragment⟩
    have query : '?' ∉ t := fun h => absurd (path.chars '?' h) (by decide)
    have fragment : '#' ∉ t := fun h => absurd (path.chars '#' h) (by decide)
    refine ⟨absolute, ?_, ?_, ?_⟩ <;> rw [chars]
    · cases cs with
      | nil =>
        obtain ⟨rest, rfl, -⟩ := path.eq_cons
        rfl
      | cons c cs => exact flush
    · exact fun h => (List.mem_append.mp h).elim noQuery query
    · exact fun h => (List.mem_append.mp h).elim noFragment fragment

/-- **Which accepted settings give public urls that clients can use**: those whose
    base url could be used with one more slash behind it. When it can be used
    itself and ends, but for slashes, in no blank, control, backslash or `@`,
    public urls have its scheme, host and port, and the path of the instance is the
    end of theirs. -/
theorem public_urls_usable (c : Config) (accepted : c.check = .ok ()) (id : Uuid) (p : Protocol) :
    let url := c.gateway.publicUrl id p
    (IsUsable url ↔ IsUsable (c.publicBaseUrl ++ "/")) ∧
    (IsUsable c.publicBaseUrl → Url.EndsClear c.gateway.baseUrl.toList →
      IsUsable url ∧ Url.ofText url = Url.ofText c.publicBaseUrl ∧
        ∃ path, Url.pathText? url = some path ∧ Gateway.publicEnd id p <:+ path) := by
  intro url
  have absolute : isAbsoluteUrl c.publicBaseUrl = true := (check_eq_ok.mp accepted).2.2.1
  obtain ⟨u, read⟩ := isOk_iff.mp (isAbsoluteUrl_eq c.publicBaseUrl ▸ absolute)
  obtain ⟨n, base⟩ := Gateway.exists_toList_eq_append c.publicBaseUrl c.clusterDomain
  obtain ⟨scheme, rest, begins⟩ := Url.begins_of_ofText read base
  have path := Gateway.isPath_publicEnd id p
  have chars : url.toList = c.gateway.baseUrl.toList ++ Gateway.publicEnd id p :=
    Gateway.toList_publicUrl _ _ _
  constructor
  · have slashed : (c.publicBaseUrl ++ "/").toList =
        c.gateway.baseUrl.toList ++ List.replicate (n + 1) '/' := by
      rw [String.toList_append, base, List.append_assoc, List.replicate_succ']
      rfl
    rw [isUsable_iff_of_path path chars, isUsable_iff_of_path (.slashes n) slashed,
      isAbsoluteUrl_eq, isAbsoluteUrl_eq,
      begins.isOk_ofText_append path (.slashes n) chars slashed]
  · intro usable clear
    have same := begins.ofText_eq_of_endsClear clear base path chars
    have fit : IsUsable url := by
      refine (isUsable_iff_of_path path chars).mpr ⟨?_, usable.front base⟩
      rw [isAbsoluteUrl_eq, same, read]
      rfl
    have inner : ∀ d ∈ url.toList, Url.isPathInner d = true := fun d hd =>
      Url.isPathInner_iff.mpr ⟨fun e => fit.noQuery (e ▸ hd), fun e => fit.noFragment (e ▸ hd)⟩
    obtain ⟨behind, first⟩ : ∃ behind, Gateway.publicEnd id p = '/' :: 'm' :: behind := ⟨_, rfl⟩
    rw [first] at path chars ⊢
    exact ⟨fit, same, begins.suffix_pathText? clear path rfl chars inner⟩

/-- Settings with another base url than the default. -/
def settingsAt (base : String) : Config := { default with publicBaseUrl := base }

theorem check_settingsAt {base : String} (h : isAbsoluteUrl base = true) :
    (settingsAt base).check = .ok () := by
  have timeout : default.probeTimeout ≠ 0 ∧ default.probeTimeout ≤ maxProbeTimeout := by decide
  have others : default.gateway.clusterDomain ≠ "" ∧ default.logTailLines ≠ 0 := by decide
  exact check_eq_ok.mpr ⟨timeout.1, timeout.2, h, others⟩

theorem public_urls_usable_settingsAt :
    (settingsAt "https://mcp.example.com/").check = .ok () ∧
      ∃ path, Url.pathText? ((settingsAt "https://mcp.example.com/").gateway.publicUrl ⟨7⟩ .sse) =
        some path ∧ Gateway.publicEnd ⟨7⟩ .sse <:+ path ∧
        IsUsable ((settingsAt "https://mcp.example.com/").gateway.publicUrl ⟨7⟩ .sse) := by
  have accepted : (settingsAt "https://mcp.example.com/").check = .ok () :=
    check_settingsAt (by decide +kernel)
  have usable : IsUsable (settingsAt "https://mcp.example.com/").publicBaseUrl := by
    decide +kernel
  have clear : Url.EndsClear (settingsAt "https://mcp.example.com/").gateway.baseUrl.toList := by
    intro c hc
    obtain rfl : 'm' = c := Option.some.inj hc
    decide
  obtain ⟨-, both⟩ := public_urls_usable _ accepted ⟨7⟩ .sse
  obtain ⟨fit, -, path, here, behind⟩ := both usable clear
  exact ⟨accepted, path, here, behind, fit⟩

/-- A blank at the end of a base url is cut off by the parser only, and stands
    inside the host of a public url. A blank in front and a query are kept by
    both. -/
theorem accepted_settings_not_usable :
    ((settingsAt "https://mcp.example.com ").check = .ok () ∧
      isAbsoluteUrl ((settingsAt "https://mcp.example.com ").gateway.publicUrl ⟨7⟩ .sse) = false) ∧
    ((settingsAt " https://mcp.example.com").check = .ok () ∧
      ¬ IsUsable ((settingsAt " https://mcp.example.com").gateway.publicUrl ⟨7⟩ .sse)) ∧
    ((settingsAt "https://mcp.example.com?a=b").check = .ok () ∧
      ¬ IsUsable ((settingsAt "https://mcp.example.com?a=b").gateway.publicUrl ⟨7⟩ .sse)) :=
  ⟨⟨check_settingsAt (by decide +kernel), by decide +kernel⟩,
    ⟨check_settingsAt (by decide +kernel), by decide +kernel⟩,
    ⟨check_settingsAt (by decide +kernel), by decide +kernel⟩⟩

end Config

end McpFleet
