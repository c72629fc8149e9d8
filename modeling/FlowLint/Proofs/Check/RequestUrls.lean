import FlowLint.Proofs.Check.Faults
import FlowLint.Proofs.Check.Placeholders
import FlowLint.Proofs.Url.Grammar

/-!
# URLs of requests

The check of a request accepts the URLs of `Url.IsRequestUrl` without a word, it cannot be done for
those of `Url.HasBadLocation`, and of every other it says one thing: that the scheme is another one,
or else that the URL does not look like one.

The URL is not all that the check looks at. In front of it comes the description, which cannot be
told to be too short for a threshold without a decimal text, and behind it come the headers, which
can be nested too deep. Either ends the check of a request whose URL is as good as any.

* **`Rules.urlPartFindings_of_hasParts`**: what is said of a URL that can be split.
* **`Rules.filter_urlCodes_httpRequestFindings`**: what the check of a request says of its URL is
  what its check of URLs finds.
* **`Check.request_url_exact`**: which requests are accepted, which end the check and how, and what
  is said of the URLs of the others.
-/

namespace FlowLint

/-- The codes about URLs. -/
def urlCodes : List Code :=
  [.missingUrl, .invalidUrlProtocol, .invalidUrlFormat]

/-- What is said of a URL that is not accepted: that its scheme is none of a request or else,
without such a scheme, that it does not look like a URL. -/
inductive Url.IsToldOf (w : List Char) (text : String) : Finding → Prop
  | otherScheme {scheme rest : List Char} (has : HasScheme w scheme rest)
      (other : ¬ IsRequestScheme scheme) :
      IsToldOf w text (.error (.invalidUrlProtocol (String.ofList (scheme.map Char.toLower))))
  | format (known : ∀ scheme rest, HasScheme w scheme rest → IsRequestScheme scheme) :
      IsToldOf w text (.warning (.invalidUrlFormat text))

/-- The description is too short for a threshold without a decimal text. -/
def Node.HasUnshownDescription (node : Node) (settings : Settings) : Prop :=
  node.HasShortDescription settings.minToolDescriptionLength.value
    ∧ IsLong settings.minToolDescriptionLength.value

namespace Rules

variable {node : Node}

/-- The check of a URL that is looked into. -/
theorem urlFindings_of_text {text : String} (hurl : node.parameters.get? "url" = some (.text text))
    (hblank : Text.allBlank text.toList = false) (hopens : ¬ "\x7b\x7b".toList <:+: text.toList) :
    urlFindings node = match Url.split text.toList with
      | .ok parts => .ok (urlPartFindings text parts)
      | .error fault => .error (.url fault) := by
  have hparam : node.parameters.param? "url" = some (.text text) :=
    param?_eq_text_of_text? (Param.text?_param?_iff.2 hurl)
  have hnotBlank : Param.isBlank (some (.text text)) = false := hblank
  rw [← opensExpression_iff] at hopens
  rw [urlFindings, hparam, hnotBlank]
  show (if opensExpression text.toList = true then _ else _) = _
  refine (if_neg hopens).trans ?_
  cases Url.split text.toList <;> rfl

theorem urlPartFindings_of_other {scheme : List Char} (hne : scheme ≠ [])
    (hother : ¬ Url.IsRequestScheme scheme) (text : String) (location : List Char) :
    urlPartFindings text ⟨scheme.map Char.toLower, location⟩
      = [.error (.invalidUrlProtocol (String.ofList (scheme.map Char.toLower)))] :=
  if_pos ⟨mt List.map_eq_nil_iff.1 hne, hother⟩

theorem urlPartFindings_of_request {scheme : List Char} (h : Url.IsRequestScheme scheme)
    (text : String) (location : List Char) :
    urlPartFindings text ⟨scheme.map Char.toLower, location⟩
      = if location = [] then [.warning (.invalidUrlFormat text)] else [] := by
  have hne : scheme.map Char.toLower ≠ [] := by
    rcases h with h | h <;> rw [h] <;> decide
  have hknown : ¬ (scheme.map Char.toLower ≠ [] ∧ ¬ Url.IsRequestScheme scheme) :=
    fun hother => hother.2 h
  refine (if_neg hknown).trans ?_
  simp [hne]

/-- **What is said of a URL**: nothing when it is that of a request, and one thing otherwise. -/
theorem urlPartFindings_of_hasParts {w : List Char} {parts : Url.Parts} (text : String)
    (h : Url.HasParts w parts) (hgood : ¬ Url.HasBadLocation w) :
    (Url.IsRequestUrl w ∧ urlPartFindings text parts = [])
      ∨ ¬ Url.IsRequestUrl w
        ∧ ∃ finding, Url.IsToldOf w text finding ∧ urlPartFindings text parts = [finding] := by
  cases h with
  | @withScheme scheme rest h =>
    obtain ⟨c, more, hscheme, -⟩ := h.letter
    have hne : scheme ≠ [] := hscheme ▸ List.cons_ne_nil c more
    rw [Url.hasBadLocation_of_hasScheme h, not_not] at hgood
    rw [Url.isRequestUrl_of_hasScheme h]
    by_cases hrequest : Url.IsRequestScheme scheme
    · -- of a known scheme only the location can be missing
      rw [urlPartFindings_of_request hrequest]
      by_cases hempty : Url.locationOf rest = []
      · refine .inr ⟨fun haccepted => haccepted.2.1 hempty, _, .format ?_, if_pos hempty⟩
        intro scheme' rest' h'
        rwa [← (h.unique h').1]
      · exact .inl ⟨⟨hrequest, hempty, hgood⟩, if_neg hempty⟩
    · refine .inr ⟨fun haccepted => hrequest haccepted.1, _, .otherScheme h hrequest, ?_⟩
      exact urlPartFindings_of_other hne hrequest text _
  | withoutScheme hnone =>
    refine .inr ⟨?_, _, .format fun scheme rest h => absurd ⟨scheme, rest, h⟩ hnone, rfl⟩
    rintro ⟨scheme, rest, _, h, -⟩
    exact absurd ⟨scheme, rest, h⟩ hnone

/-- What the check of a request says of URLs is what its check of the URL finds. -/
theorem filter_urlCodes_httpRequestFindings {settings : Settings} {found inUrl : List Finding}
    (h : httpRequestFindings node settings = .ok found) (hurl : urlFindings node = .ok inUrl) :
    found.filter (·.code ∈ urlCodes) = inUrl := by
  obtain ⟨-, inUrl', used, hurl', -, rfl⟩ := httpRequestFindings_eq_ok_iff.1 h
  obtain rfl := Except.ok.inj (hurl.symm.trans hurl')
  have hall : inUrl.filter (·.code ∈ urlCodes) = inUrl :=
    (inOrder_urlFindings hurl).codesIn.filter_eq_self
  have hplaceholders := codesIn_placeholderFindings node used
  -- no other check of a request gives one of the codes
  simp only [List.filter_append, hall,
    (inOrder_descriptionFindings node settings).codesIn.filter_eq_nil urlCodes (by decide),
    hplaceholders.filter_eq_nil urlCodes (by decide),
    (inOrder_requestCredentialFindings node).codesIn.filter_eq_nil urlCodes (by decide),
    (inOrder_methodFindings (requestMethod node)).codesIn.filter_eq_nil urlCodes (by decide),
    (inOrder_bodyFindings node (requestMethod node)).codesIn.filter_eq_nil urlCodes (by decide),
    List.nil_append, List.append_nil]

end Rules

namespace Check

variable {ctx : Context} {node : Node}

/-- A threshold without a decimal text ends the check of a request at its description. -/
theorem tool_of_unshownDescription (h : node.HasUnshownDescription ctx.settings) :
    tool ctx .httpRequest node = .error (.statement .longNumeral) := by
  obtain ⟨⟨hmanual, hthere, hshort⟩, hlong⟩ := h
  have hasked : Param.isText (node.parameters.param? "descriptionType") "manual" = true :=
    Param.isText_param?_iff.2 hmanual
  have hfound : Rules.descriptionFindings node ctx.settings
      = [.warning (.toolDescriptionTooShort ctx.settings.minToolDescriptionLength.value)] := by
    simp only [Rules.descriptionFindings, hasked, hthere, hshort, Bool.not_true, if_true,
      Bool.false_eq_true, if_false]
  have hfault : ∀ least : Nat, IsLong least →
      (Finding.warning (.toolDescriptionTooShort least)).fault? = some .longNumeral :=
    fun _ => numeralFault?_of_isLong
  have hworded : Rules.worded (Rules.descriptionFindings node ctx.settings)
      = .error (.statement .longNumeral) := by
    rw [hfound, Rules.worded, List.findSome?_singleton, hfault _ hlong]
  exact Outcome.bind_eq_error_iff.2 (.inl (Outcome.bind_eq_error_iff.2 (.inl hworded)))

/-- A URL that cannot be split ends the check of a request whose description can be worded. -/
theorem tool_of_urlFault (hdescribed : Wordable (Rules.descriptionFindings node ctx.settings))
    {fault : CheckFault} (hurl : Rules.urlFindings node = .error fault) :
    tool ctx .httpRequest node = .error fault := by
  have hworded := Rules.worded_eq_ok_iff.2 ⟨hdescribed, rfl⟩
  -- the description comes first and is worded, the URL is next
  refine Outcome.bind_eq_error_iff.2 (.inl ?_)
  refine Outcome.bind_eq_error_iff.2 (.inr ⟨_, hworded, ?_⟩)
  exact Outcome.bind_eq_error_iff.2 (.inl hurl)

/-- Headers that are nested too deep end the check behind the URL. -/
theorem tool_of_deepHeaders (hjson : Value.IsJson (.map node.parameters))
    (hdescribed : Wordable (Rules.descriptionFindings node ctx.settings)) {inUrl : List Finding}
    (hurl : Rules.urlFindings node = .ok inUrl) (hdeep : node.HasDeepHeaders) :
    tool ctx .httpRequest node = .error (.headers .tooDeep) := by
  obtain ⟨value, hvalue, hdepth⟩ := hdeep
  have hwritten : Json.write value = .error .tooDeep := by
    rcases (hjson.param? hvalue).write_cases with ⟨hle, -⟩ | ⟨-, hfault⟩
    · exact absurd hdepth (Nat.not_lt.2 hle)
    · exact hfault
  have hused : Rules.usedPlaceholders node = .error (.headers .tooDeep) := by
    refine Outcome.bind_eq_error_iff.2 (.inl ?_)
    rw [hvalue, Rules.headerPlaceholders, hwritten]
  have hworded := Rules.worded_eq_ok_iff.2 ⟨hdescribed, rfl⟩
  refine Outcome.bind_eq_error_iff.2 (.inl ?_)
  refine Outcome.bind_eq_error_iff.2 (.inr ⟨_, hworded, ?_⟩)
  refine Outcome.bind_eq_error_iff.2 (.inr ⟨_, hurl, ?_⟩)
  exact Outcome.bind_eq_error_iff.2 (.inl hused)

/-- Where nothing ends the check, it says of the URL what is found there. -/
theorem exists_tool_of_urlFindings (hjson : Value.IsJson (.map node.parameters))
    (hdescribed : Wordable (Rules.descriptionFindings node ctx.settings)) {inUrl : List Finding}
    (hurl : Rules.urlFindings node = .ok inUrl) (hshallow : ¬ node.HasDeepHeaders) :
    ∃ ds, tool ctx .httpRequest node = .ok ds
      ∧ ds.filter (·.code ∈ urlCodes) = node.diagnose ToolKind.httpRequest.label inUrl := by
  have hwhole : ¬ node.HasBrokenUrl := Rules.exists_urlFindings_iff.1 ⟨inUrl, hurl⟩
  obtain ⟨found, hfound, hworded⟩ := (Rules.exists_httpRequestFindings_iff hjson).2
    ⟨hdescribed, not_or.2 ⟨hwhole, hshallow⟩⟩
  have htold : tool ctx .httpRequest node = .ok (node.diagnose ToolKind.httpRequest.label found) :=
    tool_eq_ok_iff.2 ⟨found, hfound, hworded, rfl⟩
  have hsaid := filter_diagnose node ToolKind.httpRequest.label found (· ∈ urlCodes)
  exact ⟨_, htold, by rw [hsaid, Rules.filter_urlCodes_httpRequestFindings hfound hurl]⟩

/-- What the check of a request gives, by its URL, its description and its headers. -/
inductive UrlOutcome (w : List Char) (text : String) (node : Node) (settings : Settings) :
    Except CheckFault (List Diagnostic) → Prop
  | description (unshown : node.HasUnshownDescription settings) :
      UrlOutcome w text node settings (.error (.statement .longNumeral))
  | location {fault : Url.Fault} (shown : ¬ node.HasUnshownDescription settings)
      (bad : Url.HasBadLocation w) : UrlOutcome w text node settings (.error (.url fault))
  | headers (shown : ¬ node.HasUnshownDescription settings) (good : ¬ Url.HasBadLocation w)
      (deep : node.HasDeepHeaders) : UrlOutcome w text node settings (.error (.headers .tooDeep))
  | accepted {ds : List Diagnostic} (shown : ¬ node.HasUnshownDescription settings)
      (shallow : ¬ node.HasDeepHeaders) (request : Url.IsRequestUrl w)
      (nothing : ds.filter (·.code ∈ urlCodes) = []) : UrlOutcome w text node settings (.ok ds)
  | told {ds : List Diagnostic} {finding : Finding} (shown : ¬ node.HasUnshownDescription settings)
      (good : ¬ Url.HasBadLocation w) (shallow : ¬ node.HasDeepHeaders)
      (other : ¬ Url.IsRequestUrl w) (told : Url.IsToldOf w text finding)
      (one : ds.filter (·.code ∈ urlCodes)
        = node.diagnose ToolKind.httpRequest.label [finding]) :
      UrlOutcome w text node settings (.ok ds)

/-- **What the check of a request gives**, with the parts in their order: the description, the URL,
the headers. -/
theorem urlOutcome (hjson : Value.IsJson (.map node.parameters)) {text : String}
    (hurl : node.parameters.get? "url" = some (.text text))
    (hblank : Text.allBlank text.toList = false) (hopens : ¬ "\x7b\x7b".toList <:+: text.toList) :
    UrlOutcome (Url.clean text.toList) text node ctx.settings (tool ctx .httpRequest node) := by
  by_cases hunshown : node.HasUnshownDescription ctx.settings
  · rw [tool_of_unshownDescription hunshown]
    exact .description hunshown
  have hdescribed := Rules.wordable_descriptionFindings_iff.2 hunshown
  have hfound := Rules.urlFindings_of_text hurl hblank hopens
  rcases Url.split_cases text.toList with ⟨hgood, parts, hsplit, hparts⟩ | ⟨hbad, fault, hsplit⟩
  · rw [hsplit] at hfound
    by_cases hdeep : node.HasDeepHeaders
    · rw [tool_of_deepHeaders hjson hdescribed hfound hdeep]
      exact .headers hunshown hgood hdeep
    obtain ⟨ds, hds, htold⟩ := exists_tool_of_urlFindings hjson hdescribed hfound hdeep
    rw [hds]
    rcases Rules.urlPartFindings_of_hasParts text hparts hgood with
      ⟨haccepted, hnothing⟩ | ⟨hrejected, finding, hfinding, hone⟩
    · rw [hnothing] at htold
      exact .accepted hunshown hdeep haccepted htold
    · rw [hone] at htold
      exact .told hunshown hgood hdeep hrejected hfinding htold
  · rw [hsplit] at hfound
    rw [tool_of_urlFault hdescribed hfound]
    exact .location hunshown hbad

/-- **URLs are accepted by their grammar.** Of a request from a JSON document, whose URL is a text
that is not blank and without expressions: the check ends and says nothing of the URL exactly when
this is the URL of a request, the description can be worded and the headers are not too deep. It
ends with a fault of the URL exactly when the location is not let through, if it gets past the
description, and with the two other faults exactly for the description and for the headers. Of any
other URL one thing is said. -/
theorem request_url_exact (hjson : Value.IsJson (.map node.parameters)) {text : String}
    (hurl : node.parameters.get? "url" = some (.text text))
    (hblank : Text.allBlank text.toList = false) (hopens : ¬ "\x7b\x7b".toList <:+: text.toList) :
    ((∃ ds, tool ctx .httpRequest node = .ok ds ∧ ∀ d ∈ ds, d.code ∉ urlCodes)
      ↔ Url.IsRequestUrl (Url.clean text.toList)
        ∧ ¬ node.HasUnshownDescription ctx.settings ∧ ¬ node.HasDeepHeaders)
    ∧ ((∃ fault, tool ctx .httpRequest node = .error (.url fault))
      ↔ Url.HasBadLocation (Url.clean text.toList)
        ∧ ¬ node.HasUnshownDescription ctx.settings)
    ∧ (tool ctx .httpRequest node = .error (.statement .longNumeral)
      ↔ node.HasUnshownDescription ctx.settings)
    ∧ (tool ctx .httpRequest node = .error (.headers .tooDeep)
      ↔ node.HasDeepHeaders ∧ ¬ Url.HasBadLocation (Url.clean text.toList)
        ∧ ¬ node.HasUnshownDescription ctx.settings)
    ∧ (¬ Url.IsRequestUrl (Url.clean text.toList) → ¬ Url.HasBadLocation (Url.clean text.toList) →
      ¬ node.HasUnshownDescription ctx.settings → ¬ node.HasDeepHeaders →
      ∃ ds finding, tool ctx .httpRequest node = .ok ds
        ∧ ds.filter (·.code ∈ urlCodes) = node.diagnose ToolKind.httpRequest.label [finding]
        ∧ Url.IsToldOf (Url.clean text.toList) text finding) := by
  have hcases : UrlOutcome (Url.clean text.toList) text node ctx.settings
      (tool ctx .httpRequest node) := urlOutcome hjson hurl hblank hopens
  generalize tool ctx .httpRequest node = outcome at hcases ⊢
  cases hcases with
  | description unshown => simp [unshown]
  | location shown bad =>
    have hother : ¬ Url.IsRequestUrl (Url.clean text.toList) := fun h => h.not_hasBadLocation bad
    simp [shown, bad, hother]
  | headers shown good deep => simp [shown, good, deep]
  | accepted shown shallow request nothing =>
    have hgood := request.not_hasBadLocation
    simpa [shown, shallow, request, hgood] using nothing
  | @told ds finding shown good shallow other told one =>
    have hsome : ∃ d ∈ ds, d.code ∈ urlCodes := by
      by_contra hnone
      push Not at hnone
      rw [List.filter_eq_nil_iff.2 fun d hd hmem => hnone d hd (of_decide_eq_true hmem)] at one
      exact nomatch one
    simpa [shown, good, shallow, other] using ⟨hsome, finding, one, told⟩

/-- Letters of either case, an address with a port, and a blank in front are accepted. -/
theorem request_url_exact_bracketed :
    ∃ ds, tool (.of ⟨none, [requestNode " hTTps://[::1]:80/x"], [], []⟩ {}) .httpRequest
        (requestNode " hTTps://[::1]:80/x") = .ok ds
      ∧ ∀ d ∈ ds, d.code ∉ urlCodes := by
  have hjson : Value.IsJson (.map (requestNode " hTTps://[::1]:80/x").parameters) :=
    .map (by simp [requestNode, Members.Distinct]) (by simp [requestNode])
      (by simpa [requestNode] using .scalar rfl)
  have hopens : ¬ "\x7b\x7b".toList <:+: " hTTps://[::1]:80/x".toList := by
    rw [← Rules.opensExpression_iff]
    decide
  have hclean : Url.clean " hTTps://[::1]:80/x".toList = "hTTps://[::1]:80/x".toList := by decide
  have hletters : Url.isScheme "hTTps".toList = true := by decide
  have hscheme : Url.HasScheme "hTTps://[::1]:80/x".toList "hTTps".toList "//[::1]:80/x".toList :=
    ⟨rfl, (Url.isScheme_iff.1 hletters).1, (Url.isScheme_iff.1 hletters).2⟩
  have hrequest : Url.IsRequestUrl (Url.clean " hTTps://[::1]:80/x".toList) := by
    rw [hclean, Url.isRequestUrl_of_hasScheme hscheme, ← Url.locationFault?_eq_none_iff]
    exact ⟨.inr (by decide), by decide, by decide⟩
  have hshown : ¬ (requestNode " hTTps://[::1]:80/x").HasUnshownDescription {} := by
    rintro ⟨⟨hmanual, -⟩, -⟩
    cases hmanual
  have hshallow : ¬ (requestNode " hTTps://[::1]:80/x").HasDeepHeaders := by
    rintro ⟨value, hvalue, -⟩
    cases hvalue
  exact (request_url_exact hjson rfl (by decide) hopens).1.2 ⟨hrequest, hshown, hshallow⟩

/-- A request with a good URL, and with more parameters. -/
def goodRequest (members : Members) : Node where
  id := none
  name := "Fetch"
  type := "nodes-langchain.toolHttpRequest"
  typeVersion := .null
  parameters := (.text "url", .text "https://a.b") :: members
  credentials := []
  disabled := false
  extra := []

theorem isRequestUrl_goodRequest : Url.IsRequestUrl (Url.clean "https://a.b".toList) := by
  have hclean : Url.clean "https://a.b".toList = "https://a.b".toList := by decide
  have hletters : Url.isScheme "https".toList = true := by decide
  have hscheme : Url.HasScheme "https://a.b".toList "https".toList "//a.b".toList :=
    ⟨rfl, (Url.isScheme_iff.1 hletters).1, (Url.isScheme_iff.1 hletters).2⟩
  rw [hclean, Url.isRequestUrl_of_hasScheme hscheme, ← Url.locationFault?_eq_none_iff]
  exact ⟨.inr (by decide), by decide, by decide⟩

theorem opens_goodRequest : ¬ "\x7b\x7b".toList <:+: "https://a.b".toList := by
  rw [← Rules.opensExpression_iff]
  decide

/-- The request has a short description that is written by hand. -/
abbrev briefRequest : Node :=
  goodRequest [(.text "descriptionType", .text "manual"), (.text "toolDescription", .text "Reads.")]

theorem isJson_briefRequest : Value.IsJson (.map briefRequest.parameters) := by
  refine .map ?_ (by simp [goodRequest]) ?_
  · simp [goodRequest, Members.Distinct, Scalar.sameKey, Scalar.keyNumber?, Scalar.number?]
  · simpa [goodRequest] using
      ⟨Value.IsJson.scalar rfl, Value.IsJson.scalar rfl, Value.IsJson.scalar rfl⟩

/-- Settings with a threshold for descriptions. -/
def settingsWith (least : Nat) : Settings :=
  { Settings.defaults with minToolDescriptionLength := ⟨least, Nat.zero_le least⟩ }

theorem tool_briefRequest {least : Nat} (hshort : 6 < least) (hlong : IsLong least) :
    tool (.of ⟨none, [briefRequest], [], []⟩ (settingsWith least)) .httpRequest briefRequest
      = .error (.statement .longNumeral) :=
  tool_of_unshownDescription ⟨⟨rfl, rfl, hshort⟩, hlong⟩

/-- Powers of ten have no decimal texts from some point on. -/
theorem isLong_ten_pow {count : Nat} (h : maxDigits ≤ count) : IsLong (Nat.pow 10 count) := by
  have hmore : ∀ least ≤ count, Nat.pow 10 least ≤ Nat.pow 10 count := fun _ hle =>
    Nat.pow_le_pow_right (by decide) hle
  rw [IsLong, isWritable, decide_eq_false_iff_not, Int.natAbs_natCast, Nat.not_lt]
  exact hmore maxDigits h

theorem six_lt_ten_pow {count : Nat} (h : 0 < count) : 6 < Nat.pow 10 count :=
  calc 6 < Nat.pow 10 1 := by decide
    _ ≤ Nat.pow 10 count := Nat.pow_le_pow_right (by decide) h

/-- Lists inside one another. -/
def nestedLists : Nat → Value
  | 0 => .null
  | count + 1 => .list [nestedLists count]

theorem depth_nestedLists (count : Nat) : (nestedLists count).depth = count := by
  induction count with
  | zero => rfl
  | succ count ih =>
    rw [nestedLists, Value.depth, Value.itemsDepth, Value.itemsDepth, ih, Nat.max_zero]

theorem isJson_nestedLists (count : Nat) : (nestedLists count).IsJson := by
  induction count with
  | zero => exact .scalar rfl
  | succ count ih => exact .list (List.forall_mem_singleton.2 ih)

/-- The request has lists inside one another for headers, one list more than that. -/
abbrev nestedRequest (count : Nat) : Node :=
  goodRequest [(.text "headers", .list [nestedLists count])]

theorem isJson_nestedRequest (count : Nat) :
    Value.IsJson (.map (nestedRequest count).parameters) := by
  refine .map ?_ (by simp [goodRequest]) ?_
  · simp [goodRequest, Members.Distinct, Scalar.sameKey, Scalar.keyNumber?, Scalar.number?]
  · simpa [goodRequest] using ⟨Value.IsJson.scalar rfl, isJson_nestedLists (count + 1)⟩

theorem tool_nestedRequest {count : Nat} (h : Json.maxWrittenDepth ≤ count) :
    tool (.of ⟨none, [nestedRequest count], [], []⟩ {}) .httpRequest (nestedRequest count)
      = .error (.headers .tooDeep) := by
  have hdeep : (nestedRequest count).HasDeepHeaders := by
    refine ⟨nestedLists (count + 1), rfl, ?_⟩
    rw [depth_nestedLists]
    exact Nat.lt_succ_of_le h
  have hurl : Rules.urlFindings (nestedRequest count) = .ok [] := rfl
  exact tool_of_deepHeaders (isJson_nestedRequest count) (AllFound.nil _) hurl hdeep

/-- So it is not so that the URL alone decides whether a request is accepted, also when the settings
are the default ones. -/
theorem request_url_not_exact :
    (¬ ∀ (ctx : Context) (node : Node) (text : String), Value.IsJson (.map node.parameters) →
      node.parameters.get? "url" = some (.text text) → Text.allBlank text.toList = false →
      ¬ "\x7b\x7b".toList <:+: text.toList →
      ((∃ ds, tool ctx .httpRequest node = .ok ds ∧ ∀ d ∈ ds, d.code ∉ urlCodes)
        ↔ Url.IsRequestUrl (Url.clean text.toList)))
    ∧ ¬ ∀ (node : Node) (text : String), Value.IsJson (.map node.parameters) →
      node.parameters.get? "url" = some (.text text) → Text.allBlank text.toList = false →
      ¬ "\x7b\x7b".toList <:+: text.toList →
      ((∃ ds, tool (.of ⟨none, [node], [], []⟩ {}) .httpRequest node = .ok ds
          ∧ ∀ d ∈ ds, d.code ∉ urlCodes)
        ↔ Url.IsRequestUrl (Url.clean text.toList)) := by
  constructor
  · intro hall
    obtain ⟨least, hshort, hlong⟩ : ∃ least, 6 < least ∧ IsLong least :=
      ⟨Nat.pow 10 maxDigits, six_lt_ten_pow (by decide), isLong_ten_pow (Nat.le_refl _)⟩
    obtain ⟨ds, hds, -⟩ := (hall (.of ⟨none, [briefRequest], [], []⟩ (settingsWith least))
      briefRequest "https://a.b" isJson_briefRequest rfl (by decide) opens_goodRequest).2
        isRequestUrl_goodRequest
    -- the description ends the check before the URL is looked at
    rw [tool_briefRequest hshort hlong] at hds
    exact nomatch hds
  · intro hall
    obtain ⟨count, hcount⟩ : ∃ count, Json.maxWrittenDepth ≤ count := ⟨_, Nat.le_refl _⟩
    obtain ⟨ds, hds, -⟩ := (hall (nestedRequest count) "https://a.b" (isJson_nestedRequest count)
      rfl (by decide) opens_goodRequest).2 isRequestUrl_goodRequest
    rw [tool_nestedRequest hcount] at hds
    exact nomatch hds

end Check

end FlowLint
