import UsdpIndexer.Library.FailingFold
import UsdpIndexer.Library.IntegerText
import UsdpIndexer.Protocol.Registry
import UsdpIndexer.Rpc.Errors

/-!
# Requests for a range

`parseRangeAnalyticsRequest` of `analytics/range-analytics.ts`: a query string as the
chains, the assets and the range that are asked for.

The two lists are read alike: the text is split at its commas, and the items are trimmed
and taken once.  Of the assets an empty list is refused.  Of the chains it is not: items
that are blank are dropped, and a `chains` that has no others is accepted as a request for
no chain (`chainIds_ne_nil_iff`).
-/

namespace UsdpIndexer

open FailingFold

/-- The ranges that can be asked for by name. -/
inductive AnalyticsRangePreset
  | sevenDays
  | thirtyDays
  | ninetyDays
  | all
  | custom
deriving DecidableEq, Repr

/-- A request; the times are in milliseconds. -/
structure AnalyticsRangeRequest where
  preset : AnalyticsRangePreset
  chainIds : List ℕ
  assetIds : List ParallelAssetId
  from? : Option ℤ
  to? : Option ℤ
  asOf? : Option ℤ
deriving DecidableEq, Repr

/-- A query string: its parameters, in order. -/
abbrev SearchParams := List (String × String)

/-- `searchParams.get(name)`, the first of its name. -/
def SearchParams.get (params : SearchParams) (name : String) : Option String := params.lookup name

/-- A parameter that is there and is not blank. -/
def SearchParams.nonblank (params : SearchParams) (name : String) : Option String :=
  (params.get name).filter (· ≠ "")

/-! ## Lists in a parameter -/

/-- `value.split(",").map((value) => value.trim())` -/
def trimmedItems (value : String) : List String :=
  (value.toList.splitOn ',').map fun item => String.ofList (IntegerText.trim item)

/-- The asset of this name. -/
def ParallelAssetId.ofText (value : String) : Option ParallelAssetId :=
  if value = "usdp" then some .usdp else if value = "susdp" then some .susdp else none

/-- There is a chain of this name. -/
def isSavingsChain (slug : String) : Bool :=
  savingsChainAdapters.any (·.chainSlug = slug)

/-- The slugs that are asked for, known or not. -/
def requestedSlugs (chainValue : String) : List String :=
  if chainValue = "all" then savingsChainAdapters.map (·.chainSlug)
  else (trimmedItems chainValue).eraseDups.filter (· ≠ "")

/-- The id of the chain of this name. -/
def savingsChainId (slug : String) : Option ℕ :=
  (savingsChainAdapters.find? (·.chainSlug = slug)).map (·.chainId)

/-- The chains of a request. -/
def parseChains (chainValue : Option String) : Except JsError (List ℕ) :=
  let slugs := requestedSlugs (chainValue.getD "all")
  let unknownChains := slugs.filter (!isSavingsChain ·)
  if unknownChains.length > 0 then
    .error ⟨"Unknown savings chains: " ++ ", ".intercalate unknownChains⟩
  else .ok (slugs.filterMap savingsChainId)

/-- The assets of a request. -/
def parseAssets (assetValue : Option String) : Except JsError (List ParallelAssetId) :=
  let items := trimmedItems (assetValue.getD "usdp,susdp")
  let assetIds := items.eraseDups.filterMap ParallelAssetId.ofText
  if assetIds.length = 0 ∨ assetIds.length ≠ items.length then
    .error ⟨"assets must contain only usdp and/or susdp"⟩
  else .ok assetIds

/-! ## The parser -/

/-- The range of this name; without a name it is seven days. -/
def parsePreset (value : Option String) : Except JsError AnalyticsRangePreset :=
  match value.getD "7d" with
  | "7d" => .ok .sevenDays
  | "30d" => .ok .thirtyDays
  | "90d" => .ok .ninetyDays
  | "all" => .ok .all
  | _ => .error ⟨"range must be one of 7d, 30d, 90d, or all"⟩

section Parser

-- `new Date(value).getTime()`, of a text that is a date
variable (dateValue : String → Option ℤ)

/-- A parameter that must be a date. -/
def parseDate (name value : String) : Except JsError ℤ :=
  match dateValue value with
  | some time => .ok time
  | none => .error ⟨s!"{name} must be ISO-8601"⟩

/-- A parameter that is blank or a date. -/
def parseOptionalDate (params : SearchParams) (name : String) : Except JsError (Option ℤ) :=
  match params.nonblank name with
  | some value => (parseDate dateValue name value).map some
  | none => .ok none

/-- `from` and `to` are given together or not at all. -/
def checkPaired (params : SearchParams) : Except JsError Unit :=
  if (params.nonblank "from").isSome = (params.nonblank "to").isSome then .ok ()
  else .error ⟨"from and to must be provided together"⟩

/-- The end must come after the start, where both are given. -/
def checkOrder (start stop : Option ℤ) : Except JsError Unit :=
  if start.any fun start => stop.any (· ≤ start) then .error ⟨"to must be after from"⟩
  else .ok ()

/-- The parameters are checked in this order, and the first that is wrong is reported. -/
def parseRangeAnalyticsRequest (params : SearchParams) : Except JsError AnalyticsRangeRequest := do
  let preset ← parsePreset (params.get "range")
  checkPaired params
  let chainIds ← parseChains (params.get "chains")
  let assetIds ← parseAssets (params.get "assets")
  let start ← parseOptionalDate dateValue params "from"
  let stop ← parseOptionalDate dateValue params "to"
  checkOrder start stop
  let asOf ← parseOptionalDate dateValue params "asOf"
  return {
    preset := if start.isSome && stop.isSome then .custom else preset
    chainIds := chainIds
    assetIds := assetIds
    from? := start
    to? := stop
    asOf? := asOf }

end Parser

/-! ## What an accepted request is like -/

/-- `chains` is missing, or an item of it is not blank. -/
def SearchParams.NamesChain (params : SearchParams) : Prop :=
  ∀ chainValue, params.get "chains" = some chainValue →
    ∃ item ∈ trimmedItems chainValue, item ≠ ""

theorem requestedSlugs_ne_nil_iff (chainValue : String) :
    requestedSlugs chainValue ≠ [] ↔ ∃ item ∈ trimmedItems chainValue, item ≠ "" := by
  by_cases all : chainValue = "all"
  · subst all
    have named : "all" ∈ trimmedItems "all" := by decide
    exact iff_of_true (by decide) ⟨"all", named, by decide⟩
  · rw [requestedSlugs, if_neg all, Ne, List.filter_eq_nil_iff]
    simp only [List.mem_eraseDups, decide_eq_true_eq, not_forall, exists_prop, Ne, not_not]

theorem savingsChainId_isSome {slug : String} (known : isSavingsChain slug = true) :
    ∃ chainId ∈ savingsChainIds, savingsChainId slug = some chainId := by
  obtain ⟨adapter, mem, same⟩ := List.any_eq_true.mp known
  have isSome : (savingsChainAdapters.find? (·.chainSlug = slug)).isSome :=
    List.find?_isSome.mpr ⟨adapter, mem, same⟩
  obtain ⟨found, find⟩ := Option.isSome_iff_exists.mp isSome
  refine ⟨found.chainId, List.mem_map_of_mem (List.mem_of_find?_eq_some find), ?_⟩
  rw [savingsChainId, find, Option.map_some]

/-- The chains of a request are registered, one for each slug. -/
theorem parseChains_eq_ok {chainValue : Option String} {chainIds : List ℕ}
    (parsed : parseChains chainValue = .ok chainIds) :
    (∀ chainId ∈ chainIds, chainId ∈ savingsChainIds) ∧
      chainIds.length = (requestedSlugs (chainValue.getD "all")).length := by
  unfold parseChains at parsed
  by_cases unknown :
      ((requestedSlugs (chainValue.getD "all")).filter (!isSavingsChain ·)).length > 0
  · simp only [if_pos unknown] at parsed
    cases parsed
  simp only [if_neg unknown, Except.ok.injEq] at parsed
  subst parsed
  have known : ∀ slug ∈ requestedSlugs (chainValue.getD "all"), isSavingsChain slug = true := by
    simpa using unknown
  constructor
  · intro chainId mem
    obtain ⟨slug, requested, found⟩ := List.mem_filterMap.mp mem
    obtain ⟨chainId', registered, found'⟩ := savingsChainId_isSome (known slug requested)
    rwa [Option.some.inj (found.symm.trans found')]
  · rw [List.length_filterMap_eq_countP, List.countP_eq_length]
    intro slug requested
    obtain ⟨chainId, -, found⟩ := savingsChainId_isSome (known slug requested)
    rw [found]
    rfl

/-- An asset is asked for. -/
theorem parseAssets_ne_nil {assetValue : Option String} {assetIds : List ParallelAssetId}
    (parsed : parseAssets assetValue = .ok assetIds) : assetIds ≠ [] := by
  unfold parseAssets at parsed
  dsimp only at parsed
  split_ifs at parsed with refused
  obtain rfl := Except.ok.inj parsed
  exact fun none => refused (.inl (List.length_eq_zero_iff.mpr none))

/-- The lists of an accepted request. -/
theorem parseRangeAnalyticsRequest_eq_ok {dateValue : String → Option ℤ} {params : SearchParams}
    {request : AnalyticsRangeRequest}
    (parsed : parseRangeAnalyticsRequest dateValue params = .ok request) :
    parseChains (params.get "chains") = .ok request.chainIds ∧
      parseAssets (params.get "assets") = .ok request.assetIds := by
  unfold parseRangeAnalyticsRequest at parsed
  obtain ⟨preset, -, parsed⟩ := bind_eq_ok.mp parsed
  obtain ⟨⟨⟩, -, parsed⟩ := bind_eq_ok.mp parsed
  obtain ⟨chainIds, chains, parsed⟩ := bind_eq_ok.mp parsed
  obtain ⟨assetIds, assets, parsed⟩ := bind_eq_ok.mp parsed
  obtain ⟨start, -, parsed⟩ := bind_eq_ok.mp parsed
  obtain ⟨stop, -, parsed⟩ := bind_eq_ok.mp parsed
  obtain ⟨⟨⟩, -, parsed⟩ := bind_eq_ok.mp parsed
  obtain ⟨asOf, -, parsed⟩ := bind_eq_ok.mp parsed
  obtain rfl := Except.ok.inj parsed
  exact ⟨chains, assets⟩

/-- **An accepted request is for a chain** if `chains` names one, and only then. -/
theorem chainIds_ne_nil_iff {dateValue : String → Option ℤ} {params : SearchParams}
    {request : AnalyticsRangeRequest}
    (parsed : parseRangeAnalyticsRequest dateValue params = .ok request) :
    request.chainIds ≠ [] ↔ params.NamesChain := by
  obtain ⟨chains, -⟩ := parseRangeAnalyticsRequest_eq_ok parsed
  obtain ⟨-, length⟩ := parseChains_eq_ok chains
  have same : request.chainIds ≠ [] ↔ requestedSlugs ((params.get "chains").getD "all") ≠ [] := by
    rw [← List.length_pos_iff, ← List.length_pos_iff, length]
  rw [same, SearchParams.NamesChain]
  cases params.get "chains" with
  | none => exact iff_of_true (by decide) fun _ missing => by cases missing
  | some chainValue =>
      rw [Option.getD_some, requestedSlugs_ne_nil_iff]
      exact ⟨fun named _ same => Option.some.inj same ▸ named, fun named => named _ rfl⟩

end UsdpIndexer
