import Gatewayz.Chat.Pricing

/-!
# `Chat.PriceLookup` — `get_model_pricing`, and the same for `async`

The price of a model is looked up under its normalised id, in five places one after the other: a cache of fifteen minutes, the database, a
file, the catalog that the providers' models are kept in, and a default. A model whose id names an expensive family has no default. What
the first four places answer, what they raise, and the order of a set are given (`Sources`).
-/

namespace Gatewayz.PriceLookup

/-! ## Sources of prices -/

/-- A price as it is stored: what `float` makes of its two fields. -/
structure RawPrice where
  prompt : Except PyErr ℚ
  completion : Except PyErr ℚ

/-- `max(0.0, float(…))`, of both. -/
def RawPrice.rates (source : String) (raw : RawPrice) : Except PyErr ModelPricing := do
  let prompt ← raw.prompt
  let completion ← raw.completion
  pure
    { prompt := max 0 prompt
      completion := max 0 completion
      source := source
      prompt_nonneg := le_max_left 0 prompt
      completion_nonneg := le_max_left 0 completion }

/-- A model of the catalog. A price that is not a dictionary is one without fields. -/
structure CatalogModel where
  id : Option String
  slug : Option String
  pricing : RawPrice := ⟨.ok 0, .ok 0⟩

/-- What the calls answer that a lookup makes, or what they raise. -/
structure Sources where
  /-- The import of `services.models`, and `_is_building_catalog`. -/
  building : Except PyErr Bool := .ok false
  /-- `normalize_model_id_for_pricing` -/
  normalize : String → Except PyErr String := .ok
  /-- `apply_model_alias` -/
  aliased : String → Except PyErr String := .ok
  /-- `_resolve_pricing_from_db`, by the ids to try. -/
  database : List String → Except PyErr (Option RawPrice) := fun _ => .ok none
  /-- The import of `pricing_lookup`, and its `get_model_pricing`, by gateway and id. -/
  manual : Except PyErr (String → String → Except PyErr (Option RawPrice)) := .ok fun _ _ => .ok none
  /-- `get_cached_models("all")` -/
  catalog : Except PyErr (List CatalogModel) := .ok []
  /-- The order in which a set is run through. -/
  setOrder : List String → List String := id
  /-- `time.time()`, when the cache is read, and when the lookups are done. -/
  now : ℚ
  later : ℚ

/-! ## What is kept -/

/-- An entry of `_pricing_cache`. -/
structure PriceEntry where
  data : ModelPricing
  timestamp : ℚ

/-- An entry of `_default_pricing_tracker`. -/
structure DefaultUsage where
  count : Nat
  firstSeen : ℚ
  lastSeen : ℚ
  errors : List (ℚ × String)

/-- `_pricing_cache` and `_default_pricing_tracker`. -/
structure PricingState where
  cache : String → Option PriceEntry := fun _ => none
  tracker : String → Option DefaultUsage := fun _ => none

def pricingCacheTtl : ℚ := 900

namespace PricingState

def fresh (st : PricingState) (key : String) (now : ℚ) : Option ModelPricing :=
  ((st.cache key).filter fun entry => now - entry.timestamp < pricingCacheTtl).map PriceEntry.data

def put (st : PricingState) (key : String) (entry : Option PriceEntry) : PricingState :=
  { st with cache := Function.update st.cache key entry }

/-- `_track_default_pricing_usage`. Of the errors the last ten are kept. -/
def track (st : PricingState) (modelId : String) (now : ℚ) (error : Option String) : PricingState :=
  let usage := (st.tracker modelId).getD ⟨0, now, now, []⟩
  let errors :=
    match error.filter (· ≠ "") with
    | none => usage.errors
    | some text => (usage.errors ++ [(now, text)]).drop (usage.errors.length + 1 - 10)
  { st with tracker := Function.update st.tracker modelId (some ⟨usage.count + 1, usage.firstSeen, now, errors⟩) }

end PricingState

/-- What no price is known for costs two cents per thousand tokens. -/
def defaultPricing : ModelPricing := { prompt := 2 / 100000, completion := 2 / 100000, source := "default", found := false }

/-- `HIGH_VALUE_MODEL_PATTERNS`; `_HIGH_VALUE_MODEL_PATTERNS` is the same list once more. -/
def highValueModelPatterns : List String :=
  ["gpt-4", "gpt-5", "o1-", "o3-", "o4-", "claude-3", "claude-opus", "claude-sonnet-4", "gemini-1.5-pro", "gemini-2", "gemini-pro",
    "command-r-plus", "mixtral-8x22b"]

def isHighValue (modelId : String) : Bool := highValueModelPatterns.any fun pattern => textContains pattern (lower modelId)

/-! ## The lookup -/

def providerSuffixes : List String := [":hf-inference", ":openai", ":anthropic"]

/-- The id without the first of the suffixes that it ends in. -/
def withoutSuffix (modelId : String) : Option String :=
  (providerSuffixes.find? fun suffix => suffix.toList.isSuffixOf modelId.toList).map fun suffix =>
    String.ofList (modelId.toList.take (modelId.length - suffix.length))

def candidateIds (modelId normalized aliased : String) : List String :=
  (([modelId, normalized] ++ (if aliased ≠ "" ∧ aliased ≠ normalized then [aliased] else []) ++
    (withoutSuffix modelId).toList).dedup).filter (· ≠ "")

/-- The ids that a price is looked up by. The normalised one is `cache_key`. -/
structure LookupIds where
  normalized : String
  candidates : List String

/-- Any answer to a failure is `None`. -/
def orNone {α : Type} (x : Except PyErr (Option α)) : Option α :=
  match x with
  | .ok found => found
  | .error _ => none

/-- The file is asked for each id with a gateway in it, up to the first price. -/
def manualPricing (lookup : String → String → Except PyErr (Option RawPrice)) : List String → Except PyErr (Option ModelPricing)
  | [] => .ok none
  | candidate :: rest =>
    if textContains "/" candidate then do
      match ← lookup (String.ofList (candidate.toList.takeWhile (· ≠ '/'))) candidate with
      | some raw => some <$> raw.rates "manual_json"
      | none => manualPricing lookup rest
    else manualPricing lookup rest

/-- A model of the catalog is the one, by its id or by its slug. -/
def CatalogModel.isOne (model : CatalogModel) (candidates : List String) : Bool :=
  (model.id.filter (· ≠ "")).any (candidates.contains ·) || (model.slug.filter (· ≠ "")).any (candidates.contains ·)

namespace Sources

variable (s : Sources)

/-- All that is done before the cache is read. While the catalog is built, nothing is looked up. -/
def prepare (modelId : String) : Except PyErr (Option LookupIds) := do
  if ← s.building then pure none
  else
    let normalized ← s.normalize modelId
    let aliased ← s.aliased normalized
    pure (some ⟨normalized, s.setOrder (candidateIds modelId normalized aliased)⟩)

def getPricingFromDatabase (candidates : List String) : Option ModelPricing :=
  orNone do
    match ← s.database candidates with
    | some raw => some <$> raw.rates "database"
    | none => pure none

/-- The manual prices, step 3.5. -/
def getManualPricing (candidates : List String) : Option ModelPricing :=
  orNone do
    let lookup ← s.manual
    manualPricing lookup candidates

def getPricingFromCacheFallback (candidates : List String) : Option ModelPricing :=
  orNone do
    match (← s.catalog).find? (·.isOne candidates) with
    | some model => some <$> model.pricing.rates "cache_fallback"
    | none => pure none

/-- Steps 2 to 4: what is found is cached. -/
def search (ids : LookupIds) (st : PricingState) : Option ModelPricing × PricingState :=
  match (s.getPricingFromDatabase ids.candidates).or
      ((s.getManualPricing ids.candidates).or (s.getPricingFromCacheFallback ids.candidates)) with
  | some pricing => (some pricing, st.put ids.normalized (some ⟨pricing, s.later⟩))
  | none => (none, st)

/-- Step 5: there is no default for an expensive model. -/
def lastResort (modelId : String) (ids : LookupIds) (st : PricingState) : Except PyErr ModelPricing × PricingState :=
  if isHighValue modelId || isHighValue ids.normalized then
    (.error (.valueError
      ("Pricing data not available for model '" ++ modelId ++ "'. This model cannot be used until pricing is configured. " ++
        "Please try a different model or contact support.")), st)
  else (.ok defaultPricing, st.track modelId s.later none)

/-- The lookup itself, what stands in `try`. -/
def lookUpPricing (modelId : String) (st : PricingState) : Except PyErr ModelPricing × PricingState :=
  match s.prepare modelId with
  | .error e => (.error e, st)
  | .ok none => (.ok defaultPricing, st)
  | .ok (some ids) =>
    match st.fresh ids.normalized s.now with
    | some pricing => (.ok pricing, st)
    | none =>
      -- An entry that is too old is removed.
      match s.search ids (st.put ids.normalized none) with
      | (some pricing, st) => (.ok pricing, st)
      | (none, st) => s.lastResort modelId ids st

def getModelPricing (modelId : String) (st : PricingState) : Except PyErr ModelPricing × PricingState :=
  match s.lookUpPricing modelId st with
  | (.ok pricing, st) => (.ok pricing, st)
  | (.error e, st) =>
    if e.kind = .valueError then (.error e, st)
    else (.ok defaultPricing, st.track modelId s.later (some e.text))

/-- `get_model_pricing_async`: a failure is no reason to sell an expensive model at the default price. -/
def getModelPricingAsync (modelId : String) (st : PricingState) : Except PyErr ModelPricing × PricingState :=
  match s.lookUpPricing modelId st with
  | (.ok pricing, st) => (.ok pricing, st)
  | (.error e, st) =>
    if e.kind = .valueError then (.error e, st)
    else
      (if isHighValue modelId then
        .error (.valueError
          ("Pricing data not available for high-value model '" ++ modelId ++ "'. Request blocked to prevent under-billing."))
      else .ok defaultPricing,
      st.track modelId s.later (some e.text))

end Sources

/-! ## What a completion costs -/

abbrev Lookup := String → PricingState → Except PyErr ModelPricing × PricingState

/-- The cost by one of the lookups, and what it leaves behind. A `:free` that is believed needs no price. -/
def costBy (lookup : Lookup) (config : PricingConfig) (modelId : String) (promptTokens completionTokens : Nat) (st : PricingState) :
    Except PyErr ℚ × PricingState :=
  (calculateCost config (fun id => (lookup id st).1) modelId promptTokens completionTokens,
    if isFreeId modelId ∧ isOpenrouterModel modelId then st else (lookup (billedId modelId) st).2)

namespace Sources

variable (s : Sources) (config : PricingConfig) (modelId : String) (promptTokens completionTokens : Nat) (st : PricingState)

def calculateCost : Except PyErr ℚ × PricingState := costBy s.getModelPricing config modelId promptTokens completionTokens st

def calculateCostAsync : Except PyErr ℚ × PricingState := costBy s.getModelPricingAsync config modelId promptTokens completionTokens st

end Sources

end Gatewayz.PriceLookup
