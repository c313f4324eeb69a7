import Gatewayz.Catalog.StoredPrices
import Gatewayz.Exec.Ranking
import Mathlib.Data.Prod.Lex
import Mathlib.Data.String.Basic

/-!
# `Catalog.UniqueModels` — one entry for a model, with all who offer it

`db/models_catalog_db.py`. A unique model is mapped to rows of `models`; the mapping is joined in the program, by the providers that are
active and enabled (`get_all_unique_models_for_catalog`).

Keys of the tables are unique. All pages are read in time, and the values of `pricing_raw` are scalars; `nan` sorts with what is unknown.
-/

namespace Gatewayz.UniqueModels

open Exec.Dictionary StoredPrices

/-! ## Tables -/

structure Pricing where
  prompt : PyValue
  completion : PyValue
  image : PyValue
  request : PyValue
  deriving DecidableEq

structure UniqueModel where
  id : Nat
  modelName : String
  sampleModelId : Option String
  deriving DecidableEq

/-- A row of `unique_models_provider`. -/
structure Mapping where
  uniqueModelId : Option Nat
  providerId : Nat
  modelId : Nat

/-- A row of `models`, with its `pricing_raw`. -/
structure Model where
  id : Nat
  modelName : String
  pricing : Pricing
  isActive : Bool
  averageResponseTimeMs : Option ℚ

structure Provider where
  id : Nat
  slug : String
  name : String
  isActive : Bool

structure Tables where
  uniqueModels : List UniqueModel
  mappings : List Mapping
  models : List Model
  providers : List Provider
  /-- `is_provider_enabled` -/
  enabled : String → Bool
  modelKeys : (models.map Model.id).Nodup
  providerKeys : (providers.map Provider.id).Nodup

/-! ## The join -/

def Tables.listedProviders (t : Tables) : List Provider := t.providers.filter fun p => p.isActive && p.slug ≠ "" && t.enabled p.slug

/-- `provider_data` of a mapping, with the unique model it is for. -/
def Tables.join (t : Tables) (mapping : Mapping) : Option (Nat × Provider × Model) :=
  (mapping.uniqueModelId.filter (· ≠ 0)).bind fun uniqueModelId =>
    (t.models.find? fun m => m.id = mapping.modelId).bind fun m =>
      if m.isActive then
        (t.listedProviders.find? fun p => p.id = mapping.providerId).map fun p => (uniqueModelId, p, m)
      else none

/-- `_price_sort_key`: what is infinite or unknown comes last. -/
def priceSortKey (offer : Provider × Model) : ℤ ×ₗ ℚ :=
  match toFloat offer.2.pricing.prompt with
  | .ok (.finite q) => toLex (0, q)
  | .ok (.infinite true) => toLex (-1, 0)
  | _ => toLex (1, 0)

def Tables.offersOf (t : Tables) (uniqueModelId : Nat) : List (Provider × Model) :=
  sortOn priceSortKey (((t.mappings.filterMap t.join).filter fun offer => offer.1 = uniqueModelId).map Prod.snd)

def getAllUniqueModelsForCatalog (t : Tables) : List (UniqueModel × List (Provider × Model)) :=
  (t.uniqueModels.map fun um => (um, t.offersOf um.id)).filter fun row => row.2 ≠ []

/-! ## Entries -/

structure ApiProvider where
  slug : String
  name : String
  pricing : Pricing
  averageResponseTimeMs : Option ℚ
  modelName : String
  deriving DecidableEq

structure ApiModel where
  id : Option String
  name : String
  providers : List ApiProvider
  cheapestProvider : Option String
  cheapestPromptPrice : Option PyFloat
  fastestProvider : Option String
  fastestResponseTime : Option ℚ
  deriving DecidableEq

def formatPrice (price : PyValue) : PyValue := if price = .none then .str "0" else .str price.text

def Pricing.format (p : Pricing) : Pricing := ⟨formatPrice p.prompt, formatPrice p.completion, formatPrice p.image, formatPrice p.request⟩

def ApiProvider.ofOffer (offer : Provider × Model) : ApiProvider where
  slug := offer.1.slug
  name := offer.1.name
  pricing := offer.2.pricing.format
  averageResponseTimeMs := offer.2.averageResponseTimeMs
  modelName := offer.2.modelName

/-- A value as a number, if it is one. -/
def numberOf : PyValue → Option ℚ
  | .bool b => some (if b then 1 else 0)
  | .int n => some n
  | .float q => some q
  | _ => none

/-- `a < b`; nothing for a `TypeError`. -/
def lessThan : PyValue → PyValue → Option Bool
  | .str a, .str b => some (a < b)
  | a, b => (numberOf a).bind fun x => (numberOf b).map fun y => decide (x < y)

/-- One turn of the loop for the cheapest provider, over the values as they are stored. -/
def cheaper (cheapest : Option (PyValue × String)) (offer : Provider × Model) : Option (Option (PyValue × String)) :=
  if offer.2.pricing.prompt = .none then some cheapest
  else
    match cheapest with
    | none => some (some (offer.2.pricing.prompt, offer.1.slug))
    | some (price, slug) =>
      (lessThan offer.2.pricing.prompt price).map fun less => if less then some (offer.2.pricing.prompt, offer.1.slug) else some (price, slug)

/-- One turn of the loop for the fastest provider. -/
def faster (fastest : Option (ℚ × String)) (offer : Provider × Model) : Option (ℚ × String) :=
  match offer.2.averageResponseTimeMs, fastest with
  | none, _ => fastest
  | some time, none => some (time, offer.1.slug)
  | some time, some (least, slug) => if time < least then some (time, offer.1.slug) else some (least, slug)

/-- The id of an entry: what stands behind the last slash. -/
def UniqueModel.apiId (um : UniqueModel) : String :=
  let modelId := (um.sampleModelId.filter (· ≠ "")).getD um.modelName
  String.ofList (modelId.toList.reverse.takeWhile (· ≠ '/')).reverse

/-- `transform_unique_model_to_api_format`: what is raised leaves an entry without providers. -/
def transformUniqueModelToApiFormat (um : UniqueModel) (offers : List (Provider × Model)) : ApiModel :=
  let fastest := offers.foldl faster none
  let entry : Option ApiModel := (offers.foldlM cheaper none).bind fun cheapest =>
    let make : Option PyFloat → ApiModel := fun price =>
      { id := some um.apiId, name := um.modelName, providers := offers.map ApiProvider.ofOffer, cheapestProvider := cheapest.map Prod.snd,
        cheapestPromptPrice := price, fastestProvider := fastest.map Prod.snd, fastestResponseTime := fastest.map Prod.fst }
    match cheapest with
    | none => some (make none)
    | some (price, _) => (toFloat price).toOption.map fun number => make (some number)
  entry.getD
    { id := um.sampleModelId, name := um.modelName, providers := [], cheapestProvider := none, cheapestPromptPrice := none,
      fastestProvider := none, fastestResponseTime := none }

/-! ## Enrichment -/

def IsNumeral (v : PyValue) : Prop := ∃ s q, v = .str s ∧ parseFloat s = some (.finite q)

/-- Where a price is looked up that is missing or zero: `get_all_pricing_batch`, and `get_model_pricing` of a provider and a model. Both
give texts of numbers. -/
structure PriceSources where
  batch : List (String × Pricing)
  manual : String → String → Option Pricing
  numeric : ∀ pricing, ((∃ key, batch.lookup key = some pricing) ∨ ∃ slug key, manual slug key = some pricing) → IsNumeral pricing.prompt

/-- The price that is looked up for a provider of an entry. -/
def PriceSources.lookUp (sources : PriceSources) (modelId : String) (provider : ApiProvider) : Option Pricing :=
  ([provider.modelName, modelId].findSome? fun key => if key = "" then none else sources.batch.lookup key).or
    ((sources.manual provider.slug provider.modelName).or (sources.manual provider.slug modelId))

def isNonZero : PyFloat → Bool
  | .finite q => q ≠ 0
  | _ => true

def hasRealPricing (pricing : Pricing) : Bool :=
  match toFloat pricing.prompt with
  | .error _ => false
  | .ok prompt =>
    isNonZero prompt ||
      match toFloat pricing.completion with
      | .error _ => false
      | .ok completion => isNonZero completion

def enrich (sources : PriceSources) (modelId : String) (provider : ApiProvider) : ApiProvider :=
  if hasRealPricing provider.pricing then provider
  else { provider with pricing := (sources.lookUp modelId provider).getD provider.pricing }

/-- `a < b`, of floats. -/
def lessFloat : PyFloat → PyFloat → Bool
  | .finite a, .finite b => a < b
  | .finite _, .infinite negative => !negative
  | .infinite negative, .finite _ => negative
  | .infinite a, .infinite b => a && !b
  | _, _ => false

/-- One turn of the loop for the cheapest provider, over the prices as they are shown. -/
def cheaperShown (cheapest : Option (PyFloat × String)) (provider : ApiProvider) : Option (PyFloat × String) :=
  match toFloat provider.pricing.prompt, cheapest with
  | .error _, _ => cheapest
  | .ok price, none => some (price, provider.slug)
  | .ok price, some (least, slug) => if lessFloat price least then some (price, provider.slug) else some (least, slug)

/-- The turn of `transform_unique_models_batch` for one entry. -/
def enrichEntry (sources : PriceSources) (entry : ApiModel) : ApiModel :=
  let providers := entry.providers.map (enrich sources (entry.id.getD ""))
  match (providers.foldl cheaperShown none).filter fun cheapest => cheapest.2 ≠ "" with
  | some (price, slug) => { entry with providers := providers, cheapestProvider := some slug, cheapestPromptPrice := some price }
  | none => { entry with providers := providers }

/-- `transform_unique_models_batch` of the rows that are fetched: the entries, each with its unique model. -/
def transformUniqueModelsBatch (t : Tables) (sources : PriceSources) : List (UniqueModel × ApiModel) :=
  (getAllUniqueModelsForCatalog t).map fun row => (row.1, enrichEntry sources (transformUniqueModelToApiFormat row.1 row.2))

end Gatewayz.UniqueModels
