import Gatewayz.Billing.Numerals
import Gatewayz.Catalog.PriceCopies
import Gatewayz.Exec.Ranking
import Mathlib.Data.String.Basic

/-!
# `Catalog.OffersProjection` — the offers of the providers, projected from the catalog

`services/model_offers_projection.py` makes the rows of `model_provider_offers`: each row of `models` is an offer of its provider, and of
those for one group and provider the cheapest is kept. A run upserts the offers of the models it has read, with its own stamp, and then
deletes what has an older stamp, unless it wrote next to nothing.

Numbers are exact, and a text that is not a number is none. The statements of a run succeed, and the pages of its query are in one order.
-/

namespace Gatewayz.Offers

open Exec.Dictionary Prices

/-! ## Group keys -/

def stripRehostPrefix (mid : List Char) : List Char := if "near/".toList.isPrefixOf mid then mid.drop 5 else mid

def unifySeparators (segment : List Char) : String := String.ofList (segment.filter fun c => !(['-', '_', '.'].contains c))

def normalizationKey (providerModelId : String) : String :=
  if providerModelId = "" then ""
  else
    let s := stripRehostPrefix (lower (String.ofList (strip providerModelId.toList))).toList
    -- `parts[-1]`, and `parts[-2]` if there is one
    let name := unifySeparators (s.reverse.takeWhile (· ≠ '/')).reverse
    let org := unifySeparators ((s.reverse.dropWhile (· ≠ '/')).tail.takeWhile (· ≠ '/')).reverse
    if org = "" then name else org ++ "/" ++ name

example : normalizationKey " near/Z-AI/GLM-4.6" = "zai/glm46" := by decide +kernel

def offerGroupKey (aliasMap : List (String × String)) (providerModelId : String) : String :=
  if providerModelId = "" then ""
  else normalizationKey ((aliasMap.lookup (lower (String.ofList (strip providerModelId.toList)))).getD providerModelId)

/-! ## Rows of the catalog -/

/-- A row of `models`, with the price that `model_pricing` has for it. -/
structure CatalogModel where
  providerId : PyValue
  providerModelId : Option String
  pricePerInputToken : Option ℚ := none
  pricingOriginalPrompt : Option ℚ := none
  successRate : Option ℚ := none
  averageResponseTimeMs : Option ℚ := none
  isActive : Bool := true
  modality : String := ""
  deriving DecidableEq

def normalizedCostPer1k (rawPrice : Option ℚ) : Option ℚ :=
  rawPrice.bind fun raw =>
    (normalizeToPerToken (some raw) (Catalog.autoDetectFormat raw)).bind fun perToken =>
      if 0 < perToken * 1000 then some (perToken * 1000) else none

def costPer1kFromModel (m : CatalogModel) : Option ℚ :=
  match m.pricePerInputToken.filter (0 < ·) with
  | some perToken => some (perToken * 1000)
  | none => normalizedCostPer1k m.pricingOriginalPrompt

def isPlausibleCostPer1k (cost : ℚ) : Bool := 1 / 1000000 ≤ cost ∧ cost ≤ 1

def qualityFromSuccessRate : Option ℚ → ℚ
  | none => 1 / 2
  | some v => max 0 (min 1 (if 1 < v then v / 100 else v))

def toIntOrNone (value : Option ℚ) : Option Int := value.map fun v => v.num.tdiv v.den

/-! ## Offers -/

structure Offer where
  canonicalId : String
  providerSlug : String
  nativeId : String
  upstreamCost : ℚ
  qualityPrior : ℚ
  p50Ms : Option Int

/-- `(canonical_id, provider_slug)` -/
structure OfferKey where
  canonicalId : String
  providerSlug : String
  deriving DecidableEq

def Offer.key (offer : Offer) : OfferKey := ⟨offer.canonicalId, offer.providerSlug⟩

/-- `round(cost, 10)` -/
def round10 (cost : ℚ) : ℚ := roundHalfEven (cost * 10000000000) / 10000000000

def nonChatModalities : List String := ["image", "audio", "video"]

/-- What the catalog is projected with: the slug of a provider by its id, and the curated aliases. -/
structure ProjectionTables where
  providersById : List (PyValue × Option String) := []
  aliasMap : List (String × String) := []

/-- The slug of the provider of a model, by its id or by the text of it. -/
def ProjectionTables.slugOf (tables : ProjectionTables) (m : CatalogModel) : Option String :=
  (((tables.providersById.lookup m.providerId).or (tables.providersById.lookup (.str m.providerId.text))).join).filter (· ≠ "")

/-- One turn of the loop of `build_offer_rows`: the offer of a row, unless it is skipped. -/
def offerOf (tables : ProjectionTables) (m : CatalogModel) : Option Offer :=
  if m.isActive = false ∨ lower m.modality ∈ nonChatModalities then none
  else
    (m.providerModelId.filter (· ≠ "")).bind fun nativeId =>
      let groupKey := offerGroupKey tables.aliasMap nativeId
      if groupKey = "" then none
      else
        (tables.slugOf m).bind fun slug =>
          ((costPer1kFromModel m).filter fun cost => isPlausibleCostPer1k cost).map fun cost =>
            { canonicalId := groupKey, providerSlug := slug, nativeId := nativeId, upstreamCost := round10 cost,
              qualityPrior := qualityFromSuccessRate m.successRate, p50Ms := toIntOrNone m.averageResponseTimeMs }

def buildOfferRows (tables : ProjectionTables) (models : List CatalogModel) : List Offer :=
  (leastByKey Offer.upstreamCost ((models.filterMap (offerOf tables)).map fun offer => (offer.key, offer))).map Prod.snd

def filterMultiProvider (offers : List Offer) : List Offer :=
  offers.filter fun offer => 1 < offers.countP fun other => other.canonicalId = offer.canonicalId

/-! ## The table -/

/-- A row of `model_provider_offers`. -/
structure TableRow where
  offer : Offer
  updatedAt : Nat

/-- `model_provider_offers`; its key is unique. -/
structure OffersTable where
  rows : List (OfferKey × TableRow)
  unique : UniqueKeys rows

theorem OffersTable.unique_filter (table : OffersTable) (p : OfferKey × TableRow → Bool) : UniqueKeys (table.rows.filter p) :=
  table.unique.sublist (List.filter_sublist.map Prod.fst)

def OffersTable.upsert (table : OffersTable) (stamp : Nat) (offer : Offer) : OffersTable :=
  ⟨put table.rows offer.key ⟨offer, stamp⟩, uniqueKeys_put table.unique _ _⟩

/-- `_upsert_offers`, batch by batch. -/
def upsertOffers (table : OffersTable) (offers : List Offer) (stamp : Nat) : OffersTable :=
  (Exec.chunks 500 offers).foldl (fun table batch => batch.foldl (·.upsert stamp) table) table

def staleSweepFloor : Nat := 50

def deleteStaleOffers (table : OffersTable) (stamp written : Nat) : OffersTable :=
  if written < staleSweepFloor then table
  else ⟨table.rows.filter fun row => ¬row.2.updatedAt < stamp, table.unique_filter _⟩

/-! ## A run -/

/-- `rows[:limit]` -/
def sliceTo (limit : Int) (rows : List CatalogModel) : List CatalogModel :=
  if 0 ≤ limit then rows.take limit.toNat else rows.take (rows.length - limit.natAbs)

/-- The loop of `_fetch_active_models`, over the rows that are still to come. -/
def fetchPages (limit : Option Int) (rest rows : List CatalogModel) : List CatalogModel :=
  let batch := rest.take 1000
  match limit.filter fun n => n ≠ 0 ∧ n ≤ ((rows ++ batch).length : Int) with
  | some n => sliceTo n (rows ++ batch)
  | none => if batch.length < 1000 then rows ++ batch else fetchPages limit (rest.drop 1000) (rows ++ batch)
termination_by rest.length
decreasing_by
  next hfull =>
    rw [List.length_take] at hfull
    rw [List.length_drop]
    omega

def fetchActiveModels (limit : Option Int) (catalog : List CatalogModel) : List CatalogModel :=
  fetchPages limit (catalog.filter CatalogModel.isActive) []

structure RunOptions where
  onlyMulti : Bool := false
  dryRun : Bool := false
  limit : Option Int := none

def offersOf (tables : ProjectionTables) (options : RunOptions) (catalog : List CatalogModel) : List Offer :=
  let offers := buildOfferRows tables (fetchActiveModels options.limit catalog)
  if options.onlyMulti then filterMultiProvider offers else offers

/-- `refresh_offers_projection`: the table after it, at a time. -/
def refreshOffersProjection (tables : ProjectionTables) (options : RunOptions) (catalog : List CatalogModel) (stamp : Nat)
    (table : OffersTable) : OffersTable :=
  if options.dryRun then table
  else
    let offers := offersOf tables options catalog
    deleteStaleOffers (upsertOffers table offers stamp) stamp offers.length

end Gatewayz.Offers
