import Gatewayz.Catalog.CatalogStore

/-!
# `Catalog.PriceCopies` — the two stored copies of a price

A price is stored in the metadata of a model (`pricing_raw`) and again in `model_pricing`, and billing reads the second
first. Two functions write both: `bulk_upsert_models`, in batches, and `update_model_pricing_only`, for one row. Each writes
the metadata and derives the second copy afterwards from the rows that came back (`_sync_pricing_to_model_pricing`).

The tags that `_sync_categories` derives last change no price and are left out.
-/

namespace Gatewayz.Catalog

open Exec Prices

/-! ## The second copy -/

def autoDetectFormat (price : ℚ) : PricingFormat :=
  if price < 1 / 1000000 then .perToken else if price < 1 / 1000 then .per1kTokens else .per1mTokens

/-- The guard on a price that looks too large for one per token. -/
def guardPrice (price : ℚ) : ℚ :=
  if price > 1 / 1000 then (normalizeToPerToken (some price) (autoDetectFormat price)).getD 0 else price

/-- What `_sync_pricing_to_model_pricing` makes of one `pricing_raw`: a price that is unknown is zero, unless both are. -/
def pricingRowOf (modelId : Nat) (pricingRaw : Option PriceTable) : Option PricingRow :=
  match pricingRaw with
  | none => none
  | some raw =>
    if raw.prompt.isNone && raw.completion.isNone then none
    else
      let inputPrice := guardPrice (raw.prompt.getD 0)
      let outputPrice := guardPrice (raw.completion.getD 0)
      some {
        modelId
        pricePerInputToken := inputPrice
        pricePerOutputToken := outputPrice
        pricePerImageToken := raw.image
        pricePerRequest := raw.request
        paid := decide (inputPrice > 0) || decide (outputPrice > 0) }

/-- `CHUNK_SIZE`, and `BATCH_SIZE`. -/
def chunkSize : Nat := 500

theorem chunkSize_pos : 0 < chunkSize := by decide

/-- `_sync_pricing_to_model_pricing`: its failures are swallowed. -/
def syncPricingToModelPricing (upserted : List ModelRow) : CatalogM Unit :=
  tryCatch (do
    let pricingRows := upserted.filterMap fun m => pricingRowOf m.id m.data.metadata.pricingRaw
    let _ ← forEach Stmt.upsertPricing (fun _ a => a) (chunks chunkSize pricingRows)
    return ()) fun _ => return ()

/-! ## Upserting -/

/-- A model as it is handed to `bulk_upsert_models`. -/
structure ModelInput where
  providerId : Option Nat
  providerModelId : Option String
  isActive : Bool
  metadata : Metadata

/-- A model without a key is skipped. -/
def ModelInput.toRow (m : ModelInput) : Option UpsertRow := do
  let providerId ← m.providerId
  let providerModelId ← m.providerModelId
  return { key := ⟨providerId, providerModelId⟩, isActive := m.isActive, metadata := m.metadata }

/-- `seen_keys[key] = model`: a key keeps its place. -/
def setKey : List UpsertRow → UpsertRow → List UpsertRow
  | [], m => [m]
  | m' :: rest, m => if m'.key = m.key then m :: rest else m' :: setKey rest m

def deduplicated (models : List ModelInput) : List UpsertRow := (models.filterMap ModelInput.toRow).foldl setKey []

def bulkUpsertModels (models : List ModelInput) : CatalogM (List ModelRow) :=
  tryCatch (do
    if deduplicated models = [] then return []
    else do
      let batches ← forEach Stmt.upsertModels (fun _ a => a) (chunks chunkSize (deduplicated models))
      let allUpserted := batches.flatten
      if allUpserted = [] then return []
      else do
        syncPricingToModelPricing allUpserted
        return allUpserted) fun _ => return []

def updateModelPricingOnly (modelId : Nat) (pricingRaw : PriceTable) (existingMetadata : Option Metadata) : CatalogM Bool :=
  tryCatch (do
    let merged := { (existingMetadata.getD {}) with pricingRaw := some pricingRaw }
    let rows : List ModelRow ← ask (.updateMetadata modelId merged)
    if rows = [] then return false
    else do
      syncPricingToModelPricing rows
      return true) fun _ => return false

/-! ## What billing reads -/

def validatePricingValue (value : ℚ) : ℚ := if value < 0 then 0 else value

/-- The second source of `_resolve_pricing_from_db`: both prices, from the metadata. -/
def rawPrices (pricingRaw : Option PriceTable) : Option (ℚ × ℚ) := do
  let raw ← pricingRaw
  let prompt ← raw.prompt
  let completion ← raw.completion
  return (validatePricingValue prompt, validatePricingValue completion)

/-- What `_resolve_pricing_from_db` reads of a row: `model_pricing` first. -/
def billedPrices (pricing : Option PricingRow) (pricingRaw : Option PriceTable) : Option (ℚ × ℚ) :=
  match pricing with
  | some row => some (validatePricingValue row.pricePerInputToken, validatePricingValue row.pricePerOutputToken)
  | none => rawPrices pricingRaw

end Gatewayz.Catalog
