import Gatewayz.Catalog.PriceRefresh
import Gatewayz.Catalog.ProviderSync

/-!
# `Catalog.RefreshJob` — the price-only refresh against the store

`Catalog.PriceRefresh` is the refresh over rows that nobody else changes. Here it is a program among others: it reads the
active rows of the provider page by page, metadata and all, and a row whose price differs gets that metadata back with the
new price in it, however much later.
-/

namespace Gatewayz.Catalog

open Exec Prices

/-- The pages that the deadline of `get_models_pricing_by_provider` leaves time for. -/
def readUntilDeadline (providerId : Nat) : Nat → Nat → CatalogM (List ModelRow)
  | 0, _ => return []
  | pages + 1, offset => do
    let batch ← (ask (.selectActive providerId offset) : CatalogM (List ModelRow))
    if batch.length < pageSize then return batch
    else do
      let rest ← readUntilDeadline providerId pages (offset + pageSize)
      return batch ++ rest

/-- `get_models_pricing_by_provider`: a page that fails leaves nothing of the others. -/
def getModelsPricingByProvider (pages providerId : Nat) : CatalogM (List ModelRow) :=
  tryCatch (readUntilDeadline providerId pages 0) fun _ => return []

/-- `existing_by_pmid.get(provider_model_id)`: the last row read wins, and rows without an identifier are left out. -/
def existingByPmid (rows : List ModelRow) (pmid : String) : Option ModelRow :=
  rows.reverse.find? fun r => r.key.providerModelId ≠ "" ∧ r.key.providerModelId = pmid

structure RefreshCounts where
  updated : Nat := 0
  unchanged : Nat := 0
  skippedNotInDb : Nat := 0

/-- One call of `_refresh_provider_prices`. -/
structure RefreshCall where
  /-- Whether `ensure_provider_exists` found the provider, and whether it is active. -/
  provider : Option Bool
  fetched : Except DbError (List FetchedModel)
  dryRun : Bool := false

section Refresh

variable (facts : ProviderFacts) (dryRun : Bool) (existing : List ModelRow)

/-- One model of the loop in `_refresh_provider_prices`; a write that fails is not counted. -/
def refreshRow (n : RefreshCounts) (m : FetchedModel) : CatalogM RefreshCounts :=
  match m.pmid with
  | none => return n
  | some pmid =>
    match existingByPmid existing pmid with
    | none => return { n with skippedNotInDb := n.skippedNotInDb + 1 }
    | some row =>
      let newPricing := extractNormalizedPricing facts.declared facts.providerSlug m
      if pricingDiffers newPricing (row.data.metadata.pricingRaw.getD {}) = false then
        return { n with unchanged := n.unchanged + 1 }
      else if dryRun then return { n with updated := n.updated + 1 }
      else do
        let ok ← updateModelPricingOnly row.id newPricing (some row.data.metadata)
        return if ok then { n with updated := n.updated + 1 } else n

/-- The loop. -/
def refreshRows : RefreshCounts → List FetchedModel → CatalogM RefreshCounts
  | n, [] => return n
  | n, m :: ms => do
    let n ← refreshRow facts dryRun existing n m
    refreshRows n ms

end Refresh

/-- `_refresh_provider_prices`, for a provider that is asked for its models first. -/
def refreshPricesOf (facts : ProviderFacts) (pages : Nat) (call : RefreshCall) : CatalogM RefreshCounts :=
  if call.provider ≠ some true then .fail .failed
  else
    match call.fetched with
    | .error e => .fail e
    | .ok fetched => do
      let existing ← getModelsPricingByProvider pages facts.providerId
      refreshRows facts call.dryRun existing {} fetched

end Gatewayz.Catalog
