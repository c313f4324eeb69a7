import Gatewayz.Catalog.PriceCopies
import Gatewayz.Exec.Served

/-!
# `Catalog.ProviderSync` — one sync of one provider

`sync_provider_models` fetches the models of a provider, transforms them, holds down those that an operator has marked
unservable, upserts them, and then has the rows that were not listed processed as stale.

What a provider is and offers is a `ProviderFacts`. Caches, metrics and the texts of results are left out.
-/

namespace Gatewayz.Catalog

open Exec Prices

/-! ## Counting misses, deactivating, purging

After a sync, `process_stale_models` reads the active rows of the provider: those it has seen are stamped and their count is reset, the
others miss once more, and a row that has missed often enough is deactivated. `_purge_stale_deactivated_models` then deletes inactive rows
that were last seen before a cutoff. `fuel` bounds the pages of each read.
 -/

/-- The counts that `process_stale_models` returns. -/
structure StaleResult where
  reset : Nat := 0
  incremented : Nat := 0
  deactivated : Nat := 0
  purged : Nat := 0

def day : Nat := 86400

def readActive (fuel providerId : Nat) : CatalogM (List ModelRow) :=
  readPages (fun offset => ask (.selectActive providerId offset)) pageSize .failed fuel 0

def readStale (fuel providerId : Nat) (cutoff : Time) : CatalogM (List ModelRow) :=
  readPages (fun offset => ask (.selectStale providerId cutoff offset)) pageSize .failed fuel 0

/-- `_purge_stale_deactivated_models`: how many rows it deleted. -/
def purgeStaleDeactivated (fuel providerId : Nat) (purgeAfterDays : Option Int) (now : Time) : CatalogM Nat :=
  match purgeAfterDays with
  | none => return 0
  | some days =>
    if days ≤ 0 then return 0
    else do
      let stale ← readStale fuel providerId (now - days.toNat * day)
      if stale = [] then return 0
      else do
        let _ ← forEach Stmt.deleteModels (fun _ a => a) (chunks chunkSize (stale.map ModelRow.id))
        return stale.length

/-- `by_count.setdefault(new_count, []).append(db_id)`. -/
def addToGroup : List (Nat × List Nat) → Nat × Nat → List (Nat × List Nat)
  | [], (id, count) => [(count, [id])]
  | (count', ids) :: rest, (id, count) =>
    if count' = count then (count', ids ++ [id]) :: rest else (count', ids) :: addToGroup rest (id, count)

def incrementChunks (toIncrement : List (Nat × Nat)) : List (List Nat × Nat) :=
  (toIncrement.foldl addToGroup []).flatMap fun g => (chunks chunkSize g.2).map fun ids => (ids, g.1)

def idsToReset (seen : List String) (rows : List ModelRow) : List Nat :=
  (rows.filter fun r => seen.contains r.key.providerModelId).map ModelRow.id

def missed (seen : List String) (rows : List ModelRow) : List (Nat × Nat) :=
  (rows.filter fun r => !seen.contains r.key.providerModelId).map fun r => (r.id, r.data.consecutiveMissingCount + 1)

def idsToIncrement (seen : List String) (threshold : Nat) (rows : List ModelRow) : List (Nat × Nat) :=
  (missed seen rows).filter fun x => x.2 < threshold

def idsToDeactivate (seen : List String) (threshold : Nat) (rows : List ModelRow) : List Nat :=
  ((missed seen rows).filter fun x => threshold ≤ x.2).map Prod.fst

def processStaleModels (fuel providerId : Nat) (seen : List String) (threshold : Nat) (purgeAfterDays : Option Int)
    (now : Time) : CatalogM StaleResult := do
  let allActive ← readActive fuel providerId
  if allActive = [] then do
    let purged ← purgeStaleDeactivated fuel providerId purgeAfterDays now
    return { purged }
  else do
    let _ ← forEach (fun ids => Stmt.resetSeen ids now) (fun _ a => a) (chunks chunkSize (idsToReset seen allActive))
    let _ ← forEach (fun x => Stmt.setMissingCount x.1 x.2) (fun _ a => a)
      (incrementChunks (idsToIncrement seen threshold allActive))
    let _ ← forEach (fun ids => Stmt.deactivateStale ids threshold) (fun _ a => a)
      (chunks chunkSize (idsToDeactivate seen threshold allActive))
    let purged ← purgeStaleDeactivated fuel providerId purgeAfterDays now
    return {
      reset := (idsToReset seen allActive).length
      incremented := (idsToIncrement seen threshold allActive).length
      deactivated := (idsToDeactivate seen threshold allActive).length
      purged }

/-! ## Marks -/

/-- `_load_unservable_model_ids`: the marked rows of a provider, none if the read fails. -/
def loadUnservableModelIds (providerId : Nat) : CatalogM (List String) := do
  match ← (ask (.selectRows providerId) : CatalogM (List ModelRow)).attempt with
  | .ok rows =>
    return (rows.filter fun r => r.key.providerModelId ≠ "" && r.data.metadata.delistReason = some "unservable").map
      fun r => r.key.providerModelId
  | .error _ => return []

/-- One model of `pin_unservable_models`. -/
def pinModel (unservable : List String) (m : DbModel) : DbModel :=
  if unservable.contains m.providerModelId then { m with isActive := false, delistReason := some "unservable" } else m

/-- `pin_unservable_models`: the models, how many are pinned, and how many of them were active. -/
def pinUnservableModels (dbModels : List DbModel) (unservable : List String) : List DbModel × Nat × Nat :=
  (dbModels.map (pinModel unservable),
    dbModels.countP fun m => unservable.contains m.providerModelId,
    dbModels.countP fun m => unservable.contains m.providerModelId && m.isActive)

/-! ## A sync -/

structure ProviderFacts where
  providerId : Nat
  providerSlug : String
  /-- The formats that gateways declare. -/
  declared : String → Option String
  /-- `PRICE_REFERENCE_PROVIDERS`. -/
  isPriceReference : Bool
  /-- `assess_model_quality(...).keep`, where the gate is on. -/
  keep : FetchedModel → Bool

/-- One call of `sync_provider_models`. -/
structure SyncCall where
  /-- Whether `ensure_provider_exists` found the provider, and whether it is active. -/
  provider : Option Bool
  /-- What the fetch function returns, or raises. -/
  fetched : Except DbError (List FetchedModel)
  dryRun : Bool := false
  /-- `MODEL_STALE_PURGE_AFTER_DAYS`. -/
  purgeAfterDays : Option Int := none

structure SyncResult where
  success : Bool
  modelsFetched : Nat := 0
  modelsTransformed : Nat := 0
  modelsSkipped : Nat := 0
  modelsFiltered : Nat := 0
  modelsDelisted : Nat := 0
  modelsSynced : Nat := 0
  dryRun : Bool := false
  staleTracking : Option StaleResult := none

structure Upserted where
  preSyncActiveCount : Nat
  seenIds : List String
  result : SyncResult

def DbModel.toInput (m : DbModel) (providerId : Nat) : ModelInput where
  providerId := some providerId
  providerModelId := some m.providerModelId
  isActive := m.isActive
  metadata := { pricingRaw := m.pricingRaw, delistReason := m.delistReason }

def deactivateModelsByProvider (providerId : Nat) : CatalogM Nat := do
  match ← (ask (.deactivateProvider providerId) : CatalogM Nat).attempt with
  | .ok count => return count
  | .error _ => return 0

section Sync

variable (facts : ProviderFacts)

def kept (fetched : List FetchedModel) : List FetchedModel := fetched.filter facts.keep

/-- `db_models`, before the marks. -/
def transformed (providerActive : Bool) (fetched : List FetchedModel) : List DbModel :=
  (kept facts fetched).filterMap (transformNormalizedModel facts.declared facts.providerSlug providerActive)

/-- `seen_ids`, each once. -/
def seenIds (dbModels : List DbModel) : List String := ((dbModels.map DbModel.providerModelId).filter (· ≠ "")).dedup

/-- `sync_provider_models` until its stale processing: a result, if it ends before. -/
def syncUntilStale (call : SyncCall) : CatalogM (Except SyncResult Upserted) :=
  match call.provider with
  | none => return .error { success := false }
  | some providerActive =>
    if !providerActive && !facts.isPriceReference then
      if call.dryRun then return .error { success := true, dryRun := true }
      else do
        let delisted ← deactivateModelsByProvider facts.providerId
        return .error { success := true, modelsDelisted := delisted }
    else
      match call.fetched with
      | .error e => .fail e
      | .ok fetched =>
        if fetched = [] then return .error { success := true }
        else do
          let dbModels := transformed facts providerActive fetched
          let unservable ← loadUnservableModelIds facts.providerId
          let (pinned, _, newlyDelisted) := pinUnservableModels dbModels unservable
          if dbModels = [] then return .error { success := false, modelsFetched := fetched.length }
          else do
            let result : SyncResult := {
              success := true
              modelsFetched := fetched.length
              modelsTransformed := dbModels.length
              modelsSkipped := (kept facts fetched).length - dbModels.length
              modelsFiltered := fetched.length - (kept facts fetched).length
              modelsDelisted := (dbModels.countP fun m => !m.isActive) + newlyDelisted
              dryRun := call.dryRun }
            if call.dryRun then return .error result
            else do
              let preSyncActiveCount ← (ask (.countActive facts.providerId) : CatalogM Nat).attempt
              let synced ← bulkUpsertModels (pinned.map fun m => DbModel.toInput m facts.providerId)
              return .ok {
                preSyncActiveCount := (preSyncActiveCount.toOption).getD 0
                seenIds := seenIds dbModels
                result := { result with modelsSynced := synced.length } }

def deactivationThreshold : Nat := 3

/-- The safety guard: at least half of the rows that were active were fetched. -/
def Upserted.passesGuard (u : Upserted) : Bool :=
  decide (0 < u.preSyncActiveCount) && decide (u.preSyncActiveCount ≤ 2 * u.seenIds.length)

/-- The stale processing of a sync: nothing, if the guard holds it back or it fails. -/
def staleTracking (fuel : Nat) (purgeAfterDays : Option Int) (now : Time) (u : Upserted) : CatalogM (Option StaleResult) := do
  if u.passesGuard then
    match ← (processStaleModels fuel facts.providerId u.seenIds deactivationThreshold purgeAfterDays now).attempt with
    | .ok result => return some result
    | .error _ => return none
  else return none

def syncProviderModels (fuel : Nat) (now : Time) (call : SyncCall) : CatalogM SyncResult :=
  tryCatch (do
    match ← syncUntilStale facts call with
    | .error result => return result
    | .ok u => do
      let stale ← staleTracking facts fuel call.purgeAfterDays now u
      return { u.result with staleTracking := stale }) fun _ => return { success := false }

end Sync

end Gatewayz.Catalog
