import Gatewayz.Catalog.PriceUnits

/-!
# `Catalog.PriceRefresh` — the price-only refresh

For every fetched model that the provider has an active row for, the refresh extracts per-token prices on its own, compares
them with the stored ones, and rewrites the stored ones where they differ. The rows are read once, before the loop, and each
model is compared with its row as it was read.

Rows are a `ProviderRows`: the identifiers of a provider's rows are unique, and so are the rows' own keys. Database calls
succeed here.
-/

namespace Gatewayz.Prices

/-! ## Rows -/

/-- An active row of a provider, as far as the refresh reads it. -/
structure PriceRow where
  id : Nat
  providerModelId : String
  pricingRaw : Option PriceTable
  deriving DecidableEq

/-- The stored prices; a row without `pricing_raw` stores none. -/
def PriceRow.stored (row : PriceRow) : PriceTable := row.pricingRaw.getD {}

structure ProviderRows where
  rows : List PriceRow
  ids : (rows.map PriceRow.id).Nodup
  pmids : (rows.map PriceRow.providerModelId).Nodup

/-- `existing_by_pmid.get(provider_model_id)`: rows without an identifier are left out. -/
def existingRow (rows : List PriceRow) (pmid : String) : Option PriceRow :=
  rows.find? (fun row => row.providerModelId ≠ "" ∧ row.providerModelId = pmid)

/-- `update_model_pricing_only`, on the rows: only `pricing_raw` changes. -/
def updatePricing (rows : List PriceRow) (id : Nat) (pricing : PriceTable) : List PriceRow :=
  rows.map (fun row => if row.id = id then { row with pricingRaw := some pricing } else row)

/-! ## The refresh -/

def extractNormalizedPricing (declared : String → Option String) (providerSlug : String) (m : FetchedModel) : PriceTable :=
  let format := m.format declared providerSlug
  if format ≠ .perToken then m.pricingOrFree.map (convert format) else m.pricingOrFree

/-- `_pricing_differs`: in some field, unless nothing was fetched. -/
def pricingDiffers (new stored : PriceTable) : Bool :=
  !new.isEmpty && PriceField.all.any (fun f => new.get f ≠ stored.get f)

theorem pricingDiffers_iff (new stored : PriceTable) :
    pricingDiffers new stored = true ↔ new.isEmpty = false ∧ new ≠ stored := by
  simp only [pricingDiffers, Bool.and_eq_true, Bool.not_eq_true', List.any_eq_true, decide_eq_true_eq]
  refine and_congr_right fun _ => ⟨?_, fun h => ?_⟩
  · rintro ⟨f, -, hf⟩ rfl
    exact hf rfl
  · by_contra hall
    refine h (PriceTable.ext_get fun f => ?_)
    by_contra hf
    exact hall ⟨f, PriceField.mem_all f, hf⟩

/-- A write of the refresh: the row as it was read, the fetched model, the prices written. -/
structure PriceWrite where
  row : PriceRow
  model : FetchedModel
  pricing : PriceTable

/-- The counters, the rows as they are by now, and the writes so far. -/
structure RefreshState where
  rows : List PriceRow
  updated : Nat := 0
  unchanged : Nat := 0
  skippedNotInDb : Nat := 0
  writes : List PriceWrite := []

/-- One model of the loop in `_refresh_provider_prices`; `existing` are the rows as they were read. -/
def refreshModel (declared : String → Option String) (providerSlug : String) (dryRun : Bool) (existing : List PriceRow)
    (s : RefreshState) (m : FetchedModel) : RefreshState :=
  match m.pmid with
  | none => s
  | some pmid =>
    match existingRow existing pmid with
    | none => { s with skippedNotInDb := s.skippedNotInDb + 1 }
    | some row =>
      let newPricing := extractNormalizedPricing declared providerSlug m
      if pricingDiffers newPricing row.stored = false then { s with unchanged := s.unchanged + 1 }
      else if dryRun then { s with updated := s.updated + 1 }
      else
        { s with
          rows := updatePricing s.rows row.id newPricing
          updated := s.updated + 1
          writes := s.writes ++ [⟨row, m, newPricing⟩] }

/-- `_refresh_provider_prices`, on the fetched models and the active rows. -/
def refreshProviderPrices (declared : String → Option String) (providerSlug : String) (dryRun : Bool)
    (rows : List PriceRow) (fetched : List FetchedModel) : RefreshState :=
  fetched.foldl (refreshModel declared providerSlug dryRun rows) { rows }

/-! ## What a refresh writes -/

section Writes

variable (declared : String → Option String) (providerSlug : String)

/-- What the refresh writes for a model. -/
def writeFor (existing : List PriceRow) (m : FetchedModel) : Option PriceWrite := do
  let pmid ← m.pmid
  let row ← existingRow existing pmid
  let newPricing := extractNormalizedPricing declared providerSlug m
  if pricingDiffers newPricing row.stored then some ⟨row, m, newPricing⟩ else none

def PriceWrite.apply (rows : List PriceRow) (w : PriceWrite) : List PriceRow := updatePricing rows w.row.id w.pricing

theorem refreshModel_eq (existing : List PriceRow) (s : RefreshState) (m : FetchedModel) :
    (refreshModel declared providerSlug false existing s m).writes =
        s.writes ++ (writeFor declared providerSlug existing m).toList ∧
      (refreshModel declared providerSlug false existing s m).rows =
        ((writeFor declared providerSlug existing m).toList).foldl PriceWrite.apply s.rows := by
  unfold refreshModel writeFor
  cases m.pmid with
  | none => simp
  | some pmid =>
    cases hrow : existingRow existing pmid with
    | none => simp [hrow]
    | some row =>
      cases hdiffers : pricingDiffers (extractNormalizedPricing declared providerSlug m) row.stored with
      | false => simp [hrow, hdiffers]
      | true => simp [hrow, hdiffers, PriceWrite.apply]

/-- The writes are those of the models, one by one, and the rows are what they leave. -/
theorem refresh_eq (rows : List PriceRow) (fetched : List FetchedModel) :
    (refreshProviderPrices declared providerSlug false rows fetched).writes =
        fetched.filterMap (writeFor declared providerSlug rows) ∧
      (refreshProviderPrices declared providerSlug false rows fetched).rows =
        (fetched.filterMap (writeFor declared providerSlug rows)).foldl PriceWrite.apply rows := by
  have hloop : ∀ (ms : List FetchedModel) (s : RefreshState),
      (ms.foldl (refreshModel declared providerSlug false rows) s).writes =
          s.writes ++ ms.filterMap (writeFor declared providerSlug rows) ∧
        (ms.foldl (refreshModel declared providerSlug false rows) s).rows =
          (ms.filterMap (writeFor declared providerSlug rows)).foldl PriceWrite.apply s.rows := by
    intro ms
    induction ms with
    | nil => intro s; simp
    | cons m ms ih =>
      intro s
      obtain ⟨hwrites, hrows⟩ := refreshModel_eq declared providerSlug rows s m
      obtain ⟨ihwrites, ihrows⟩ := ih (refreshModel declared providerSlug false rows s m)
      rw [List.foldl_cons, ihwrites, ihrows, hwrites, hrows, List.filterMap_cons]
      cases writeFor declared providerSlug rows m with
      | none => simp
      | some w => simp
  have h := hloop fetched { rows }
  exact ⟨by rw [refreshProviderPrices, h.1, List.nil_append], h.2⟩

end Writes

end Gatewayz.Prices
