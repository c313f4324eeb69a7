import Gatewayz.Catalog.CrossReference
import Gatewayz.Catalog.StoredPrices
import Mathlib.Data.String.Basic

/-!
# `Catalog.DriftAudit` — the nightly audit of prices

`services/billing/pricing_drift_monitor.py`. What is billed is the price of the catalog times a markup. The audit goes through the active
models of the providers that are enabled and compares that with the price of a reference catalog.

The models of a provider are read page by page (`get_models_by_provider_slug`). What a load meets on the way is given (`LoadRun`), as is
the order in which a set is run through.
-/

namespace Gatewayz.DriftAudit

open Exec.Dictionary StoredPrices Prices CrossReference

/-! ## The models of a provider -/

/-- What a load meets at each page: the deadline has passed before it is asked for, or the query raises. -/
structure LoadRun where
  late : Nat → Bool := fun _ => false
  fails : Nat → Bool := fun _ => false

/-- The loop over the pages; nothing, if it raises. There is a page for each thousand models, and an empty one behind them. -/
def loadPages (run : LoadRun) : Nat → Nat → List ModelRow → Option (List ModelRow)
  | 0, _, _ => some []
  | fuel + 1, page, models =>
    if run.late page then some []
    else if run.fails page then none
    else if (models.take pageSize).length < pageSize then some (models.take pageSize)
    else (loadPages run fuel (page + 1) (models.drop pageSize)).map fun rest => models.take pageSize ++ rest

def activeModels (rows : List ModelRow) (slug : String) : List ModelRow :=
  sortOn ModelRow.modelName (rows.filter fun row => row.isActive && row.providerSlug = slug)

/-- `get_models_by_provider_slug`: a load that raises has no models. -/
def getModelsByProviderSlug (rows : List ModelRow) (slug : String) (run : LoadRun) : List ModelRow :=
  let models := activeModels rows slug
  (loadPages run (models.length + 1) 0 models).getD []

/-! ## One model -/

/-- `_model_identifier`; an empty one is none. -/
def modelIdentifier (model : ModelRow) : String := if model.providerModelId = "" then model.modelName else model.providerModelId

/-- `_to_float` -/
def toFloatOrNone (text : PyValue) : Option ℚ := (amount text).toOption

/-- The members of `candidate_ids`. -/
def auditCandidates (model : ModelRow) : List String :=
  let modelId := modelIdentifier model
  if model.modelName = "" ∨ model.modelName = modelId then [modelId] else [modelId, model.modelName]

/-- `_our_catalog_pricing`: what is looked up for the two sides. -/
def ourCatalogPricing (rows : List ModelRow) (setOrder : List String → List String) (model : ModelRow) : Option ℚ × Option ℚ :=
  match resolvePricingFromDb rows (setOrder (auditCandidates model)) with
  | none => (none, none)
  | some price => (toFloatOrNone price.prompt, toFloatOrNone price.completion)

/-- An entry of `drift`. -/
structure DriftEntry where
  modelId : String
  provider : String
  ourIn : Option ℚ
  ourOut : Option ℚ
  refIn : Option ℚ
  refOut : Option ℚ
  markup : ℚ
  deficitPct : ℚ

/-- An entry of `unpriced`. -/
structure UnpricedEntry where
  modelId : String
  provider : String
  missing : List String

inductive Verdict where
  | clean
  | unpriced (entry : UnpricedEntry)
  | drift (entry : DriftEntry)

def isMissing (price : Option ℚ) : Bool := price.all (· ≤ 0)

/-- The deficit of one side, in percent of the reference. -/
def deficit (markup : ℚ) : Option ℚ → Option ℚ → Option ℚ
  | some our, some ref => if 0 < ref ∧ our * markup < ref then some ((ref - our * markup) / ref * 100) else none
  | _, _ => none

/-- The comparison of one model with its reference. -/
def compare (markup : ℚ) (provider modelId : String) (our : Option ℚ × Option ℚ) (ref : PriceTable) : Verdict :=
  match (deficit markup our.1 ref.prompt).toList ++ (deficit markup our.2 ref.completion).toList with
  | [] => .clean
  | first :: rest => .drift ⟨modelId, provider, our.1, our.2, ref.prompt, ref.completion, markup, rest.foldl max first⟩

/-- The reference of a model. The reference catalog has none for its own models. -/
def referencePricing (index : List (String × PriceTable)) (provider modelId : String) : Option PriceTable :=
  if lower provider = "openrouter" then none
  else getCrossReferencePricing false index modelId (some provider)

/-- What is reported of a model, by its two prices and its reference. -/
def judge (markup : ℚ) (provider modelId : String) (our : Option ℚ × Option ℚ) (ref : Option PriceTable) : Verdict :=
  if isMissing our.1 ∧ isMissing our.2 then .unpriced ⟨modelId, provider, ["input", "output"]⟩
  else
    match ref with
    | none => .clean
    | some table => compare markup provider modelId our table

/-! ## The audit -/

structure AuditInput where
  /-- `Config.PRICING_MARKUP` -/
  markup : ℚ
  /-- The catalog that `_build_openrouter_pricing_index` reads. -/
  reference : List ReferenceModel
  providerSlugs : List String
  /-- `Config.ENABLED_PROVIDERS` -/
  enabled : Option (List String)
  rows : List ModelRow
  load : String → LoadRun

/-- The providers that matter: an empty list of those enabled is as good as none. -/
def AuditInput.slugs (input : AuditInput) : List String :=
  match input.enabled with
  | none => input.providerSlugs
  | some [] => input.providerSlugs
  | some enabled => input.providerSlugs.filter (· ∈ enabled)

/-- The models that are looked at, each with its provider. A model without an id is not. -/
def AuditInput.examined (input : AuditInput) : List (String × ModelRow) :=
  input.slugs.flatMap fun slug =>
    ((getModelsByProviderSlug input.rows slug (input.load slug)).filter fun model => modelIdentifier model ≠ "").map fun model =>
      (slug, model)

structure Report where
  checked : Nat
  drift : List DriftEntry
  unpriced : List UnpricedEntry
  worstDeficitPct : ℚ
  ok : Bool

/-- The lists that the loop over the models appends to. -/
structure Findings where
  checked : Nat := 0
  drift : List DriftEntry := []
  unpriced : List UnpricedEntry := []

def Findings.add (found : Findings) : Verdict → Findings
  | .clean => { found with checked := found.checked + 1 }
  | .unpriced entry => { found with checked := found.checked + 1, unpriced := found.unpriced ++ [entry] }
  | .drift entry => { found with checked := found.checked + 1, drift := found.drift ++ [entry] }

/-- What is reported of a model that is looked at. -/
def AuditInput.verdict (input : AuditInput) (setOrder : List String → List String) (provider : String) (model : ModelRow) : Verdict :=
  let modelId := modelIdentifier model
  judge input.markup provider modelId (ourCatalogPricing input.rows setOrder model)
    (referencePricing (buildIndex input.reference) provider modelId)

def auditPricingDrift (input : AuditInput) (setOrder : List String → List String) : Report :=
  let found : Findings := input.examined.foldl (fun found entry => found.add (input.verdict setOrder entry.1 entry.2)) {}
  let drift := sortOn (fun entry => -entry.deficitPct) found.drift
  { checked := found.checked
    drift := drift
    unpriced := found.unpriced
    worstDeficitPct := (drift.head?.map DriftEntry.deficitPct).getD 0
    ok := drift.isEmpty && found.unpriced.isEmpty }

end Gatewayz.DriftAudit
