import Gatewayz.Billing.Python

/-!
# `Catalog.PriceUnits` — fetched prices, and what the full sync stores of them

A unit error raises nothing, so the steps between a fetched model and its stored price are spelled out here as the full sync
takes them: the four prices as decimals, zero for free models, a conversion by the provider's declared format unless the
price came from enrichment and is per token already, and a floor below which a price is taken for a conversion error.

Prices are exact. `extract_pricing`, which both jobs call, is taken as done: a fetched model comes with its four prices as
finite decimals, each known or unknown.
-/

namespace Gatewayz.Prices

/-! ## Fields and formats -/

/-- `("prompt", "completion", "image", "request")`. -/
inductive PriceField where
  | prompt
  | completion
  | image
  | request

def PriceField.all : List PriceField := [.prompt, .completion, .image, .request]

@[simp] theorem PriceField.mem_all (f : PriceField) : f ∈ PriceField.all := by
  cases f <;> simp [PriceField.all]

structure PriceTable where
  prompt : Option ℚ := none
  completion : Option ℚ := none
  image : Option ℚ := none
  request : Option ℚ := none
  deriving DecidableEq

namespace PriceTable

def get (p : PriceTable) : PriceField → Option ℚ
  | .prompt => p.prompt
  | .completion => p.completion
  | .image => p.image
  | .request => p.request

def map (p : PriceTable) (f : Option ℚ → Option ℚ) : PriceTable :=
  ⟨f p.prompt, f p.completion, f p.image, f p.request⟩

@[simp] theorem get_map (p : PriceTable) (g : Option ℚ → Option ℚ) (f : PriceField) : (p.map g).get f = g (p.get f) := by
  cases f <;> rfl

theorem ext_get {p q : PriceTable} (h : ∀ f, p.get f = q.get f) : p = q := by
  obtain ⟨a, b, c, d⟩ := p
  obtain ⟨a', b', c', d'⟩ := q
  have hprompt : a = a' := h .prompt
  have hcompletion : b = b' := h .completion
  have himage : c = c' := h .image
  have hrequest : d = d' := h .request
  rw [hprompt, hcompletion, himage, hrequest]

def isEmpty (p : PriceTable) : Bool := PriceField.all.all (fun f => (p.get f).isNone)

/-- `pricing_raw`, where it is not empty. -/
def orNone (p : PriceTable) : Option PriceTable := if p.isEmpty then none else some p

end PriceTable

inductive PricingFormat where
  | perToken
  | per1kTokens
  | per1mTokens
  deriving DecidableEq

/-- How many tokens a price is for. -/
def PricingFormat.tokens : PricingFormat → ℚ
  | .perToken => 1
  | .per1kTokens => 1000
  | .per1mTokens => 1000000

theorem PricingFormat.tokens_pos (format : PricingFormat) : 0 < format.tokens := by
  cases format <;> norm_num [PricingFormat.tokens]

theorem PricingFormat.one_lt_tokens {format : PricingFormat} (h : format ≠ .perToken) : 1 < format.tokens := by
  cases format with
  | perToken => exact absurd rfl h
  | per1kTokens => norm_num [PricingFormat.tokens]
  | per1mTokens => norm_num [PricingFormat.tokens]

/-- `normalize_to_per_token`: a negative price is dynamic pricing, and no price. -/
def normalizeToPerToken (price : Option ℚ) (sourceFormat : PricingFormat) : Option ℚ :=
  match price with
  | none => none
  | some p =>
    if p < 0 then none
    else if p = 0 then some 0
    else
      match sourceFormat with
      | .perToken => some p
      | .per1kTokens => some (p / 1000)
      | .per1mTokens => some (p / 1000000)

theorem normalizeToPerToken_pos {p : ℚ} (hp : 0 < p) (format : PricingFormat) :
    normalizeToPerToken (some p) format = some (p / format.tokens) := by
  have hnot : ¬ p < 0 := not_lt.mpr hp.le
  cases format with
  | perToken => simp [normalizeToPerToken, PricingFormat.tokens, hnot, hp.ne']
  | per1kTokens => simp [normalizeToPerToken, PricingFormat.tokens, hnot, hp.ne']
  | per1mTokens => simp [normalizeToPerToken, PricingFormat.tokens, hnot, hp.ne']

theorem normalizeToPerToken_neg {p : ℚ} (hp : p < 0) (format : PricingFormat) :
    normalizeToPerToken (some p) format = none := by
  simp [normalizeToPerToken, hp]

/-- `get_provider_format`, over the declared formats. A provider that declares none, or one unknown, is per million; so is
a gateway that is `None`, which has no `lower`. -/
def getProviderFormat (declared : String → Option String) (providerSlug : Option String) : PricingFormat :=
  match providerSlug with
  | none => .per1mTokens
  | some slug =>
    match declared (lower slug) with
    | some "per_token" => .perToken
    | some "per_1k" => .per1kTokens
    | some "per_1m" => .per1mTokens
    | _ => .per1mTokens

/-! ## Fetched models -/

/-- A model as a fetch function returns it, as far as identity and price go. -/
structure FetchedModel where
  id : Option String := none
  slug : Option String := none
  providerModelId : Option String := none
  name : Option String := none
  modelId : Option String := none
  isFree : Bool := false
  /-- What `extract_pricing` makes of its `pricing`. -/
  pricing : PriceTable
  /-- Set by `enrich_model_with_pricing`. -/
  pricingSource : Option String := none
  /-- Whether the key is there, and its value. -/
  sourceGateway : Option (Option String) := none

/-- `a or b or c`: the first text that is there and not empty. -/
def firstText : List (Option String) → Option String
  | [] => none
  | some s :: rest => if s = "" then firstText rest else some s
  | none :: rest => firstText rest

namespace FetchedModel

/-- `provider_model_id`. -/
def pmid (m : FetchedModel) : Option String := firstText [m.providerModelId, m.id, m.slug]

def modelName (m : FetchedModel) : Option String := firstText [m.name, m.modelId, m.id]

/-- `normalized_model.get("source_gateway", provider_slug)`. -/
def gateway (m : FetchedModel) (providerSlug : String) : Option String := m.sourceGateway.getD (some providerSlug)

def format (m : FetchedModel) (declared : String → Option String) (providerSlug : String) : PricingFormat :=
  getProviderFormat declared (m.gateway providerSlug)

/-- `already_per_token`: the price came from enrichment. -/
def alreadyPerToken (m : FetchedModel) : Bool :=
  let source := ((m.pricingSource.getD "").map fun c => if c = '-' then '_' else c)
  ["manual", "database", "cross_reference"].contains source

def pricingOrFree (m : FetchedModel) : PriceTable := if m.isFree then ⟨some 0, some 0, some 0, some 0⟩ else m.pricing

end FetchedModel

/-- One price, converted: unknown and zero prices stay, a price without a value becomes zero. -/
def convert (format : PricingFormat) (price : Option ℚ) : Option ℚ :=
  match price with
  | none => none
  | some p => if p = 0 then some 0 else some ((normalizeToPerToken (some p) format).getD 0)

def priceFloor : ℚ := 1 / 100000000000

/-- One price past the sanity gate: anything below the floor but zero is refused. -/
def gate (price : Option ℚ) : Option ℚ :=
  match price with
  | none => none
  | some p => if p ≠ 0 ∧ p < priceFloor then none else some p

/-- The prices that `transform_normalized_model_to_db_schema` stores. -/
def syncPricing (declared : String → Option String) (providerSlug : String) (m : FetchedModel) : PriceTable :=
  let format := m.format declared providerSlug
  let perToken :=
    if m.alreadyPerToken = false ∧ format ≠ .perToken then m.pricingOrFree.map (convert format) else m.pricingOrFree
  perToken.map gate

/-- A row for the `models` table, as far as status and metadata go. -/
structure DbModel where
  providerModelId : String
  isActive : Bool
  delistReason : Option String
  pricingRaw : Option PriceTable

/-- `capabilities["is_free"]`. -/
def FetchedModel.countsAsFree (m : FetchedModel) : Bool :=
  m.isFree || (":free".toList).isSuffixOf (lower ((firstText [m.id, m.slug]).getD "")).toList

/-- `transform_normalized_model_to_db_schema`: nothing without an identifier or a name. -/
def transformNormalizedModel (declared : String → Option String) (providerSlug : String) (providerActive : Bool)
    (m : FetchedModel) : Option DbModel := do
  let providerModelId ← m.pmid
  let _ ← m.modelName
  let pricing := syncPricing declared providerSlug m
  let isPriced := m.countsAsFree || decide (pricing.prompt.getD 0 ≠ 0)
  let isActive := isPriced && providerActive
  let delistReason :=
    if isActive then none else if providerActive then some "unpriced" else some "no_routable_provider"
  return { providerModelId, isActive, delistReason, pricingRaw := pricing.orNone }

end Gatewayz.Prices
