import Gatewayz.Billing.Numerals

/-!
# `Chat.Pricing` — `services/pricing`, and the cost of a completion

A completion is billed by four counts of tokens and by the rates of a model. `get_model_pricing` finds the rates, in a
cache, the database, a file or the providers' catalog; here it is a **price book**, with an answer for every model id.

* `calculateCost` — two classes of tokens, input and output; a `:free` id is free if it looks like one of OpenRouter;
* `calculateCostWithCache` — four classes: input that the provider has in its cache has rates of its own;
* `lossProofCostSplit` — what a chat request is billed: by the requested model, or by the one that served it if that is
  more.
-/

namespace Gatewayz

/-! ## The price book -/

theorem zeroRate_nonneg : (0 : ℚ) ≤ 0 := le_refl 0
theorem noRate_nonneg : ∀ rate ∈ (none : Option ℚ), 0 ≤ rate := by simp

/-- The rates of a model, as every source delivers them: `max(0.0, …)`. -/
structure ModelPricing where
  prompt : ℚ
  completion : ℚ
  source : String := "database"
  found : Bool := true
  /-- Rates of the catalog for cached input, if it has any. -/
  cacheRead : Option ℚ := none
  cacheWrite : Option ℚ := none
  prompt_nonneg : 0 ≤ prompt := by first | exact zeroRate_nonneg | norm_num
  completion_nonneg : 0 ≤ completion := by first | exact zeroRate_nonneg | norm_num
  cacheRead_nonneg : ∀ rate ∈ cacheRead, 0 ≤ rate := by first | exact noRate_nonneg | simp
  cacheWrite_nonneg : ∀ rate ∈ cacheWrite, 0 ≤ rate := by first | exact noRate_nonneg | simp

/-- Three dollars for a million tokens of input, fifteen for a million of output. -/
def sonnetPrice : ModelPricing := { prompt := 3 / 1000000, completion := 15 / 1000000 }

/-- `get_model_pricing`. -/
abbrev PriceBook := String → Except PyErr ModelPricing

theorem usualMarkup_nonneg : (0 : ℚ) ≤ 5 / 4 := by norm_num

/-- `Config.PRICING_MARKUP`. -/
structure PricingConfig where
  pricingMarkup : ℚ := 5 / 4
  markup_nonneg : 0 ≤ pricingMarkup := by first | exact usualMarkup_nonneg | norm_num

/-! ## Free models -/

/-- `id.endswith(":free")`. -/
def isFreeId (modelId : String) : Bool := ":free".toList.isSuffixOf modelId.toList

/-- `id[:-5]`. -/
def withoutFree (modelId : String) : String := String.ofList (modelId.toList.take (modelId.length - 5))

/-- Is a `:free` id to be believed? It has a provider's prefix, or no name of one of these providers in it. -/
def isOpenrouterModel (modelId : String) : Bool :=
  textContains "/" modelId ||
    !(["anthropic", "google", "cohere", "mistral", "deepseek"].any fun provider => textContains provider (lower modelId))

/-- The id that `calculate_cost` looks up: a `:free` that is not believed is cut off. -/
def billedId (modelId : String) : String := if isFreeId modelId then withoutFree modelId else modelId

/-! ## Models with a price -/

/-- The lookup has found rates of the model's own, and not only zeros. -/
def ModelPricing.isPriced (pricing : ModelPricing) : Bool :=
  pricing.found && pricing.source ≠ "default" && !(pricing.prompt = 0 && pricing.completion = 0)

/-- `model_has_pricing`. An id without a price is refused; a `:free` that is believed needs none. -/
def modelHasPricing (prices : PriceBook) (modelId : String) : Except PyErr Bool :=
  if modelId = "" then .ok false
  else if isFreeId modelId ∧ isOpenrouterModel modelId then .ok true
  else
    match prices (billedId modelId) with
    | .error e => if e.kind = .valueError then .error e else .ok false
    | .ok pricing => .ok pricing.isPriced

/-! ## Two classes of tokens -/

def ModelPricing.plainCost (pricing : ModelPricing) (promptTokens completionTokens : Nat) : ℚ :=
  promptTokens * pricing.prompt + completionTokens * pricing.completion

/-- The cost of a thousand tokens, by the request's mixture of them. -/
def ModelPricing.costPer1k (pricing : ModelPricing) (promptTokens completionTokens : Nat) : ℚ :=
  pricing.plainCost promptTokens completionTokens / (promptTokens + completionTokens) * 1000

/-- The sanity check. A cost below the bounds is only logged, unless it comes from the default rates. -/
def ModelPricing.checkBounds (pricing : ModelPricing) (modelId : String) (promptTokens completionTokens : Nat) :
    Except PyErr Unit :=
  if promptTokens + completionTokens = 0 then .ok ()
  else if pricing.costPer1k promptTokens completionTokens < 1 / 10000 then
    if pricing.source = "default" then
      .error (.valueError
        ("Cannot use default pricing for model " ++ modelId ++
          ". Actual pricing data required to prevent under-billing."))
    else .ok ()
  else if 100 < pricing.costPer1k promptTokens completionTokens then
    .error (.valueError
      ("Pricing anomaly detected for " ++ modelId ++ ": $" ++
        formatFixed 2 (pricing.costPer1k promptTokens completionTokens) ++ " per 1K tokens. " ++
        "Request blocked to prevent overcharging. Please contact support."))
  else .ok ()

section Costs

variable (config : PricingConfig) (prices : PriceBook)

/-- The lookup, the check and the markup of `calculate_cost`. -/
def pricedCost (modelId : String) (promptTokens completionTokens : Nat) : Except PyErr ℚ := do
  let pricing ← prices modelId
  pricing.checkBounds modelId promptTokens completionTokens
  pure (pricing.plainCost promptTokens completionTokens * config.pricingMarkup)

/-- `except` in `calculate_cost`: a `ValueError` is raised again, anything else means the default rate. -/
def fallbackCost (modelId : String) (promptTokens completionTokens : Nat) (e : PyErr) : Except PyErr ℚ :=
  if e.kind = .valueError then .error e
  else if isFreeId modelId then .ok 0
  else .ok ((promptTokens + completionTokens) * (2 / 100000))

def calculateCost (modelId : String) (promptTokens completionTokens : Nat) : Except PyErr ℚ :=
  if isFreeId modelId ∧ isOpenrouterModel modelId then .ok 0
  else
    tryCatch (pricedCost config prices (billedId modelId) promptTokens completionTokens)
      (fallbackCost (billedId modelId) promptTokens completionTokens)

/-- `calculate_cost_async`: the same, by the rates of `get_model_pricing_async`. -/
def calculateCostAsync (modelId : String) (promptTokens completionTokens : Nat) : Except PyErr ℚ :=
  calculateCost config prices modelId promptTokens completionTokens

structure CostSplit where
  total : ℚ
  input : ℚ
  output : ℚ
  deriving DecidableEq

def calculateCostSplit (modelId : String) (promptTokens completionTokens : Nat) : Except PyErr CostSplit := do
  let total ← calculateCost config prices modelId promptTokens completionTokens
  if total = 0 then pure ⟨0, 0, 0⟩
  else
    match prices modelId with
    | .ok pricing =>
      pure
        ⟨total, promptTokens * pricing.prompt * config.pricingMarkup,
          completionTokens * pricing.completion * config.pricingMarkup⟩
    | .error _ => pure ⟨total, total, 0⟩

/-! ## Four classes of tokens -/

/-- The rates of cached input, as multiples of the input rate. -/
structure CacheMultipliers where
  read : ℚ
  write : ℚ

def providerCacheMultipliers : List (String × CacheMultipliers) :=
  [("anthropic", ⟨1 / 10, 5 / 4⟩), ("openai", ⟨1 / 2, 1⟩), ("google", ⟨1 / 4, 1⟩), ("google-vertex", ⟨1 / 4, 1⟩),
    ("deepseek", ⟨1 / 10, 1⟩)]

def defaultCacheMultipliers : CacheMultipliers := ⟨1, 1⟩

/-- `resolve_cache_multipliers`: by the provider, or else by the longest name of a provider in the id. -/
def resolveCacheMultipliers (modelId : String) (provider : Option String) : CacheMultipliers :=
  let byProvider :=
    (provider.filter (· ≠ "")).bind fun p =>
      List.lookup (lower (String.ofList (strip p.toList))) providerCacheMultipliers
  let longestFirst := ["google-vertex", "anthropic", "deepseek", "openai", "google"]
  let byId :=
    (longestFirst.find? fun key => textContains key (lower modelId)).bind fun key =>
      List.lookup key providerCacheMultipliers
  (byProvider.or byId).getD defaultCacheMultipliers

/-- The tokens of a completion. `prompt` is meant to contain the cached ones. -/
structure TokenCounts where
  prompt : Nat
  completion : Nat
  cacheRead : Nat := 0
  cacheWrite : Nat := 0
  deriving DecidableEq

/-- `split_prompt_tokens`: the input that was not cached. -/
def TokenCounts.uncached (t : TokenCounts) : Nat := t.prompt - t.cacheRead - t.cacheWrite

def ModelPricing.readRate (pricing : ModelPricing) (multipliers : CacheMultipliers) : ℚ :=
  (pricing.cacheRead.filter (· ≠ 0)).getD (pricing.prompt * multipliers.read)
def ModelPricing.writeRate (pricing : ModelPricing) (multipliers : CacheMultipliers) : ℚ :=
  (pricing.cacheWrite.filter (· ≠ 0)).getD (pricing.prompt * multipliers.write)

def ModelPricing.cachedInputCost (pricing : ModelPricing) (multipliers : CacheMultipliers) (t : TokenCounts) : ℚ :=
  t.uncached * pricing.prompt + t.cacheRead * pricing.readRate multipliers + t.cacheWrite * pricing.writeRate multipliers

/-- `calculate_cost_with_cache`: the total, the input's part and the output's. -/
def calculateCostWithCache (modelId : String) (t : TokenCounts) (provider : Option String) : Except PyErr CostSplit :=
  if t.cacheRead = 0 ∧ t.cacheWrite = 0 then do
    let total ← calculateCost config prices modelId t.prompt t.completion
    pure ⟨total, total, 0⟩
  else
    match prices modelId with
    | .error _ => do
      let total ← calculateCost config prices modelId t.prompt t.completion
      pure ⟨total, total, 0⟩
    | .ok pricing =>
      let input := pricing.cachedInputCost (resolveCacheMultipliers modelId provider) t
      let output := t.completion * pricing.completion
      .ok ⟨(input + output) * config.pricingMarkup, input * config.pricingMarkup, output * config.pricingMarkup⟩

/-- `calculate_cost_with_cache` returns the parts as well, and the counts that they are for. -/
structure CostBreakdown where
  totalCost : ℚ
  inputCost : ℚ
  outputCost : ℚ
  cacheReadCost : ℚ
  cacheWriteCost : ℚ
  cacheSavings : ℚ
  uncachedPromptTokens : Nat
  cacheReadTokens : Nat
  cacheWriteTokens : Nat
  deriving DecidableEq

/-- `calculate_cost_with_cache`, all that it returns. Where it comes to two classes of tokens, all of the cost is the input's. -/
def costBreakdown (modelId : String) (t : TokenCounts) (provider : Option String) : Except PyErr CostBreakdown :=
  if t.cacheRead = 0 ∧ t.cacheWrite = 0 then do
    let total ← calculateCost config prices modelId t.prompt t.completion
    pure ⟨total, total, 0, 0, 0, 0, t.prompt, 0, 0⟩
  else
    match prices modelId with
    | .error _ => do
      let total ← calculateCost config prices modelId t.prompt t.completion
      pure ⟨total, total, 0, 0, 0, 0, t.prompt, t.cacheRead, t.cacheWrite⟩
    | .ok pricing =>
      let multipliers := resolveCacheMultipliers modelId provider
      let cacheReadCost := t.cacheRead * pricing.readRate multipliers
      let cacheWriteCost := t.cacheWrite * pricing.writeRate multipliers
      let inputCost := t.uncached * pricing.prompt + cacheReadCost + cacheWriteCost
      let outputCost := t.completion * pricing.completion
      let total := (inputCost + outputCost) * config.pricingMarkup
      let uncachedEquivalent :=
        (((t.uncached + t.cacheWrite + t.cacheRead : ℕ) : ℚ) * pricing.prompt + outputCost) * config.pricingMarkup
      .ok
        ⟨total, inputCost * config.pricingMarkup, outputCost * config.pricingMarkup, cacheReadCost * config.pricingMarkup,
          cacheWriteCost * config.pricingMarkup, max 0 (uncachedEquivalent - total), t.uncached, t.cacheRead, t.cacheWrite⟩

/-! ## What a request is billed -/

def cacheAwareSplit (modelId : String) (t : TokenCounts) (provider : Option String) : Except PyErr CostSplit :=
  if t.cacheRead = 0 ∧ t.cacheWrite = 0 then calculateCostSplit config prices modelId t.prompt t.completion
  else calculateCostWithCache config prices modelId t provider

def ModelPricing.isReal (pricing : ModelPricing) : Bool :=
  pricing.source ≠ "default" && (0 < pricing.prompt || 0 < pricing.completion)

/-- The cost by the model that served the request, if it has a price of its own. -/
def servedSplit (served : String) (t : TokenCounts) (provider : Option String) : Except PyErr (Option CostSplit) := do
  let pricing ← prices served
  if pricing.isReal then
    let split ← cacheAwareSplit config prices served t provider
    pure (some split)
  else pure none

/-- `_loss_proof_cost_split`: whatever goes wrong with the served model, the requested model's cost stands. -/
def lossProofCostSplit (requested : String) (served : Option String) (t : TokenCounts) (provider : Option String) :
    Except PyErr CostSplit := do
  let base ← cacheAwareSplit config prices requested t provider
  match served.filter (· ≠ "") with
  | none => pure base
  | some served =>
    if served = requested then pure base
    else
      match servedSplit config prices served t provider with
      | .ok (some split) => if base.total < split.total then pure split else pure base
      | .ok none => pure base
      | .error _ => pure base

end Costs

/-! ## `services/billing/credit_precheck.py`

Before a request goes to a provider, its user must be able to pay for the most it can cost: the estimated input, and as much output as
`max_tokens` allows. A user who can pay for some of the output gets a smaller `max_tokens`. The check is skipped for an id that ends in `:free`.
 -/

section Precheck

variable (config : PricingConfig) (prices : PriceBook)

/-- What the check looks at: the estimate of the input, what the request allows as output, and what the model does. -/
structure PrecheckRequest where
  modelId : String
  inputTokens : Nat
  maxTokens : Option Nat
  modelMaxTokens : Nat := 4096
  deriving DecidableEq

def PrecheckRequest.maxOutputTokens (r : PrecheckRequest) : Nat := (r.maxTokens.filter (0 < ·)).getD r.modelMaxTokens

def calculateMaximumCost (r : PrecheckRequest) : Except PyErr ℚ :=
  calculateCost config prices r.modelId r.inputTokens r.maxOutputTokens

/-- `calculate_affordable_max_tokens`: nothing if no output can be paid for. -/
def calculateAffordableMaxTokens (r : PrecheckRequest) (userCredits : ℚ) : Except PyErr (Option Nat) :=
  match calculateCost config prices r.modelId r.inputTokens 0 with
  | .error e => if e.kind = .valueError then .ok none else .error e
  | .ok inputCost =>
    if userCredits - inputCost ≤ 0 then .ok none
    else do
      let pricing ← prices r.modelId
      let rate := pricing.completion * config.pricingMarkup
      if rate ≤ 0 then pure (some (2 ^ 31 - 1))
      else pure ((some (⌊(userCredits - inputCost) / rate⌋.toNat)).filter (0 < ·))

inductive PrecheckResult where
  | sufficient (maxCost : ℚ)
  | capped (maxCost : ℚ) (maxTokens : Nat)
  | insufficient (maxCost : ℚ)

/-- `estimate_and_check_credits`, with `check_credit_sufficiency` in it. -/
def estimateAndCheckCredits (r : PrecheckRequest) (userCredits : ℚ) : Except PyErr PrecheckResult := do
  let maxCost ← calculateMaximumCost config prices r
  if maxCost ≤ userCredits then pure (.sufficient maxCost)
  else do
    let affordable ← calculateAffordableMaxTokens config prices r userCredits
    match affordable with
    | some tokens => do
      let cappedCost ← calculateCost config prices r.modelId r.inputTokens tokens
      pure (.capped cappedCost tokens)
    | none => pure (.insufficient maxCost)

def insufficientCreditsForReservation : PyErr :=
  .httpException 402 "Insufficient credits for this request. Please add credits to continue."

/-- `ChatInferenceHandler._check_credit_sufficiency` for a signed-in user: the `max_tokens` to use. -/
def checkCreditSufficiency (r : PrecheckRequest) (userCredits : ℚ) : Except PyErr (Option Nat) :=
  if isFreeId r.modelId then .ok r.maxTokens
  else do
    let result ← estimateAndCheckCredits config prices r userCredits
    match result with
    | .sufficient _ => pure r.maxTokens
    | .capped _ tokens => pure (some tokens)
    | .insufficient _ => throw insufficientCreditsForReservation

end Precheck

end Gatewayz
