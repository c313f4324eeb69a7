import Mathlib.Data.List.Sort
import Gatewayz.Chat.Dispatch

/-!
# `Chat.Providers` — which providers a request may go to, and in which order

`prepare_upstream_request` takes the provider of a request and makes a chain of it:

* `buildProviderFailoverChain`, `enforceModelFailoverRules`, `filterByCircuitBreaker` — `services/provider_failover.py`: who is
  permitted (`permitted`);
* `reorderProviderChain` — `services/smart_router_bridge.py`: the smart router's order;
* `routeByHealth` — the last step, over `services/monitoring/health_routing.py`.
-/

namespace Gatewayz

/-! ## What routing reads -/

/-- The smart router's ranking of a model's offers: their providers, best first. There is one offer of each provider. -/
structure Ranking where
  slugs : List String
  nodup : slugs.Nodup

/-- The health of a model at a provider, as it is tracked. -/
structure ModelHealth where
  modelId : String
  provider : String
  status : String := "unknown"
  uptimePercentage : Option ℚ := none
  avgResponseTimeMs : Option ℚ := none

/-- What the choice of providers depends on, at one time. -/
structure Routing where
  /-- `ENABLED_PROVIDERS`: all of them if it is not set. -/
  enabledProviders : Option (List String) := none
  /-- The gateway registry: providers with their `failover_priority`. Nothing if it cannot be loaded. -/
  gateways : Option (List (String × Option Int)) := none
  /-- Does OpenRouter stream natively, according to the gateway registry? -/
  asyncStreaming : Bool := false
  aliases : String → Option String := fun _ => none
  detectProvider : String → Option String := fun _ => none
  /-- Is the model, under the provider's name for it, in the catalog? -/
  catalogued : String → String → Bool := fun _ _ => false
  /-- `is_model_available`. Nothing if it raises. -/
  modelAvailable : String → String → Option Bool := fun _ _ => some true
  smartRouterEnabled : Bool := false
  /-- Nothing if there are no offers, or the router fails. -/
  ranking : String → Option Ranking := fun _ => none
  /-- `total_models` of the system's health, and the health of the models. -/
  totalModels : Option Nat := none
  modelsHealth : List ModelHealth := []
  /-- The multi-provider registry. -/
  registered : String → Option (List ProviderConfig) := fun _ => none

/-! ## The failover chain -/

def applyModelAlias (aliases : String → Option String) (modelId : String) : String :=
  if modelId = "" then modelId
  else
    match (aliases (lower modelId)).filter (· ≠ "") with
    | none => modelId
    | some canonical =>
      if lower canonical = lower modelId then canonical
      else ((aliases (lower canonical)).filter (· ≠ "")).getD canonical

def fallbackProviderPriority : List String :=
  ["openai", "anthropic", "google-vertex", "openrouter", "cerebras", "featherless", "alibaba", "fireworks", "together"]

def openrouterSuffixLocks : List String := ["exacto", "free", "extended"]

/-- `_NATIVE_PROVIDER_PREFIXES`: the providers of a vendor's models, its own one first. -/
def nativeProviderPrefixes : List (String × String × List String) :=
  [("openai/", "openai", ["openrouter"]), ("gpt-", "openai", ["openrouter"]), ("anthropic/", "anthropic", ["openrouter"]),
    ("claude-", "anthropic", ["openrouter"]), ("x-ai/", "xai", []), ("xai/", "xai", [])]

/-- `s.startswith(p)`. -/
def startsWith (p s : String) : Bool := p.toList.isPrefixOf s.toList

/-- `s.split(":", 1)[1]`, if there is a colon. -/
def suffixOf (s : String) : Option String :=
  if s.toList.contains ':' then some (String.ofList ((s.toList.dropWhile (· ≠ ':')).drop 1)) else none

def reorderChainByRanking (chain rankedSlugs : List String) : List String :=
  let lead := rankedSlugs.filter chain.contains
  lead ++ chain.filter fun p => !(lead.contains p)

namespace Routing

variable (s : Routing)

def isProviderEnabled (slug : String) : Bool :=
  match s.enabledProviders with
  | none => true
  | some enabled => enabled.contains (String.ofList ((lower slug).toList.map fun c => if c = '_' then '-' else c))

def priorityLe (a b : Int × String) : Prop := a.1 < b.1 ∨ a.1 = b.1 ∧ a.2 ≤ b.2

instance : DecidableRel priorityLe := fun _ _ => inferInstanceAs (Decidable (_ ∨ _))

/-- `_get_failover_priority`. -/
def failoverPriority : List String :=
  let prioritized := (s.gateways.getD []).filterMap fun entry => entry.2.map fun priority => (priority, entry.1)
  let priority := if prioritized = [] then fallbackProviderPriority else (prioritized.insertionSort priorityLe).map Prod.snd
  priority.filter s.isProviderEnabled

def addMissing (chain : List String) (p : String) : List String := if chain.contains p then chain else chain ++ [p]

/-- The chain of an eligible provider: all others after it, and OpenRouter if there are none. -/
def eligibleChain (provider : String) : List String :=
  let chain := s.failoverPriority.foldl addMissing (if provider = "" then [] else [provider])
  if chain = [] ∨ chain = [provider] ∧ provider ≠ "openrouter" then addMissing chain "openrouter" else chain

def buildProviderFailoverChain (initialProvider : String) : List String :=
  let provider := if s.isProviderEnabled (lower initialProvider) then lower initialProvider else ""
  if s.failoverPriority.contains provider then s.eligibleChain provider
  else [if provider = "" then "openrouter" else provider]

def nativeFirst (native : String) (chain : List String) : List String :=
  if chain.contains native ∧ chain.head? ≠ some native then native :: chain.erase native else chain

/-- `enforce_model_failover_rules`. The checks of the suffix that come later in it, and its emergency for free models, are not
    reached: the first check has answered. `allow_payment_failover` makes no difference. -/
def enforceModelFailoverRules (modelId : String) (chain : List String) : List String :=
  if modelId = "" then chain
  else
    let normalized := lower (applyModelAlias s.aliases modelId)
    if (suffixOf normalized).any openrouterSuffixLocks.contains ∧ chain.contains "openrouter" then ["openrouter"]
    else
      match nativeProviderPrefixes.find? fun native => startsWith native.1 normalized with
      | some (_, native, others) =>
        let filtered := chain.filter fun p => (native :: others).contains p
        if filtered = [] then chain else nativeFirst native filtered
      | none => if startsWith "openrouter/" normalized ∧ chain.contains "openrouter" then ["openrouter"] else chain

def filterByCircuitBreaker (modelId : String) (chain : List String) : List String :=
  if modelId = "" ∨ chain = [] then chain
  else if chain.any fun p => (s.modelAvailable modelId p).isNone then chain
  else
    let available := chain.filter fun p => (s.modelAvailable modelId p).getD false
    if available = [] then chain.take 1 else available

/-- The providers that a model may go to, if the request's is `provider`. -/
def permitted (model provider : String) : List String :=
  s.filterByCircuitBreaker model (s.enforceModelFailoverRules model (s.buildProviderFailoverChain provider))

/-! ## The order -/

/-- `reorder_provider_chain`, if the smart router is enabled. -/
def reorderProviderChain (model : String) (chain : List String) : List String :=
  if s.smartRouterEnabled ∧ 2 ≤ chain.length then
    match s.ranking model with
    | some ranking => reorderChainByRanking chain ranking.slugs
    | none => chain
  else chain

def shouldUseHealthBasedRouting : Bool := 0 < s.totalModels.getD 0

/-- `is_model_healthy`: what is not tracked is healthy. -/
def isModelHealthy (modelId provider : String) : Bool :=
  match s.modelsHealth.find? fun m => m.modelId = modelId ∧ m.provider = provider with
  | none => true
  | some m => m.status ≠ "unhealthy" ∧ 50 ≤ m.uptimePercentage.getD 100

/-- More uptime first, then less response time. -/
def healthier (a b : ModelHealth) : Prop :=
  b.uptimePercentage.getD 0 < a.uptimePercentage.getD 0 ∨
    a.uptimePercentage.getD 0 = b.uptimePercentage.getD 0 ∧
      a.avgResponseTimeMs.getD 999999 ≤ b.avgResponseTimeMs.getD 999999

instance : DecidableRel healthier := fun _ _ => inferInstanceAs (Decidable (_ ∨ _))

/-- `get_healthy_alternative_provider`. -/
def healthyAlternativeProvider (modelId currentProvider : String) : Option String :=
  let alternatives := s.modelsHealth.filter fun m =>
    m.modelId = modelId ∧ m.provider ≠ currentProvider ∧ m.status = "healthy" ∧ 70 ≤ m.uptimePercentage.getD 0
  (alternatives.insertionSort healthier).head?.map ModelHealth.provider

/-- The alternative that the last step asks for, if the head of the chain is unhealthy. -/
def alternative (model : String) (chain : List String) : Option String :=
  match chain with
  | [] => none
  | primary :: _ =>
    if s.shouldUseHealthBasedRouting ∧ ¬ s.isModelHealthy model primary then
      (s.healthyAlternativeProvider model primary).filter (· ≠ "")
    else none

/-- The last step of `prepare_upstream_request`: a healthy alternative goes first, whether it is in the chain or not. -/
def routeByHealth (model : String) (chain : List String) : List String :=
  match s.alternative model chain with
  | some alt => if chain.contains alt then alt :: chain.filter (· ≠ alt) else alt :: chain
  | none => chain

/-- The chain that `prepare_upstream_request` answers. -/
def providerChain (model provider : String) : List String :=
  s.routeByHealth model (s.reorderProviderChain model (s.permitted model provider))

/-! ## The provider of a request -/

def providerName (provider : String) : String := if provider = "hug" then "huggingface" else provider

/-- The provider that `prepare_upstream_request` starts with. -/
def upstreamProvider (r : ChatRequest) : String :=
  let requested := r.provider.filter (· ≠ "")
  let provider := providerName (lower (requested.getD "openrouter"))
  match (s.detectProvider r.model).filter (· ≠ "") with
  | some detected => if requested.isSome then provider else providerName (lower detected)
  | none =>
    if requested.isSome then provider
    else
      (["huggingface", "featherless", "fireworks", "together", "google-vertex"].find? fun p =>
        s.catalogued r.model p).getD provider

/-- `prepare_upstream_request`, for a `max_tokens` that has been adjusted. -/
def prepareUpstreamRequest (r : ChatRequest) (maxTokens : Option Nat) : UpstreamPlan :=
  ⟨r.model, s.upstreamProvider r, s.providerChain r.model (s.upstreamProvider r), maxTokens⟩

/-! ## Clients -/

/-- `PROVIDER_ROUTING`, less what is disabled. -/
def providerRouting : List String :=
  ["featherless", "xai", "cerebras", "google-vertex", "alibaba-cloud", "openai", "anthropic", "deepinfra", "together",
    "fireworks", "groq", "zai", "deepseek", "moonshot", "minimax", "xiaomi", "meta"].filter s.isProviderEnabled

/-- Whom `_call_provider` and `_call_provider_stream` call: OpenRouter, if the provider is unknown. -/
def client (provider : String) : String :=
  if provider = "openrouter" ∧ s.asyncStreaming then "openrouter"
  else if s.providerRouting.contains provider then provider
  else "openrouter"

/-- The environment where providers are chosen like this. Providers of the registry may be disabled at any time. -/
def environment (env : ChatEnv) (enabled : Nat → ProviderConfig → Bool) : ChatEnv :=
  { env with
    answers := fun moment stmt =>
      match stmt with
      | .enabledProviders model => (s.registered model).map (List.filter (enabled moment))
      | .prepareUpstreamRequest r => s.prepareUpstreamRequest r (env.answers moment (.prepareUpstreamRequest r)).maxTokens
      | stmt => env.answers moment stmt }

end Routing

end Gatewayz
