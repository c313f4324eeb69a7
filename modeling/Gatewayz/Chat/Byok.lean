import Gatewayz.Chat.Providers
import Gatewayz.Exec.Machine

/-!
# `Chat.Byok` — the customer's own key on its way to a provider

`_bind_byok` puts the key of the customer, if there is one, into a context variable for the time of a call; whoever builds the
client of the provider may look there.

* the context — `services/byok.py`;
* the pools of clients — `services/connection_pool.py`: they are shared by all requests, and used under a lock;
* the clients — `handlers/provider_registry.py` and the modules of the providers: one of them reads the context.

A call is one event: the context belongs to the task of the request, the pools change at once.
-/

namespace Gatewayz.Byok

open Exec

/-! ## The context -/

/-- `_byok_context`: a provider, and the key that is bound for it. -/
abbrev Context := Option (String × String)

def getByokKeyFor (ctx : Context) (providerSlug : String) : Option String :=
  match ctx with
  | some (provider, apiKey) => if provider = providerSlug then some apiKey else none
  | none => none

/-! ## The pools -/

/-- A client: whose interface it speaks to, where, and with which key. -/
structure Client where
  provider : String
  baseUrl : String
  apiKey : String
  deriving DecidableEq

/-- `_cache_key`, its two halves. -/
structure CacheKey where
  poolPrefix : String
  apiKeyHash : String
  deriving DecidableEq

abbrev Pool := List (CacheKey × Client)

structure Settings where
  byokEnabled : Bool
  /-- `is_provider_enabled` -/
  isEnabled : String → Bool := fun _ => true
  /-- The key in `Config` that the client of a provider is built with. -/
  platformKey : String → Option String
  /-- The first 16 digits of the SHA-256. -/
  sha256 : String → String
  /-- `xai_sdk` is installed. -/
  xaiSdk : Bool := true
  maxPoolSize : Nat := 50

def normalizeBaseUrl (baseUrl : String) : String :=
  let stripped := strip baseUrl.toList
  String.ofList (if stripped.getLast? = some '/' then stripped.dropLast else stripped)

def poolPrefix (provider baseUrl : String) : String := lower provider ++ "::" ++ normalizeBaseUrl baseUrl

section Pools

variable (s : Settings)

def apiKeyHash (apiKey : String) : String := if apiKey = "" then "no-key" else s.sha256 apiKey

def cacheKey (provider baseUrl apiKey : String) : CacheKey := ⟨poolPrefix provider baseUrl, apiKeyHash s apiKey⟩

/-- `get_pooled_client`: the client of the key, or a new one; then all others of the provider go. -/
def getPooledClient (pool : Pool) (provider baseUrl apiKey : String) : Client × Pool :=
  let key := cacheKey s provider baseUrl apiKey
  match pool.find? fun entry => entry.1 = key with
  | some entry => (entry.2, (pool.filter fun e => e.1 ≠ key) ++ [entry])
  | none =>
    let pool := if s.maxPoolSize ≤ pool.length then pool.drop 1 else pool
    let pool := pool.filter fun e => !startsWith (poolPrefix provider baseUrl) (e.1.poolPrefix ++ "::" ++ e.1.apiKeyHash)
    (⟨provider, baseUrl, apiKey⟩, pool ++ [(key, ⟨provider, baseUrl, apiKey⟩)])

end Pools

/-! ## The clients -/

/-- In one piece (`_call_provider`), or streamed (`_call_provider_stream`). -/
inductive Mode where
  | request
  | stream
  deriving DecidableEq

/-- `PROVIDER_ROUTING` -/
def routedProviders : List String :=
  ["featherless", "xai", "cerebras", "google-vertex", "alibaba-cloud", "openai", "anthropic", "deepinfra", "together", "fireworks",
    "groq", "zai", "deepseek", "moonshot", "minimax", "xiaomi", "meta"]

/-- The endpoints of the pooled clients. -/
def pooledEndpoints : List (String × String) :=
  [("openrouter", "https://openrouter.ai/api/v1"), ("featherless", "https://api.featherless.ai/v1"),
    ("fireworks", "https://api.fireworks.ai/inference/v1"), ("together", "https://api.together.xyz/v1"),
    ("xai", "https://api.x.ai/v1"), ("groq", "https://api.groq.com/openai/v1"), ("zai", "https://api.z.ai/api/paas/v4/"),
    ("openai", "https://api.openai.com/v1"), ("anthropic", "https://api.anthropic.com/v1")]

/-- The endpoints of those that are built for each call. (Those of Google and Alibaba depend on the region.) -/
def directEndpoints : List (String × String) :=
  [("xai", "https://api.x.ai/v1"), ("cerebras", "https://api.cerebras.ai/v1"),
    ("deepinfra", "https://api.deepinfra.com/v1/openai"), ("deepseek", "https://api.deepseek.com/v1"),
    ("moonshot", "https://api.moonshot.ai/v1"), ("minimax", "https://api.minimax.io/v1"), ("xiaomi", "https://api.xiaomimimo.com/v1"),
    ("meta", "https://api.meta.ai/v1")]

structure Pools where
  sync : Pool := []
  async : Pool := []

section Calls

variable (s : Settings)

/-- Whose client a provider's calls go through: its own, or, if it is unknown or disabled, that of OpenRouter. -/
def clientOf (provider : String) : String :=
  if routedProviders.contains provider && s.isEnabled provider then provider else "openrouter"

/-- The key of a client. `get_openrouter_pooled_client` asks the context; `get_openrouter_async_client` does not, nor do the
    clients of the other providers. -/
def upstreamKey (ctx : Context) (mode : Mode) (client : String) : Option String :=
  match (s.platformKey client).filter (· ≠ "") with
  | none => none
  | some platformKey =>
    if client = "openrouter" ∧ mode = .request then
      some (((getByokKeyFor ctx "openrouter").filter (· ≠ "")).getD platformKey)
    else some platformKey

/-- Where the pooled client of a provider speaks to, if it has one. -/
def pooledEndpoint (client : String) : Option String :=
  if client = "xai" ∧ s.xaiSdk then none else pooledEndpoints.lookup client

/-- The client of a call, if it has a key. -/
def acquireClient (ctx : Context) (mode : Mode) (client : String) (pools : Pools) : Option Client × Pools :=
  match upstreamKey s ctx mode client with
  | none => (none, pools)
  | some apiKey =>
    match pooledEndpoint s client with
    | none => (some ⟨client, (directEndpoints.lookup client).getD "", apiKey⟩, pools)
    | some baseUrl =>
      if client = "openrouter" ∧ mode = .stream then
        let (c, pool) := getPooledClient s pools.async client baseUrl apiKey
        (some c, { pools with async := pool })
      else
        let (c, pool) := getPooledClient s pools.sync client baseUrl apiKey
        (some c, { pools with sync := pool })

structure ProviderCall where
  user : Option Int
  provider : String
  mode : Mode
  /-- `get_decrypted_provider_key`: what is stored, and can be read, at the time. -/
  stored : Int → String → Option String

/-- `resolve_byok_key` -/
def ProviderCall.ownKey (c : ProviderCall) : Option String := (c.user.bind fun u => c.stored u c.provider).filter (· ≠ "")

/-- `_bind_byok` -/
def bindContext (c : ProviderCall) : Context := if s.byokEnabled then c.ownKey.map fun apiKey => (c.provider, apiKey) else none

/-- What comes of a call: its client, and `is_byok`, which is recorded if the call is answered. -/
structure CallReply where
  client : Option Client
  isByok : Bool

/-- `_call_provider` and `_call_provider_stream`, up to the answer. -/
def callThrough (c : ProviderCall) (pools : Pools) : CallReply × Pools :=
  let ctx := bindContext s c
  let (client, pools) := acquireClient s ctx c.mode (clientOf s c.provider) pools
  (⟨client, ctx.isSome⟩, pools)

/-- The calls of all requests, one after the other. -/
def callMachine : Machine Pools ProviderCall CallReply where
  init := {}
  step := fun pools c => some ((callThrough s c pools).2, (callThrough s c pools).1)

end Calls

end Gatewayz.Byok
