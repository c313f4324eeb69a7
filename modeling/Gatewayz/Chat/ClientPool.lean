import Gatewayz.Chat.Byok

/-!
# `Chat.ClientPool` — clients that requests share, and who closes them

`get_pooled_client` keeps a client for a provider, an address and a key; `get_pooled_async_client` does the same in a pool of its own. A
request goes on using its client after the pool has let go of it, and a client that is closed serves nobody.

The synchronous pool closes a client that leaves it, whoever else has it. The other one schedules the closing of the oldest client, if
an event loop is running, and leaves the others of the provider open.
-/

namespace Gatewayz.ClientPool

open Exec
open Byok (Settings poolPrefix apiKeyHash)

structure Timeout where
  connect : Option ℚ
  read : Option ℚ
  write : Option ℚ
  pool : Option ℚ
  deriving DecidableEq

def defaultTimeout : Timeout := ⟨some 5, some 60, some 10, some 5⟩

structure Wanted where
  provider : String
  baseUrl : String
  apiKey : String
  defaultHeaders : Option (List (String × String)) := none
  timeout : Option Timeout := none

/-- An `OpenAI` or `AsyncOpenAI`, and which one it is. -/
structure Client where
  id : ℕ
  baseUrl : String
  apiKey : String
  defaultHeaders : List (String × String)
  timeout : Timeout
  deriving DecidableEq

/-- The client that is built for a request. -/
def Wanted.build (wanted : Wanted) (id : ℕ) : Client where
  id := id
  baseUrl := wanted.baseUrl
  apiKey := wanted.apiKey
  defaultHeaders := wanted.defaultHeaders.getD []
  timeout := wanted.timeout.getD defaultTimeout

/-- `_client_pool`, or `_async_client_pool`. -/
inductive Kind where
  | sync
  | async

abbrev Pool := List (String × Client)

/-- A pool, the one that was used last at its end; and what has become of its clients. -/
structure PoolState where
  pool : Pool := []
  built : ℕ := 0
  closed : List ℕ := []
  /-- The clients that requests are using, each as often as it is used. -/
  inUse : List Client := []

section Get

variable (s : Settings) (kind : Kind)

/-- `_cache_key`, with `_async` behind it in the other pool. -/
def cacheKey (wanted : Wanted) : String :=
  poolPrefix wanted.provider wanted.baseUrl ++ "::" ++ apiKeyHash s wanted.apiKey ++
    match kind with
    | .sync => ""
    | .async => "_async"

def findClient (pool : Pool) (wanted : Wanted) : Option (String × Client) := pool.find? fun e => e.1 = cacheKey s kind wanted

/-- Does the pool close the oldest client? `create_task` needs a loop that is running. -/
def closesOldest (loopRunning : Bool) : Bool :=
  match kind with
  | .sync => true
  | .async => loopRunning

/-- `_evict_sync_clients` closes, `_evict_async_clients` does not. -/
def closesStale : Bool :=
  match kind with
  | .sync => true
  | .async => false

/-- `key.startswith(prefix)` -/
def isStale (wanted : Wanted) (e : String × Client) : Bool := startsWith (poolPrefix wanted.provider wanted.baseUrl) e.1

/-- The oldest client, if the pool is full. -/
def oldest (pool : Pool) : Pool := if s.maxPoolSize ≤ pool.length then pool.take 1 else []

/-- What stays but for those of the provider. -/
def younger (pool : Pool) : Pool := if s.maxPoolSize ≤ pool.length then pool.drop 1 else pool

/-- The clients that a request closes if it finds none. -/
def closing (loopRunning : Bool) (pool : Pool) (wanted : Wanted) : List Client :=
  ((if closesOldest kind loopRunning then oldest s pool else []) ++
    if closesStale kind then (younger s pool).filter (isStale wanted) else []).map Prod.snd

/-- `get_pooled_client` and `get_pooled_async_client`, under the lock. `popitem` of an empty pool raises. -/
def getPooledClient (loopRunning : Bool) (st : PoolState) (wanted : Wanted) : Option Client × PoolState :=
  match findClient s kind st.pool wanted with
  | some e => (some e.2, { st with pool := (st.pool.filter fun e => e.1 ≠ cacheKey s kind wanted) ++ [e] })
  | none =>
    if s.maxPoolSize ≤ st.pool.length ∧ st.pool = [] then (none, st)
    else
      let client := wanted.build st.built
      (some client,
        { st with
          pool := ((younger s st.pool).filter fun e => !isStale wanted e) ++ [(cacheKey s kind wanted, client)]
          built := st.built + 1
          closed := st.closed ++ (closing s kind loopRunning st.pool wanted).map Client.id })

/-- What requests do: one asks for a client, and one is done with its client. -/
inductive PoolEvent where
  | get (wanted : Wanted) (loopRunning : Bool)
  | done (client : Client)

/-- The requests of all tenants, in any order; the reply is the client that was handed out. -/
def poolMachine : Machine PoolState PoolEvent (Option Client) where
  init := {}
  step := fun st e =>
    match e with
    | .get wanted loopRunning =>
      let (client, st') := getPooledClient s kind loopRunning st wanted
      some ({ st' with inUse := client.toList ++ st'.inUse }, client)
    | .done client => some ({ st with inUse := st.inUse.erase client }, none)

end Get

end Gatewayz.ClientPool
