import Gatewayz.Chat.Anonymous
import Gatewayz.Chat.Providers
import Gatewayz.Keys.Acceptance

/-!
# `Middleware.Security` — the limit on requests without a key

`SecurityMiddleware` of `middleware/security_middleware.py`, and what a request without a valid key meets behind it: it counts the
requests of an address in fixed minutes, in Redis or, where Redis is missing or fails, in a dictionary of the process.

* `getClientIp`, `isAuthenticatedRequest` — whose request it is, and whether it is counted at all: both are read off headers;
* `checkLimit` — the two counters, and the cleanup of the local one;
* `inbound` — `dispatch`, up to `call_next`; `recordOutcome` — what it does with the answer;

Requests overlap: an answer is recorded in an event of its own.
-/

namespace Gatewayz.Security

open Exec

/-! ## Requests -/

inductive Route where
  /-- `chat_completions` -/
  | chat (model : String) (messages : ChatMessages) (stream : Bool)
  /-- A route that asks for no key, such as the catalog. -/
  | open
  /-- A route that refuses who has no key. -/
  | keyed

/-- A request. All but the first two fields are the client's to choose. -/
structure Request where
  /-- The true address, which the proxy of the platform appends to `X-Forwarded-For`. -/
  peer : String
  /-- `request.client.host`: the proxy. -/
  host : Option String := none
  method : String := "GET"
  path : String := "/v1/models"
  contentType : String := ""
  forwardedFor : Option String := none
  realIp : String := ""
  authorization : String := ""
  referer : Option String := none
  route : Route := .open

/-- `X-Forwarded-For` as it arrives. -/
def Request.forwarded (r : Request) : String :=
  match r.forwardedFor with
  | none => r.peer
  | some value => value ++ ", " ++ r.peer

/-- `_get_client_ip`: the first entry. -/
def getClientIp (r : Request) : String :=
  if r.forwarded ≠ "" then String.ofList (strip (r.forwarded.toList.takeWhile (· ≠ ','))) else r.host.getD "unknown"

/-- `_is_authenticated_request`: what looks like a key. -/
def isAuthenticatedRequest (authHeader : String) : Bool :=
  if authHeader = "" then false
  else if startsWith "Bearer " authHeader && 20 < authHeader.length then true
  else if startsWith "gw_" authHeader && 30 < authHeader.length then true
  else 20 < authHeader.length && !startsWith "Bearer " authHeader

/-- `s.replace(pattern, "")`, with the characters still to be left out. -/
def withoutAll (pattern : List Char) : Nat → List Char → List Char
  | _, [] => []
  | skip + 1, _ :: cs => withoutAll pattern skip cs
  | 0, c :: cs => if pattern.isPrefixOf (c :: cs) then withoutAll pattern (pattern.length - 1) cs else c :: withoutAll pattern 0 cs

def tierKey (authHeader : String) : String := String.ofList (strip (withoutAll "Bearer ".toList 0 authHeader.toList))

/-- `_get_user_tier_from_request`, with what `get_user` knows: the tier of the user, if there is one. -/
def getUserTier (userTier : String → Option (Option String)) (authHeader : String) : Option String :=
  if authHeader = "" ∨ ¬ startsWith "gw_" (tierKey authHeader) then some "basic"
  else (userTier (tierKey authHeader)).getD (some "basic")

/-- `_validate_content_type`: is the request refused? -/
def unsupportedMediaType (r : Request) : Bool :=
  ["POST", "PUT", "PATCH"].contains r.method && startsWith "/v1/" r.path && r.contentType ≠ "" &&
    !(["application/json", "multipart/form-data", "application/x-www-form-urlencoded"].contains
      (lower (String.ofList (strip (r.contentType.toList.takeWhile (· ≠ ';'))))))

def exemptPaths : List String := ["/health", "/metrics", "/api/health", "/favicon.ico"]

/-! ## Velocity mode -/

/-- `DEFAULT_IP_LIMIT`, requests a minute. -/
def defaultIpLimit : Nat := 300

/-- `_request_log` and `_velocity_mode_until`. -/
structure Velocity where
  /-- When, whether it counts as an error, and the status; the oldest first. -/
  requestLog : List (ℚ × Bool × Nat) := []
  activeUntil : ℚ := 0

def velocityTierMultipliers : List (Option String × ℚ) :=
  [(some "basic", 1 / 2), (some "pro", 3 / 4), (some "max", 9 / 10), (some "admin", 1)]

namespace Velocity

/-- `_is_velocity_mode_active` -/
def active (v : Velocity) (now : ℚ) : Bool := now < v.activeUntil

/-- `_get_effective_limit` -/
def effectiveLimit (v : Velocity) (now : ℚ) (baseLimit : Nat) (userTier : Option String) : Nat :=
  if v.active now then max 1 ⌊baseLimit * (velocityTierMultipliers.lookup userTier).getD (1 / 2)⌋₊ else baseLimit

/-- `_record_request_outcome` -/
def record (v : Velocity) (now : ℚ) (status : Nat) (duration : ℚ) : Velocity :=
  let isError : Bool := 500 ≤ status ∨ status = 499 ∧ 5 < duration
  let log := v.requestLog ++ [(now, isError, status)]
  -- `deque(maxlen=10000)`
  { v with requestLog := (log.drop (log.length - 10000)).dropWhile fun entry => entry.1 < now - 60 }

/-- `_check_and_activate_velocity_mode` -/
def check (v : Velocity) (now : ℚ) : Velocity :=
  let recent := v.requestLog.filter fun entry => now - 60 ≤ entry.1
  if v.active now ∨ recent.length < 100 then v
  else if recent.length ≤ 4 * (recent.filter fun entry => entry.2.1).length then { v with activeUntil := now + 180 }
  else v

end Velocity

/-! ## The counters -/

/-- `sec_rl:{key}:{bucket}` -/
structure LimitKey where
  key : String
  bucket : Int
  deriving DecidableEq

structure Counter where
  count : Nat
  expiresAt : Option ℚ

/-- What happens to the two commands of Redis, if they are sent. -/
structure RedisLink where
  incr : Outcome Unit := .served
  expire : Outcome Unit := .served

/-- Redis, if there is a client for it, and `_local_cache`. -/
structure Limiter where
  redis : Option (LimitKey → Option Counter)
  localCache : LimitKey → Option Nat := fun _ => none
  lastCleanup : ℚ := 0

/-- `int(time.time()) // 60` -/
def minuteOf (now : ℚ) : Int := ⌊now⌋ / 60

namespace Limiter

/-- The counter that `INCR` finds. -/
def found (redis : LimitKey → Option Counter) (fullKey : LimitKey) (now : ℚ) : Option Counter :=
  (redis fullKey).filter fun c => c.expiresAt.all (now < ·)

def incr (redis : LimitKey → Option Counter) (fullKey : LimitKey) (now : ℚ) : Counter :=
  match found redis fullKey now with
  | some c => { c with count := c.count + 1 }
  | none => ⟨1, none⟩

def put (s : Limiter) (redis : LimitKey → Option Counter) (fullKey : LimitKey) (c : Counter) : Limiter :=
  { s with redis := some (Function.update redis fullKey (some c)) }

/-- A counter that the cleanup leaves: `k.startswith(f"sec_rl:{key}:")`. -/
def kept (key : String) (fullKey : LimitKey) : Bool := startsWith (key ++ ":") (fullKey.key ++ ":")

/-- A new counter, and perhaps the cleanup. -/
def opened (s : Limiter) (fullKey : LimitKey) (now : ℚ) : Limiter :=
  let cache := Function.update s.localCache fullKey (some 0)
  if 300 < (⌊now⌋ : ℚ) - s.lastCleanup then
    { s with localCache := fun k => if kept fullKey.key k then cache k else none, lastCleanup := ⌊now⌋ }
  else { s with localCache := cache }

/-- The local counter: is the request within the limit? -/
def countLocally (s : Limiter) (fullKey : LimitKey) (limit : Nat) (now : ℚ) : Bool × Limiter :=
  let s := if (s.localCache fullKey).isNone then s.opened fullKey now else s
  let count := (s.localCache fullKey).getD 0 + 1
  (count ≤ limit, { s with localCache := Function.update s.localCache fullKey (some count) })

/-- `_check_limit`, with a window of a minute. -/
def checkLimit (s : Limiter) (link : RedisLink) (key : String) (limit : Nat) (now : ℚ) : Bool × Limiter :=
  let fullKey : LimitKey := ⟨key, minuteOf now⟩
  match s.redis with
  | none => s.countLocally fullKey limit now
  | some redis =>
    let c := incr redis fullKey now
    match link.incr with
    | .dropped _ => s.countLocally fullKey limit now
    | .lost _ => (s.put redis fullKey c).countLocally fullKey limit now
    | .served =>
      if c.count ≠ 1 then (c.count ≤ limit, s.put redis fullKey c)
      else
        match link.expire with
        | .served => (c.count ≤ limit, s.put redis fullKey { c with expiresAt := some (now + 120) })
        | .dropped _ => (s.put redis fullKey c).countLocally fullKey limit now
        | .lost _ => (s.put redis fullKey { c with expiresAt := some (now + 120) }).countLocally fullKey limit now

end Limiter

/-! ## A request -/

structure Config where
  /-- `TESTING` is set. -/
  testing : Bool := false
  crypto : Keys.Crypto
  net : Keys.Net
  anonymous : Anon.Config

structure Surroundings where
  /-- `is_ip_whitelisted`, if the lookup succeeds. -/
  whitelisted : Option (String → Bool) := some fun _ => false
  userTier : String → Option (Option String) := fun _ => none
  redis : RedisLink := {}
  -- the key
  keys : Keys.KeyWorld
  cachedUser : Option Keys.KeyUser := none
  keyNow : Int := 0
  keyLink : List (Outcome PyErr) := []
  /-- The layers in between let it through, and a route that asks for no key answers it. -/
  answers : Bool := true
  -- the chat route
  chat : Anon.Env
  chatLink : List (Outcome ChatErr) := []

structure World where
  limiter : Limiter
  velocity : Velocity := {}
  usage : Anon.UsageStore

section Dispatch

variable (config : Config) (io : Surroundings)

def limited (r : Request) : Bool :=
  !exemptPaths.contains r.path && !unsupportedMediaType r && !(io.whitelisted.any fun listed => listed (getClientIp r)) &&
    !config.testing && !isAuthenticatedRequest r.authorization

def ipKey (clientIp : String) : String := "ip:" ++ clientIp

/-- `dispatch`, up to `call_next`: does the request get there? -/
def inbound (now : ℚ) (r : Request) (w : World) : Bool × World :=
  if exemptPaths.contains r.path then (true, w)
  else if unsupportedMediaType r then (false, w)
  else
    let clientIp := getClientIp r
    if io.whitelisted.any fun listed => listed clientIp then (true, w)
    else
      let ipLimit := w.velocity.effectiveLimit now defaultIpLimit (getUserTier io.userTier r.authorization)
      if config.testing || isAuthenticatedRequest r.authorization then (true, w)
      else
        let (allowed, limiter) := w.limiter.checkLimit io.redis (ipKey clientIp) ipLimit now
        (allowed, { w with limiter := limiter })

def recordOutcome (now : ℚ) (status : Nat) (duration : ℚ) (w : World) : World :=
  { w with velocity := (w.velocity.record now status duration).check now }

/-- `HTTPBearer(auto_error=False)`: the token, if there is one. -/
def credentials (authHeader : String) : Option String :=
  let scheme := authHeader.toList.takeWhile (· ≠ ' ')
  let token := (authHeader.toList.dropWhile (· ≠ ' ')).tail
  if lower (String.ofList scheme) = "bearer" ∧ token ≠ [] then some (String.ofList token) else none

/-- `get_optional_api_key`: the key, if it is valid. -/
def optionalApiKey (r : Request) : Except PyErr (Option String) :=
  ((Keys.getOptionalApiKey config.crypto config.net io.keyNow io.cachedUser (credentials r.authorization)
    ⟨r.host, r.referer⟩).run Keys.KeyWorld.exec io.keyLink io.keys).1

/-- The request has no valid key. -/
def anonymous (r : Request) : Bool :=
  match optionalApiKey config io r with
  | .ok none => true
  | _ => false

def chatPeer (r : Request) : Anon.Peer := ⟨r.forwarded, r.realIp, r.host⟩

/-- What the client gets of the application without a valid key: is it served, and what is left of its day? -/
def answered (r : Request) (usage : Anon.UsageStore) : Bool × Anon.UsageStore :=
  if !anonymous config io r || !io.answers then (false, usage)
  else
    match r.route with
    | .open => (true, usage)
    | .keyed => (false, usage)
    | .chat model messages stream =>
      let request : Anon.Request := ⟨model, messages, stream, some (chatPeer r)⟩
      let after := ((Anon.serve config.anonymous request).run (Anon.step io.chat) io.chatLink { store := usage }).2.2
      (after.served, after.store)

end Dispatch

/-! ## Runs -/

inductive Event where
  | arrive (r : Request) (now : ℚ) (io : Surroundings)
  /-- An answer is recorded: that of no stream, no exempt path and no live test. -/
  | outcome (now : ℚ) (status : Nat) (duration : ℚ)

/-- What an event does, and whether a request was served without a valid key. -/
def World.step (config : Config) (w : World) : Event → Bool × World
  | .outcome now status duration => (false, recordOutcome now status duration w)
  | .arrive r now io =>
    let (passed, w) := inbound config io now r w
    if passed then
      let (served, usage) := answered config io r w.usage
      (served, { w with usage := usage })
    else (false, w)

/-- The event is a request of the peer in the minute that starts there. -/
def Event.from (peer : String) (start : ℚ) : Event → Bool
  | .arrive r now _ => r.peer = peer && start ≤ now && now < start + 60
  | .outcome _ _ _ => false

/-- How many requests of a peer are served without a valid key in a minute. -/
def servedIn (config : Config) (peer : String) (start : ℚ) : List Event → World → Nat
  | [], _ => 0
  | e :: es, w =>
    (if e.from peer start && (w.step config e).1 then 1 else 0) + servedIn config peer start es (w.step config e).2

end Gatewayz.Security
