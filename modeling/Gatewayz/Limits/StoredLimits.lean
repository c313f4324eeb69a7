import Gatewayz.Limits.SlidingWindow

/-!
# `Limits.StoredLimits` — where the limits of a key are kept

A key's limits can stand in two places: the `rate_limit_config` column of its row in `api_keys_new`, which not every database has, and the
rows of `rate_limit_configs` with its id. `db/rate_limits.py` has two readers and two writers for them, each worker's `RateLimitManager`
keeps what it read, and `db/api_keys.py` writes the lifetime `max_requests` of a key into the second place as well.

The database answers every statement; one that names a column it does not have is an error.
-/

namespace Gatewayz.Limits

/-- A row of `rate_limit_configs`. -/
structure LimitsRow where
  maxRequests : ℕ
  maxTokens : ℕ
  burstLimit : ℕ
  concurrencyLimit : ℕ
  windowSize : ℕ

/-- What is stored of one row of `api_keys_new`. -/
structure StoredKey where
  rateLimitConfig : Option RateLimitConfig := none
  rows : List LimitsRow := []

structure LimitsDb where
  hasColumn : Bool
  keys : String → Option StoredKey

/-- `RateLimitManager.key_configs`, for each worker. -/
abbrev KeyConfigs := ℕ → String → Option RateLimitConfig

/-- The six limits of `get_user_rate_limits`. -/
structure UserRateLimits where
  requestsPerMinute : ℕ
  requestsPerHour : ℕ
  requestsPerDay : ℕ
  tokensPerMinute : ℕ
  tokensPerHour : ℕ
  tokensPerDay : ℕ

/-- The six of a whole configuration. -/
def RateLimitConfig.user (c : RateLimitConfig) : UserRateLimits :=
  ⟨c.requestsPerMinute, c.requestsPerHour, c.requestsPerDay, c.tokensPerMinute, c.tokensPerHour, c.tokensPerDay⟩

namespace LimitsDb

/-- Write the row of a key. -/
def set (db : LimitsDb) (apiKey : String) (k : StoredKey) : LimitsDb :=
  { db with keys := Function.update db.keys apiKey (some k) }

/-! ## Readers -/

/-- What both readers make of a row: the hourly limit, divided and multiplied. -/
def derived (row : LimitsRow) : RateLimitConfig :=
  { requestsPerMinute := row.maxRequests / 60
    requestsPerHour := row.maxRequests
    requestsPerDay := row.maxRequests * 24
    tokensPerMinute := row.maxTokens / 60
    tokensPerHour := row.maxTokens
    tokensPerDay := row.maxTokens * 24
    burstLimit := row.burstLimit
    concurrencyLimit := row.concurrencyLimit
    windowSizeSeconds := row.windowSize }

def getUserRateLimits (db : LimitsDb) (apiKey : String) : Option UserRateLimits :=
  (db.keys apiKey).bind fun k => k.rows.head?.map fun row => (derived row).user

/-- The last resort of `get_rate_limit_config`. -/
def fallbackConfig : RateLimitConfig :=
  { requestsPerMinute := 60, tokensPerMinute := 10000 }

def getRateLimitConfig (db : LimitsDb) (apiKey : String) : RateLimitConfig :=
  match db.keys apiKey with
  | none => fallbackConfig
  | some k =>
    match if db.hasColumn then k.rateLimitConfig else none with
    | some c => c
    | none => (k.rows.head?.map derived).getD fallbackConfig

/-! ## Writers -/

/-- Update the rows of a key, or insert one. -/
def upsertRow (row : LimitsRow) (rows : List LimitsRow) : List LimitsRow :=
  if rows.isEmpty then [row] else rows.map fun _ => row

/-- `set_user_rate_limits`; `none` where it raises. The dictionary has the six limits, or a whole configuration. -/
def setUserRateLimits (db : LimitsDb) (apiKey : String) (limits : UserRateLimits)
    (burstLimit concurrencyLimit : Option ℕ) : Option LimitsDb :=
  (db.keys apiKey).map fun k => db.set apiKey { k with
    rows := upsertRow
      { maxRequests := limits.requestsPerHour, maxTokens := limits.tokensPerHour
        burstLimit := burstLimit.getD 100, concurrencyLimit := concurrencyLimit.getD 50, windowSize := 3600 } k.rows }

/-- `update_rate_limit_config`, and whether it says `True`. -/
def updateRateLimitConfig (db : LimitsDb) (apiKey : String) (c : RateLimitConfig) : Bool × LimitsDb :=
  match db.keys apiKey with
  | none => (false, db)
  | some k =>
    if db.hasColumn then (true, db.set apiKey { k with rateLimitConfig := some c })
    else (true, db.set apiKey { k with
      rows := upsertRow
        { maxRequests := c.requestsPerHour, maxTokens := c.tokensPerHour
          burstLimit := c.burstLimit, concurrencyLimit := c.concurrencyLimit, windowSize := c.windowSizeSeconds } k.rows })

/-! ## `RateLimitManager` -/

/-- `RateLimitManager.get_key_config`, on one worker: what was read once stays. -/
def getKeyConfig (db : LimitsDb) (configs : KeyConfigs) (worker : ℕ) (apiKey : String) : RateLimitConfig :=
  (configs worker apiKey).getD (db.getRateLimitConfig apiKey)

/-- `RateLimitManager.update_key_config`, on one worker. -/
def updateKeyConfig (db : LimitsDb) (configs : KeyConfigs) (worker : ℕ) (apiKey : String) (c : RateLimitConfig) :
    (Bool × LimitsDb) × KeyConfigs :=
  (db.updateRateLimitConfig apiKey c,
    Function.update configs worker (Function.update (configs worker) apiKey (some c)))

/-! ## `max_requests` -/

/-- `max_requests`, no more than the plan allows. -/
def grantedRequests (monthlyLimit maxRequests : Option ℕ) : Option ℕ :=
  match maxRequests, monthlyLimit with
  | some m, some limit => if m ≠ 0 ∧ limit < m then some limit else some m
  | m, _ => m

/-- What `create_api_key` stores for a new key. -/
def createApiKey (db : LimitsDb) (apiKey : String) (monthlyLimit maxRequests : Option ℕ) : LimitsDb :=
  let m := (grantedRequests monthlyLimit maxRequests).getD 0
  db.set apiKey
    { rows := [{ maxRequests := if m = 0 then 1000 else m, maxTokens := 1000000, burstLimit := 100
                 concurrencyLimit := 10, windowSize := 3600 }] }

/-- What `update_api_key` stores of `max_requests`. -/
def updateApiKey (db : LimitsDb) (apiKey : String) (maxRequests : Option ℕ) : LimitsDb :=
  match db.keys apiKey, maxRequests with
  | some k, some m => db.set apiKey { k with rows := k.rows.map fun row => { row with maxRequests := m } }
  | _, _ => db

end LimitsDb

end Gatewayz.Limits
