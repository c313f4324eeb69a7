import Gatewayz.Limits.StoredLimits

/-!
# `Correctness.LimitsRoundTrip` — what is read of a key's limits is what was written

A row of `rate_limit_configs` has the hourly limits only, and the readers divide and multiply them. So a configuration comes back from there
if its other limits are those quotients and products, whatever the writer was told; from the column it comes back as it is.
-/

namespace Gatewayz.Limits

structure RateLimitConfig.Positive (c : RateLimitConfig) : Prop where
  requests : 0 < c.requestsPerMinute ∧ 0 < c.requestsPerHour ∧ 0 < c.requestsPerDay
  tokens : 0 < c.tokensPerMinute ∧ 0 < c.tokensPerHour ∧ 0 < c.tokensPerDay
  others : 0 < c.burstLimit ∧ 0 < c.concurrencyLimit ∧ 0 < c.windowSizeSeconds

/-- The limits of the minute and of the day are what the readers make of the hour's. -/
structure RateLimitConfig.Hourly (c : RateLimitConfig) : Prop where
  requestsPerMinute : c.requestsPerMinute = c.requestsPerHour / 60
  requestsPerDay : c.requestsPerDay = c.requestsPerHour * 24
  tokensPerMinute : c.tokensPerMinute = c.tokensPerHour / 60
  tokensPerDay : c.tokensPerDay = c.tokensPerHour * 24

namespace LimitsDb

variable {db : LimitsDb} {configs : KeyConfigs} {worker : ℕ} {apiKey : String} {c : RateLimitConfig} {k : StoredKey}
  {row : LimitsRow}

/-! ## The stores -/

@[simp] theorem set_keys : (db.set apiKey k).keys apiKey = some k :=
  Function.update_self ..

theorem head_upsertRow (row : LimitsRow) (rows : List LimitsRow) : (upsertRow row rows).head? = some row := by
  cases rows <;> rfl

/-- A row with the hourly limits of `c` is read as `c`'s six if the others follow from them, and only then. -/
theorem derived_user_iff (hr : row.maxRequests = c.requestsPerHour) (ht : row.maxTokens = c.tokensPerHour) :
    (derived row).user = c.user ↔ c.Hourly := by
  simp only [derived, RateLimitConfig.user, UserRateLimits.mk.injEq, hr, ht, true_and]
  constructor
  · rintro ⟨h₁, h₂, h₃, h₄⟩
    exact ⟨h₁.symm, h₂.symm, h₃.symm, h₄.symm⟩
  · intro h
    exact ⟨h.requestsPerMinute.symm, h.requestsPerDay.symm, h.tokensPerMinute.symm, h.tokensPerDay.symm⟩

theorem derived_of_hourly (hc : c.Hourly) :
    derived ⟨c.requestsPerHour, c.tokensPerHour, c.burstLimit, c.concurrencyLimit, c.windowSizeSeconds⟩ = c := by
  simp only [derived, ← hc.requestsPerMinute, ← hc.requestsPerDay, ← hc.tokensPerMinute, ← hc.tokensPerDay]

theorem getUserRateLimits_set {burst concurrency : Option ℕ} {db' : LimitsDb}
    (h : db.setUserRateLimits apiKey c.user burst concurrency = some db') :
    db'.getUserRateLimits apiKey = some c.user ↔ c.Hourly := by
  obtain ⟨k, -, rfl⟩ := Option.map_eq_some_iff.mp h
  simp only [getUserRateLimits, set_keys, Option.bind_some, head_upsertRow, Option.map_some, Option.some.injEq]
  exact derived_user_iff rfl rfl

theorem getRateLimitConfig_update (hc : c.Hourly) (h : (db.updateRateLimitConfig apiKey c).1 = true) :
    (db.updateRateLimitConfig apiKey c).2.getRateLimitConfig apiKey = c := by
  cases hk : db.keys apiKey with
  | none => simp [updateRateLimitConfig, hk] at h
  | some k =>
    cases hcol : db.hasColumn with
    | true => simp [updateRateLimitConfig, hk, hcol, getRateLimitConfig, set]
    | false => simp [updateRateLimitConfig, hk, hcol, getRateLimitConfig, set, head_upsertRow, derived_of_hourly hc]

theorem isSome_of_updated (h : (db.updateRateLimitConfig apiKey c).1 = true) : (db.keys apiKey).isSome = true := by
  cases hk : db.keys apiKey with
  | none => simp [updateRateLimitConfig, hk] at h
  | some k => rfl

theorem updated_of_isSome (h : (db.keys apiKey).isSome = true) : (db.updateRateLimitConfig apiKey c).1 = true := by
  obtain ⟨k, hk⟩ := Option.isSome_iff_exists.mp h
  cases hcol : db.hasColumn <;> simp [updateRateLimitConfig, hk, hcol]

/-- `max_requests` changes nothing that is read only where the first row has it already. -/
theorem updateApiKey_rows {m : ℕ} (h : ∀ row ∈ k.rows.head?, row.maxRequests = m) :
    (k.rows.map fun row => { row with maxRequests := m }).head? = k.rows.head? := by
  cases hrows : k.rows with
  | nil => rfl
  | cons row rows => simp [← h row (by simp [hrows])]

@[simp] theorem grantedRequests_none {monthlyLimit : Option ℕ} : grantedRequests monthlyLimit none = none := by
  cases monthlyLimit <;> rfl

/-! ## The law -/

/-- What is stored of the limits of a key comes back, on every worker, and `max_requests` changes nothing of it. -/
structure RoundTrips (db : LimitsDb) (configs : KeyConfigs) (worker : ℕ) (apiKey : String) (c : RateLimitConfig)
    (monthlyLimit maxRequests : Option ℕ) : Prop where
  config : (db.updateRateLimitConfig apiKey c).1 = true →
    (db.updateRateLimitConfig apiKey c).2.getRateLimitConfig apiKey = c
  user : ∀ burst concurrency db', db.setUserRateLimits apiKey c.user burst concurrency = some db' →
    db'.getUserRateLimits apiKey = some c.user
  manager : (db.updateKeyConfig configs worker apiKey c).1.1 = true → ∀ other,
    (db.updateKeyConfig configs worker apiKey c).1.2.getKeyConfig (db.updateKeyConfig configs worker apiKey c).2 other apiKey = c
  perMinute : ∀ burst concurrency db', db.setUserRateLimits apiKey c.user burst concurrency = some db' →
    ∀ limits ∈ db'.getUserRateLimits apiKey, 0 < limits.requestsPerHour → 0 < limits.requestsPerMinute
  created : (db.createApiKey apiKey monthlyLimit maxRequests).getUserRateLimits apiKey
      = (db.createApiKey apiKey monthlyLimit none).getUserRateLimits apiKey ∧
    (db.createApiKey apiKey monthlyLimit maxRequests).getRateLimitConfig apiKey
      = (db.createApiKey apiKey monthlyLimit none).getRateLimitConfig apiKey
  updated : (db.updateApiKey apiKey maxRequests).getUserRateLimits apiKey = db.getUserRateLimits apiKey ∧
    (db.updateApiKey apiKey maxRequests).getRateLimitConfig apiKey = db.getRateLimitConfig apiKey

/-- The key, if there is one, gets limits that follow from the hour's, no other worker holds different ones, and `max_requests` is what
the rows have anyway. -/
structure Storable (db : LimitsDb) (configs : KeyConfigs) (worker : ℕ) (apiKey : String) (c : RateLimitConfig)
    (monthlyLimit maxRequests : Option ℕ) : Prop where
  hourly : (db.keys apiKey).isSome = true → c.Hourly
  workers : (db.keys apiKey).isSome = true → ∀ other ≠ worker, ∀ held ∈ configs other apiKey, held = c
  created : (grantedRequests monthlyLimit maxRequests).getD 0 = 0 ∨ (grantedRequests monthlyLimit maxRequests).getD 0 = 1000
  updated : ∀ m ∈ maxRequests, ∀ k ∈ db.keys apiKey, ∀ row ∈ k.rows.head?, row.maxRequests = m

variable {monthlyLimit maxRequests : Option ℕ}

theorem Storable.manager (h : Storable db configs worker apiKey c monthlyLimit maxRequests)
    (hdone : (db.updateRateLimitConfig apiKey c).1 = true) (other : ℕ) :
    (db.updateKeyConfig configs worker apiKey c).1.2.getKeyConfig (db.updateKeyConfig configs worker apiKey c).2 other apiKey = c := by
  have hkey := isSome_of_updated hdone
  by_cases hother : other = worker
  · simp [getKeyConfig, updateKeyConfig, hother]
  · simp only [getKeyConfig, updateKeyConfig, Function.update_of_ne hother]
    cases hheld : configs other apiKey with
    | none => exact getRateLimitConfig_update (h.hourly hkey) hdone
    | some held => exact h.workers hkey other hother held hheld

theorem Storable.updateApiKey (h : Storable db configs worker apiKey c monthlyLimit maxRequests) :
    (db.updateApiKey apiKey maxRequests).getUserRateLimits apiKey = db.getUserRateLimits apiKey ∧
      (db.updateApiKey apiKey maxRequests).getRateLimitConfig apiKey = db.getRateLimitConfig apiKey := by
  cases hk : db.keys apiKey with
  | none => simp [LimitsDb.updateApiKey, hk]
  | some k =>
    cases hm : maxRequests with
    | none => simp [LimitsDb.updateApiKey, hk]
    | some m =>
      have hrows := updateApiKey_rows (h.updated m hm k hk)
      simp only [LimitsDb.updateApiKey, hk, getUserRateLimits, getRateLimitConfig, set_keys, Option.bind_some, hrows]
      exact ⟨trivial, rfl⟩

/-- **Stored limits come back** if they follow from the hour's, no other worker holds others, and `max_requests` is what the rows have
anyway; and only then. -/
theorem limits_round_trip_iff (db : LimitsDb) (configs : KeyConfigs) (worker : ℕ) (apiKey : String) (c : RateLimitConfig)
    (monthlyLimit maxRequests : Option ℕ) (hc : c.Positive) :
    RoundTrips db configs worker apiKey c monthlyLimit maxRequests ↔
      Storable db configs worker apiKey c monthlyLimit maxRequests := by
  constructor
  · intro h
    refine ⟨fun hkey => ?_, fun hkey other hother held hheld => ?_, ?_, fun m hm k hk row hrow => ?_⟩
    · obtain ⟨k, hk⟩ := Option.isSome_iff_exists.mp hkey
      obtain ⟨db', hset⟩ : ∃ db', db.setUserRateLimits apiKey c.user none none = some db' := ⟨_, by rw [setUserRateLimits, hk]; rfl⟩
      exact (getUserRateLimits_set hset).mp (h.user none none _ hset)
    · have hread := h.manager (updated_of_isSome hkey) other
      simp only [getKeyConfig, updateKeyConfig, Function.update_of_ne hother] at hread
      rwa [hheld] at hread
    · have hhour := congrArg (Option.map UserRateLimits.requestsPerHour) h.created.1
      simp only [getUserRateLimits, createApiKey, set_keys, grantedRequests_none, Option.bind_some, List.head?_cons, Option.map_some,
        Option.some.injEq, derived, RateLimitConfig.user, Option.getD_none, if_true] at hhour
      split_ifs at hhour with h0
      · exact .inl h0
      · exact .inr hhour
    · have hhour := congrArg (Option.map UserRateLimits.requestsPerHour) h.updated.1
      obtain ⟨rows, hrows⟩ := List.head?_eq_some_iff.mp hrow
      simp only [Option.mem_def] at hk hm
      simp only [getUserRateLimits, LimitsDb.updateApiKey, hk, hm, set_keys, hrows, Option.bind_some, List.map_cons, List.head?_cons,
        Option.map_some, Option.some.injEq, derived, RateLimitConfig.user] at hhour
      exact hhour.symm
  · intro h
    have huser (burst concurrency db') (hset : db.setUserRateLimits apiKey c.user burst concurrency = some db') :
        db'.getUserRateLimits apiKey = some c.user := by
      obtain ⟨k, hk, -⟩ := Option.map_eq_some_iff.mp hset
      exact (getUserRateLimits_set hset).mpr (h.hourly (by rw [hk]; rfl))
    refine ⟨fun hdone => getRateLimitConfig_update (h.hourly (isSome_of_updated hdone)) hdone, huser, h.manager,
      fun burst concurrency db' hset limits hlimits _ => ?_, ?_, h.updateApiKey⟩
    · rw [huser burst concurrency db' hset] at hlimits
      exact Option.some.inj hlimits ▸ hc.requests.1
    · have hsame : db.createApiKey apiKey monthlyLimit maxRequests = db.createApiKey apiKey monthlyLimit none := by
        rcases h.created with h0 | h0 <;> simp [createApiKey, h0]
      exact hsame ▸ ⟨rfl, rfl⟩

/-! ## One key -/

def bareDb : LimitsDb where
  hasColumn := false
  keys := fun k => if k = "gw_live_a" then some {} else none

/-- A hundred requests a minute, and an hour's and a day's worth of them. -/
def hundredAMinute : RateLimitConfig where
  requestsPerMinute := 100
  requestsPerHour := 6000
  requestsPerDay := 144000
  tokensPerMinute := 1000
  tokensPerHour := 60000
  tokensPerDay := 1440000

theorem limits_round_trip_iff_hundred :
    RoundTrips bareDb (fun _ _ => none) 0 "gw_live_a" hundredAMinute none (some 1000) := by
  refine (limits_round_trip_iff bareDb _ 0 "gw_live_a" hundredAMinute none (some 1000) ⟨by decide, by decide, by decide⟩).mpr
    ⟨fun _ => ⟨rfl, rfl, rfl, rfl⟩, fun _ _ _ _ hheld => (nomatch hheld), .inr rfl, ?_⟩
  rintro m - k ⟨⟩ row hrow
  exact nomatch hrow

/-- Thirty requests an hour are none a minute. -/
theorem thirty_an_hour : ¬ ∀ (db : LimitsDb) (configs : KeyConfigs) (worker : ℕ) (apiKey : String) (c : RateLimitConfig)
    (monthlyLimit maxRequests : Option ℕ), c.Positive → RoundTrips db configs worker apiKey c monthlyLimit maxRequests := by
  intro h
  have hread := (h bareDb (fun _ _ => none) 0 "gw_live_a" { requestsPerMinute := 1, requestsPerHour := 30 } none none
    ⟨by decide, by decide, by decide⟩).perMinute none none _ rfl _ rfl
  exact absurd (hread (by decide)) (by decide)

end LimitsDb

end Gatewayz.Limits
