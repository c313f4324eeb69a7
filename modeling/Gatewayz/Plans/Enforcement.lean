import Gatewayz.Chat.Steps
import Gatewayz.Exec.Pages
import Gatewayz.Plans.Entitlements

/-!
# `Plans.Enforcement` — usage within two windows, and the plan limits

A request is admitted when the usage of the UTC day and of the calendar month, with the request added, stays within four
limits. The usage is counted in Python over the rows of two queries, one from the start of each window on; neither query
has a range, so the service returns `SUPABASE_PAGE_SIZE` rows of either at most.
-/

namespace Gatewayz.Plans

open Exec

def supabasePageSize : Nat := 1000

/-! ## The windows -/

inductive Window where
  | day
  | month

/-- `now.replace(hour=0, minute=0, second=0, microsecond=0)`. -/
def todayStart (now : Time) : Time := now - now % 86400

/-- `now.replace(day=1, hour=0, minute=0, second=0, microsecond=0)`. -/
def monthStart (now : Time) : Time :=
  let (_, _, day) := civilFromDays (now / 86400)
  todayStart now - (day - 1) * 86400

def Window.start (now : Time) : Window → Time
  | .day => todayStart now
  | .month => monthStart now

def yearMonth (t : Time) : Nat × Nat :=
  let (year, month, _) := civilFromDays (t / 86400)
  (year, month)

/-- Does `t` lie in the window of `now`: on the same UTC day, in the same calendar month? -/
def Window.Has (now t : Time) : Window → Prop
  | .day => t / 86400 = now / 86400
  | .month => yearMonth t = yearMonth now

instance (now t : Time) (w : Window) : Decidable (w.Has now t) := by
  cases w <;> unfold Window.Has <;> infer_instance

/-- The user's records that the window of `now` holds. -/
def recorded (userId : Int) (now : Time) (w : Window) (records : List UsageRecord) : List UsageRecord :=
  records.filter (fun r => r.userId = userId ∧ w.Has now r.timestamp)

def listed (userId : Int) (now : Time) (w : Window) (records : List UsageRecord) : List UsageRecord :=
  records.filter (fun r => r.userId = userId ∧ w.start now ≤ r.timestamp)

/-- `sum(record["tokens_used"] for record in rows)`. -/
def tokensOf (rows : List UsageRecord) : Int := total UsageRecord.tokensUsed rows

/-! ## Usage -/

structure PerLimit (α : Type) where
  dailyRequests : α
  dailyTokens : α
  monthlyRequests : α
  monthlyTokens : α

/-- What `get_user_usage_within_plan_limits` answers. -/
structure UsageData where
  planName : String
  usage : PerLimit Int
  limits : PlanLimits
  remaining : PerLimit Int
  atLimit : PerLimit Bool

def usageCacheTtl : Nat := 10

/-- The usage of two lists of rows against limits. -/
def usageOf (planName : String) (limits : PlanLimits) (daily monthly : List UsageRecord) : UsageData :=
  let dailyTokens := tokensOf daily
  let monthlyTokens := tokensOf monthly
  let dailyRequests : Int := daily.length
  let monthlyRequests : Int := monthly.length
  { planName
    usage := { dailyRequests, dailyTokens, monthlyRequests, monthlyTokens }
    limits
    remaining :=
      { dailyRequests := max 0 (limits.dailyRequestLimit - dailyRequests)
        dailyTokens := max 0 (limits.dailyTokenLimit - dailyTokens)
        monthlyRequests := max 0 (limits.monthlyRequestLimit - monthlyRequests)
        monthlyTokens := max 0 (limits.monthlyTokenLimit - monthlyTokens) }
    atLimit :=
      { dailyRequests := limits.dailyRequestLimit ≤ dailyRequests
        dailyTokens := limits.dailyTokenLimit ≤ dailyTokens
        monthlyRequests := limits.monthlyRequestLimit ≤ monthlyRequests
        monthlyTokens := limits.monthlyTokenLimit ≤ monthlyTokens } }

structure PlanCaches where
  userPlan : Option (CacheEntry (Option CombinedPlan)) := none
  usage : Option (CacheEntry (Option UsageData)) := none

/-- `_get_user_usage_within_plan_limits_uncached`: nothing after an exception, which a limit that is `NULL` causes too. -/
def getUserUsageUncached (a : PlanAnswers) (now : Time) (caches : PlanCaches) : Option UsageData :=
  let entitlements := checkPlanEntitlements a now caches.userPlan none
  match a.dailyUsage with
  | .error _ => none
  | .ok daily =>
    match a.monthlyUsage with
    | .error _ => none
    | .ok monthly => entitlements.limits.numbers?.map (usageOf entitlements.planName · daily monthly)

/-- `get_user_usage_within_plan_limits`. -/
def getUserUsage (a : PlanAnswers) (now : Time) (caches : PlanCaches) : Option UsageData :=
  match CacheEntry.fresh? usageCacheTtl now caches.usage with
  | some usage => usage
  | none => getUserUsageUncached a now caches

/-! ## The limits -/

/-- `int(limit * env_multiplier)`. The limits are `integer` columns, whose halves a float holds; `int` drops the half. -/
def scaledLimit (environmentTag : String) (limit : Int) : Int :=
  if ["test", "staging", "development"].contains environmentTag then limit.tdiv 2 else limit

/-- The limits that count: scaled for the environment, with the floor of the live daily tokens. -/
def effectiveLimits (environmentTag : String) (limits : PlanLimits) : PlanLimits :=
  let dailyTokenLimit := scaledLimit environmentTag limits.dailyTokenLimit
  { dailyRequestLimit := scaledLimit environmentTag limits.dailyRequestLimit
    monthlyRequestLimit := scaledLimit environmentTag limits.monthlyRequestLimit
    dailyTokenLimit := if environmentTag = "live" ∧ dailyTokenLimit < 25000 then 25000 else dailyTokenLimit
    monthlyTokenLimit := scaledLimit environmentTag limits.monthlyTokenLimit }

def exceeded (limitName : String) (limit : Int) (environmentTag : String) : PlanCheck where
  allowed := false
  reason := limitName ++ " limit exceeded (" ++ toString limit ++ ") for " ++ environmentTag ++ " environment"

/-- The four comparisons, in their order. -/
def checkLimits (environmentTag : String) (limits : PlanLimits) (usage : PerLimit Int) (tokensRequested : Int) :
    PlanCheck :=
  let newDailyTokens := usage.dailyTokens + tokensRequested
  let newMonthlyTokens := usage.monthlyTokens + tokensRequested
  let newDailyRequests := usage.dailyRequests + 1
  let newMonthlyRequests := usage.monthlyRequests + 1
  if newDailyRequests > limits.dailyRequestLimit then
    exceeded "Daily request" limits.dailyRequestLimit environmentTag
  else if newMonthlyRequests > limits.monthlyRequestLimit then
    exceeded "Monthly request" limits.monthlyRequestLimit environmentTag
  else if newDailyTokens > limits.dailyTokenLimit then
    exceeded "Daily token" limits.dailyTokenLimit environmentTag
  else if newMonthlyTokens > limits.monthlyTokenLimit then
    exceeded "Monthly token" limits.monthlyTokenLimit environmentTag
  else { allowed := true, reason := "Within plan limits" }

def enforcePlanLimits (a : PlanAnswers) (now : Time) (caches : PlanCaches) (tokensRequested : Int)
    (environmentTag : String) : PlanCheck :=
  if isAdminTier a.adminTypes then { allowed := true, reason := "Admin tier - unlimited access" }
  else match getUserUsage a now caches with
    | none => { allowed := false, reason := "Unable to check plan limits" }
    | some data =>
      checkLimits environmentTag (effectiveLimits environmentTag data.limits) data.usage tokensRequested

/-! ## What the limits ask -/

def PlanLimits.requests (limits : PlanLimits) : Window → Int
  | .day => limits.dailyRequestLimit
  | .month => limits.monthlyRequestLimit

def PlanLimits.tokens (limits : PlanLimits) : Window → Int
  | .day => limits.dailyTokenLimit
  | .month => limits.monthlyTokenLimit

/-- Do `requests` requests with `tokens` tokens leave room for one more of `tokensRequested` tokens, in one window? -/
def PlanLimits.Admits (limits : PlanLimits) (tokensRequested : Int) (w : Window) (requests tokens : Int) : Prop :=
  requests + 1 ≤ limits.requests w ∧ tokens + tokensRequested ≤ limits.tokens w

instance (limits : PlanLimits) (tokensRequested : Int) (w : Window) (requests tokens : Int) :
    Decidable (limits.Admits tokensRequested w requests tokens) := by
  unfold PlanLimits.Admits
  infer_instance

/-- The comparisons admit exactly what both windows have room for. -/
theorem checkLimits_allowed (environmentTag : String) (limits : PlanLimits) (u : PerLimit Int) (tokensRequested : Int) :
    (checkLimits environmentTag limits u tokensRequested).allowed = true ↔
      limits.Admits tokensRequested .day u.dailyRequests u.dailyTokens ∧
        limits.Admits tokensRequested .month u.monthlyRequests u.monthlyTokens := by
  simp only [checkLimits, PlanLimits.Admits, PlanLimits.requests, PlanLimits.tokens]
  by_cases hdr : u.dailyRequests + 1 > limits.dailyRequestLimit
  · rw [if_pos hdr]
    simp only [exceeded, Bool.false_eq_true, false_iff]
    omega
  by_cases hmr : u.monthlyRequests + 1 > limits.monthlyRequestLimit
  · rw [if_neg hdr, if_pos hmr]
    simp only [exceeded, Bool.false_eq_true, false_iff]
    omega
  by_cases hdt : u.dailyTokens + tokensRequested > limits.dailyTokenLimit
  · rw [if_neg hdr, if_neg hmr, if_pos hdt]
    simp only [exceeded, Bool.false_eq_true, false_iff]
    omega
  by_cases hmt : u.monthlyTokens + tokensRequested > limits.monthlyTokenLimit
  · rw [if_neg hdr, if_neg hmr, if_neg hdt, if_pos hmt]
    simp only [exceeded, Bool.false_eq_true, false_iff]
    omega
  · rw [if_neg hdr, if_neg hmr, if_neg hdt, if_neg hmt]
    simp only [true_iff]
    omega

end Gatewayz.Plans
