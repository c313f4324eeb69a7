import Gatewayz.Billing.Tables

/-!
# `Plans.Entitlements` — what a user's plan allows

`check_plan_entitlements` turns the plan of a user into limits and features. It asks the database several times, for the
admin bypass, for the plan and once more when no plan was found, and each query can fail on its own: `PlanAnswers` holds
what the service answers to every query of one check, and the functions here are the code between the queries.

Limits are nullable columns.
-/

namespace Gatewayz.Plans

/-! ## Limits and entitlements -/

structure LimitColumns where
  dailyRequestLimit : Option Int
  monthlyRequestLimit : Option Int
  dailyTokenLimit : Option Int
  monthlyTokenLimit : Option Int

structure PlanLimits where
  dailyRequestLimit : Int
  monthlyRequestLimit : Int
  dailyTokenLimit : Int
  monthlyTokenLimit : Int

def PlanLimits.columns (l : PlanLimits) : LimitColumns :=
  ⟨some l.dailyRequestLimit, some l.monthlyRequestLimit, some l.dailyTokenLimit, some l.monthlyTokenLimit⟩

/-- The limits as numbers, when none is `NULL`. -/
def LimitColumns.numbers? (c : LimitColumns) : Option PlanLimits := do
  let dailyRequestLimit ← c.dailyRequestLimit
  let monthlyRequestLimit ← c.monthlyRequestLimit
  let dailyTokenLimit ← c.dailyTokenLimit
  let monthlyTokenLimit ← c.monthlyTokenLimit
  return { dailyRequestLimit, monthlyRequestLimit, dailyTokenLimit, monthlyTokenLimit }

@[simp] theorem PlanLimits.numbers_columns (l : PlanLimits) : l.columns.numbers? = some l := rfl

/-- `DEFAULT_DAILY_REQUEST_LIMIT`, `DEFAULT_MONTHLY_REQUEST_LIMIT`, `DEFAULT_DAILY_TOKEN_LIMIT`,
`DEFAULT_MONTHLY_TOKEN_LIMIT`. -/
def defaultLimits : PlanLimits where
  dailyRequestLimit := 25000
  monthlyRequestLimit := 750000
  dailyTokenLimit := 500000
  monthlyTokenLimit := 15000000

def unlimited : PlanLimits := ⟨2147483647, 2147483647, 2147483647, 2147483647⟩

def defaultTrialFeatures : List String := ["basic_models"]

/-- What `check_plan_entitlements` answers. -/
structure Entitlements where
  hasPlan : Bool
  planExpired : Bool := false
  planName : String
  limits : LimitColumns
  features : List String
  canAccessFeature : Bool
  planExpires : Option Time := none

/-! ## Rows and answers -/

/-- A row of `user_plans`. -/
structure UserPlanRow where
  id : Int
  userId : Int
  planId : Int
  expiresAt : Option Time

/-- A row of `plans`, its features as a list. -/
structure PlanRow where
  id : Int
  name : String
  limits : LimitColumns
  features : List String

/-- What `_get_user_plan_uncached` puts together of a row of each. -/
structure CombinedPlan where
  userPlanId : Int
  planId : Int
  planName : String
  limits : LimitColumns
  features : List String
  endDate : Option Time

/-- A row of `usage_records`, as far as usage is counted. -/
structure UsageRecord where
  userId : Int
  timestamp : Time
  tokensUsed : Int

abbrev Answer (α : Type) := Except PyErr α

/-- What the database service answers to the queries of one check. -/
structure PlanAnswers where
  /-- The types of the user's active plans, for `is_admin_tier_user`. -/
  adminTypes : Answer (List String)
  /-- The same query, when the entitlements ask again. -/
  adminTypesAgain : Answer (List String)
  /-- The user's active `user_plans`, for `get_user_plan`. -/
  userPlans : Answer (List UserPlanRow)
  plans : Int → Answer (List PlanRow)
  /-- The two queries again, when `get_user_plan` gave nothing. -/
  userPlansAgain : Answer (List UserPlanRow)
  plansAgain : Int → Answer (List PlanRow)
  /-- The updates that mark a plan expired. -/
  expire : Answer Unit
  /-- The user's records since the start of the day, and since the start of the month. -/
  dailyUsage : Answer (List UsageRecord)
  monthlyUsage : Answer (List UsageRecord)

/-! ## Caches -/

structure CacheEntry (α : Type) where
  data : α
  timestamp : Time

/-- The entry while it is younger than `ttl` seconds. -/
def CacheEntry.fresh? {α : Type} (ttl : Nat) (now : Time) (entry : Option (CacheEntry α)) : Option α :=
  match entry with
  | some e => if now - e.timestamp < ttl then some e.data else none
  | none => none

def userPlanCacheTtl : Nat := 30

/-! ## The functions -/

/-- `is_admin_tier_user`: no admin when the query fails. -/
def isAdminTier (types : Answer (List String)) : Bool :=
  match types with
  | .ok types => types.contains "admin"
  | .error _ => false

/-- `get_plan_by_id`: the first row, none when the query fails. -/
def getPlanById (rows : Answer (List PlanRow)) : Option PlanRow :=
  match rows with
  | .ok rows => rows.head?
  | .error _ => none

/-- `_get_user_plan_uncached`: the first active plan; defaults stand in for a plan that cannot be loaded. -/
def getUserPlanUncached (a : PlanAnswers) : Option CombinedPlan :=
  match a.userPlans with
  | .error _ => none
  | .ok [] => none
  | .ok (up :: _) =>
    match getPlanById (a.plans up.planId) with
    | none => some ⟨up.id, up.planId, "Unknown", defaultLimits.columns, [], up.expiresAt⟩
    | some plan => some ⟨up.id, plan.id, plan.name, plan.limits, plan.features, up.expiresAt⟩

def getUserPlan (a : PlanAnswers) (now : Time) (cache : Option (CacheEntry (Option CombinedPlan))) :
    Option CombinedPlan :=
  match CacheEntry.fresh? userPlanCacheTtl now cache with
  | some plan => plan
  | none => getUserPlanUncached a

/-- `required_feature in features if required_feature else True`. -/
def canAccess (required : Option String) (features : List String) : Bool :=
  match required with
  | none => true
  | some feature => if feature = "" then true else features.contains feature

/-- What an expired plan leaves. -/
def expiredEntitlements (required : Option String) : Entitlements where
  hasPlan := false
  planExpired := true
  planName := "Expired"
  limits := defaultLimits.columns
  features := defaultTrialFeatures
  canAccessFeature := canAccess required defaultTrialFeatures

/-- The defaults after an exception. -/
def errorEntitlements : Entitlements where
  hasPlan := false
  planName := "Error"
  limits := defaultLimits.columns
  features := defaultTrialFeatures
  canAccessFeature := false

/-- Has a plan with this end ended? A plan without an end has not. -/
def hasEnded (now : Time) (endDate : Option Time) : Bool :=
  match endDate with
  | none => false
  | some t => t < now

/-- The plan is marked expired; an exception while marking it gives the defaults of any other. -/
def expirePlan (a : PlanAnswers) (required : Option String) : Entitlements :=
  match a.expire with
  | .ok _ => expiredEntitlements required
  | .error _ => errorEntitlements

/-- The part of `check_plan_entitlements` for a user without a combined plan: `user_plans` is read once more. -/
def entitlementsWithoutPlan (a : PlanAnswers) (now : Time) (required : Option String) : Entitlements :=
  match a.userPlansAgain with
  | .error _ => errorEntitlements
  | .ok [] =>
    { hasPlan := false, planName := "Trial", limits := defaultLimits.columns, features := defaultTrialFeatures,
      canAccessFeature := canAccess required defaultTrialFeatures }
  | .ok (up :: _) =>
    if hasEnded now up.expiresAt then expirePlan a required
    else match getPlanById (a.plansAgain up.planId) with
      | some plan =>
        { hasPlan := true, planName := plan.name, limits := plan.limits, features := plan.features,
          canAccessFeature := canAccess required plan.features, planExpires := up.expiresAt }
      | none =>
        { hasPlan := true, planName := "Unknown", limits := defaultLimits.columns, features := [],
          canAccessFeature := required.isNone, planExpires := up.expiresAt }

def checkPlanEntitlements (a : PlanAnswers) (now : Time) (cache : Option (CacheEntry (Option CombinedPlan)))
    (required : Option String) : Entitlements :=
  if isAdminTier a.adminTypesAgain then
    { hasPlan := true, planName := "Admin", limits := unlimited.columns,
      features := ["unlimited_access", "priority_support", "admin_features", "all_models"], canAccessFeature := true }
  else match getUserPlan a now cache with
    | none => entitlementsWithoutPlan a now required
    | some plan =>
      if hasEnded now plan.endDate then expirePlan a required
      else
        { hasPlan := true, planName := plan.planName, limits := plan.limits, features := plan.features,
          canAccessFeature := canAccess required plan.features, planExpires := plan.endDate }

theorem entitlements_live {a : PlanAnswers} {now : Time} {cache : Option (CacheEntry (Option CombinedPlan))}
    {plan : CombinedPlan} (hadmin : isAdminTier a.adminTypesAgain = false) (hplan : getUserPlan a now cache = some plan)
    (hlive : hasEnded now plan.endDate = false) (required : Option String) :
    (checkPlanEntitlements a now cache required).limits = plan.limits := by
  simp [checkPlanEntitlements, hadmin, hplan, hlive]

end Gatewayz.Plans
