import Gatewayz.Billing.LegacyCredits
import Gatewayz.Exec.Generator
import Gatewayz.Exec.Machine

/-!
# `Billing.UserCache` — the users a process remembers

`db/users.py` keeps the answers of `get_user` for a minute, by API key. Whoever changes a balance is to drop what is remembered:
`deduct_credits` drops the entry of the key it was called with, `add_credits_to_user`, `reset_subscription_allowance` and
`forfeit_subscription_allowance` the entries of all keys of the user.

A `Process` is the tables with the cache and the clock; its calls run one after the other (`userProcess`).
-/

namespace Gatewayz

open Exec

/-- An entry of `_user_cache`. -/
structure CacheEntry where
  user : UserRecord
  timestamp : Time

def userCacheTtl : Time := 60

abbrev UserCache := String → Option CacheEntry

/-- `clear_user_cache`. The empty key stands for all. -/
def clearUserCache (apiKey : String) (cache : UserCache) : UserCache :=
  if apiKey = "" then fun _ => none else Function.update cache apiKey none

def invalidateUserCache (apiKey : String) (cache : UserCache) : UserCache := clearUserCache apiKey cache

/-- `invalidate_user_cache_by_id`: the entries of all keys of a user. -/
def invalidateUserCacheById (userId : Int) (cache : UserCache) : UserCache :=
  fun apiKey => (cache apiKey).filter fun entry => entry.user.id ≠ userId

/-- `deduct_credits`, told with whether it comes to its last line, where the entry of the key goes. -/
def deductCreditsPaid (now : Time) (apiKey : String) (tokens : ℚ) (metadata : Option Dict) (requestId : Option String) :
    DbProg Bool :=
  if tokens < 0 then throw (.valueError "Credits cannot be negative")
  else if tokens < 1 / 1000000 then pure false
  else
    tryCatch
      (do
        let existing ← alreadyCharged requestId
        if existing then pure false
        else do
          let userLookup ← lookupUserByApiKey apiKey
          match userLookup with
          | none => throw (.valueError "User with API key not found")
          | some (userId, row) => do
            let d : Deduction :=
              { now := now, userId := userId, tokens := tokens, allowanceBefore := row.allowance,
                purchasedBefore := row.purchased, metadata := metadata.getD [] }
            let admin ← isAdminTierUser userId
            if admin then pure false
            else do
              tryCatch (enforceDailyUsageLimit now userId tokens) fun e =>
                if e.kind = .dailyUsageLimitExceeded then throw (.valueError e.text) else throw e
              d.pay
              pure true)
      fun e => throw (wrapDeductError e)

/-! ## A process -/

/-- A process: the tables, what it remembers, and the clock. -/
structure Process where
  world : LegacyWorld
  cache : UserCache := fun _ => none
  now : Time := 0

inductive UserCall where
  | wait (duration : Time)
  | getUser (apiKey : String) (duration : Time)
  | deductCredits (apiKey : String) (tokens : ℚ) (metadata : Option Dict) (requestId : Option String)
  | addCreditsToUser (params : AddCreditsParams)
  | resetSubscriptionAllowance (userId : Int) (allowanceAmount : ℚ) (tier : String)
  | forfeitSubscriptionAllowance (userId : Int) (raiseOnError : Bool) (effectiveDate cancellationContext : Option String)

/-- What a call answers: a user, or whether it changed a balance. -/
inductive UserReply where
  | user (user : Option UserRecord)
  | done (changed : Bool)
  deriving DecidableEq

namespace Process

def fresh (p : Process) (apiKey : String) : Option CacheEntry :=
  (p.cache apiKey).filter fun entry => p.now - entry.timestamp < userCacheTtl

/-- A program on the tables, and what becomes of the cache if it succeeds. -/
def change {α : Type} (p : Process) (link : List (Outcome PyErr)) (prog : DbProg α) (changed : α → Bool)
    (invalidate : UserCache → UserCache) : Process × UserReply :=
  let (result, _, db) := prog.run exec link p.world.db
  let done := match result with
    | .ok a => changed a
    | .error _ => false
  ({ p with world := { p.world with db := db }, cache := if done then invalidate p.cache else p.cache }, .done done)

/-- `get_user`. Only users are remembered. -/
def getUser (p : Process) (link : List (Outcome PyErr)) (apiKey : String) (duration : Time) : Process × UserReply :=
  match p.fresh apiKey with
  | some entry => (p, .user (some entry.user))
  | none =>
    let (result, _, world) := (getUserUncached apiKey).run LegacyWorld.exec link p.world
    let found := match result with
      | .ok user => user
      | .error _ => none
    let now := p.now + duration
    ({ world := world, cache := Function.update p.cache apiKey (found.map fun user => ⟨user, now⟩), now := now }, .user found)

/-- One call. -/
def call (p : Process) (link : List (Outcome PyErr)) : UserCall → Process × UserReply
  | .wait duration => ({ p with now := p.now + duration }, .done false)
  | .getUser apiKey duration => p.getUser link apiKey duration
  | .deductCredits apiKey tokens metadata requestId =>
    p.change link (deductCreditsPaid p.now apiKey tokens metadata requestId) id (invalidateUserCache apiKey)
  | .addCreditsToUser params =>
    p.change link (addCreditsToUser params) (fun _ => true) (invalidateUserCacheById params.userId)
  | .resetSubscriptionAllowance userId allowanceAmount tier =>
    p.change link (Gatewayz.resetSubscriptionAllowance p.now userId allowanceAmount tier) id (invalidateUserCacheById userId)
  | .forfeitSubscriptionAllowance userId raiseOnError effectiveDate cancellationContext =>
    -- nothing to forfeit, nothing to invalidate
    p.change link
      (Gatewayz.forfeitSubscriptionAllowance p.now userId raiseOnError effectiveDate cancellationContext)
      (fun forfeiture => 0 < forfeiture.forfeitedAllowance) (invalidateUserCacheById userId)

end Process

def userProcess (world : LegacyWorld) : Machine Process (UserCall × List (Outcome PyErr)) UserReply where
  init := { world := world }
  step := fun p e => some (p.call e.2 e.1)

/-- Whether it is told or not, the deduction is the same. -/
theorem deductCredits_eq (now : Time) (apiKey : String) (tokens : ℚ) (metadata : Option Dict) (requestId : Option String) :
    deductCredits now apiKey tokens metadata requestId =
      (deductCreditsPaid now apiKey tokens metadata requestId >>= fun _ => .ret ()) := by
  unfold deductCredits deductCreditsPaid
  split
  · rfl
  split
  · rfl
  rw [Prog.tryCatch_bind_ret]
  refine congrArg (tryCatch · _) ?_
  rw [Prog.bind_assoc_prog]
  refine congrArg (_ >>= ·) (funext fun existing => ?_)
  cases existing with
  | true => rfl
  | false =>
    simp only [Bool.false_eq_true, if_false]
    rw [Prog.bind_assoc_prog]
    refine congrArg (_ >>= ·) (funext fun userLookup => ?_)
    cases userLookup with
    | none => rfl
    | some found =>
      simp only [Deduction.settle]
      rw [Prog.bind_assoc_prog]
      refine congrArg (_ >>= ·) (funext fun admin => ?_)
      cases admin with
      | true => rfl
      | false =>
        simp only [Bool.false_eq_true, if_false]
        rw [Prog.bind_assoc_prog]
        refine congrArg (_ >>= ·) (funext fun _ => ?_)
        rw [Prog.bind_assoc_prog]
        exact (Prog.bind_ret_unit _).symm

end Gatewayz
