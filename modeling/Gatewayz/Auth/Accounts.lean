import Gatewayz.Billing.Python
import Gatewayz.Exec.Prog
import Mathlib.Data.List.Nodup

/-!
# `Auth.Accounts` — the accounts a sign-in may find

The store of a sign-in: the rows of `users`, their keys, the cache of user rows in Redis under Privy ids and usernames, and what
else is asked on the way. The table keeps its unique columns, and that it hands out ids in order, as fields of `AccountTable`; an
insert or an update that would break a unique column is refused, as the database refuses it.
-/

namespace Gatewayz.Auth

open Exec

/-! ## Rows -/

/-- A row of `users`, as far as a sign-in reads and answers it. -/
structure Account where
  id : Int
  username : String
  email : String
  privyUserId : Option String := none
  apiKey : Option String := none
  authMethod : Option String := none
  welcomeEmailSent : Option Bool := none
  phoneNumber : Option String := none
  tier : Option String := none
  subscriptionStatus : Option String := none
  subscriptionAllowance : Option ℚ := none
  purchasedCredits : Option ℚ := none
  credits : Option ℚ := none
  trialExpiresAt : Option String := none
  subscriptionEndDate : Option String := none
  allowanceResetDate : Option String := none

structure AccountPatch where
  username : Option String := none
  email : Option String := none
  privyUserId : Option String := none
  apiKey : Option String := none
  authMethod : Option String := none
  welcomeEmailSent : Option Bool := none
  tier : Option String := none
  subscriptionStatus : Option String := none
  subscriptionAllowance : Option ℚ := none
  purchasedCredits : Option ℚ := none
  deriving DecidableEq

/-- The row after an update. -/
def AccountPatch.apply (p : AccountPatch) (row : Account) : Account :=
  { row with
    username := p.username.getD row.username
    email := p.email.getD row.email
    privyUserId := p.privyUserId.or row.privyUserId
    apiKey := p.apiKey.or row.apiKey
    authMethod := p.authMethod.or row.authMethod
    welcomeEmailSent := p.welcomeEmailSent.or row.welcomeEmailSent
    tier := p.tier.or row.tier
    subscriptionStatus := p.subscriptionStatus.or row.subscriptionStatus
    subscriptionAllowance := p.subscriptionAllowance.or row.subscriptionAllowance
    purchasedCredits := p.purchasedCredits.or row.purchasedCredits }

@[simp] theorem AccountPatch.apply_id (p : AccountPatch) (row : Account) : (p.apply row).id = row.id := rfl
@[simp] theorem AccountPatch.apply_privyUserId (p : AccountPatch) (row : Account) :
    (p.apply row).privyUserId = p.privyUserId.or row.privyUserId := rfl

/-- A row of `api_keys_new`, as far as a sign-in goes. -/
structure AccountKey where
  userId : Int
  apiKey : String
  keyName : String
  environmentTag : String
  isPrimary : Bool := false
  isActive : Bool := true
  createdAt : Nat := 0

/-! ## The table -/

def UniqueAccounts (rows : List Account) : Prop :=
  (rows.map Account.id).Nodup ∧ (rows.map Account.username).Nodup ∧ (rows.map Account.email).Nodup ∧
    (rows.filterMap Account.privyUserId).Nodup

instance (rows : List Account) : Decidable (UniqueAccounts rows) := inferInstanceAs (Decidable (_ ∧ _ ∧ _ ∧ _))

/-- The table `users`. -/
structure AccountTable where
  rows : List Account := []
  nextId : Int := 1
  unique : UniqueAccounts rows
  fresh : ∀ row ∈ rows, row.id < nextId

namespace AccountTable

variable {t : AccountTable}

def patched (t : AccountTable) (id : Int) (patch : AccountPatch) : List Account :=
  t.rows.map fun row => if row.id = id then patch.apply row else row

theorem patched_fresh (id : Int) (patch : AccountPatch) : ∀ row ∈ t.patched id patch, row.id < t.nextId := by
  intro row hrow
  obtain ⟨old, hold, rfl⟩ := List.mem_map.mp hrow
  have hlt := t.fresh old hold
  split
  · exact hlt
  · exact hlt

/-- `duplicate key value violates unique constraint` -/
def duplicate : PyErr := ⟨.apiError "23505", "duplicate key value violates unique constraint"⟩

/-- `update … where id = …`: the rows updated. -/
def update (t : AccountTable) (id : Int) (patch : AccountPatch) : Except PyErr (Option Account) × AccountTable :=
  if h : UniqueAccounts (t.patched id patch) then
    (.ok ((t.rows.find? fun row => row.id = id).map patch.apply), ⟨t.patched id patch, t.nextId, h, patched_fresh id patch⟩)
  else (.error duplicate, t)

theorem insert_fresh (row : Account) : ∀ old ∈ t.rows ++ [{ row with id := t.nextId }], old.id < t.nextId + 1 := by
  intro old hold
  rcases List.mem_append.mp hold with hold | hold
  · have hlt := t.fresh old hold
    omega
  · rw [List.mem_singleton.mp hold]
    exact Int.lt_add_one_of_le (le_refl _)

/-- `insert`: the row with the id it is given. -/
def insert (t : AccountTable) (row : Account) : Except PyErr Account × AccountTable :=
  if h : UniqueAccounts (t.rows ++ [{ row with id := t.nextId }]) then
    (.ok { row with id := t.nextId }, ⟨_, t.nextId + 1, h, insert_fresh row⟩)
  else (.error duplicate, t)

theorem eq_of_id {row row' : Account} (hrow : row ∈ t.rows) (hrow' : row' ∈ t.rows) (h : row.id = row'.id) : row = row' :=
  List.inj_on_of_nodup_map t.unique.1 hrow hrow' h

end AccountTable

/-! ## The store -/

structure AuthCache where
  byPrivyId : List (String × Account) := []
  byUsername : List (String × Account) := []

/-- What the verification service says about an address. -/
structure EmailVerdict where
  shouldBlock : Bool := false
  isBot : Bool := false

/-- The tables, the cache, and whom else a sign-in asks. -/
structure AuthWorld where
  accounts : AccountTable
  keys : List AccountKey := []
  cache : AuthCache := {}
  /-- The limit on attempts of this address is reached: the seconds to wait. -/
  retryAfter : Option Nat := none
  verdict : String → EmailVerdict := fun _ => {}
  /-- What the user has paid reaches the smallest top-up. -/
  hasPaymentSignal : Int → Bool := fun _ => false

inductive AuthStmt where
  | checkRateLimit
  | verifyEmail (email : String)
  | getCachedByPrivyId (privyId : String)
  | cacheByPrivyId (privyId : String) (account : Account)
  | getCachedByUsername (username : String)
  | cacheByUsername (username : String) (account : Account)
  | invalidateCache (privyId username : String)
  | selectByPrivyId (privyId : String)
  | selectByUsername (username : String)
  | selectByEmail (email : String)
  /-- `select id … where username = …`: is there a row? -/
  | usernameTaken (username : String)
  | updateAccount (id : Int) (patch : AccountPatch)
  | insertAccount (row : Account)
  | selectPaymentSignal (userId : Int)
  | selectActiveKeys (userId : Int)
  | keyNameTaken (userId : Int) (keyName : String)
  | refreshSchemaCache
  | insertKey (key : AccountKey)
  /-- The rows that go with a new key: its request limits, and the audit log. -/
  | insertKeyRecords (apiKey : String)

@[reducible] def AuthRes : AuthStmt → Type
  | .checkRateLimit => Option Nat
  | .verifyEmail _ => EmailVerdict
  | .getCachedByPrivyId _ | .getCachedByUsername _ => Option Account
  | .selectByPrivyId _ | .selectByUsername _ | .selectByEmail _ => Option Account
  | .updateAccount _ _ => Option Account
  | .insertAccount _ => Account
  | .usernameTaken _ | .selectPaymentSignal _ | .keyNameTaken _ _ => Bool
  | .selectActiveKeys _ => List AccountKey
  | .cacheByPrivyId _ _ | .cacheByUsername _ _ | .invalidateCache _ _ => Unit
  | .refreshSchemaCache | .insertKey _ | .insertKeyRecords _ => Unit

namespace AuthWorld

def byPrivyId (w : AuthWorld) (privyId : String) : Option Account :=
  w.accounts.rows.find? fun row => row.privyUserId = some privyId
def byUsername (w : AuthWorld) (username : String) : Option Account :=
  w.accounts.rows.find? fun row => row.username = username
def byEmail (w : AuthWorld) (email : String) : Option Account := w.accounts.rows.find? fun row => row.email = email

/-- What the database, the cache and the services do with a statement. -/
def exec : (s : AuthStmt) → AuthWorld → Except PyErr (AuthRes s) × AuthWorld
  | .checkRateLimit, w => (.ok w.retryAfter, w)
  | .verifyEmail email, w => (.ok (w.verdict email), w)
  | .getCachedByPrivyId p, w => (.ok (w.cache.byPrivyId.lookup p), w)
  | .getCachedByUsername n, w => (.ok (w.cache.byUsername.lookup n), w)
  | .cacheByPrivyId p account, w =>
    (.ok (), { w with cache := { w.cache with byPrivyId := (p, account) :: w.cache.byPrivyId } })
  | .cacheByUsername n account, w =>
    (.ok (), { w with cache := { w.cache with byUsername := (n, account) :: w.cache.byUsername } })
  | .invalidateCache p n, w =>
    (.ok (), { w with
      cache :=
        { byPrivyId := w.cache.byPrivyId.filter fun e => e.1 ≠ p
          byUsername := w.cache.byUsername.filter fun e => e.1 ≠ n } })
  | .selectByPrivyId p, w => (.ok (w.byPrivyId p), w)
  | .selectByUsername n, w => (.ok (w.byUsername n), w)
  | .selectByEmail e, w => (.ok (w.byEmail e), w)
  | .usernameTaken n, w => (.ok (w.byUsername n).isSome, w)
  | .updateAccount id patch, w =>
    ((w.accounts.update id patch).1, { w with accounts := (w.accounts.update id patch).2 })
  | .insertAccount row, w => ((w.accounts.insert row).1, { w with accounts := (w.accounts.insert row).2 })
  | .selectPaymentSignal u, w => (.ok (w.hasPaymentSignal u), w)
  | .selectActiveKeys u, w => (.ok (w.keys.filter fun key => key.userId = u ∧ key.isActive), w)
  | .keyNameTaken u name, w => (.ok (w.keys.any fun key => key.userId = u ∧ key.keyName = name), w)
  | .refreshSchemaCache, w => (.ok (), w)
  | .insertKey key, w =>
    if w.keys.any fun old => old.apiKey = key.apiKey then (.error AccountTable.duplicate, w)
    else (.ok (), { w with keys := w.keys ++ [key] })
  | .insertKeyRecords _, w => (.ok (), w)

end AuthWorld

abbrev AuthProg := Prog PyErr AuthStmt AuthRes

def ask (s : AuthStmt) : AuthProg (AuthRes s) := Prog.stmt s

end Gatewayz.Auth
