import Gatewayz.Billing.PaymentRules
import Gatewayz.Billing.UserCache
import Gatewayz.Exec.Served

/-!
# `Correctness.UserCacheFresh` — no stale balance after a balance change

What a process remembers of a user is right as long as every change drops it. A grant, a reset and a forfeiture drop the entries of
all keys of the user, a deduction that of one key only: the others go on showing the old balance for up to a minute.

The runs of the law are those in which that does not happen (`Unstale`).
-/

namespace Gatewayz

open Exec

/-! ## Whose balance a statement may change -/

def Stmt.Spares (u : Int) : Stmt → Prop
  | .updateUser v _ => v ≠ u
  | .updateUserIf v _ _ _ => v ≠ u
  | .rpcAtomicAddCredits p => p.userId ≠ u
  | .rpcAtomicDeductCredits p => p.userId ≠ u
  | _ => True

structure SameKeys (w w' : World) : Prop where
  apiKeysNew : w'.apiKeysNew = w.apiKeysNew
  userByApiKey : w'.userByApiKey = w.userByApiKey
  users : ∀ u, (w'.users u).isSome = (w.users u).isSome

theorem SameKeys.refl (w : World) : SameKeys w w := ⟨rfl, rfl, fun _ => rfl⟩

theorem SameKeys.trans {w w' w'' : World} (h : SameKeys w w') (h' : SameKeys w' w'') : SameKeys w w'' :=
  ⟨h'.1.trans h.1, h'.2.trans h.2, fun u => (h'.3 u).trans (h.3 u)⟩

section Statements

variable {u v : Int} {w : World} {s : Stmt} {row row' : User}

theorem columns_setUser_of_ne (h : v ≠ u) : (w.setUser v row).columns u = w.columns u := by
  simp only [World.columns, World.allowance, World.purchased, World.users_setUser_of_ne w h.symm]

theorem columns_of_users (h : w.users u = some row) : w.columns u = (row.allowance, row.purchased) := by
  rw [World.columns, World.allowance_of_users h, World.purchased_of_users h]

theorem sameKeys_setUser (h : w.users v = some row) : SameKeys w (w.setUser v row') := by
  refine ⟨rfl, rfl, fun u => ?_⟩
  by_cases hu : u = v
  · rw [hu, World.users_setUser_self, h]
    rfl
  · rw [World.users_setUser_of_ne w hu]

theorem updateUserRow_columns (patch : UserPatch) (h : v ≠ u) : (updateUserRow v patch w).2.columns u = w.columns u := by
  rcases updateUserRow_cases v patch w with ⟨-, he⟩ | ⟨row, -, he⟩
  · rw [he]
  · rw [he]
    exact columns_setUser_of_ne h

theorem updateUserRow_sameKeys (v : Int) (patch : UserPatch) (w : World) : SameKeys w (updateUserRow v patch w).2 := by
  rcases updateUserRow_cases v patch w with ⟨-, he⟩ | ⟨row, hrow, he⟩
  · rw [he]
    exact .refl w
  · rw [he]
    exact sameKeys_setUser hrow

/-- A statement that spares a user, carried out. -/
theorem exec_spares (h : s.Spares u) : (exec s w).2.columns u = w.columns u := by
  by_cases hmoney : s.KeepsMoney
  · have hsame := exec_keeps hmoney w
    rw [World.columns, hsame.allowance, hsame.purchased, World.columns]
  · cases s with
    | updateUser v patch => exact updateUserRow_columns patch h
    | updateUserIf v a p patch =>
      simp only [exec]
      split
      · exact updateUserRow_columns patch h
      · rfl
    | rpcAtomicAddCredits p =>
      rcases atomicAddCredits_cases p w with ⟨he, -⟩ | ⟨row, -, -, -, he⟩
      · rw [exec, he]
      · rw [exec, he]
        exact columns_setUser_of_ne h
    | rpcAtomicDeductCredits p =>
      rcases atomicDeductCredits_cases p w with ⟨he, -⟩ | ⟨row, -, -, -, -, -, -, he⟩
      · rw [exec, he]
      · rw [exec, he]
        exact columns_setUser_of_ne h
    | insertTransaction t =>
      rcases insertTransactionRow_cases t w with ⟨e, he⟩ | ⟨-, he⟩
      · rw [exec, he]
      · rw [exec, he]
        rfl
    | _ => exact absurd trivial hmoney

/-- No statement on the accounts touches the keys. -/
theorem exec_sameKeys (h : s.OnAccounts ∨ s.Reads) : SameKeys w (exec s w).2 := by
  rcases h with h | h
  · cases s with
    | updateUser v patch => exact updateUserRow_sameKeys v patch w
    | updateUserIf v a p patch =>
      simp only [exec]
      split
      · exact updateUserRow_sameKeys v patch w
      · exact .refl w
    | rpcAtomicAddCredits p =>
      rcases atomicAddCredits_cases p w with ⟨he, -⟩ | ⟨row, hrow, -, -, he⟩
      · rw [exec, he]
        exact .refl w
      · rw [exec, he]
        exact (sameKeys_setUser hrow).trans ⟨rfl, rfl, fun _ => rfl⟩
    | rpcAtomicDeductCredits p =>
      rcases atomicDeductCredits_cases p w with ⟨he, -⟩ | ⟨row, hrow, -, -, -, -, -, he⟩
      · rw [exec, he]
        exact .refl w
      · rw [exec, he]
        exact (sameKeys_setUser hrow).trans ⟨rfl, rfl, fun _ => rfl⟩
    | insertTransaction t =>
      rcases insertTransactionRow_cases t w with ⟨e, he⟩ | ⟨-, he⟩
      · rw [exec, he]
        exact .refl w
      · rw [exec, he]
        exact ⟨rfl, rfl, fun _ => rfl⟩
    | _ => exact h.elim
  · rw [exec_reads h]
    exact .refl w

end Statements

/-! ## What the calls do to the tables -/

def Stmt.Of (x : Int) (s : Stmt) : Prop := (s.OnAccounts ∨ s.Reads) ∧ ∀ u, x ≠ u → s.Spares u

theorem of_reads {x : Int} {s : Stmt} (h : s.Reads) : s.Of x := by
  refine ⟨.inr h, fun u _ => ?_⟩
  cases s <;> trivial

structure Moves (x : Int) (w w' : World) : Prop where
  keys : SameKeys w w'
  others : ∀ u, x ≠ u → w'.columns u = w.columns u

variable {α : Type} {prog : DbProg α}

theorem run_moves {x : Int} (h : prog.Only (Stmt.Of x)) (link : List (Outcome PyErr)) (w : World) :
    Moves x w (prog.run exec link w).2.2 := by
  refine run_keeps_of_only (I := Moves x w) (fun s hs st hst => ?_) h link ⟨.refl w, fun _ _ => rfl⟩
  exact ⟨hst.keys.trans (exec_sameKeys hs.1), fun u hu => (exec_spares (hs.2 u hu)).trans (hst.others u hu)⟩

theorem addCreditsToUser_of (params : AddCreditsParams) : (addCreditsToUser params).Only (Stmt.Of params.userId) :=
  addCreditsToUser_only
    { procedure := ⟨.inl trivial, fun _ h => h⟩
      select := of_reads trivial
      update := fun _ => ⟨.inl trivial, fun _ h => h⟩
      insert := fun _ => ⟨.inl trivial, fun _ _ => trivial⟩ }

theorem resetSubscriptionAllowance_of (now : Time) (u : Int) (amount : ℚ) (tier : String) :
    (resetSubscriptionAllowance now u amount tier).Only (Stmt.Of u) :=
  resetSubscriptionAllowance_only_row tier (of_reads trivial) ⟨.inl trivial, fun _ h => h⟩
    fun _ _ => ⟨.inl trivial, fun _ _ => trivial⟩

theorem forfeitSubscriptionAllowance_of (now : Time) (u : Int) (raiseOnError : Bool)
    (effectiveDate cancellationContext : Option String) :
    (forfeitSubscriptionAllowance now u raiseOnError effectiveDate cancellationContext).Only (Stmt.Of u) :=
  forfeitSubscriptionAllowance_only_row raiseOnError effectiveDate cancellationContext (of_reads trivial)
    ⟨.inl trivial, fun _ h => h⟩ fun _ _ _ _ => ⟨.inl trivial, fun _ _ => trivial⟩

theorem pay_of (d : Deduction) : d.pay.Only (Stmt.Of d.userId) :=
  pay_only
    { procedure := ⟨.inl trivial, fun _ h => h⟩
      guarded := ⟨.inl trivial, fun _ h => h⟩
      select := of_reads trivial
      insert := ⟨.inl trivial, fun _ _ => trivial⟩
      rollback := ⟨.inl trivial, fun _ h => h⟩ }

/-- The key leads `deduct_credits` to the user. -/
def World.KeyOf (w : World) (apiKey : String) (u : Int) : Prop :=
  w.keyUser apiKey = some u ∨ w.keyUser apiKey = none ∧ w.userByApiKey apiKey = some u

/-- What a deduction may leave behind: another balance of the key's user. -/
structure PaidBy (apiKey : String) (tokens : ℚ) (w w' : World) : Prop where
  keys : SameKeys w w'
  others : ∀ u, (1 / 1000000 ≤ tokens → ¬ w.KeyOf apiKey u) → w'.columns u = w.columns u

theorem deductCreditsPaid_deducted (now : Time) (apiKey : String) (tokens : ℚ) (metadata : Option Dict)
    (requestId : Option String) (link : List (Outcome PyErr)) (w : World) :
    PaidBy apiKey tokens w ((deductCreditsPaid now apiKey tokens metadata requestId).run exec link w).2.2 := by
  have hsame : PaidBy apiKey tokens w w := ⟨.refl w, fun _ _ => rfl⟩
  have hwp : (deductCredits now apiKey tokens metadata requestId).wp anyRun .alone
      (fun _ _ w' => PaidBy apiKey tokens w w') (fun _ _ w' => PaidBy apiKey tokens w w') () w := by
    refine wp_deductCredits (steady_untouched w) rfl ?_ ?_ ?_
    · intro _ w' hw' _
      rw [hw']
      exact hsame
    · intro _ _ w' hw'
      rw [hw']
      exact hsame
    · intro d _ hmin _ hfound _ _ w' hw'
      subst hw'
      have hkey : w'.KeyOf apiKey d.userId := by
        rcases hfound with ⟨_, st, rfl, -, hkey⟩ | ⟨⟨_, st, rfl, -, hnone⟩, _, st', hst', -, hkey⟩
        · exact .inl hkey
        · subst hst'
          exact .inr ⟨hnone, hkey⟩
      refine wp_of_runs fun os _ => ?_
      have hmoves := run_moves (pay_of d) os w'
      have hdone : PaidBy apiKey tokens w' (d.pay.run exec os w').2.2 := by
        refine ⟨hmoves.keys, fun u hu => hmoves.others u ?_⟩
        rintro rfl
        exact hu hmin hkey
      cases (d.pay.run exec os w').1 with
      | ok _ => exact hdone
      | error _ => exact hdone
  obtain ⟨-, h⟩ := wp_run_alone hwp (Prog.admits_of_allow (fun _ _ _ _ => trivial) link _ () w)
  rw [deductCredits_eq, Prog.run_bind] at h
  revert h
  rcases (deductCreditsPaid now apiKey tokens metadata requestId).run exec link w with ⟨r, os', w'⟩
  intro h
  cases r with
  | ok _ => exact h
  | error _ => exact h

/-! ## What a lookup finds -/

/-- The record `get_user` is to find: that of a key of `api_keys_new`, else that of a legacy key. -/
def LegacyWorld.found (w : LegacyWorld) (apiKey : String) : Option UserRecord :=
  match (w.db.keyUser apiKey).bind w.record? with
  | some user => some user
  | none => (w.db.userByApiKey apiKey).bind w.record?

def LegacyWorld.owner (w : LegacyWorld) (apiKey : String) : Option Int := (w.found apiKey).map UserRecord.id

section Lookup

variable {w w' : LegacyWorld} {apiKey : String} {user : UserRecord} {u : Int}

theorem record?_id (w : LegacyWorld) (u : Int) : (w.record? u).map UserRecord.id = if (w.db.users u).isSome then some u else none := by
  unfold LegacyWorld.record?
  cases w.db.users u with
  | none => rfl
  | some row => rfl

theorem owner_eq (w : LegacyWorld) (apiKey : String) : w.owner apiKey =
      ((w.db.keyUser apiKey).bind fun u => if (w.db.users u).isSome then some u else none).or
        ((w.db.userByApiKey apiKey).bind fun u => if (w.db.users u).isSome then some u else none) := by
  have hid : ∀ o : Option Int, (o.bind w.record?).map UserRecord.id =
      o.bind fun u => if (w.db.users u).isSome then some u else none := by
    intro o
    cases o with
    | none => rfl
    | some u => exact record?_id w u
  rw [← hid, ← hid, LegacyWorld.owner, LegacyWorld.found]
  cases (w.db.keyUser apiKey).bind w.record? with
  | none => rfl
  | some user => rfl

theorem owner_congr (h : SameKeys w.db w'.db) : w'.owner apiKey = w.owner apiKey := by
  rw [owner_eq, owner_eq, World.keyUser, World.keyUser, h.apiKeysNew, h.userByApiKey]
  simp only [h.users]

theorem record?_columns (h : w.record? u = some user) :
    user.id = u ∧ (user.row.allowance, user.row.purchased) = w.db.columns u := by
  obtain ⟨row, hrow, rfl⟩ := Option.map_eq_some_iff.mp h
  exact ⟨rfl, (columns_of_users hrow).symm⟩

theorem found_columns (h : w.found apiKey = some user) :
    (user.row.allowance, user.row.purchased) = w.db.columns user.id := by
  have hrecord : ∃ u, w.record? u = some user := by
    unfold LegacyWorld.found at h
    split at h
    · next user' huser =>
      cases h
      obtain ⟨u, -, hu⟩ := Option.bind_eq_some_iff.mp huser
      exact ⟨u, hu⟩
    · obtain ⟨u, -, hu⟩ := Option.bind_eq_some_iff.mp h
      exact ⟨u, hu⟩
  obtain ⟨u, hu⟩ := hrecord
  obtain ⟨rfl, hcolumns⟩ := record?_columns hu
  exact hcolumns

theorem admits_of_allServed {ξ S γ σ α : Type} {R : S → Type} {C : Setting ξ S R γ σ} {link : List (Outcome ξ)}
    (hallow : ∀ g s st, C.allow g s .served st) (h : AllServed link) (prog : Prog ξ S R α) (g : γ) (st : σ) :
    prog.Admits C link g st := by
  induction prog generalizing link g st with
  | ret a => trivial
  | fail e => trivial
  | ask s k ih =>
    refine ⟨?_, ih _ h.tail _ _⟩
    rw [h.head]
    exact hallow g s st

abbrev lookupRun (may : Outcome PyErr → Prop) : Setting PyErr AccountStmt AccountRes Unit LegacyWorld where
  exec := LegacyWorld.exec
  note := fun _ _ _ _ _ => ()
  allow := fun _ _ o _ => may o

/-- What a lookup comes to: the record of the key, as it is in the table if nothing was to be converted, or nothing. -/
structure Looked (w : LegacyWorld) (apiKey : String) (answer : Option UserRecord) (w' : LegacyWorld) : Prop where
  keys : SameKeys w.db w'.db
  others : ∀ u, (∀ user, w.found apiKey = some user → user.id = u → ¬ user.Due) → w'.db.columns u = w.db.columns u
  user : ∀ user', answer = some user' →
    ∃ user, w.found apiKey = some user ∧ user'.id = user.id ∧ (¬ user.Due → user' = user ∧ w' = w)

theorem looked_none : Looked w apiKey none w where
  keys := .refl _
  others := fun _ _ => rfl
  user := fun user' h => by cases h

theorem looked_same (h : w.found apiKey = some user) : Looked w apiKey (some user) w :=
  ⟨.refl _, fun _ _ => rfl, fun user' hu => by cases hu; exact ⟨user, h, rfl, fun _ => ⟨rfl, rfl⟩⟩⟩

theorem looked_due {user' : UserRecord} (h : w.found apiKey = some user) (hdue : user.Due) (hid : user'.id = user.id) :
    Looked w apiKey (some user') (w.migrate user.id user.target user.legacy).2 := by
  have hkeys : SameKeys w.db (w.migrate user.id user.target user.legacy).2.db ∧
      ∀ u, user.id ≠ u → (w.migrate user.id user.target user.legacy).2.db.columns u = w.db.columns u := by
    unfold LegacyWorld.migrate
    split
    · exact ⟨updateUserRow_sameKeys _ _ _, fun u hu => updateUserRow_columns _ hu⟩
    · exact ⟨.refl _, fun _ _ => rfl⟩
  refine ⟨hkeys.1, fun u hu => hkeys.2 u fun heq => hu user h heq hdue, fun user'' huser => ?_⟩
  cases huser
  exact ⟨user, h, hid, fun hnot => absurd hdue hnot⟩

theorem wp_migrateLegacyCreditBalance {may : Outcome PyErr → Prop} (h : w.found apiKey = some user) :
    (some <$> migrateLegacyCreditBalance user).wp (lookupRun may) .alone
      (fun answer _ w' => Looked w apiKey answer w' ∧ answer ≠ none) (fun _ _ _ => False) () w := by
  show Prog.wp _ _ _ _ (migrateLegacyCreditBalance user >>= fun a => Prog.ret (some a)) () w
  rw [wp_bind]
  unfold migrateLegacyCreditBalance
  split
  · next hdue =>
    rw [wp_tryCatch, wp_bind]
    refine wp_alone_stmt (C := lookupRun may) fun o _ => ?_
    cases o with
    | served =>
      refine ⟨looked_due h hdue ?_, nofun⟩
      split
      · rfl
      · rfl
    | dropped e => exact ⟨looked_same h, nofun⟩
    | lost e => exact ⟨looked_due h hdue rfl, nofun⟩
  · exact ⟨looked_same h, nofun⟩

def LookedUp (may : Outcome PyErr → Prop) (w : LegacyWorld) (apiKey : String) (answer : Option UserRecord) (w' : LegacyWorld) :
    Prop :=
  Looked w apiKey answer w' ∧ ((∀ o, may o → o = .served) → answer = none → w.found apiKey = none)

section Answers

variable {may : Outcome PyErr → Prop}

theorem lookedUp_failed {o : Outcome PyErr} (ho : may o) (hne : o ≠ .served) : LookedUp may w apiKey none w :=
  ⟨looked_none, fun hall _ => absurd (hall o ho) hne⟩

theorem wp_foundUser (h : w.found apiKey = some user) :
    (some <$> migrateLegacyCreditBalance user).wp (lookupRun may) .alone (fun answer _ => LookedUp may w apiKey answer)
      (fun _ _ => LookedUp may w apiKey none) () w :=
  wp_mono (fun _ _ _ h => ⟨h.1, fun _ hnone => absurd hnone h.2⟩) (fun _ _ _ h => h.elim) (wp_migrateLegacyCreditBalance h)

theorem wp_legacyKey (h : (w.db.keyUser apiKey).bind w.record? = none) :
    (ask (.selectRecordByApiKey apiKey) >>= fun legacyResult =>
      match legacyResult with
      | some user => some <$> migrateLegacyCreditBalance user
      | none => pure none).wp (lookupRun may) .alone (fun answer _ => LookedUp may w apiKey answer)
      (fun _ _ => LookedUp may w apiKey none) () w := by
  have hfound : w.found apiKey = (w.db.userByApiKey apiKey).bind w.record? := by
    unfold LegacyWorld.found
    rw [h]
  rw [wp_bind]
  refine wp_alone_stmt (C := lookupRun may) fun o ho => ?_
  cases o with
  | served =>
    show Prog.wp _ _ _ _ _ () w
    cases huser : (w.db.userByApiKey apiKey).bind w.record? with
    | some user =>
      rw [huser] at hfound
      exact wp_foundUser hfound
    | none => exact ⟨looked_none, fun _ _ => hfound.trans huser⟩
  | dropped e => exact lookedUp_failed ho nofun
  | lost e => exact lookedUp_failed ho nofun

end Answers

/-- A lookup, whatever becomes of its statements. If all of them are served it finds what there is. -/
theorem wp_getUserUncached (may : Outcome PyErr → Prop) (w : LegacyWorld) (apiKey : String) :
    (getUserUncached apiKey).wp (lookupRun may) .alone (fun answer _ => LookedUp may w apiKey answer) (fun _ _ _ => False) ()
      w := by
  unfold getUserUncached
  rw [wp_tryCatch, wp_bind]
  refine wp_alone_stmt (C := lookupRun may) fun o ho => ?_
  cases o with
  | dropped e => exact lookedUp_failed ho nofun
  | lost e => exact lookedUp_failed ho nofun
  | served =>
    show Prog.wp _ _ _ _ _ () w
    cases hkey : w.db.keyUser apiKey with
    | none =>
      exact wp_legacyKey (by rw [hkey]; rfl)
    | some userId =>
      dsimp only
      rw [wp_bind]
      refine wp_alone_stmt (C := lookupRun may) fun o ho => ?_
      cases o with
      | dropped e => exact lookedUp_failed ho nofun
      | lost e => exact lookedUp_failed ho nofun
      | served =>
        show Prog.wp _ _ _ _ _ () w
        cases huser : w.record? userId with
        | none =>
          exact wp_legacyKey (by rw [hkey]; exact huser)
        | some user =>
          refine wp_foundUser ?_
          unfold LegacyWorld.found
          rw [hkey, Option.bind_some, huser]

end Lookup

/-! ## A process, watched -/

/-- A process, and whether the user's balances are what the last successful change has left. -/
structure Watched where
  process : Process
  settled : Bool

def watched (u : Int) (world : LegacyWorld) : Machine Watched (UserCall × List (Outcome PyErr)) UserReply where
  init := ⟨(userProcess world).init, false⟩
  step := fun s e =>
    ((userProcess world).step s.process e).map fun (p, reply) =>
      (⟨p, if p.world.db.columns u = s.process.world.db.columns u then s.settled else reply = .done true⟩, reply)

/-- Calls that leave nothing stale: a deduction through a key of the user finds no entry in date for any other key of the user,
    and a lookup after a change finds no legacy credits of the user to convert. -/
def Unstale (u : Int) (s : Watched) (e : UserCall × List (Outcome PyErr)) : Prop :=
  match e.1 with
  | .deductCredits apiKey tokens _ _ =>
    1 / 1000000 ≤ tokens → s.process.world.db.KeyOf apiKey u →
      ∀ other entry, other ≠ apiKey → s.process.fresh other = some entry → entry.user.id ≠ u
  | .getUser apiKey _ =>
    s.settled = true → s.process.fresh apiKey = none →
      ∀ user, s.process.world.found apiKey = some user → user.id = u → ¬ user.Due
  | _ => True

def Owned (p : Process) : Prop := ∀ apiKey entry, p.cache apiKey = some entry → p.world.owner apiKey = some entry.user.id

/-- Entries in date are accurate: those of the user show the balances in the table. -/
def Accurate (u : Int) (p : Process) : Prop :=
  ∀ apiKey entry, p.fresh apiKey = some entry → entry.user.id = u →
    (entry.user.row.allowance, entry.user.row.purchased) = p.world.db.columns u

section Calls

variable {u : Int} {p p' : Process} {apiKey : String} {entry : CacheEntry} {link : List (Outcome PyErr)}
variable {world : LegacyWorld} {s s' : Watched} {e : UserCall × List (Outcome PyErr)} {reply : UserReply}

theorem fresh_cache (h : p.fresh apiKey = some entry) : p.cache apiKey = some entry := (Option.filter_eq_some_iff.mp h).1

theorem fresh_earlier {q : Process} (hnow : p.now ≤ q.now) (hcache : q.cache apiKey = some entry → p.cache apiKey = some entry)
    (h : q.fresh apiKey = some entry) : p.fresh apiKey = some entry := by
  obtain ⟨hentry, hdate⟩ := Option.filter_eq_some_iff.mp h
  have hdate : q.now - entry.timestamp < userCacheTtl := of_decide_eq_true hdate
  refine Option.filter_eq_some_iff.mpr ⟨hcache hentry, decide_eq_true ?_⟩
  exact lt_of_le_of_lt (Nat.sub_le_sub_right hnow entry.timestamp) hdate

/-- A call that changes the tables, whatever the change. -/
structure Changed (p p' : Process) (reply : UserReply) (keeps : String → CacheEntry → Prop) : Prop where
  keys : SameKeys p.world.db p'.world.db
  now : p'.now = p.now
  cache : ∀ apiKey entry, p'.cache apiKey = some entry → p.cache apiKey = some entry
  dropped : reply = .done true → ∀ apiKey entry, p'.cache apiKey = some entry → keeps apiKey entry

theorem change_changed {changed : α → Bool} {invalidate : UserCache → UserCache} {k : String → CacheEntry → Prop}
    (hkeys : SameKeys p.world.db (prog.run exec link p.world.db).2.2)
    (hinvalidate : ∀ apiKey entry, invalidate p.cache apiKey = some entry → p.cache apiKey = some entry ∧ k apiKey entry) :
    Changed p (p.change link prog changed invalidate).1 (p.change link prog changed invalidate).2 k := by
  unfold Process.change
  revert hkeys
  rcases prog.run exec link p.world.db with ⟨r, os', db⟩
  intro hkeys
  have hcache : ∀ done : Bool, (∀ apiKey entry, (if done then invalidate p.cache else p.cache) apiKey = some entry →
      p.cache apiKey = some entry) ∧ (UserReply.done done = .done true → ∀ apiKey entry,
        (if done then invalidate p.cache else p.cache) apiKey = some entry → k apiKey entry) := by
    intro done
    cases done with
    | true => exact ⟨fun other e h => (hinvalidate other e h).1, fun _ other e h => (hinvalidate other e h).2⟩
    | false => exact ⟨fun _ _ h => h, fun h => by cases h⟩
  exact ⟨hkeys, rfl, (hcache _).1, (hcache _).2⟩

variable {keeps : String → CacheEntry → Prop}

theorem Changed.owned (h : Changed p p' reply keeps) (hp : Owned p) : Owned p' :=
  fun apiKey entry hentry => (owner_congr h.keys).trans (hp apiKey entry (h.cache apiKey entry hentry))

theorem Changed.accurate (h : Changed p p' reply keeps) (hs : s.settled = true → Accurate u p)
    (hdrops : p'.world.db.columns u ≠ p.world.db.columns u →
      ∀ apiKey entry, p.fresh apiKey = some entry → keeps apiKey entry → entry.user.id ≠ u)
    (hsettled : (if p'.world.db.columns u = p.world.db.columns u then s.settled else decide (reply = .done true)) = true) :
    Accurate u p' := by
  intro apiKey entry hfresh hid
  have hearlier : p.fresh apiKey = some entry := fresh_earlier (le_of_eq h.now.symm) (h.cache apiKey entry) hfresh
  by_cases hsame : p'.world.db.columns u = p.world.db.columns u
  · rw [if_pos hsame] at hsettled
    rw [hsame]
    exact hs hsettled apiKey entry hearlier hid
  · rw [if_neg hsame, decide_eq_true_eq] at hsettled
    exact absurd hid (hdrops hsame apiKey entry hearlier (h.dropped hsettled apiKey entry (fresh_cache hfresh)))

theorem clearUserCache_keeps {cache : UserCache} {other : String} (h : clearUserCache apiKey cache other = some entry) :
    cache other = some entry ∧ other ≠ apiKey := by
  unfold clearUserCache at h
  split at h
  · cases h
  · by_cases hother : other = apiKey
    · rw [hother, Function.update_self] at h
      cases h
    · rw [Function.update_of_ne hother] at h
      exact ⟨h, hother⟩

theorem invalidateUserCacheById_keeps {cache : UserCache} (h : invalidateUserCacheById u cache apiKey = some entry) :
    cache apiKey = some entry ∧ entry.user.id ≠ u := by
  obtain ⟨hcache, hid⟩ := Option.filter_eq_some_iff.mp h
  exact ⟨hcache, of_decide_eq_true hid⟩

theorem getUser_found (p : Process) (link : List (Outcome PyErr)) (apiKey : String) (duration : Time)
    (hmiss : p.fresh apiKey = none) :
    ∃ answer world, Looked p.world apiKey answer world ∧ (AllServed link → answer = none → p.world.found apiKey = none) ∧
      p.getUser link apiKey duration =
        ({ world := world, cache := Function.update p.cache apiKey (answer.map fun user => ⟨user, p.now + duration⟩),
           now := p.now + duration }, .user answer) := by
  have hany := wp_run_alone (wp_getUserUncached (fun _ => True) p.world apiKey)
    (Prog.admits_of_allow (fun _ _ _ _ => trivial) link _ () p.world)
  have hserved : AllServed link → _ := fun hlink => wp_run_alone (wp_getUserUncached (· = .served) p.world apiKey)
    (admits_of_allServed (fun _ _ _ => rfl) hlink _ () p.world)
  unfold Process.getUser
  rw [hmiss]
  revert hany hserved
  simp only
  rcases (getUserUncached apiKey).run LegacyWorld.exec link p.world with ⟨r, os', world⟩
  intro hany hserved
  obtain ⟨-, hany⟩ := hany
  cases r with
  | error e => exact hany.elim
  | ok answer =>
    refine ⟨answer, world, hany.1, fun hlink hnone => ?_, rfl⟩
    obtain ⟨-, hserved⟩ := hserved hlink
    exact hserved.2 (fun _ ho => ho) hnone

structure Coherent (u : Int) (s : Watched) : Prop where
  owned : Owned s.process
  accurate : s.settled = true → Accurate u s.process

def Watched.next (u : Int) (s : Watched) (p : Process) (reply : UserReply) : Watched :=
  ⟨p, if p.world.db.columns u = s.process.world.db.columns u then s.settled else reply = .done true⟩

theorem coherent_changed (h : Changed s.process p' reply keeps) (hs : Coherent u s)
    (hdrops : p'.world.db.columns u ≠ s.process.world.db.columns u →

          ∀ apiKey entry, s.process.fresh apiKey = some entry → keeps apiKey entry → entry.user.id ≠ u) :
    Coherent u (s.next u p' reply) :=
  ⟨h.owned hs.owned, h.accurate hs.accurate hdrops⟩

theorem coherent_change {x : Int} (h : prog.Only (Stmt.Of x)) (changed : α → Bool) (hs : Coherent u s) :
    Coherent u (s.next u (s.process.change link prog changed (invalidateUserCacheById x)).1
      (s.process.change link prog changed (invalidateUserCacheById x)).2) := by
  have hmoves := run_moves h link s.process.world.db
  refine coherent_changed (change_changed (k := fun _ entry => entry.user.id ≠ x) hmoves.keys
    fun _ _ => invalidateUserCacheById_keeps) hs fun hmoved apiKey entry _ hkept => ?_
  have hx : x = u := by
    by_contra hne
    exact hmoved (hmoves.others u hne)
  rw [← hx]
  exact hkept

theorem coherent_deduct {now : Time} {tokens : ℚ} {metadata : Option Dict} {requestId : Option String} (hs : Coherent u s)
    (hok : Unstale u s (.deductCredits apiKey tokens metadata requestId, link)) : Coherent u (s.next u
      (s.process.change link (deductCreditsPaid now apiKey tokens metadata requestId) id (invalidateUserCache apiKey)).1
      (s.process.change link (deductCreditsPaid now apiKey tokens metadata requestId) id (invalidateUserCache apiKey)).2) := by
  have hdeducted := deductCreditsPaid_deducted now apiKey tokens metadata requestId link s.process.world.db
  refine coherent_changed (change_changed (k := fun other _ => other ≠ apiKey) hdeducted.keys
    fun _ _ => clearUserCache_keeps) hs fun hmoved other entry hfresh hother => ?_
  by_contra hid
  refine hmoved (hdeducted.others u fun hmin hkey => ?_)
  exact hok hmin hkey other entry hother hfresh hid

theorem coherent_getUser {duration : Time} (hs : Coherent u s) (hok : Unstale u s (.getUser apiKey duration, link)) :
    Coherent u (s.next u (s.process.getUser link apiKey duration).1 (s.process.getUser link apiKey duration).2) := by
  cases hfresh : s.process.fresh apiKey with
  | some entry =>
    have hhit : s.process.getUser link apiKey duration = (s.process, .user (some entry.user)) := by
      unfold Process.getUser
      rw [hfresh]
    rw [hhit]
    exact ⟨hs.owned, fun h => hs.accurate (by simpa [Watched.next] using h)⟩
  | none =>
    obtain ⟨answer, world, hlooked, -, hcall⟩ := getUser_found s.process link apiKey duration hfresh
    rw [hcall]
    have hentry : ∀ other entry,
        Function.update s.process.cache apiKey (answer.map fun user => ⟨user, s.process.now + duration⟩) other = some entry →
          s.process.cache other = some entry ∨ other = apiKey ∧ answer = some entry.user := by
      intro other entry h
      by_cases hother : other = apiKey
      · rw [hother, Function.update_self] at h
        obtain ⟨user, huser, rfl⟩ := Option.map_eq_some_iff.mp h
        exact .inr ⟨hother, huser⟩
      · rw [Function.update_of_ne hother] at h
        exact .inl h
    constructor
    · intro other entry h
      show world.owner other = some entry.user.id
      rw [owner_congr hlooked.keys]
      rcases hentry other entry h with hold | ⟨rfl, hnew⟩
      · exact hs.owned other entry hold
      · obtain ⟨user, huser, hid, -⟩ := hlooked.user _ hnew
        rw [LegacyWorld.owner, huser, hid]
        rfl
    · intro hsettled
      -- a lookup is no change: the balances were settled before, and no conversion is due
      have hsame : s.settled = true ∧ world.db.columns u = s.process.world.db.columns u := by
        simp only [Watched.next] at hsettled
        split at hsettled
        · next hcolumns => exact ⟨hsettled, hcolumns⟩
        · cases of_decide_eq_true hsettled
      have hnot := hok hsame.1 hfresh
      intro other entry hlater hid
      show _ = world.db.columns u
      rw [hsame.2]
      rcases hentry other entry (fresh_cache hlater) with hold | ⟨rfl, hnew⟩
      · have hearlier : s.process.fresh other = some entry :=
          fresh_earlier (q := { world := world, cache := _, now := s.process.now + duration }) (Nat.le_add_right _ _)
            (fun _ => hold) hlater
        exact hs.accurate hsame.1 other entry hearlier hid
      · obtain ⟨user, huser, hsameId, hsameUser⟩ := hlooked.user _ hnew
        have huid : user.id = u := hsameId.symm.trans hid
        obtain ⟨heq, -⟩ := hsameUser (hnot user huser huid)
        rw [heq, found_columns huser, huid]

theorem coherent_init (u : Int) (world : LegacyWorld) : Coherent u (watched u world).init where
  owned := fun _ _ h => by cases h
  accurate := fun h => by cases h

/-- Step: a call that leaves nothing stale keeps the process coherent. -/
theorem coherent_step (hs : Coherent u s) (hok : Unstale u s e) (hstep : (watched u world).step s e = some (s', reply)) :
    Coherent u s' := by
  obtain ⟨call, link⟩ := e
  have hnext : s' = s.next u (s.process.call link call).1 (s.process.call link call).2 := by
    cases hstep
    rfl
  rw [hnext]
  cases call with
  | wait duration =>
    refine ⟨hs.owned, fun hsettled other entry hlater hid => ?_⟩
    have hbefore : s.settled = true := by simpa [Watched.next, Process.call] using hsettled
    have hearlier : s.process.fresh other = some entry :=
      fresh_earlier (q := { s.process with now := s.process.now + duration }) (Nat.le_add_right _ _) id hlater
    exact hs.accurate hbefore other entry hearlier hid
  | getUser apiKey duration => exact coherent_getUser hs hok
  | deductCredits apiKey tokens metadata requestId => exact coherent_deduct hs hok
  | addCreditsToUser params => exact coherent_change (addCreditsToUser_of params) _ hs
  | resetSubscriptionAllowance userId amount tier => exact coherent_change (resetSubscriptionAllowance_of _ userId amount tier) _ hs
  | forfeitSubscriptionAllowance userId raiseOnError effectiveDate context =>
    exact coherent_change (forfeitSubscriptionAllowance_of _ userId raiseOnError effectiveDate context) _ hs

theorem coherent_run (h : (watched u world).Reach (Unstale u) s) : Coherent u s :=
  Machine.reach_invariant (I := Coherent u) (coherent_init u world) (fun _ _ _ _ hI hok hstep => coherent_step hI hok hstep) h

/-- **No stale balance after a balance change.** While the user's balances are what a successful change has left, `get_user` through
    any key of the user answers with them, unless one of its own statements fails and it answers nothing. -/
theorem user_cache_fresh (u : Int) (world : LegacyWorld) {s : Watched} (h : (watched u world).Reach (Unstale u) s)
    (hsettled : s.settled = true) (apiKey : String) (howner : s.process.world.owner apiKey = some u) (duration : Time)
    (link : List (Outcome PyErr)) (hok : Unstale u s (.getUser apiKey duration, link)) :
    (∃ user, (s.process.getUser link apiKey duration).2 = .user (some user) ∧ user.id = u ∧
      (user.row.allowance, user.row.purchased) = s.process.world.db.columns u) ∨
      (s.process.getUser link apiKey duration).2 = .user none ∧ ¬ AllServed link := by
  have hcoherent := coherent_run h
  cases hfresh : s.process.fresh apiKey with
  | some entry =>
    have hid : entry.user.id = u := by
      have hentry := hcoherent.owned apiKey entry (fresh_cache hfresh)
      rw [howner] at hentry
      exact (Option.some.inj hentry).symm
    refine .inl ⟨entry.user, ?_, hid, hcoherent.accurate hsettled apiKey entry hfresh hid⟩
    unfold Process.getUser
    rw [hfresh]
  | none =>
    obtain ⟨answer, world', hlooked, hserved, hcall⟩ := getUser_found s.process link apiKey duration hfresh
    obtain ⟨user, huser, huid⟩ := Option.map_eq_some_iff.mp howner
    rw [hcall]
    cases answer with
    | none =>
      refine .inr ⟨rfl, fun hlink => ?_⟩
      have hnone := hserved hlink rfl
      rw [huser] at hnone
      cases hnone
    | some user' =>
      obtain ⟨user'', huser'', -, hsame⟩ := hlooked.user user' rfl
      rw [huser] at huser''
      obtain rfl : user = user'' := Option.some.inj huser''
      obtain ⟨rfl, -⟩ := hsame (hok hsettled hfresh user huser huid)
      refine .inl ⟨user', rfl, huid, ?_⟩
      rw [found_columns huser, huid]

end Calls

/-! ## Two keys -/

def twoKeys : LegacyWorld where
  db :=
    { users := fun u => if u = 1 then some { subscriptionAllowance := some 0, purchasedCredits := some 10 } else none
      userIds := [1]
      apiKeysNew := [{ apiKey := "gw_live_a", userId := 1 }, { apiKey := "gw_live_b", userId := 1 }] }

def afterCalls (u : Int) : List UserCall → Watched → Watched
  | [], s => s
  | c :: cs, s => afterCalls u cs (s.next u (s.process.call [] c).1 (s.process.call [] c).2)

theorem reach_afterCalls {u : Int} {world : LegacyWorld} {s : Watched} (cs : List UserCall)
    (hs : (watched u world).Reach (fun _ _ => True) s) : (watched u world).Reach (fun _ _ => True) (afterCalls u cs s) := by
  induction cs generalizing s with
  | nil => exact hs
  | cons c cs ih => exact ih (.next (e := (c, [])) hs trivial rfl)

def toppedUp : Watched :=
  afterCalls 1 [.addCreditsToUser { userId := 1, credits := 5, transactionType := .purchase }] (watched 1 twoKeys).init

theorem user_cache_fresh_toppedUp :
    (∃ user, (toppedUp.process.getUser [] "gw_live_a" 0).2 = .user (some user) ∧ user.id = 1 ∧
      (user.row.allowance, user.row.purchased) = toppedUp.process.world.db.columns 1) ∨
      (toppedUp.process.getUser [] "gw_live_a" 0).2 = .user none ∧ ¬ AllServed ([] : List (Outcome PyErr)) :=
  user_cache_fresh 1 twoKeys (.next (e := (.addCreditsToUser { userId := 1, credits := 5, transactionType := .purchase }, [])) .init
    trivial rfl) (by decide +kernel) "gw_live_a" (by decide +kernel) 0 [] fun _ _ user huser _ hdue => by
      have hnot : (toppedUp.process.world.found "gw_live_a").all (fun user => decide ¬ user.Due) = true := by decide +kernel
      rw [show toppedUp.process.world.found "gw_live_a" = some user from huser] at hnot
      exact absurd hdue (of_decide_eq_true hnot)

/-- Both keys are looked up, and one of them pays fifty cents: for a minute the other shows the ten that are no longer there. -/
theorem other_key_stale :
    ∃ s, (watched 1 twoKeys).Reach (fun _ _ => True) s ∧ s.settled = true ∧ s.process.world.owner "gw_live_b" = some 1 ∧
      s.process.world.db.columns 1 = (0, 19 / 2) ∧
      ∃ user, (s.process.getUser [] "gw_live_b" 0).2 = .user (some user) ∧ user.id = 1 ∧
        (user.row.allowance, user.row.purchased) = (0, 10) := by
  refine ⟨afterCalls 1 [.getUser "gw_live_a" 0, .getUser "gw_live_b" 0, .deductCredits "gw_live_a" (1 / 2) none none]
      (watched 1 twoKeys).init, reach_afterCalls _ .init, by decide +kernel, by decide +kernel, by decide +kernel,
    ⟨1, { subscriptionAllowance := some 0, purchasedCredits := some 10 }, none⟩, by decide +kernel, rfl, by decide +kernel⟩

end Gatewayz
