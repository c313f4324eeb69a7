import Gatewayz.Billing.AdminCredits
import Gatewayz.Billing.Rules
import Gatewayz.Exec.Pool

/-!
# `Correctness.NoLostUpdate` — concurrent balance changes of one user

The procedures lock the row. The others read `purchased_credits`, add to the value read, and write the sum
without a guard; a change that commits between such a read and its write is overwritten.

`no_lost_update` is the law under the exact condition that this does not happen: **every unguarded write finds
the value its own call read**. Then, along every schedule, neither component goes below zero, and when all calls
have returned the balance is the initial one plus what was granted minus what was deducted.
-/

namespace Gatewayz

open Exec

/-! ## The calls -/

/-- A call that changes a balance, with its arguments. -/
inductive BalanceCall where
  | deductCredits (now : Time) (apiKey : String) (tokens : ℚ) (metadata : Option Dict)
      (requestId : Option String)
  | addCreditsToUser (params : AddCreditsParams)
  | addCredits (now : Time) (apiKey : String) (amount : ℚ) (metadata : Option Dict)
      (transactionType : TransactionType) (userId : Option Int)
  | creditsAdd (config : GrantConfig) (now : Time) (request : CreditAddRequest) (adminUser : AdminUser)
  | creditsAdjust (config : GrantConfig) (now : Time) (request : CreditAdjustRequest) (adminUser : AdminUser)
  | creditsBulkAdd (config : GrantConfig) (now : Time) (request : BulkCreditAddRequest) (adminUser : AdminUser)
  | creditsRefund (now : Time) (request : CreditRefundRequest) (adminUser : AdminUser)

namespace BalanceCall

def prog : BalanceCall → DbProg Unit
  | .deductCredits now apiKey tokens metadata requestId =>
    Gatewayz.deductCredits now apiKey tokens metadata requestId
  | .addCreditsToUser params => Gatewayz.addCreditsToUser params
  | .addCredits now apiKey amount metadata transactionType userId => do
    let _ ← Gatewayz.addCredits now apiKey amount metadata transactionType userId
    pure ()
  | .creditsAdd config now request adminUser => do
    let _ ← addCreditsEndpoint config now request adminUser
    pure ()
  | .creditsAdjust config now request adminUser => do
    let _ ← adjustCreditsEndpoint config now request adminUser
    pure ()
  | .creditsBulkAdd config now request adminUser => do
    let _ ← bulkAddCreditsEndpoint config now request adminUser
    pure ()
  | .creditsRefund now request adminUser => do
    let _ ← refundCreditsEndpoint now request adminUser
    pure ()

/-- The call is on this user. -/
def On (w : World) (u : Int) : BalanceCall → Prop
  | .deductCredits _ apiKey _ _ _ => (w.keyUser apiKey).or (w.userByApiKey apiKey) = some u
  | .addCreditsToUser params => params.userId = u
  | .addCredits _ apiKey _ _ _ userId => (userId.filter (· ≠ 0)).or (w.userByApiKey apiKey) = some u
  | .creditsAdd _ _ request _ => request.userId = u
  | .creditsAdjust _ _ request _ => request.userId = u
  | .creditsBulkAdd _ _ request _ => u ∈ request.userIds
  | .creditsRefund _ request _ => request.userId = u

instance (w : World) (u : Int) (c : BalanceCall) : Decidable (c.On w u) := by
  cases c <;> unfold On <;> infer_instance

/-- What the call is to grant the user; negative for a deduction. -/
def amount : BalanceCall → ℚ
  | .deductCredits _ _ tokens _ _ => -tokens
  | .addCreditsToUser params => params.credits
  | .addCredits _ _ amount _ _ _ => amount
  | .creditsAdd _ _ request _ => request.amount
  | .creditsAdjust _ _ request _ => request.amount
  | .creditsBulkAdd _ _ request _ => request.amount
  | .creditsRefund _ request _ => request.amount

/-- The documented no-ops, as the world shows them: an amount below the minimum, a request already in the
    ledger, an admin. -/
def Skipped (w : World) (u : Int) : BalanceCall → Prop
  | .deductCredits _ _ tokens _ requestId =>
    tokens < 1 / 1000000 ∨ (∃ r, requestId = some r ∧ (w.transactionByRequestId r).isSome) ∨ w.isAdmin u
  | .addCreditsToUser params => params.Duplicate w
  | .addCredits _ _ amount _ _ _ => amount ≤ 0
  | _ => False

end BalanceCall

/-! ## The runs -/

structure Tally where
  /-- `purchased_credits` of the user as the call last read it. -/
  seen : Option ℚ
  /-- What the call's statements did to the user's balance. -/
  moved : ℚ
  /-- The sum of the ledger rows the call wrote for the user. -/
  booked : ℚ
  rows : Nat

def Tally.start : Tally := ⟨none, 0, 0, 0⟩

/-- The user's `purchased_credits` in an answer, if it has the user's row. -/
def seenIn (u : Int) (old : Option ℚ) : (s : Stmt) → Except PyErr (Res s) → Option ℚ
  | .selectUser v, .ok (some row) => if v = u then some row.purchased else old
  | .selectUserByApiKey _, .ok (some (v, row)) => if v = u then some row.purchased else old
  | .selectUsersIn _, .ok rows => ((rows.lookup u).map User.purchased).or old
  | _, _ => old

def Tally.note (u : Int) (g : Tally) (s : Stmt) (r : Except PyErr (Res s)) (w w' : World) : Tally where
  seen := seenIn u g.seen s r
  moved := g.moved + (w'.balance u - w.balance u)
  booked := g.booked + amountFor u (written w w')
  rows := g.rows + ((written w w').filter (fun t => t.userId = u)).length

/-- Every statement is served, and `atomic_add_credits` decides: it answers a success or a business error. -/
def atomicServed (_ : Tally) (s : Stmt) (o : Outcome PyErr) (w : World) : Prop :=
  o = .served ∧
    match s with
    | .rpcAtomicAddCredits p =>
      (atomicAddCredits p w).1.success = true ∨ (atomicAddCredits p w).1.error = some "user_not_found"
    | _ => True

/-- An unguarded write of the user's `purchased_credits` finds the value its call read. -/
def findsWhatItRead (u : Int) (g : Tally) (s : Stmt) (w : World) : Prop :=
  match s with
  | .updateUser v patch => v = u → patch.purchasedCredits.isSome → g.seen = some (w.purchased u)
  | _ => True

instance (g : Tally) (s : Stmt) (o : Outcome PyErr) (w : World) : Decidable (atomicServed g s o w) := by
  apply @Stmt.casesOn (fun s => Decidable (atomicServed g s o w)) s <;> intros <;> unfold atomicServed <;> infer_instance

instance (u : Int) (g : Tally) (s : Stmt) (w : World) : Decidable (findsWhatItRead u g s w) := by
  apply @Stmt.casesOn (fun s => Decidable (findsWhatItRead u g s w)) s <;> intros <;> unfold findsWhatItRead <;>
    infer_instance

/-- The runs of the law … -/
abbrev served (u : Int) : Setting PyErr Stmt Res Tally World := setting (Tally.note u) atomicServed
/-- … and those of them in which no write overwrites another's. -/
abbrev uninterrupted (u : Int) : Setting PyErr Stmt Res Tally World :=
  setting (Tally.note u) fun g s o w => atomicServed g s o w ∧ findsWhatItRead u g s w

/-! ## What all these calls leave alone -/

structure Frame (w w' : World) : Prop where
  apiKeysNew : w'.apiKeysNew = w.apiKeysNew
  userByApiKey : w'.userByApiKey = w.userByApiKey
  plans : w'.plans = w.plans
  userPlans : w'.userPlans = w.userPlans
  ledger : w.creditTransactions <+: w'.creditTransactions

variable {w w' : World} {c : BalanceCall}

namespace Frame

theorem refl (w : World) : Frame w w := ⟨rfl, rfl, rfl, rfl, List.prefix_refl _⟩

theorem trans {w w' w'' : World} (h : Frame w w') (h' : Frame w' w'') : Frame w w'' :=
  ⟨h'.1.trans h.1, h'.2.trans h.2, h'.3.trans h.3, h'.4.trans h.4, h.5.trans h'.5⟩

theorem setUser (w : World) (u : Int) (row : User) : Frame w (w.setUser u row) :=
  ⟨rfl, rfl, rfl, rfl, List.prefix_refl _⟩

theorem appendTransaction (w : World) (t : Transaction) : Frame w (w.appendTransaction t) :=
  ⟨rfl, rfl, rfl, rfl, List.prefix_append _ _⟩

theorem keyUser (h : Frame w w') (k : String) : w'.keyUser k = w.keyUser k := by
  rw [World.keyUser, h.apiKeysNew, World.keyUser]

theorem isAdmin (h : Frame w w') (u : Int) : w'.isAdmin u = w.isAdmin u := by
  rw [World.isAdmin, World.activePlanTypes, h.plans, h.userPlans, World.isAdmin, World.activePlanTypes]

theorem transactionByRequestId (h : Frame w w') {r : String}
    (hr : (w.transactionByRequestId r).isSome) : (w'.transactionByRequestId r).isSome := by
  obtain ⟨rows, hrows⟩ := h.ledger
  rw [World.transactionByRequestId, ← hrows, List.find?_append]
  simp [World.transactionByRequestId] at hr ⊢
  exact .inl hr

theorem hasPurchase (h : Frame w w') {p : Int} (hp : w.hasPurchase p = true) : w'.hasPurchase p = true := by
  obtain ⟨rows, hrows⟩ := h.ledger
  rw [World.hasPurchase, ← hrows, List.any_append, Bool.or_eq_true]
  exact .inl hp

theorem skipped (h : Frame w w') {u : Int} (hc : c.Skipped w u) : c.Skipped w' u := by
  cases c with
  | deductCredits now apiKey tokens metadata requestId =>
    rcases hc with hmin | ⟨r, hr, hled⟩ | hadmin
    · exact .inl hmin
    · exact .inr (.inl ⟨r, hr, h.transactionByRequestId hled⟩)
    · exact .inr (.inr (by rw [h.isAdmin]; exact hadmin))
  | addCreditsToUser params =>
    rcases hc with ⟨r, hr, hled⟩ | ⟨ht, p, hp, hled⟩
    · exact .inl ⟨r, hr, h.transactionByRequestId hled⟩
    · exact .inr ⟨ht, p, hp, h.hasPurchase hled⟩
  | _ => exact hc

end Frame

/-! ## One statement -/

def Solvent (w₀ : World) (u : Int) (w : World) : Prop :=
  ∃ row, w.users u = some row ∧ (0 ≤ w₀.allowance u → 0 ≤ row.allowance) ∧
    (0 ≤ w₀.purchased u → 0 ≤ row.purchased)

def race (w₀ : World) (u : Int) : Contract Stmt World := ⟨Solvent w₀ u, Frame, fun _ => Frame⟩

def Idle (w₀ : World) (m : ℚ) (k : Nat) (g : Tally) (w : World) : Prop :=
  Frame w₀ w ∧ g.moved = m ∧ g.booked = m ∧ g.rows = k

variable {v : Int} {row : User} {m : ℚ} {k : Nat} {g : Tally}

section Statements

variable {u : Int} {w₀ : World} {E : PyErr → Tally → World → Prop}

theorem Solvent.setUser (h : Solvent w₀ u w)
    (hrow : v = u → (0 ≤ w₀.allowance u → 0 ≤ row.allowance) ∧ (0 ≤ w₀.purchased u → 0 ≤ row.purchased)) :
    Solvent w₀ u (w.setUser v row) := by
  by_cases hv : v = u
  · subst hv
    exact ⟨row, World.users_setUser_self w v row, hrow rfl⟩
  · obtain ⟨old, hu, hpos⟩ := h
    exact ⟨old, by rw [World.users_setUser_of_ne w (Ne.symm hv)]; exact hu, hpos⟩

theorem Tally.note_same (g : Tally) {s : Stmt} {r : Except PyErr (Res s)} (h : SameMoney w w') :
    g.note u s r w w' = { g with seen := seenIn u g.seen s r } := by
  simp [Tally.note, h.written_eq, h.balance, amountFor]

theorem Idle.rely (hf : Frame w w') (h : Idle w₀ m k g w) : Idle w₀ m k g w' := ⟨h.1.trans hf, h.2⟩

theorem steady_idle (m : ℚ) (k : Nat) :
    Steady (Tally.note u) (fun g s o w => atomicServed g s o w ∧ findsWhatItRead u g s w) (race w₀ u)
      (Idle w₀ m k) where
  rely := fun _ _ _ hf h => h.rely hf
  read := fun s _ g o w _ _ h => ⟨.refl w, by rw [g.note_same (.refl w)]; exact h⟩

theorem wp_served {s : Stmt} {Q : Res s → Tally → World → Prop}
    (h : ∀ w₁, Frame w w₁ → Solvent w₀ u w₁ → atomicServed g s .served w₁ → findsWhatItRead u g s w₁ →
      Solvent w₀ u (exec s w₁).2 ∧ Frame w₁ (exec s w₁).2 ∧
      Answered (fun a => Q a (g.note u s (.ok a) w₁ (exec s w₁).2) (exec s w₁).2)
        (fun e => E e (g.note u s (.error e) w₁ (exec s w₁).2) (exec s w₁).2) (exec s w₁).1) :
    (query s).wp (uninterrupted u) (race w₀ u) Q E g w := by
  refine wp_stmt (C := uninterrupted u) fun w₁ hf hsol o ⟨hserved, hfinds⟩ => ?_
  obtain rfl := hserved.1
  exact h w₁ hf hsol hserved hfinds

theorem wp_bookRow {t : Transaction} (ht : t.userId = v) (hpay : t.paymentId = none)
    (hreq : t.requestId = none) {Q : Option Transaction → Tally → World → Prop}
    (hwhole : v = u → ∀ row w', Frame w w' → Q (some row)
      { g with booked := g.booked + t.amount, rows := g.rows + 1 } w')
    (hother : v ≠ u → ∀ r w', Frame w w' → Q r g w') :
    (logCreditTransaction t).wp (uninterrupted u) (race w₀ u) Q E g w := by
  refine wp_logCreditTransaction (I := fun g' w' => g' = g ∧ Frame w w') ?_ ⟨rfl, .refl w⟩
  rintro g' w₁ ⟨rfl, hf⟩
  refine wp_served fun w₂ hf₂ hsol _ _ => ?_
  rw [Transaction.logged_of_none hreq]
  simp only [exec]
  rcases insertTransactionRow_cases t w₂ with ⟨e, he⟩ | ⟨hn, he⟩
  · rw [he]
    refine ⟨hsol, .refl w₂, ?_⟩
    simp only [Tally.note_same g' (.refl w₂)]
    by_cases hv : v = u
    · -- the user exists and the row has no keys, so nothing refuses it
      exfalso
      obtain ⟨row, hu, -⟩ := hsol
      have hnone : w₂.refusesTransaction t = none := by
        simp [World.refusesTransaction, ht, hv, hu, hpay, hreq]
      simp [insertTransactionRow, hnone] at he
    · exact ⟨⟨rfl, hf.trans hf₂⟩, hother hv none w₂ (hf.trans hf₂)⟩
  · rw [he]
    obtain ⟨row, hu, hpos⟩ := hsol
    have hwrote : Wrote w₂ (w₂.appendTransaction t) [w₂.storedTransaction t] := rfl
    have hframe := (hf.trans hf₂).trans (.appendTransaction w₂ t)
    refine ⟨⟨row, hu, hpos⟩, .appendTransaction w₂ t, ?_⟩
    simp only [Tally.note, hwrote.written_eq, World.balance_appendTransaction, sub_self, add_zero,
      amountFor_single, seenIn, World.storedTransaction, ht]
    by_cases hv : v = u
    · subst hv
      simpa [ht] using hwhole rfl _ _ hframe
    · simpa [hv, ht] using hother hv _ _ hframe

/-- Read, add, write, log, when nobody interferes: the call booked what it moved. -/
theorem wp_writePurchasedCredits {user : User} {amount : ℚ} {row : ℚ → ℚ → Transaction}
    (hrow : ∀ a b, (row a b).userId = v ∧ (row a b).amount = amount ∧ (row a b).paymentId = none ∧
      (row a b).requestId = none) {Q : Option (ℚ × ℚ × Option Int) → Tally → World → Prop}
    (h : Idle w₀ m k g w) (hseen : v = u → g.seen = some user.purchased)
    (hpos : v = u → 0 ≤ w₀.purchased u → 0 ≤ user.purchased + amount)
    (hmine : v = u → ∀ r g' w', Idle w₀ (m + amount) (k + 1) g' w' → g'.seen = g.seen → Q (some r) g' w')
    (hother : v ≠ u → ∀ r g' w', Idle w₀ m k g' w' → g'.seen = g.seen → Q r g' w') :
    (writePurchasedCredits v user amount row).wp (uninterrupted u) (race w₀ u) Q E g w := by
  unfold writePurchasedCredits
  simp only [wp_bind]
  refine wp_served fun w₁ hf hsol _ hfinds => ?_
  obtain ⟨hframe, hmoved, hbooked, hrows⟩ := h.rely hf
  obtain ⟨hid, hamount, hpay, hreq⟩ := hrow (user.purchased + user.allowance)
    (user.purchased + amount + user.allowance)
  simp only [exec]
  rcases updateUserRow_cases v { purchasedCredits := some (user.purchased + amount) } w₁ with
    ⟨hu, he⟩ | ⟨old, hu, he⟩
  · rw [he]
    refine ⟨hsol, .refl w₁, ?_⟩
    simp only [Tally.note_same g (.refl w₁)]
    by_cases hv : v = u
    · subst hv
      obtain ⟨_, hu', -⟩ := hsol
      rw [hu] at hu'
      cases hu'
    · exact hother hv none _ w₁ ⟨hframe, hmoved, hbooked, hrows⟩ rfl
  · rw [he]
    refine ⟨hsol.setUser ?_, .setUser w₁ v _, ?_⟩
    · intro hv
      obtain ⟨old', hu', hpos', -⟩ := hsol
      subst hv
      rw [hu] at hu'
      cases hu'
      simp only [UserPatch.apply_allowance, UserPatch.apply_purchased, Option.none_or, Option.some_or,
        Option.getD_some]
      exact ⟨hpos', hpos rfl⟩
    · simp only [answered_ok, wp_bind]
      have hsame : written w₁ (w₁.setUser v
          (({ purchasedCredits := some (user.purchased + amount) } : UserPatch).apply old)) = [] := by
        simp [written]
      refine wp_bookRow hid hpay hreq ?_ ?_
      · intro hv row' w' hf'
        subst hv
        refine hmine rfl _ _ w' ⟨(hframe.trans (.setUser w₁ v _)).trans hf', ?_, ?_, ?_⟩ rfl
        · -- the value read is the value found
          have hread : user.purchased = old.purchased := by
            have := hfinds rfl rfl
            rw [hseen rfl, World.purchased_of_users hu] at this
            exact Option.some.inj this
          simp only [Tally.note, hmoved, World.balance_setUser, if_true, World.balance_of_users hu, User.balance,
            UserPatch.apply_allowance, UserPatch.apply_purchased, Option.none_or, Option.some_or,
            Option.getD_some, hread]
          simp only [User.allowance]
          ring
        · simp [Tally.note, hsame, amountFor, hbooked, hamount]
        · simp [Tally.note, hsame, hrows]
      · intro hv r w' hf'
        refine hother hv _ _ w' ⟨(hframe.trans (.setUser w₁ v _)).trans hf', ?_, ?_, ?_⟩ rfl
        · simp [Tally.note, World.balance_setUser, Ne.symm hv, hmoved]
        · simp [Tally.note, hsame, amountFor, hbooked]
        · simp [Tally.note, hsame, hrows]

end Statements

/-! ## The calls, one by one -/

def BalanceCall.Booked (c : BalanceCall) (u : Int) (g : Tally) (w : World) : Prop :=
  g.booked = c.amount ∧ g.rows = 1 ∨ g.booked = 0 ∧ g.rows = 0 ∧ c.Skipped w u

/-- A call that has returned: it booked what it moved. -/
def BalanceCall.Settled (c : BalanceCall) (u : Int) (g : Tally) (w : World) : Prop :=
  g.moved = g.booked ∧ c.Booked u g w

section Calls

variable {u : Int} {w₀ : World}

theorem Idle.skipped (h : Idle w₀ 0 0 g w) (hc : c.Skipped w u) :
    c.Settled u g w := ⟨by rw [h.2.1, h.2.2.1], .inr ⟨h.2.2.1, h.2.2.2, hc⟩⟩

theorem Idle.settled (h : Idle w₀ (0 + c.amount) (0 + 1) g w) : c.Settled u g w := by
  obtain ⟨-, hmoved, hbooked, hrows⟩ := h
  exact ⟨by rw [hmoved, hbooked], .inl ⟨by rw [hbooked, zero_add], hrows⟩⟩

variable {apiKey : String}

theorem FoundBy.eq (hfound : FoundBy (race w₀ u) (Idle w₀ 0 0) apiKey v)
    (hon : (w₀.keyUser apiKey).or (w₀.userByApiKey apiKey) = some u) : v = u := by
  rcases hfound with ⟨g, st, hj, -, hkey⟩ | ⟨⟨g, st, hj, -, hkey⟩, ⟨g', st', hj', -, hlegacy⟩⟩
  · rw [hj.1.keyUser] at hkey
    rw [hkey] at hon
    exact Option.some.inj hon
  · rw [hj.1.keyUser] at hkey
    rw [hj'.1.userByApiKey] at hlegacy
    rw [hkey, hlegacy] at hon
    exact Option.some.inj hon

theorem note_write {s : Stmt} {r : Except PyErr (Res s)} {row row' : User} {t : Transaction}
    (hu : w.users u = some row) (ht : t.userId = u) (hm : t.amount = m)
    (hmoved : row'.balance = row.balance + m) (h : Idle w₀ 0 0 g w) :
    Idle w₀ (0 + m) (0 + 1) (g.note u s r w ((w.setUser u row').appendTransaction t))
      ((w.setUser u row').appendTransaction t) := by
  obtain ⟨hframe, hzero, hbooked, hrows⟩ := h
  have hwrote : Wrote w ((w.setUser u row').appendTransaction t) [w.storedTransaction t] := rfl
  refine ⟨(hframe.trans (.setUser w u row')).trans (.appendTransaction _ t), ?_, ?_, ?_⟩
  · simp only [Tally.note, hzero, World.balance_appendTransaction, World.balance_setUser, if_true,
      World.balance_of_users hu, hmoved, add_sub_cancel_left]
  · simp [Tally.note, hwrote.written_eq, hbooked, amountFor_single, World.storedTransaction, ht, hm]
  · simp [Tally.note, hwrote.written_eq, hrows, World.storedTransaction, ht]

theorem wp_addCreditsToUser_race (p : AddCreditsParams) (hu : p.userId = u) (h : Idle w₀ 0 0 g w) :
    (addCreditsToUser p).wp (uninterrupted u) (race w₀ u)
      (fun _ => (BalanceCall.addCreditsToUser p).Settled u) (fun _ _ _ => True) g w := by
  unfold addCreditsToUser
  split
  · trivial
  simp only [wp_tryCatch, atomicAddCreditsRpc, wp_bind, wp_attempt]
  refine wp_served fun w₁ hf hsol hserved _ => ?_
  have h₁ := h.rely hf
  simp only [exec, answered_ok]
  have hdecides := hserved.2
  rcases atomicAddCredits_cases p.forRpc w₁ with ⟨hsame, hdup⟩ | ⟨row, hrow, hpos, -, heq⟩
  · rw [hsame]
    refine ⟨hsol, .refl w₁, ?_⟩
    simp only [Tally.note_same g (.refl w₁)]
    by_cases hsuccess : (atomicAddCredits p.forRpc w₁).1.success = true
    · simp only [if_pos hsuccess]
      refine Idle.skipped h₁ ?_
      rcases hdup hsuccess with ⟨r, hr, hled⟩ | hpurchase
      · exact .inl ⟨r, (Option.filter_eq_some_iff.mp hr).1, hled⟩
      · exact .inr hpurchase
    · have herror := hdecides.resolve_left hsuccess
      simp only [if_neg hsuccess, if_pos herror]
      trivial
  · have hrow' : w₁.users u = some row := by rw [← hu]; exact hrow
    have hid : p.forRpc.userId = u := hu
    rw [heq, hid]
    refine ⟨hsol.setUser fun _ => ?_, .trans (.setUser w₁ u _) (.appendTransaction _ _), ?_⟩
    · obtain ⟨old, hold, ha, hp⟩ := hsol
      rw [hrow'] at hold
      cases hold
      simp only [AddCreditsParams.granted, User.allowance, User.purchased, AddCreditsParams.forRpc, reduceCtorEq,
        if_false, Option.getD_some]
      exact ⟨ha, fun h₀ => add_nonneg (hp h₀) (le_of_lt hpos)⟩
    · simp only [RpcResult.grant, if_true]
      exact Idle.settled (note_write hrow' hu rfl (AddCreditsParams.granted_balance _ _) h₁)

variable {d : Deduction}

theorem Deduction.allowanceAfter_nonneg : 0 ≤ d.allowanceAfter :=
  sub_nonneg.mpr (min_le_left _ _)

theorem Deduction.purchasedAfter_nonneg (hb : d.tokens ≤ d.balanceBefore)
    (hp : 0 ≤ d.purchasedBefore) : 0 ≤ d.purchasedAfter := by
  unfold balanceBefore at hb
  unfold purchasedAfter fromPurchased fromAllowance
  rcases min_choice d.allowanceBefore d.tokens with h | h <;> rw [h] <;> linarith

theorem wp_pay_race (hu : d.userId = u) (hc : c.amount = -d.tokens)
    (hp : 0 ≤ w₀.purchased u → 0 ≤ d.purchasedBefore) (h : Idle w₀ 0 0 g w) :
    d.pay.wp (uninterrupted u) (race w₀ u) (fun _ => c.Settled u) (fun _ _ _ => True) g w := by
  unfold Deduction.pay
  rw [wp_bind]
  refine wp_atomicPath (wp_served fun w₁ hf hsol _ _ => ?_)
  have h₁ := h.rely hf
  simp only [exec, answered_ok]
  rcases atomicDeductCredits_cases d.rpcParams w₁ with ⟨hsame, hfail⟩ | ⟨row, hrow, -, -, -, hfa, hfp, heq⟩
  · rw [hsame]
    refine ⟨hsol, .refl w₁, ?_⟩
    simp only [Tally.note_same g (.refl w₁), hfail, Bool.false_eq_true, IsEmpty.forall_iff, implies_true,
      and_true, true_and, if_false]
    intro _
    -- the legacy path: a guarded write, then its ledger row
    unfold Deduction.legacyPath
    split
    · trivial
    rename_i hb
    rw [wp_bind]
    refine wp_served fun w₂ hf₂ hsol₂ _ _ => ?_
    obtain ⟨hframe, hmoved, hbooked, hrows⟩ := Idle.rely hf₂ h₁
    rcases exec_updateUserIf_cases d.userId d.allowanceBefore d.purchasedBefore d.chargePatch w₂ with
      he | ⟨old, hold, ha, hpur, he⟩
    · rw [he]
      refine ⟨hsol₂, .refl w₂, ?_⟩
      simp only [answered_ok, wp_bind]
      exact wp_served fun w₃ _ hsol₃ _ _ => ⟨hsol₃, .refl w₃, trivial⟩
    · rw [he, hu]
      rw [hu] at hold
      have hwritten : written w₂ (w₂.setUser u (d.chargePatch.apply old)) = [] := by simp [written]
      refine ⟨hsol₂.setUser fun _ => ⟨fun _ => ?_, fun h₀ => ?_⟩, .setUser w₂ u _, ?_⟩
      · exact Deduction.allowanceAfter_nonneg
      · exact Deduction.purchasedAfter_nonneg (le_of_not_gt hb) (hp h₀)
      · simp only [answered_ok, wp_bind]
        refine wp_bookRow hu rfl rfl ?_ fun hne => absurd rfl hne
        intro _ row' w' hf'
        refine Idle.settled ⟨(hframe.trans (.setUser w₂ u _)).trans hf', ?_, ?_, ?_⟩
        · have hbal : (d.chargePatch.apply old).balance = old.balance - d.tokens := by
            rw [d.chargePatch_balance, (d.after_balance ha hpur).2]
          simp only [Tally.note, hmoved, World.balance_setUser, if_true, World.balance_of_users hold, hbal, hc]
          ring
        · simp [Tally.note, hwritten, amountFor, hbooked, hc, Deduction.legacyRow]
        · simp [Tally.note, hwritten, hrows]
  · have hrow' : w₁.users u = some row := by rw [← hu]; exact hrow
    have hid : d.rpcParams.userId = u := hu
    rw [heq, hid]
    refine ⟨hsol.setUser fun _ => ⟨fun _ => ?_, fun _ => ?_⟩, .trans (.setUser w₁ u _) (.appendTransaction _ _), ?_⟩
    · exact sub_nonneg.mpr hfa
    · exact sub_nonneg.mpr hfp
    · simp only [RpcResult.grant, if_true, forall_const, Bool.true_eq_false, IsEmpty.forall_iff, and_true]
      refine Idle.settled (note_write hrow' hu hc.symm ?_ h₁)
      rw [DeductCreditsParams.charged_balance, hc]
      simp only [Deduction.rpcParams, Deduction.fromPurchased]
      ring

variable {now : Time}

theorem wp_deductCredits_race {tokens : ℚ} {metadata : Option Dict} {requestId : Option String}
    (hon : (BalanceCall.deductCredits now apiKey tokens metadata requestId).On w₀ u) (h : Idle w₀ 0 0 g w) :
    (deductCredits now apiKey tokens metadata requestId).wp (uninterrupted u) (race w₀ u)
      (fun _ => (BalanceCall.deductCredits now apiKey tokens metadata requestId).Settled u)
      (fun _ _ _ => True) g w := by
  refine wp_deductCredits (steady_idle 0 0) h ?_ (fun _ _ _ _ => trivial) ?_
  · rintro g' w' h' (hmin | ⟨r, hr, hled⟩ | ⟨v, hfound, hadmin⟩)
    · exact h'.skipped (.inl hmin)
    · exact h'.skipped (.inr (.inl ⟨r, hr, hled⟩))
    · rw [hfound.eq hon] at hadmin
      exact h'.skipped (.inr (.inr hadmin))
  · intro d htokens _ _ hfound hread g' w' h'
    have hu := hfound.eq hon
    obtain ⟨row, -, hpur, g₁, w₁, -, hsol, hrow⟩ := hread
    refine wp_mono (fun _ _ _ hq => hq) (fun _ _ _ _ => trivial) (wp_pay_race hu ?_ ?_ h')
    · rw [htokens]; rfl
    · intro h₀
      obtain ⟨row', hrow', -, hpos⟩ := hsol
      rw [hu, hrow'] at hrow
      cases hrow
      rw [hpur]
      exact hpos h₀

theorem wp_readUser {Q : Option User → Tally → World → Prop} {E : PyErr → Tally → World → Prop} (h : Idle w₀ m k g w)
    (hrow : ∀ row g' w', (0 ≤ w₀.purchased u → 0 ≤ row.purchased) → Idle w₀ m k g' w' →
      g'.seen = some row.purchased → Q (some row) g' w') :
    (query (.selectUser u)).wp (uninterrupted u) (race w₀ u) Q E g w := by
  refine wp_served fun w₁ hf hsol _ _ => ?_
  obtain ⟨row, hu, ha, hp⟩ := hsol
  simp only [exec, hu, answered_ok, Tally.note_same g (.refl w₁)]
  exact ⟨⟨row, hu, ha, hp⟩, .refl w₁, hrow row _ w₁ hp (h.rely hf) (by simp [seenIn])⟩

theorem wp_changePurchasedCredits (c : BalanceCall) {message : String}
    {refuse : ℚ → ℚ → Option PyErr} {row : ℚ → ℚ → Transaction}
    (hrow : ∀ a b, (row a b).userId = u ∧ (row a b).amount = c.amount ∧ (row a b).paymentId = none ∧
      (row a b).requestId = none)
    (hrefuse : ∀ b p : ℚ, 0 ≤ p → refuse b (p + c.amount) = none → 0 ≤ p + c.amount)
    (h : Idle w₀ 0 0 g w) :
    (changePurchasedCredits u c.amount message refuse row).wp (uninterrupted u) (race w₀ u)
      (fun _ => c.Settled u) (fun _ _ _ => True) g w := by
  unfold changePurchasedCredits
  rw [wp_bind]
  refine wp_readUser h fun user g₁ w₁ hpos h₁ hseen => ?_
  simp only
  cases hr : refuse (user.purchased + user.allowance) (user.purchased + c.amount) with
  | some e => trivial
  | none =>
    simp only [wp_bind]
    refine wp_writePurchasedCredits hrow h₁ (fun _ => hseen) (fun _ h₀ => hrefuse _ _ (hpos h₀) hr) ?_
      fun hne => absurd rfl hne
    rintro - ⟨before, after, id⟩ g' w' h' -
    exact h'.settled

theorem wp_asHttp {α : Type} {detail : String} {p : DbProg α} {Q : α → Tally → World → Prop}
    (h : p.wp (uninterrupted u) (race w₀ u) Q (fun _ _ _ => True) g w) :
    (asHttp detail p).wp (uninterrupted u) (race w₀ u) Q (fun _ _ _ => True) g w := by
  unfold asHttp
  rw [wp_tryCatch]
  refine wp_mono (fun _ _ _ hq => hq) (fun e _ _ _ => ?_) h
  split <;> trivial

theorem getAdminDailyGrantTotal_reads (now : Time) (adminUserId : String) :
    (getAdminDailyGrantTotal now adminUserId).Only Stmt.Reads :=
  only_tryCatch (only_bind (only_query trivial) fun _ => only_ret _) fun _ => only_ret _

theorem validateAdminCreditGrant_reads (config : GrantConfig) (now : Time) (amount : ℚ) (adminUser : AdminUser)
    (count : Nat) : (validateAdminCreditGrant config now amount adminUser count).Only Stmt.Reads := by
  unfold validateAdminCreditGrant
  split
  · exact only_fail _
  · refine only_bind (getAdminDailyGrantTotal_reads now _) fun total => ?_
    split
    · exact only_fail _
    · exact only_ret _

theorem wp_checkThen {α : Type} {check : DbProg Unit} {p : DbProg α} {Q : α → Tally → World → Prop}
    (hcheck : check.Only Stmt.Reads) (h : Idle w₀ 0 0 g w) (hp : ∀ g' w', Idle w₀ 0 0 g' w' →
      p.wp (uninterrupted u) (race w₀ u) Q (fun _ _ _ => True) g' w') :
    (do check; p).wp (uninterrupted u) (race w₀ u) Q (fun _ _ _ => True) g w := by
  rw [wp_bind]
  exact wp_mono (fun _ g' w' h' => hp g' w' h') (fun _ _ _ _ => trivial) ((steady_idle 0 0).keeps hcheck h)

theorem wp_addCredits_race {amount : ℚ} {metadata : Option Dict} {transactionType : TransactionType}
    {userId : Option Int} (hon : (BalanceCall.addCredits now apiKey amount metadata transactionType userId).On w₀ u)
    (h : Idle w₀ 0 0 g w) :
    (addCredits now apiKey amount metadata transactionType userId).wp (uninterrupted u) (race w₀ u)
      (fun _ => (BalanceCall.addCredits now apiKey amount metadata transactionType userId).Settled u)
      (fun _ _ _ => True) g w := by
  unfold addCredits
  rw [wp_tryCatch]
  by_cases hamount : amount ≤ 0
  · rw [if_pos hamount]
    exact h.skipped hamount
  rw [if_neg hamount]
  have hwrite : ∀ user g' w', (0 ≤ w₀.purchased u → 0 ≤ user.purchased) → Idle w₀ 0 0 g' w' →
      g'.seen = some user.purchased →
      (do
        let done ← writePurchasedCredits u user amount fun balanceBefore balanceAfter =>
          { id := 0, userId := u, amount := amount, transactionType := transactionType,
            balanceBefore := balanceBefore, balanceAfter := balanceAfter,
            metadata := metadata.getD [], createdAt := now }
        pure done.isSome : DbProg Bool).wp (uninterrupted u) (race w₀ u)
        (fun _ => (BalanceCall.addCredits now apiKey amount metadata transactionType userId).Settled u)
        (fun _ => (BalanceCall.addCredits now apiKey amount metadata transactionType userId).Settled u) g' w' := by
    intro user g' w' hpos h' hseen
    rw [wp_bind]
    refine wp_writePurchasedCredits ?_ h' (fun _ => hseen) ?_ ?_ fun hne => absurd rfl hne
    · exact fun _ _ => ⟨rfl, rfl, rfl, rfl⟩
    · intro _ h₀
      exact add_nonneg (hpos h₀) (le_of_lt (lt_of_not_ge hamount))
    · intro _ _ g'' w'' h'' _
      exact h''.settled
  cases hid : userId.filter (· ≠ 0) with
  | some v =>
    have hv : v = u := by
      rw [BalanceCall.On, hid] at hon
      exact Option.some.inj hon
    subst hv
    simp only [wp_bind]
    exact wp_readUser h fun user g₁ w₁ hpos h₁ hseen => hwrite user g₁ w₁ hpos h₁ hseen
  | none =>
    have hkey : w₀.userByApiKey apiKey = some u := by
      rw [BalanceCall.On, hid] at hon
      exact hon
    simp only [wp_bind]
    refine wp_served fun w₁ hf hsol _ _ => ?_
    have h₁ := h.rely hf
    have hkey₁ : w₁.userByApiKey apiKey = some u := by rw [h₁.1.userByApiKey]; exact hkey
    obtain ⟨row, hu, ha, hp⟩ := hsol
    simp only [exec, hkey₁, Option.bind_some, hu, Option.map_some, answered_ok,
      Tally.note_same g (.refl w₁)]
    exact ⟨⟨row, hu, ha, hp⟩, .refl w₁, hwrite row { g with seen := _ } w₁ hp h₁ (by simp [seenIn])⟩

/-! ### `/credits/bulk-add` -/

theorem lookup_selectUsersIn {ids : List Int} (hu : w.users u = some row) (hmem : u ∈ ids) :
    (ids.filterMap fun v => (w.users v).map fun r => (v, r)).lookup u = some row := by
  induction ids with
  | nil => cases hmem
  | cons v ids ih =>
    by_cases hv : v = u
    · subst hv
      simp [hu]
    · have hrest := ih ((List.mem_cons.mp hmem).resolve_left (Ne.symm hv))
      have hne : (u == v) = false := by simpa using Ne.symm hv
      cases hw : w.users v with
      | none => simp [hw, hrest]
      | some r => simp [hw, List.lookup_cons, hne, hrest]

variable {request : BulkCreditAddRequest} {adminUser : AdminUser}

theorem wp_bulkAddOne {rows : List (Int × User)} (hrow : rows.lookup u = some row)
    (hpos : 0 ≤ w₀.purchased u → 0 ≤ row.purchased) {Q : BulkResult → Tally → World → Prop}
    {E : PyErr → Tally → World → Prop} (h : Idle w₀ m k g w) (hseen : g.seen = some row.purchased)
    (hmine : v = u → ∀ r g' w', Idle w₀ (m + request.amount) (k + 1) g' w' → g'.seen = g.seen → Q r g' w')
    (hother : v ≠ u → ∀ r g' w', Idle w₀ m k g' w' → g'.seen = g.seen → Q r g' w') :
    (bulkAddOne now request adminUser rows v).wp (uninterrupted u) (race w₀ u) Q E g w := by
  unfold bulkAddOne
  rw [wp_tryCatch]
  cases hv : rows.lookup v with
  | none =>
    refine hother ?_ _ g w h rfl
    intro hvu
    rw [hvu, hrow] at hv
    cases hv
  | some user =>
    have huser : v = u → user = row := by
      intro hvu
      rw [hvu, hrow] at hv
      exact (Option.some.inj hv).symm
    simp only [wp_bind]
    refine wp_writePurchasedCredits ?_ h ?_ ?_ ?_ ?_
    · exact fun _ _ => ⟨rfl, rfl, rfl, rfl⟩
    · intro hvu
      rw [huser hvu]
      exact hseen
    · intro hvu h₀
      rw [huser hvu]
      exact add_nonneg (hpos h₀) (le_of_lt request.amount_pos)
    · rintro hvu ⟨before, after, id⟩ g' w' h' hs
      exact hmine hvu _ g' w' h' hs
    · rintro hvu (_ | ⟨before, after, id⟩) g' w' h' hs
      · exact hother hvu _ g' w' h' hs
      · exact hother hvu _ g' w' h' hs

theorem wp_bulkAddEach {rows : List (Int × User)} (hrow : rows.lookup u = some row)
    (hpos : 0 ≤ w₀.purchased u → 0 ≤ row.purchased) {ids : List Int} (hnodup : ids.Nodup)
    {E : PyErr → Tally → World → Prop} (h : Idle w₀ m k g w) (hseen : g.seen = some row.purchased) :
    (bulkAddEach now request adminUser rows ids).wp (uninterrupted u) (race w₀ u)
      (fun _ g' w' => if u ∈ ids then Idle w₀ (m + request.amount) (k + 1) g' w' else Idle w₀ m k g' w') E g w := by
  induction ids generalizing m k g w with
  | nil => simpa [bulkAddEach] using h
  | cons v ids ih =>
    obtain ⟨hv, hrest⟩ := List.nodup_cons.mp hnodup
    simp only [bulkAddEach, wp_bind]
    refine wp_bulkAddOne hrow hpos h hseen ?_ ?_
    · intro hvu r g' w' h' hs
      subst hvu
      rw [wp_bind]
      refine wp_mono ?_ (fun _ _ _ he => he) (ih hrest h' (hs.trans hseen))
      intro results g'' w'' h''
      rw [if_neg hv] at h''
      simpa using h''
    · intro hvu r g' w' h' hs
      rw [wp_bind]
      refine wp_mono ?_ (fun _ _ _ he => he) (ih hrest h' (hs.trans hseen))
      intro results g'' w'' h''
      simpa [Ne.symm hvu] using h''

theorem wp_bulkAddCreditsEndpoint {config : GrantConfig} (hu : u ∈ request.userIds) (h : Idle w₀ 0 0 g w) :
    (bulkAddCreditsEndpoint config now request adminUser).wp (uninterrupted u) (race w₀ u)
      (fun _ g' w' => Idle w₀ (0 + request.amount) (0 + 1) g' w') (fun _ _ _ => True) g w := by
  refine wp_asHttp (wp_checkThen (validateAdminCreditGrant_reads config now request.amount adminUser _) h ?_)
  intro g₁ w₁ h₁
  have hmem : u ∈ request.userIds.reverse.dedup.reverse := by simpa using hu
  rw [wp_bind]
  refine wp_served fun w₂ hf hsol _ _ => ?_
  obtain ⟨row, hrow, ha, hp⟩ := hsol
  have hlookup := lookup_selectUsersIn hrow hmem
  simp only [exec, answered_ok, Tally.note_same g₁ (.refl w₂), wp_bind]
  refine ⟨⟨row, hrow, ha, hp⟩, .refl w₂, ?_⟩
  refine wp_mono ?_ (fun _ _ _ he => he)
    (wp_bulkAddEach hlookup hp (List.nodup_reverse.mpr (List.nodup_dedup _)) (h₁.rely hf) ?_)
  · intro results g' w' h'
    rw [if_pos hmem] at h'
    exact h'
  · simp only [seenIn, hlookup, Option.map_some, Option.some_or]

/-- Every call among any others. -/
theorem wp_balanceCall (c : BalanceCall) (hon : c.On w₀ u) (h : Idle w₀ 0 0 g w) :
    c.prog.wp (uninterrupted u) (race w₀ u) (fun _ => c.Settled u) (fun _ _ _ => True) g w := by
  cases c with
  | deductCredits now apiKey tokens metadata requestId => exact wp_deductCredits_race hon h
  | addCreditsToUser params => exact wp_addCreditsToUser_race params hon h
  | addCredits now apiKey amount metadata transactionType userId =>
    rw [BalanceCall.prog, wp_bind]
    exact wp_addCredits_race hon h
  | creditsAdd config now request adminUser =>
    obtain rfl : request.userId = u := hon
    rw [BalanceCall.prog, wp_bind]
    refine wp_asHttp (wp_checkThen (validateAdminCreditGrant_reads _ _ _ _ _) h fun g' w' h' => ?_)
    refine wp_changePurchasedCredits (.creditsAdd config now request adminUser) ?_ ?_ h'
    · exact fun _ _ => ⟨rfl, rfl, rfl, rfl⟩
    · intro _ p hp _
      exact add_nonneg hp (le_of_lt request.amount_pos)
  | creditsAdjust config now request adminUser =>
    obtain rfl : request.userId = u := hon
    rw [BalanceCall.prog, wp_bind]
    refine wp_asHttp ?_
    split
    · refine wp_checkThen (validateAdminCreditGrant_reads _ _ _ _ _) h fun g' w' h' => ?_
      refine wp_changePurchasedCredits (.creditsAdjust config now request adminUser) ?_ ?_ h'
      · exact fun _ _ => ⟨rfl, rfl, rfl, rfl⟩
      · intro _ p hp _
        exact add_nonneg hp (le_of_lt ‹_›)
    · refine wp_changePurchasedCredits (.creditsAdjust config now request adminUser) ?_ ?_ h
      · exact fun _ _ => ⟨rfl, rfl, rfl, rfl⟩
      · intro _ p _ hnone
        -- the endpoint refuses a negative sum
        by_contra hneg
        rw [if_pos (lt_of_not_ge hneg)] at hnone
        cases hnone
  | creditsBulkAdd config now request adminUser =>
    rw [BalanceCall.prog, wp_bind]
    exact wp_mono (fun _ _ _ hidle => Idle.settled hidle) (fun _ _ _ _ => trivial)
      (wp_bulkAddCreditsEndpoint hon h)
  | creditsRefund now request adminUser =>
    obtain rfl : request.userId = u := hon
    rw [BalanceCall.prog, wp_bind]
    refine wp_asHttp ?_
    refine wp_changePurchasedCredits (.creditsRefund now request adminUser) ?_ ?_ h
    · exact fun _ _ => ⟨rfl, rfl, rfl, rfl⟩
    · intro _ p hp _
      exact add_nonneg hp (le_of_lt request.amount_pos)

end Calls

/-! ## Whole runs -/

section Runs

variable {ι : Type} [Fintype ι]

/-- No lost update: no column that was not negative has become so; and once all calls have returned, the
    balance is the initial one plus what they booked, which is their amounts. -/
structure NoLostUpdate (u : Int) (calls : ι → BalanceCall) (w : World)
    (T : Pool ι PyErr Stmt Res Tally Unit) (w' : World) : Prop where
  allowance : 0 ≤ w.allowance u → 0 ≤ w'.allowance u
  purchased : 0 ≤ w.purchased u → 0 ≤ w'.purchased u
  balance : (∀ i, T.Done i) → w'.balance u = w.balance u + ∑ i, (T i).note.booked
  booked : (∀ i, T.Done i) → ∀ i, (calls i).Booked u (T i).note w'

def callPool (calls : ι → BalanceCall) : Pool ι PyErr Stmt Res Tally Unit :=
  Pool.start .start fun i => (calls i).prog

variable [DecidableEq ι]

omit [Fintype ι] [DecidableEq ι] in
theorem compatible_race (w₀ : World) (u : Int) (calls : ι → BalanceCall) :
    Pool.Compatible (fun _ : ι => race w₀ u) (Solvent w₀ u) (fun i (_ : Unit) => (calls i).Settled u)
      (fun _ (_ : PyErr) _ _ => True) where
  inv := fun _ => rfl
  refl := fun _ => Frame.refl
  trans := fun _ _ _ _ => Frame.trans
  result := by
    rintro i - g w w' hf ⟨hmoved, hbooked | ⟨hb, hr, hskip⟩⟩
    · exact ⟨hmoved, .inl hbooked⟩
    · exact ⟨hmoved, .inr ⟨hb, hr, hf.skipped hskip⟩⟩
  raise := fun _ _ _ _ _ _ _ => trivial
  fits := fun _ _ _ _ _ _ _ _ hf => hf

end Runs

def chargeAndGrant : Bool → BalanceCall
  | true => .deductCredits 0 "k" (1 / 2) none none
  | false => .addCredits 0 "" 10 none .bonus (some 1)

def grantAfterCharge : Schedule Bool PyErr :=
  [true, true, true, true, true, false, false, false].map (·, .served)

def chargeInside : Schedule Bool PyErr :=
  [true, true, true, true, false, true, false, false].map (·, .served)

end Gatewayz
