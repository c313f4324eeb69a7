import Gatewayz.Exec.Wp
import Gatewayz.Billing.Effects
import Gatewayz.Billing.Users

/-!
# `Billing.Rules` — one rule per billing function

The rules say how far a billing function gets before it does something that matters. They hold for every note,
every fault model and every contract, and each property of the development uses them instead of unfolding the
functions.

A condition `J` on the note and the world is **steady** when other parties and this party's own `select`s keep
it. A function that only reads keeps every steady condition (`Steady.keeps`); `wp_read` also remembers what was
read. `Kept` is the same for statements of any kind. `wp_deductCredits` leads from the call to the two paths that write.
-/

namespace Gatewayz

open Exec

/-- The billing statements under a note and a fault model. -/
@[reducible] def setting {γ : Type} (note : γ → (s : Stmt) → Except PyErr (Res s) → World → World → γ)
    (allow : γ → Stmt → Outcome PyErr → World → Prop) : Setting PyErr Stmt Res γ World where
  exec := exec
  note := note
  allow := allow

abbrev unnoted (allow : Unit → Stmt → Outcome PyErr → World → Prop) : Setting PyErr Stmt Res Unit World :=
  setting (fun _ _ _ _ _ => ()) allow

abbrev anyRun : Setting PyErr Stmt Res Unit World := unnoted fun _ _ _ _ => True

variable {γ α : Type} {note : γ → (s : Stmt) → Except PyErr (Res s) → World → World → γ}
variable {allow : γ → Stmt → Outcome PyErr → World → Prop} {K : Contract Stmt World}
variable {J : γ → World → Prop} {E : PyErr → γ → World → Prop}

/-- A steady condition: kept by the others and by this party's `select`s. -/
structure Steady (note : γ → (s : Stmt) → Except PyErr (Res s) → World → World → γ)
    (allow : γ → Stmt → Outcome PyErr → World → Prop) (K : Contract Stmt World)
    (J : γ → World → Prop) : Prop where
  rely : ∀ g st st', K.rely st st' → J g st → J g st'
  read : ∀ s : Stmt, s.Reads → ∀ g o st, K.inv st → allow g s o st → J g st →
    K.guar s st st ∧ J (note g s (answer exec s o st).1 st st) st

theorem steady_untouched {allow : Unit → Stmt → Outcome PyErr → World → Prop} (w : World) :
    Steady (fun _ _ _ _ _ => ()) allow .alone fun _ w' => w' = w where
  rely := fun _ _ _ hr h => hr ▸ h
  read := fun _ _ _ _ _ _ _ h => ⟨trivial, h⟩

/-- A condition kept by statements of a kind, and by the others. -/
structure Kept (note : γ → (s : Stmt) → Except PyErr (Res s) → World → World → γ)
    (allow : γ → Stmt → Outcome PyErr → World → Prop) (K : Contract Stmt World) (P : Stmt → Prop)
    (J : γ → World → Prop) : Prop where
  rely : ∀ g st st', K.rely st st' → J g st → J g st'
  step : ∀ s : Stmt, P s → ∀ g o st, K.inv st → allow g s o st → J g st →
    K.inv (answer exec s o st).2 ∧ K.guar s st (answer exec s o st).2 ∧
      J (note g s (answer exec s o st).1 st (answer exec s o st).2) (answer exec s o st).2

theorem Kept.mono {P P' : Stmt → Prop} (hJ : Kept note allow K P J) (h : ∀ s, P' s → P s) :
    Kept note allow K P' J := ⟨hJ.rely, fun s hs => hJ.step s (h s hs)⟩

variable {P : Stmt → Prop} {g : γ} {st : World}

theorem Kept.wp (hJ : Kept note allow K P J) {p : DbProg α} (hp : p.Only P) (h : J g st) :
    p.wp (setting note allow) K (fun _ => J) (fun _ => J) g st :=
  wp_of_only (C := setting note allow) hJ.rely hJ.step hp h

/-! ## Programs that only read -/

theorem Steady.keeps (hJ : Steady note allow K J) {p : DbProg α} (hp : p.Only Stmt.Reads)
    (h : J g st) : p.wp (setting note allow) K (fun _ => J) (fun _ => J) g st := by
  refine wp_of_only (C := setting note allow) hJ.rely ?_ hp h
  intro s hs g o st hi ho hj
  obtain ⟨hg, hj'⟩ := hJ.read s hs g o st hi ho hj
  rw [answer_reads hs]
  exact ⟨hi, hg, hj'⟩

/-- One `select`: what it answers was so in some store the condition held in. -/
theorem wp_read (hJ : Steady note allow K J) {s : Stmt} (hs : s.Reads) {Q : Res s → γ → World → Prop} (h : J g st)
    (hok : ∀ a g' st', J g' st' → (∃ g₀, J g₀ st' ∧ K.inv st' ∧ (exec s st').1 = .ok a) → Q a g' st')
    (herr : ∀ e g' st', J g' st' → E e g' st') : (query s).wp (setting note allow) K Q E g st := by
  refine wp_stmt (C := setting note allow) fun st₁ hr hi o ho => ?_
  have hj₁ := hJ.rely g st st₁ hr h
  obtain ⟨hg, hj'⟩ := hJ.read s hs g o st₁ hi ho hj₁
  rw [answer_reads hs]
  refine ⟨hi, hg, ?_⟩
  cases o with
  | served =>
    simp only [answer_served] at hj' ⊢
    cases ha : (exec s st₁).1 with
    | ok a => rw [ha] at hj'; exact hok a _ st₁ hj' ⟨g, hj₁, hi, ha⟩
    | error e => rw [ha] at hj'; exact herr e _ st₁ hj'
  | dropped e => exact herr e _ st₁ hj'
  | lost e => exact herr e _ st₁ hj'

theorem only_query {s : Stmt} (h : P s) : (query s).Only P := (only_stmt s).mpr h

theorem getTransactionByRequestId_reads (r : String) : (getTransactionByRequestId r).Only Stmt.Reads := by
  unfold getTransactionByRequestId
  split
  · exact only_ret _
  · exact only_tryCatch (only_query trivial) fun _ => only_ret _

theorem isAdminTierUser_reads (u : Int) : (isAdminTierUser u).Only Stmt.Reads :=
  only_tryCatch (only_bind (only_query trivial) fun _ => only_ret _) fun _ => only_ret _

theorem enforceDailyUsageLimit_reads (now : Time) (u : Int) (amount : ℚ) :
    (enforceDailyUsageLimit now u amount).Only Stmt.Reads := by
  refine only_bind (only_bind ?_ fun _ => only_ret _) fun result => ?_
  · exact only_tryCatch (only_bind (only_query trivial) fun _ => only_ret _) fun _ => only_ret _
  · split
    · exact only_ret _
    · exact only_fail _

/-! ## Retried inserts -/

section Retried

variable {σ : Type} {C : Setting PyErr Stmt Res γ σ} {L : Contract Stmt σ} {E : PyErr → γ → σ → Prop}

/-- An operation that is repeated: every attempt starts from the condition `I`. -/
theorem wp_executeWithRetry {operation : DbProg α} {I : γ → σ → Prop} {Q : α → γ → σ → Prop}
    (hop : ∀ g st, I g st → operation.wp C L Q (fun e g' st' => I g' st' ∧ E e g' st') g st)
    {retries : Nat} {st : σ} (h : I g st) : (executeWithRetry operation retries).wp C L Q E g st := by
  induction retries generalizing g st with
  | zero => exact wp_mono (fun _ _ _ hq => hq) (fun _ _ _ he => he.2) (hop g st h)
  | succ retries ih =>
    simp only [executeWithRetry, wp_tryCatch]
    refine wp_mono (fun _ _ _ hq => hq) ?_ (hop g st h)
    rintro e g' st' ⟨hi, he⟩
    split
    · exact ih hi
    · exact he

/-- The row `log_credit_transaction` inserts: an empty request id is left out. -/
def Transaction.logged (t : Transaction) : Transaction :=
  { t with requestId := t.requestId.filter (· ≠ "") }

theorem Transaction.logged_of_none {t : Transaction} (h : t.requestId = none) : t.logged = t := by
  obtain ⟨⟩ := t
  cases h
  rfl

theorem wp_logCreditTransaction {t : Transaction} {I : γ → σ → Prop} {Q : Option Transaction → γ → σ → Prop}
    (hop : ∀ g st, I g st → (query (.insertTransaction t.logged)).wp C L
      (fun row => Q (some row)) (fun _ g' st' => I g' st' ∧ Q none g' st') g st) {st : σ}
    (h : I g st) : (logCreditTransaction t).wp C L Q E g st := by
  unfold logCreditTransaction
  simp only [wp_tryCatch, wp_bind]
  exact wp_executeWithRetry (E := fun _ g' st' => Q none g' st') hop h

end Retried

/-! ## From the call of `deduct_credits` to the payment -/

/-- The arguments of a `deduct_credits` call. -/
structure DeductCall where
  now : Time
  apiKey : String
  tokens : ℚ
  metadata : Option Dict
  requestId : Option String

def DeductCall.prog (c : DeductCall) : DbProg Unit :=
  deductCredits c.now c.apiKey c.tokens c.metadata c.requestId

/-- Some store with the invariant and the condition has the property. -/
def Sometimes (K : Contract Stmt World) (J : γ → World → Prop) (P : World → Prop) : Prop :=
  ∃ g st, J g st ∧ K.inv st ∧ P st

/-- The two lookups of `deduct_credits` lead from the key to the user. -/
def FoundBy (K : Contract Stmt World) (J : γ → World → Prop) (apiKey : String) (u : Int) : Prop :=
  Sometimes K J (fun st => st.keyUser apiKey = some u) ∨
    Sometimes K J (fun st => st.keyUser apiKey = none) ∧
      Sometimes K J (fun st => st.userByApiKey apiKey = some u)

def World.isAdmin (w : World) (u : Int) : Bool := (w.activePlanTypes u).any (· = adminPlanType)

/-- Why a deduction may be skipped: the ledger has the request id, or the user is an admin. -/
def SkipReason (K : Contract Stmt World) (J : γ → World → Prop) (apiKey : String) (requestId : Option String)
    (st : World) : Prop :=
  (∃ r, requestId = some r ∧ (st.transactionByRequestId r).isSome) ∨ ∃ u, FoundBy K J apiKey u ∧ st.isAdmin u

/-- The row a deduction remembers was read in some store with the condition. -/
def Deduction.WasRead (K : Contract Stmt World) (J : γ → World → Prop) (d : Deduction) : Prop :=
  ∃ row, d.allowanceBefore = row.allowance ∧ d.purchasedBefore = row.purchased ∧
    Sometimes K J fun st => st.users d.userId = some row

theorem wp_lookupUserByApiKey (hJ : Steady note allow K J) {apiKey : String}
    {Q : Option (Int × User) → γ → World → Prop} (h : J g st) (hnone : ∀ g' st', J g' st' → Q none g' st')
    (hsome : ∀ u row, FoundBy K J apiKey u → (Sometimes K J fun st => st.users u = some row) →
      ∀ g' st', J g' st' → Q (some (u, row)) g' st') (herr : ∀ e g' st', J g' st' → E e g' st') :
    (lookupUserByApiKey apiKey).wp (setting note allow) K Q E g st := by
  unfold lookupUserByApiKey
  rw [wp_bind]
  refine wp_read hJ (s := .selectApiKey apiKey) trivial h ?_ herr
  rintro keyResult g₁ st₁ hj₁ ⟨g₀, hj₀, hi₀, hkey⟩
  have hkey : st₁.keyUser apiKey = keyResult := by simpa [exec] using hkey
  cases keyResult with
  | some u =>
    simp only [wp_bind]
    refine wp_read hJ (s := .selectUser u) trivial hj₁ ?_ herr
    rintro row g₂ st₂ hj₂ ⟨g₂', hj₂', hi₂, hrow⟩
    have hrow : st₂.users u = row := by simpa [exec] using hrow
    cases row with
    | none => exact hnone g₂ st₂ hj₂
    | some row => exact hsome u row (.inl ⟨g₀, st₁, hj₀, hi₀, hkey⟩) ⟨g₂', st₂, hj₂', hi₂, hrow⟩ g₂ st₂ hj₂
  | none =>
    refine wp_read hJ (s := .selectUserByApiKey apiKey) trivial hj₁ ?_ herr
    rintro row g₂ st₂ hj₂ ⟨g₂', hj₂', hi₂, hrow⟩
    have hrow : ((st₂.userByApiKey apiKey).bind fun u => (st₂.users u).map fun r => (u, r)) = row := by
      simpa [exec] using hrow
    cases row with
    | none => exact hnone g₂ st₂ hj₂
    | some found =>
      obtain ⟨u, row⟩ := found
      obtain ⟨v, hv, hrow⟩ := Option.bind_eq_some_iff.mp hrow
      obtain ⟨r, hr, heq⟩ := Option.map_eq_some_iff.mp hrow
      cases heq
      exact hsome u row (.inr ⟨⟨g₀, st₁, hj₀, hi₀, hkey⟩, ⟨g₂', st₂, hj₂', hi₂, hv⟩⟩)
        ⟨g₂', st₂, hj₂', hi₂, hr⟩ g₂ st₂ hj₂

variable {Q : Bool → γ → World → Prop}

theorem wp_alreadyCharged (hJ : Steady note allow K J) {requestId : Option String} (h : J g st)
    (hno : ∀ g' st', J g' st' → Q false g' st')
    (hyes : ∀ r, requestId = some r → ∀ g' st', J g' st' → (st'.transactionByRequestId r).isSome →
      Q true g' st') :
    (alreadyCharged requestId).wp (setting note allow) K Q E g st := by
  unfold alreadyCharged
  cases hr : requestId.filter (· ≠ "") with
  | none => exact hno g st h
  | some r =>
    obtain ⟨hreq, hne⟩ := Option.filter_eq_some_iff.mp hr
    have hne : r ≠ "" := by simpa using hne
    simp only [getTransactionByRequestId, if_neg hne, wp_bind, wp_tryCatch]
    refine wp_read hJ (s := .selectTransactionByRequestId r) trivial h ?_ fun e g' st' hj' => hno g' st' hj'
    rintro existing g₁ st₁ hj₁ ⟨-, -, -, hrow⟩
    have hrow : st₁.transactionByRequestId r = existing := by simpa [exec] using hrow
    cases existing with
    | none => exact hno g₁ st₁ hj₁
    | some t => exact hyes r hreq g₁ st₁ hj₁ (by rw [hrow]; rfl)

theorem wp_isAdminTierUser (hJ : Steady note allow K J) {u : Int} (h : J g st)
    (hno : ∀ g' st', J g' st' → Q false g' st') (hyes : ∀ g' st', J g' st' → st'.isAdmin u → Q true g' st') :
    (isAdminTierUser u).wp (setting note allow) K Q E g st := by
  unfold isAdminTierUser
  simp only [wp_tryCatch, wp_bind]
  refine wp_read hJ (s := .selectActivePlanTypes u) trivial h ?_ fun e g' st' hj' => hno g' st' hj'
  rintro planTypes g₁ st₁ hj₁ ⟨-, -, -, hplans⟩
  have hplans : st₁.activePlanTypes u = planTypes := by simpa [exec] using hplans
  change Q (planTypes.any (· = adminPlanType)) g₁ st₁
  cases hadmin : planTypes.any (· = adminPlanType) with
  | false => exact hno g₁ st₁ hj₁
  | true => exact hyes g₁ st₁ hj₁ (by rw [World.isAdmin, hplans]; exact hadmin)

/-- `deduct_credits` up to the payment. It keeps every steady condition until it pays; it returns without
    paying only for an amount below the minimum or for a `SkipReason`. -/
theorem wp_deductCredits (hJ : Steady note allow K J) {now : Time} {apiKey : String} {tokens : ℚ}
    {metadata : Option Dict} {requestId : Option String} {Q : Unit → γ → World → Prop} (h : J g st)
    (hskip : ∀ g' st', J g' st' → (tokens < 1 / 1000000 ∨ SkipReason K J apiKey requestId st') → Q () g' st')
    (herr : ∀ e g' st', J g' st' → E e g' st')
    (hpay : ∀ d : Deduction, d.tokens = tokens → 1 / 1000000 ≤ tokens → d.metadata = metadata.getD [] →
      FoundBy K J apiKey d.userId → d.WasRead K J → ∀ g' st', J g' st' →
        d.pay.wp (setting note allow) K Q (fun e => E (wrapDeductError e)) g' st') :
    (deductCredits now apiKey tokens metadata requestId).wp (setting note allow) K Q E g st := by
  unfold deductCredits
  split
  · exact herr _ g st h
  split
  · rename_i hmin
    exact hskip g st h (.inl hmin)
  rename_i hmin
  simp only [wp_tryCatch, wp_bind]
  refine wp_alreadyCharged hJ h ?_ fun r hr g₁ st₁ hj₁ hled =>
    hskip g₁ st₁ hj₁ (.inr (.inl ⟨r, hr, hled⟩))
  intro g₁ st₁ hj₁
  simp only [Bool.false_eq_true, if_false, wp_bind]
  refine wp_lookupUserByApiKey hJ hj₁ (fun g₂ st₂ hj₂ => herr _ g₂ st₂ hj₂) ?_
    fun e g₂ st₂ hj₂ => herr _ g₂ st₂ hj₂
  intro u row hfound hrow g₂ st₂ hj₂
  simp only [Deduction.settle, wp_bind]
  refine wp_isAdminTierUser hJ hj₂ ?_ fun g₃ st₃ hj₃ hadmin =>
    hskip g₃ st₃ hj₃ (.inr (.inr ⟨u, hfound, hadmin⟩))
  intro g₃ st₃ hj₃
  simp only [Bool.false_eq_true, if_false, wp_bind, wp_tryCatch]
  refine wp_mono ?_ ?_ (hJ.keeps (enforceDailyUsageLimit_reads now u tokens) hj₃)
  · intro _ g₄ st₄ hj₄
    exact hpay _ rfl (le_of_not_gt hmin) rfl hfound ⟨row, rfl, rfl, hrow⟩ g₄ st₄ hj₄
  · intro e g₄ st₄ hj₄
    by_cases hlim : e.kind = .dailyUsageLimitExceeded
    · simp only [if_pos hlim]; exact herr _ g₄ st₄ hj₄
    · simp only [if_neg hlim]; exact herr _ g₄ st₄ hj₄

/-! ## The payment -/

theorem Deduction.after_balance {d : Deduction} {row : User}
    (ha : row.subscriptionAllowance = some d.allowanceBefore) (hp : row.purchasedCredits = some d.purchasedBefore) :
    row.balance = d.balanceBefore ∧ d.balanceAfter = row.balance - d.tokens := by
  simp only [User.balance, User.allowance, User.purchased, ha, hp, Option.getD_some, balanceBefore, balanceAfter,
    allowanceAfter, purchasedAfter, fromPurchased, true_and]
  ring

theorem Deduction.chargePatch_balance (d : Deduction) (row : User) :
    (d.chargePatch.apply row).balance = d.balanceAfter := by
  simp [chargePatch, balanceAfter, User.balance]

/-- An answer that is no success is a business error or a reason to use the legacy path. -/
theorem Deduction.readRpcResult_cases (d : Deduction) (result : RpcResult) :
    result.success = true ∧ d.readRpcResult result = .ok true ∨
      result.success = false ∧
        (d.readRpcResult result = .ok false ∨ ∃ e, e.kind = .valueError ∧ d.readRpcResult result = .error e) := by
  unfold readRpcResult
  cases result.success with
  | true => exact .inl ⟨rfl, rfl⟩
  | false =>
    refine .inr ⟨rfl, ?_⟩
    simp only [Bool.false_eq_true, if_false]
    repeat' split
    all_goals first | exact .inl rfl | exact .inr ⟨_, rfl, rfl⟩

/-- The atomic path: only an answered success counts as done. -/
theorem wp_atomicPath {d : Deduction} (h : (query (.rpcAtomicDeductCredits d.rpcParams)).wp (setting note allow) K
      (fun result g' st' => (result.success = true → Q true g' st') ∧
        (result.success = false → Q false g' st' ∧ ∀ e, E e g' st'))
      (fun e g' st' => Q false g' st' ∧ E e g' st') g st) :
    d.atomicPath.wp (setting note allow) K Q E g st := by
  unfold Deduction.atomicPath
  simp only [wp_tryCatch, wp_bind]
  refine wp_mono ?_ ?_ h
  · rintro result g' st' ⟨hyes, hno⟩
    rcases d.readRpcResult_cases result with ⟨hs, hr⟩ | ⟨hs, hr | ⟨e, he, hr⟩⟩
    · simp only [hr]; exact hyes hs
    · simp only [hr]; exact (hno hs).1
    · simp only [hr, Prog.throw_eq, wp_fail, if_pos he]; exact (hno hs).2 e
  · rintro e g' st' ⟨hno, he⟩
    by_cases hk : e.kind = .valueError
    · rw [if_pos hk]; exact he
    · rw [if_neg hk]; exact hno

end Gatewayz
