import Gatewayz.Billing.Rules

/-!
# `Correctness.AtMostOneCharge` — one request, one charge?

A request is charged by a sequence of `deduct_credits` calls with one request id: the retry loops repeat a call
whose outcome they do not know.

One call charges at most once, on every path and under every failure (`wp_pay_once`): after a charge by the
procedure whose answer was lost, the guarded update of the legacy path finds the columns changed. But the check
that is to stop the *next* call looks the request id up in the `request_id` column of the ledger, and no
deduction writes that column: the procedure puts the id into the row's metadata, the legacy path nowhere.

`at_most_one_charge` is the law under the condition that this check is not needed: **every call made after a
charge cannot pay anyway** (`DeductCall.CannotPay`).
-/

namespace Gatewayz

open Exec

/-! ## Sequences of calls -/

abbrev ChargeCalls := List (DeductCall × List (Outcome PyErr))

def ChargeCalls.run : ChargeCalls → World → World
  | [], w => w
  | (c, os) :: rest, w => ChargeCalls.run rest (c.prog.run exec os w).2.2

def DeductCall.Carries (r : String) (c : DeductCall) : Prop :=
  c.requestId = some r ∧ (c.metadata.getD []).get "request_id" = .str r

instance (r : String) (c : DeductCall) : Decidable (c.Carries r) := inferInstanceAs (Decidable (_ ∧ _))

/-- At most one charge: the balance is what it was, or less by the amount of one call. -/
def ChargedAtMostOnce (u : Int) (calls : ChargeCalls) (w w' : World) : Prop :=
  w'.balance u = w.balance u ∨ ∃ call ∈ calls, w'.balance u = w.balance u - call.1.tokens

instance (u : Int) (calls : ChargeCalls) (w w' : World) : Decidable (ChargedAtMostOnce u calls w w') :=
  inferInstanceAs (Decidable (_ ∨ _))

def World.spentToday (w : World) (u : Int) (now : Time) : ℚ :=
  ((w.usageSince u (startOfDay now)).map abs).sum

/-- The runs in which every `select` is answered. -/
abbrev answered : Setting PyErr Stmt Res Unit World := unnoted fun _ s o _ => s.Reads → o = .served

/-- All `select`s of the call are answered. -/
def DeductCall.ReadsAnswered (c : DeductCall) (os : List (Outcome PyErr)) (w : World) : Prop :=
  c.prog.Admits answered os () w

/-- A check stops the call: the request id is in a ledger row's column, the user is an admin, or the amount goes
    beyond the daily limit. -/
def DeductCall.Stopped (c : DeductCall) (w : World) (u : Int) : Prop :=
  (∃ r ∈ c.requestId, r ≠ "" ∧ (w.transactionByRequestId r).isSome) ∨ w.isAdmin u ∨
    dailyUsageLimit < w.spentToday u c.now + c.tokens

/-- The call cannot pay: the amount is below the minimum or beyond the balance, or a check stops it. -/
def DeductCall.CannotPay (c : DeductCall) (os : List (Outcome PyErr)) (w : World) (u : Int) : Prop :=
  c.tokens < 1 / 1000000 ∨ w.balance u < c.tokens ∨ c.ReadsAnswered os w ∧ c.Stopped w u

def ChargeCalls.NoneAfterACharge (u : Int) (w₀ : World) : ChargeCalls → World → Prop
  | [], _ => True
  | (c, os) :: rest, w =>
    (w.balance u = w₀.balance u ∨ c.CannotPay os w u) ∧
      ChargeCalls.NoneAfterACharge u w₀ rest (c.prog.run exec os w).2.2

/-! ## One call -/

/-- User `v` pays the amount, or nothing happens; either way seen from user `u`. -/
def PaysOnce (u v : Int) (tokens : ℚ) (w w' : World) : Prop :=
  w'.balance u = w.balance u ∨ v = u ∧ tokens ≤ w.balance u ∧ w'.balance u = w.balance u - tokens

section Call

variable {allow : Unit → Stmt → Outcome PyErr → World → Prop} {u : Int}

theorem wp_logUsers {t : Transaction} {users : Int → Option User} {Q : Option Transaction → Unit → World → Prop}
    {E : PyErr → Unit → World → Prop} {w : World} (hw : w.users = users) (hQ : ∀ r w', w'.users = users → Q r () w') :
    (logCreditTransaction t).wp (unnoted allow) .alone Q E () w := by
  refine wp_logCreditTransaction (I := fun _ w' => w'.users = users) ?_ hw
  intro _ w' hw'
  refine wp_alone_stmt (C := unnoted allow) fun o _ => ?_
  have hexec : (exec (.insertTransaction t.logged) w').2.users = users := by
    simp only [exec]
    rcases insertTransactionRow_cases t.logged w' with ⟨e, he⟩ | ⟨-, he⟩
    · rw [he]; exact hw'
    · rw [he]; exact hw'
  cases o with
  | served =>
    simp only [answer_served]
    cases (exec (.insertTransaction t.logged) w').1 with
    | ok row => exact hQ _ _ hexec
    | error e => exact ⟨hexec, hQ _ _ hexec⟩
  | dropped e => exact ⟨hw', hQ _ _ hw'⟩
  | lost e => exact ⟨hexec, hQ _ _ hexec⟩

theorem World.balance_congr {w w' : World} (h : w'.users u = w.users u) : w'.balance u = w.balance u := by
  simp [World.balance, World.allowance, World.purchased, h]

variable {d : Deduction}

theorem wp_rollback_once {row : User} {w w₁ : World} (hu : w.users d.userId = some row)
    (ha : row.subscriptionAllowance = some d.allowanceBefore) (hp : row.purchasedCredits = some d.purchasedBefore)
    (hw₁ : w₁.users = (w.setUser d.userId (d.chargePatch.apply row)).users)
    (hpaid : PaysOnce u d.userId d.tokens w w₁) :
    d.rollback.wp (unnoted allow) .alone (fun _ _ => PaysOnce u d.userId d.tokens w)
      (fun _ _ => PaysOnce u d.userId d.tokens w) () w₁ := by
  unfold Deduction.rollback
  simp only [wp_bind, wp_attempt]
  refine wp_alone_stmt (C := unnoted allow) fun o _ => ?_
  have hfound : w₁.users d.userId = some (d.chargePatch.apply row) := by
    rw [hw₁, World.users_setUser_self]
  have hback : PaysOnce u d.userId d.tokens w (exec (.updateUser d.userId d.rollbackPatch) w₁).2 := by
    refine .inl ?_
    simp only [exec, updateUserRow, hfound, World.balance_setUser]
    by_cases hd : u = d.userId
    · subst hd
      rw [if_pos rfl, World.balance_of_users hu]
      simp [User.balance, User.allowance, User.purchased, ha, hp, Deduction.rollbackPatch]
    · rw [if_neg hd]
      exact World.balance_congr (by rw [hw₁, World.users_setUser_of_ne w hd])
  cases o with
  | served => exact hback
  | dropped e => exact hpaid
  | lost e => exact hback

theorem wp_legacyPath_once (d : Deduction) (w : World) :
    d.legacyPath.wp (unnoted allow) .alone (fun _ _ => PaysOnce u d.userId d.tokens w)
      (fun _ _ => PaysOnce u d.userId d.tokens w) () w := by
  unfold Deduction.legacyPath
  split
  · exact .inl rfl
  rename_i hbal
  rw [wp_bind]
  refine wp_alone_stmt (C := unnoted allow) fun o _ => ?_
  rcases exec_updateUserIf_cases d.userId d.allowanceBefore d.purchasedBefore d.chargePatch w with
    he | ⟨row, hu, ha, hp, he⟩
  · cases o with
    | dropped e => exact .inl rfl
    | lost e => simp only [answer_lost, he, answered_error]; exact .inl rfl
    | served =>
      simp only [answer_served, he, answered_ok, wp_bind]
      exact wp_read (steady_untouched w) (s := .selectUser d.userId) trivial rfl
        (fun _ _ _ h _ => .inl (by rw [h])) (fun _ _ _ h => .inl (by rw [h]))
  · obtain ⟨hbefore, hafter⟩ := d.after_balance ha hp
    have hpaid : ∀ w₁ : World, w₁.users = (w.setUser d.userId (d.chargePatch.apply row)).users →
        PaysOnce u d.userId d.tokens w w₁ := by
      intro w₁ hw₁
      have hsame : w₁.balance u = (w.setUser d.userId (d.chargePatch.apply row)).balance u :=
        World.balance_congr (by rw [hw₁])
      rw [PaysOnce, hsame, World.balance_setUser]
      by_cases hd : u = d.userId
      · subst hd
        refine .inr ⟨rfl, ?_, ?_⟩
        · rw [World.balance_of_users hu, hbefore]; exact le_of_not_gt hbal
        · rw [if_pos rfl, d.chargePatch_balance row, hafter, World.balance_of_users hu]
      · exact .inl (if_neg hd)
    cases o with
    | dropped e => exact .inl rfl
    | lost e => simp only [answer_lost, he, answered_error]; exact hpaid _ rfl
    | served =>
      simp only [answer_served, he, answered_ok, wp_bind]
      refine wp_logUsers rfl ?_
      rintro (_ | t) w₁ hw₁
      · exact wp_rollback_once hu ha hp hw₁ (hpaid w₁ hw₁)
      · exact hpaid w₁ hw₁

theorem wp_legacyPath_conflict {w : World}
    (h : exec (.updateUserIf d.userId d.allowanceBefore d.purchasedBefore d.chargePatch) w = (.ok none, w)) :
    d.legacyPath.wp (unnoted allow) .alone (fun _ _ w' => w' = w) (fun _ _ w' => w' = w) () w := by
  unfold Deduction.legacyPath
  split
  · exact rfl
  rw [wp_bind]
  refine wp_alone_stmt (C := unnoted allow) fun o _ => ?_
  cases o with
  | dropped e => exact rfl
  | lost e => simp only [answer_lost, h, answered_error]
  | served =>
    simp only [answer_served, h, answered_ok, wp_bind]
    exact wp_read (steady_untouched w) (s := .selectUser d.userId) trivial rfl (fun _ _ _ h _ => h)
      fun _ _ _ h => h

/-- The payment happens at most once, whatever the link does. -/
theorem wp_pay_once {row : User} {w : World} (hmin : 1 / 1000000 ≤ d.tokens)
    (hu : w.users d.userId = some row) (ha : d.allowanceBefore = row.allowance)
    (hp : d.purchasedBefore = row.purchased) :
    d.pay.wp (unnoted allow) .alone (fun _ _ => PaysOnce u d.userId d.tokens w)
      (fun _ _ => PaysOnce u d.userId d.tokens w) () w := by
  unfold Deduction.pay
  rw [wp_bind]
  refine wp_atomicPath (wp_alone_stmt (C := unnoted allow) fun o _ => ?_)
  simp only [if_true, Bool.false_eq_true, if_false]
  have hlegacy : d.legacyPath.wp (unnoted allow) .alone (fun _ _ => PaysOnce u d.userId d.tokens w)
      (fun _ _ => PaysOnce u d.userId d.tokens w) () w := wp_legacyPath_once d w
  have hnothing : PaysOnce u d.userId d.tokens w w := .inl rfl
  rcases atomicDeductCredits_cases d.rpcParams w with ⟨hsame, hfail⟩ | ⟨row', hu', -, -, -, hfa, hfp, heq⟩
  · cases o with
    | dropped e => exact ⟨hlegacy, hnothing⟩
    | lost e =>
      simp only [answer_lost, exec, hsame, answered_error]
      exact ⟨hlegacy, hnothing⟩
    | served =>
      simp only [answer_served, exec, hsame, hfail, answered_ok]
      exact ⟨(fun h => by cases h), fun _ => ⟨hlegacy, fun _ => hnothing⟩⟩
  · have hrow : row' = row := by
      have hid : w.users d.userId = some row' := hu'
      rw [hu] at hid
      exact (Option.some.inj hid).symm
    subst hrow
    have hsum : d.rpcParams.fromAllowance + d.rpcParams.fromPurchased = d.tokens := by
      simp [Deduction.rpcParams, Deduction.fromPurchased]
    have hpaid : PaysOnce u d.userId d.tokens w (atomicDeductCredits d.rpcParams w).2 := by
      have hid : d.rpcParams.userId = d.userId := rfl
      rw [PaysOnce, heq, World.balance_appendTransaction, World.balance_setUser, hid]
      by_cases hd : u = d.userId
      · subst hd
        rw [if_pos rfl, DeductCreditsParams.charged_balance, hsum, World.balance_of_users hu]
        refine .inr ⟨rfl, ?_, rfl⟩
        rw [← hsum, User.balance]
        exact add_le_add hfa hfp
      · exact .inl (if_neg hd)
    cases o with
    | dropped e => exact ⟨hlegacy, hnothing⟩
    | served =>
      simp only [answer_served, exec, heq, RpcResult.grant, answered_ok]
      rw [heq] at hpaid
      exact ⟨fun _ => hpaid, fun h => by cases h⟩
    | lost e =>
      -- the charge is committed unheard; the guarded update no longer finds the columns it read
      simp only [answer_lost, exec, answered_error]
      have hconflict : exec (.updateUserIf d.userId d.allowanceBefore d.purchasedBefore d.chargePatch)
          (atomicDeductCredits d.rpcParams w).2 = (.ok none, (atomicDeductCredits d.rpcParams w).2) := by
        rcases exec_updateUserIf_cases d.userId d.allowanceBefore d.purchasedBefore d.chargePatch
          (atomicDeductCredits d.rpcParams w).2 with he | ⟨now, hnow, hna, hnp, -⟩
        · exact he
        · exfalso
          rw [heq, World.users_appendTransaction] at hnow
          have hid : d.rpcParams.userId = d.userId := rfl
          rw [hid, World.users_setUser_self] at hnow
          cases hnow
          have hza : row'.allowance - d.rpcParams.fromAllowance = d.allowanceBefore := Option.some.inj hna
          have hzp : row'.purchased - d.rpcParams.fromPurchased = d.purchasedBefore := Option.some.inj hnp
          linarith
      refine ⟨wp_mono ?_ ?_ (wp_legacyPath_conflict hconflict), hpaid⟩
      · rintro _ _ w' rfl; exact hpaid
      · rintro _ _ w' rfl; exact hpaid

/-- One call charges at most once, whatever the link does. -/
theorem deductCall_once (c : DeductCall) (os : List (Outcome PyErr)) (w : World) (u : Int) :
    ∃ v, PaysOnce u v c.tokens w (c.prog.run exec os w).2.2 := by
  have hwp : c.prog.wp (unnoted fun _ _ _ _ => True) .alone (fun _ _ w' => ∃ v, PaysOnce u v c.tokens w w')
      (fun _ _ w' => ∃ v, PaysOnce u v c.tokens w w') () w := by
    refine wp_deductCredits (steady_untouched w) rfl ?_ ?_ ?_
    · rintro _ _ rfl _; exact ⟨u, .inl rfl⟩
    · rintro _ _ _ rfl; exact ⟨u, .inl rfl⟩
    · rintro d htokens hmin - - ⟨row, ha, hp, -, w₁, hw₁, -, hu⟩ _ w₂ hw₂
      rw [hw₁] at hu
      rw [hw₂, ← htokens]
      rw [← htokens] at hmin
      exact wp_mono (fun _ _ _ h => ⟨_, h⟩) (fun _ _ _ h => ⟨_, h⟩) (wp_pay_once hmin hu ha hp)
  obtain ⟨_, hend⟩ := wp_run_alone hwp (Prog.admits_of_allow (fun _ _ _ _ => trivial) os _ _ _)
  revert hend
  change Answered _ _ (c.prog.run exec os w).1 → _
  cases (c.prog.run exec os w).1 with
  | ok a => exact id
  | error e => exact id

end Call

/-! ## A call that cannot pay -/

section Stopped

variable {w : World} {u : Int} {E : PyErr → Unit → World → Prop}

theorem wp_answered {s : Stmt} (hs : s.Reads) {Q : Res s → Unit → World → Prop} {a : Res s}
    (ha : (exec s w).1 = .ok a) (h : Q a () w) : (query s).wp answered .alone Q E () w := by
  refine wp_alone_stmt (C := answered) fun o ho => ?_
  obtain rfl := ho hs
  simp only [answer_served, exec_reads hs, ha]
  exact h

theorem wp_alreadyCharged_answered {requestId : Option String} {Q : Bool → Unit → World → Prop} (hyes : Q true () w)
    (hno : (∀ r ∈ requestId, r ≠ "" → w.transactionByRequestId r = none) → Q false () w) :
    (alreadyCharged requestId).wp answered .alone Q E () w := by
  unfold alreadyCharged
  cases hr : requestId.filter (· ≠ "") with
  | none =>
    refine hno fun r hmem hne => ?_
    have hall := Option.filter_eq_none_iff.mp hr r hmem
    simp [hne] at hall
  | some r =>
    obtain ⟨hmem, hne⟩ := Option.filter_eq_some_iff.mp hr
    have hne : r ≠ "" := by simpa using hne
    simp only [getTransactionByRequestId, if_neg hne, wp_bind, wp_tryCatch]
    refine wp_answered (s := .selectTransactionByRequestId r) trivial rfl ?_
    cases hled : w.transactionByRequestId r with
    | some t => exact hyes
    | none =>
      refine hno fun r' hmem' _ => ?_
      rw [hmem, Option.mem_some_iff] at hmem'
      rw [← hmem', hled]

theorem wp_isAdminTierUser_answered {v : Int} {Q : Bool → Unit → World → Prop} (h : Q (w.isAdmin v) () w) :
    (isAdminTierUser v).wp answered .alone Q E () w := by
  unfold isAdminTierUser
  simp only [wp_tryCatch, wp_bind]
  exact wp_answered (s := .selectActivePlanTypes v) trivial rfl h

theorem wp_enforceDailyUsageLimit_answered {now : Time} {v : Int} {amount : ℚ} {Q : Unit → Unit → World → Prop}
    (hok : ¬ dailyUsageLimit < w.spentToday v now + amount → Q () () w) (herr : ∀ e, E e () w) :
    (enforceDailyUsageLimit now v amount).wp answered .alone Q E () w := by
  unfold enforceDailyUsageLimit checkDailyUsageLimit getDailyUsage
  simp only [wp_tryCatch, wp_bind]
  refine wp_answered (s := .selectUsageSince v (startOfDay now)) trivial rfl ?_
  by_cases hlim : dailyUsageLimit < w.spentToday v now + amount
  · have hlim' := hlim
    unfold World.spentToday at hlim'
    simp only [Prog.pure_eq, wp_ret, hlim', not_true_eq_false, decide_false, Bool.false_eq_true, if_false]
    exact herr _
  · have hlim' := hlim
    unfold World.spentToday at hlim'
    simp only [Prog.pure_eq, wp_ret, hlim', not_false_eq_true, decide_true, if_true]
    exact hok hlim

theorem wp_stopped {c : DeductCall} (hstop : c.Stopped w u) :
    c.prog.wp answered .alone (fun _ _ w' => w'.balance u = w.balance u)
      (fun _ _ w' => w'.balance u = w.balance u) () w := by
  unfold DeductCall.prog deductCredits
  split
  · exact rfl
  split
  · exact rfl
  rename_i hmin
  simp only [wp_tryCatch, wp_bind]
  refine wp_alreadyCharged_answered rfl fun hnew => ?_
  simp only [Bool.false_eq_true, if_false, wp_bind]
  refine wp_lookupUserByApiKey (steady_untouched w) rfl ?_ ?_ ?_
  · rintro _ _ rfl; exact rfl
  · rintro v row - ⟨-, w₁, hw₁, -, hu⟩ _ w₂ hw₂
    rw [hw₁] at hu
    rw [hw₂]
    simp only [Deduction.settle, wp_bind]
    refine wp_isAdminTierUser_answered ?_
    cases hadmin : w.isAdmin v with
    | true => exact rfl
    | false =>
      simp only [Bool.false_eq_true, if_false, wp_bind, wp_tryCatch]
      refine wp_enforceDailyUsageLimit_answered ?_ ?_
      · intro hlimit
        -- not stopped so far, so the call is on another user
        have hv : v ≠ u := by
          rintro rfl
          rcases hstop with ⟨r, hr, hne, hled⟩ | hadm | hlim
          · rw [hnew r hr hne] at hled; cases hled
          · rw [hadmin] at hadm; cases hadm
          · exact hlimit hlim
        have hother : ∀ {w'}, PaysOnce u v c.tokens w w' → w'.balance u = w.balance u := fun h =>
          h.resolve_right fun h => hv h.1
        exact wp_mono (fun _ _ _ h => hother h) (fun _ _ _ h => hother h)
          (wp_pay_once (le_of_not_gt hmin) hu rfl rfl)
      · intro e
        split <;> exact rfl
  · rintro e _ _ rfl; exact rfl

theorem DeductCall.CannotPay.keeps {c : DeductCall} {os : List (Outcome PyErr)} (h : c.CannotPay os w u) :
    (c.prog.run exec os w).2.2.balance u = w.balance u := by
  rcases h with hmin | hbal | ⟨hreads, hstop⟩
  · unfold DeductCall.prog deductCredits
    rw [if_pos hmin]
    split <;> rfl
  · obtain ⟨v, hsame | ⟨-, hle, -⟩⟩ := deductCall_once c os w u
    · exact hsame
    · exact absurd hbal (not_lt_of_ge hle)
  · obtain ⟨_, hend⟩ := wp_run_alone (wp_stopped hstop) hreads
    revert hend
    change Answered _ _ (c.prog.run exec os w).1 → _
    cases (c.prog.run exec os w).1 with
    | ok a => exact id
    | error e => exact id

end Stopped

/-! ## Whole sequences -/

/-- **At most one charge, if every call made after a charge cannot pay.** -/
theorem at_most_one_charge (u : Int) (calls : ChargeCalls) (w : World)
    (h : calls.NoneAfterACharge u w w) : ChargedAtMostOnce u calls w (calls.run w) := by
  suffices hrun : ∀ (done rest : ChargeCalls) (w' : World), ChargedAtMostOnce u done w w' →
      rest.NoneAfterACharge u w w' → ChargedAtMostOnce u (done ++ rest) w (rest.run w') from
    hrun [] calls w (.inl rfl) h
  intro done rest
  induction rest generalizing done with
  | nil => simpa [ChargeCalls.run] using fun _ h _ => h
  | cons call rest ih =>
    obtain ⟨c, os⟩ := call
    intro w' hdone ⟨hcond, hrest⟩
    rw [List.append_cons]
    refine ih _ _ ?_ hrest
    rcases hcond with hnone | hcannot
    · obtain ⟨v, hsame | ⟨-, -, hpaid⟩⟩ := deductCall_once c os w' u
      · exact .inl (hsame.trans hnone)
      · refine .inr ⟨(c, os), by simp, ?_⟩
        rw [hpaid, hnone]
    · rcases hdone with hsame | ⟨call, hmem, hpaid⟩
      · exact .inl ((DeductCall.CannotPay.keeps hcannot).trans hsame)
      · exact .inr ⟨call, List.mem_append_left _ hmem, (DeductCall.CannotPay.keeps hcannot).trans hpaid⟩

/-- A request whose first attempt finds no database, and which is charged by the second; a third attempt is
    beyond the daily limit. -/
def threeAttempts : ChargeCalls :=
  let call : DeductCall := ⟨0, "k", 7 / 10, some [("request_id", .str "r")], some "r"⟩
  [(call, [.served, .dropped ⟨.connectionError, "refused"⟩]), (call, []), (call, [])]

instance (c : DeductCall) (w : World) (u : Int) : Decidable (c.Stopped w u) :=
  inferInstanceAs (Decidable (_ ∨ _ ∨ _))

instance (c : DeductCall) (os : List (Outcome PyErr)) (w : World) (u : Int) : Decidable (c.CannotPay os w u) :=
  have : Decidable (c.ReadsAnswered os w) := Prog.decidableAdmits ..
  inferInstanceAs (Decidable (_ ∨ _ ∨ _))

instance decidableNoneAfterACharge (u : Int) (w₀ : World) :
    ∀ (calls : ChargeCalls) (w : World), Decidable (calls.NoneAfterACharge u w₀ w)
  | [], _ => .isTrue trivial
  | (c, os) :: rest, w =>
    have := decidableNoneAfterACharge u w₀ rest (c.prog.run exec os w).2.2
    inferInstanceAs (Decidable (_ ∧ _))

theorem at_most_one_charge_threeAttempts :
    ChargedAtMostOnce 1 threeAttempts (oneUser 5 0) (threeAttempts.run (oneUser 5 0)) :=
  at_most_one_charge 1 threeAttempts (oneUser 5 0) (by decide +kernel)

/-! ## The retry loops -/

def Charge.deductCall (c : Charge) (attempt : Nat) : DeductCall where
  now := c.now
  apiKey := c.apiKey
  tokens := c.cost
  metadata := some (c.metadata.update [("attempt_number", .int attempt), ("request_id", .str c.requestId)])
  requestId := some c.requestId

/-- A charge of half a dollar for request `r`. -/
def oneRequest : Charge := ⟨0, "k", 1 / 2, [], "r"⟩

def answerLost : List (Outcome PyErr) :=
  [.served, .served, .served, .served, .served, .lost ⟨.connectionError, "reset"⟩]

/-- The second attempt charges again, and so does the loop. -/
theorem charged_again_after_lost_answer :
    let calls : ChargeCalls := [(oneRequest.deductCall 1, answerLost), (oneRequest.deductCall 2, [])]
    (∀ call ∈ calls, call.1.Carries "r") ∧
      ¬ ChargedAtMostOnce 1 calls (oneUser 5 0) (calls.run (oneUser 5 0)) ∧
      ((chargeWithRetries oneRequest).run exec answerLost (oneUser 5 0)).2.2.balance 1 = 4 := by
  decide +kernel

end Gatewayz
