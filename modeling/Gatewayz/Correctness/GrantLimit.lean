import Gatewayz.Billing.AdminCredits
import Gatewayz.Billing.Rules
import Mathlib.Algebra.Order.BigOperators.Group.List
import Mathlib.Data.Fintype.Basic

/-!
# `Correctness.GrantLimit` — the admin grant limit

The limit is checked against the sum of the ledger rows, before the balance is written; the row that counts the grant is
inserted after it, and nobody minds if that fails. So the limit holds where the calls come one after the other, none of them is a
refund, which checks nothing, no row is lost on its way to the ledger, and no balance is written without an answer
(`GrantsInTurn`, with `linkAnswers`).

Between calls every increase has its own ledger row, made no earlier (`Logged`), so that the sum an endpoint reads covers what
has been granted (`grantedSince_le`).
-/

namespace Gatewayz

open Exec

/-! ## Grants and their rows -/

/-- The ledger row of an increase. -/
structure GrantRow (adminUser : AdminUser) (g : Increase) (t : Transaction) : Prop where
  user : t.userId = g.userId
  amount : t.amount = g.amount
  credit : t.transactionType = .adminCredit
  creator : t.createdBy = some (createdByAdmin adminUser)
  time : g.time ≤ t.createdAt

variable {c : Time} {more amount : ℚ}

namespace GrantWorld

variable {adminUser : AdminUser} {limit : ℚ} {w : GrantWorld}

/-- Every increase has a ledger row of its own. -/
def Logged (adminUser : AdminUser) (w : GrantWorld) : Prop :=
  ∃ rows, rows.Sublist w.db.creditTransactions ∧ List.Forall₂ (GrantRow adminUser) w.increases rows

/-- The limit holds in every 24 hours. -/
structure Within (limit : ℚ) (w : GrantWorld) : Prop where
  positive : ∀ g ∈ w.increases, 0 < g.amount
  bounded : ∀ start, w.grantedIn start ≤ max 0 limit

/-- Room for more, by a check at the time `c`. -/
structure Room (limit : ℚ) (c : Time) (more : ℚ) (w : GrantWorld) : Prop where
  checked : c ≤ w.clock
  room : w.grantedSince (c - 86400) + more ≤ limit

theorem Logged.later (h : w.Logged adminUser) (d : Nat) : (w.later d).Logged adminUser := h

theorem Within.later (h : w.Within limit) (d : Nat) : (w.later d).Within limit := ⟨h.positive, h.bounded⟩

theorem Room.mono {more less : ℚ} (h : w.Room limit c more) (hle : less ≤ more) : w.Room limit c less :=
  ⟨h.checked, le_trans (add_le_add_right hle _) h.room⟩

theorem Room.later (h : w.Room limit c more) (d : Nat) : (w.later d).Room limit c more :=
  ⟨Nat.le_add_right_of_le h.checked, h.room⟩

theorem sum_filter_le {l : List Increase} (hpos : ∀ g ∈ l, 0 < g.amount) {p q : Increase → Bool} (h : ∀ g, p g → q g) :
    ((l.filter p).map Increase.amount).sum ≤ ((l.filter q).map Increase.amount).sum := by
  refine List.Sublist.sum_le_sum ((List.monotone_filter_right l h).map Increase.amount) fun a ha => ?_
  obtain ⟨g, hg, rfl⟩ := List.mem_map.mp ha
  exact le_of_lt (hpos g (List.mem_of_mem_filter hg))

theorem sum_rows {increases : List Increase} {rows : List Transaction} (h : List.Forall₂ (GrantRow adminUser) increases rows)
    (hpos : ∀ g ∈ increases, 0 < g.amount) (start : Time) :
    ((increases.filter fun g => start ≤ g.time).map Increase.amount).sum ≤
      ((rows.filter (fun t => t.transactionType = .adminCredit ∧ t.createdBy = some (createdByAdmin adminUser) ∧
        start ≤ t.createdAt ∧ 0 < t.amount)).map Transaction.amount).sum := by
  induction h with
  | nil => exact le_refl _
  | @cons g t increases rows hrow _ ih =>
    have hg := hpos g List.mem_cons_self
    have hrest := ih fun g' hg' => hpos g' (List.mem_cons_of_mem g hg')
    have ht : 0 < t.amount := hrow.amount ▸ hg
    by_cases hstart : start ≤ g.time
    · have hrowstart : start ≤ t.createdAt := le_trans hstart hrow.time
      rw [List.filter_cons_of_pos (by simpa using hstart),
        List.filter_cons_of_pos (by simp [hrow.credit, hrow.creator, hrowstart, ht])]
      simp only [List.map_cons, List.sum_cons, hrow.amount]
      linarith
    · rw [List.filter_cons_of_neg (by simpa using hstart)]
      refine le_trans hrest ?_
      rw [List.filter_cons]
      split
      · simp only [List.map_cons, List.sum_cons]
        linarith
      · exact le_refl _

theorem grantedSince_le (hlog : w.Logged adminUser) (hpos : ∀ g ∈ w.increases, 0 < g.amount) (start : Time) :
    w.grantedSince start ≤ (w.db.adminGrants (createdByAdmin adminUser) start).sum := by
  obtain ⟨rows, hsub, hrows⟩ := hlog
  refine le_trans (sum_rows hrows hpos start) ?_
  refine List.Sublist.sum_le_sum ((hsub.filter _).map Transaction.amount) fun a ha => ?_
  obtain ⟨t, ht, rfl⟩ := List.mem_map.mp ha
  have hkept := (List.mem_filter.mp ht).2
  simp only [decide_eq_true_eq] at hkept
  exact le_of_lt hkept.2.2.2

/-! ## What a write does -/

theorem Within.grant (h : w.Within limit) (hroom : w.Room limit c (amount + more))
    (hamount : 0 < amount) (hmore : 0 ≤ more) (u : Int) (db : World) :
    ({ w with db := db, increases := w.increases ++ [⟨w.clock, u, amount⟩] } : GrantWorld).Within limit ∧
      ({ w with db := db, increases := w.increases ++ [⟨w.clock, u, amount⟩] } : GrantWorld).Room limit c more := by
  have hchecked := hroom.checked
  have hlimit := hroom.room
  refine ⟨⟨fun g hg => ?_, fun start => ?_⟩, hchecked, ?_⟩
  · rcases List.mem_append.mp hg with hg | hg
    · exact h.positive g hg
    · rw [List.mem_singleton.mp hg]
      exact hamount
  · -- the new increase falls into these 24 hours, or it does not
    by_cases hin : start ≤ w.clock ∧ w.clock ≤ start + 86400
    · have hbefore : w.grantedIn start ≤ w.grantedSince (c - 86400) := by
        refine sum_filter_le h.positive fun g hg => ?_
        have hstart : start ≤ g.time := (of_decide_eq_true hg).1
        have hday : c - 86400 ≤ start := Nat.sub_le_iff_le_add.mpr (le_trans hchecked hin.2)
        exact decide_eq_true (le_trans hday hstart)
      have hsum : ({ w with db := db, increases := w.increases ++ [⟨w.clock, u, amount⟩] } : GrantWorld).grantedIn start =
          w.grantedIn start + amount := by
        simp [grantedIn, List.filter_append, hin]
      rw [hsum]
      refine le_trans ?_ (le_max_right 0 limit)
      linarith
    · have hsum : ({ w with db := db, increases := w.increases ++ [⟨w.clock, u, amount⟩] } : GrantWorld).grantedIn start =
          w.grantedIn start := by
        simp [grantedIn, List.filter_append, hin]
      rw [hsum]
      exact h.bounded start
  · have hsum : ({ w with db := db, increases := w.increases ++ [⟨w.clock, u, amount⟩] } : GrantWorld).grantedSince (c - 86400) =
        w.grantedSince (c - 86400) + amount := by
      have hnew : c ≤ w.clock + 86400 := Nat.le_add_right_of_le hchecked
      simp [grantedSince, List.filter_append, hnew]
    rw [hsum]
    linarith

end GrantWorld

/-! ## Statements -/

/-- The link: who writes a balance hears of it, and a row that is sent to the ledger gets there. -/
def linkAnswers : Stmt → Outcome PyErr → Bool
  | .updateUser _ _, .lost _ => false
  | .insertTransaction _, .dropped _ => false
  | _, _ => true

@[reducible] def grantRuns : Setting PyErr Stmt Res Unit GrantWorld where
  exec := grantExec
  note := fun _ _ _ _ _ => ()
  allow := fun _ s o _ => linkAnswers s o

@[reducible] def grantContract (limit : ℚ) : Contract Stmt GrantWorld :=
  ⟨fun w => w.Within limit, fun w w' => ∃ d, w' = w.later d, fun _ _ _ => True⟩

/-- A row with nothing that the database could refuse. -/
structure Plain (t : Transaction) : Prop where
  payment : t.paymentId = none
  request : t.requestId = none
  notPurchase : t.transactionType ≠ .purchase

structure IsGrant (adminUser : AdminUser) (u : Int) (amount : ℚ) (t : Transaction) : Prop extends Plain t where
  user : t.userId = u
  amount : t.amount = amount
  credit : t.transactionType = .adminCredit
  creator : t.createdBy = some (createdByAdmin adminUser)

section Rules

variable {adminUser : AdminUser} {limit : ℚ} {w : GrantWorld} {E : PyErr → Unit → GrantWorld → Prop}

theorem wp_grantStmt {s : Stmt} {Q : Res s → Unit → GrantWorld → Prop}
    (h : ∀ d o, (w.later d).Within limit → linkAnswers s o = true →
      (answer grantExec s o (w.later d)).2.Within limit ∧
        Answered (fun a => Q a () (answer grantExec s o (w.later d)).2) (fun e => E e () (answer grantExec s o (w.later d)).2)
          (answer grantExec s o (w.later d)).1) :
    (query s).wp grantRuns (grantContract limit) Q E () w := by
  refine wp_stmt (C := grantRuns) fun w₁ hrely hinv o ho => ?_
  obtain ⟨d, rfl⟩ := hrely
  obtain ⟨hinv', hanswer⟩ := h d o hinv ho
  exact ⟨hinv', trivial, hanswer⟩

theorem wp_grantRead {s : Stmt} (hs : ∀ w, (grantExec s w).2 = w) {Q : Res s → Unit → GrantWorld → Prop}
    (hQ : ∀ d a, (w.later d).Within limit → (grantExec s (w.later d)).1 = .ok a → Q a () (w.later d)) (hE : ∀ d e, E e () (w.later d)) :
    (query s).wp grantRuns (grantContract limit) Q E () w := by
  refine wp_grantStmt fun d o hinv _ => ?_
  cases o with
  | served =>
    have hanswer := fun a => hQ d a hinv
    rw [answer_served, hs]
    refine ⟨hinv, ?_⟩
    revert hanswer
    cases (grantExec s (w.later d)).1 with
    | ok a => exact fun hanswer => hanswer a rfl
    | error e => exact fun _ => hE d e
  | dropped e => exact ⟨hinv, hE d e⟩
  | lost e =>
    rw [answer_lost, hs]
    exact ⟨hinv, hE d e⟩

variable {t : Transaction}

theorem grantExec_insert (ht : Plain t) (huser : (w.db.users t.userId).isSome) : grantExec (.insertTransaction t) w =
      (.ok (w.db.storedTransaction { t with createdAt := w.clock }),
        { w with db := w.db.appendTransaction { t with createdAt := w.clock } }) := by
  have hrefuses : w.db.refusesTransaction { t with createdAt := w.clock } = none := by
    have hnone : (w.db.users t.userId).isNone = false := by
      rw [Option.isNone_eq_false_iff]
      exact huser
    simp [World.refusesTransaction, ht.payment, ht.request, ht.notPurchase, hnone]
  show ((insertTransactionRow { t with createdAt := w.clock } w.db).1,
    { w with db := (insertTransactionRow { t with createdAt := w.clock } w.db).2 }) = _
  rw [insertTransactionRow, hrefuses]

def changePatch (user : User) (amount : ℚ) : UserPatch := { purchasedCredits := some (user.purchased + amount) }

variable {u : Int} {user : User}

theorem grantExec_update (huser : w.db.users u = some user) (amount : ℚ) :
    grantExec (.updateUser u (changePatch user amount)) w =
      (.ok (some ((changePatch user amount).apply user)),
        { w with
          db := w.db.setUser u ((changePatch user amount).apply user)
          increases := if 0 < amount then w.increases ++ [⟨w.clock, u, amount⟩] else w.increases }) := by
  have hbefore : w.db.balance u = user.allowance + user.purchased := by
    simp [World.balance, World.allowance, World.purchased, huser]
  have hafter : (w.db.setUser u ((changePatch user amount).apply user)).balance u =
      user.allowance + (user.purchased + amount) := by
    simp [World.balance, World.allowance, World.purchased, World.setUser, changePatch, UserPatch.apply, User.allowance,
      User.purchased]
  have hdiff : user.allowance + (user.purchased + amount) - (user.allowance + user.purchased) = amount := by ring
  have hraised : w.db.balance u < (w.db.setUser u ((changePatch user amount).apply user)).balance u ↔ 0 < amount := by
    rw [hbefore, hafter, ← add_assoc]
    exact lt_add_iff_pos_right _
  have hrow : updateUserRow u (changePatch user amount) w.db =
      (some ((changePatch user amount).apply user), w.db.setUser u ((changePatch user amount).apply user)) := by
    rw [updateUserRow, huser]
  show ((.ok (updateUserRow u (changePatch user amount) w.db).1 : Except PyErr (Option User)),
    w.write u (updateUserRow u (changePatch user amount) w.db).2) = _
  rw [hrow, GrantWorld.write]
  simp only [hraised]
  rw [hbefore, hafter, hdiff]

/-! ## Writing and logging -/

/-- The row of the last increase is still to be inserted. -/
structure Pending (adminUser : AdminUser) (g : Increase) (w : GrantWorld) : Prop where
  others : ∃ l rows, w.increases = l ++ [g] ∧ rows.Sublist w.db.creditTransactions ∧ List.Forall₂ (GrantRow adminUser) l rows
  time : g.time ≤ w.clock

/-- The users and the increases have stayed as they were. -/
structure Follows (w w' : GrantWorld) : Prop where
  users : w'.db.users = w.db.users
  increases : w'.increases = w.increases
  time : w.clock ≤ w'.clock

theorem Follows.refl (w : GrantWorld) : Follows w w := ⟨rfl, rfl, le_refl _⟩

theorem Follows.later {w' : GrantWorld} (h : Follows w w') (d : Nat) : Follows w (w'.later d) :=
  ⟨h.users, h.increases, Nat.le_add_right_of_le h.time⟩

theorem Follows.room {w' : GrantWorld} (h : Follows w w') (hw : w.Room limit c more) : w'.Room limit c more := by
  refine ⟨le_trans hw.checked h.time, ?_⟩
  rw [GrantWorld.grantedSince, h.increases]
  exact hw.room

theorem logged_append (h : w.Logged adminUser) :
    ({ w with db := w.db.appendTransaction t } : GrantWorld).Logged adminUser := by
  obtain ⟨rows, hsub, hrows⟩ := h
  exact ⟨rows, hsub.trans (List.sublist_append_left _ _), hrows⟩

theorem Pending.insert {g : Increase} (h : Pending adminUser g w) (ht : IsGrant adminUser g.userId g.amount t) :
    ({ w with db := w.db.appendTransaction { t with createdAt := w.clock } } : GrantWorld).Logged adminUser := by
  obtain ⟨⟨l, rows, hincreases, hsub, hrows⟩, htime⟩ := h
  refine ⟨rows ++ [w.db.storedTransaction { t with createdAt := w.clock }], hsub.append (List.Sublist.refl _), ?_⟩
  show List.Forall₂ (GrantRow adminUser) w.increases _
  rw [hincreases]
  exact List.rel_append hrows (.cons ⟨ht.user, ht.amount, ht.credit, ht.creator, htime⟩ .nil)

/-- `log_credit_transaction` logs: a row that the ledger takes, of the increase that waits for one if there is any. -/
theorem wp_logGrant (ht : Plain t) (huser : (w.db.users t.userId).isSome)
    (h : w.Logged adminUser ∨ ∃ g, Pending adminUser g w ∧ IsGrant adminUser g.userId g.amount t) :
    (logCreditTransaction t).wp grantRuns (grantContract limit)
      (fun _ _ w' => w'.Logged adminUser ∧ Follows w w') E () w := by
  have hlogged : t.logged = t := Transaction.logged_of_none ht.request
  refine wp_logCreditTransaction (I := fun _ w' =>
    (w'.Logged adminUser ∨ ∃ g, Pending adminUser g w' ∧ IsGrant adminUser g.userId g.amount t) ∧ Follows w w') ?_
    ⟨h, .refl w⟩
  rintro - w' ⟨hlog, hfollows⟩
  rw [hlogged]
  refine wp_grantStmt fun d o hinv ho => ?_
  have hfollows' := hfollows.later d
  have hthere : (((w'.later d).db.users t.userId)).isSome := by rwa [hfollows'.users]
  have hlog' : ({ w'.later d with db := (w'.later d).db.appendTransaction { t with createdAt := (w'.later d).clock } } :
      GrantWorld).Logged adminUser := by
    rcases hlog with hlog | ⟨g, hpending, hgrant⟩
    · exact logged_append (hlog.later d)
    · exact Pending.insert (w := w'.later d) ⟨hpending.others, Nat.le_add_right_of_le hpending.time⟩ hgrant
  have hafter : Follows w { w'.later d with
      db := (w'.later d).db.appendTransaction { t with createdAt := (w'.later d).clock } } :=
    ⟨hfollows'.users, hfollows'.increases, hfollows'.time⟩
  have hinv' : ({ w'.later d with db := (w'.later d).db.appendTransaction { t with createdAt := (w'.later d).clock } } :
      GrantWorld).Within limit := ⟨hinv.positive, hinv.bounded⟩
  cases o with
  | served =>
    rw [answer_served, grantExec_insert ht hthere]
    exact ⟨hinv', hlog', hafter⟩
  | dropped e => cases ho
  | lost e =>
    rw [answer_lost, grantExec_insert ht hthere]
    exact ⟨hinv', ⟨.inl hlog', hafter⟩, hlog', hafter⟩

/-- Where a write leaves the world: all is logged, there is room for what else the call will grant, and the other users are as
    they were. -/
structure Written (adminUser : AdminUser) (limit : ℚ) (c : Time) (more : ℚ) (u : Int) (w w' : GrantWorld) : Prop where
  logged : w'.Logged adminUser
  room : w'.Room limit c more
  others : ∀ v, v ≠ u → w'.db.users v = w.db.users v

variable {row : ℚ → ℚ → Transaction}

/-- A grant is written and logged, if there is room for it. -/
theorem wp_writeGrant (hlog : w.Logged adminUser) (hroom : w.Room limit c (amount + more))
    (hamount : 0 < amount) (hmore : 0 ≤ more) (huser : w.db.users u = some user)
    (hrow : ∀ before after, IsGrant adminUser u amount (row before after)) :
    (writePurchasedCredits u user amount row).wp grantRuns (grantContract limit)
      (fun _ _ w' => Written adminUser limit c more u w w') (fun _ _ w' => Written adminUser limit c more u w w') () w := by
  unfold writePurchasedCredits
  rw [wp_bind]
  refine wp_grantStmt fun d o hinv ho => ?_
  have hroom' := hroom.later d
  cases o with
  | dropped e =>
    have hless : (w.later d).Room limit c more := hroom'.mono (by linarith)
    exact ⟨hinv, hlog.later d, hless, fun _ _ => rfl⟩
  | lost e => cases ho
  | served =>
    have hupdate := grantExec_update (w := w.later d) huser amount
    rw [if_pos hamount] at hupdate
    rw [answer_served, ← changePatch, hupdate]
    obtain ⟨hinv', hmoreRoom⟩ := hinv.grant hroom' hamount hmore u
      ((w.later d).db.setUser u ((changePatch user amount).apply user))
    refine ⟨hinv', ?_⟩
    -- the row of the increase is still missing
    show (logCreditTransaction _ >>= _).wp grantRuns (grantContract limit) _ _ () _
    rw [wp_bind]
    obtain ⟨rows, hsub, hrows⟩ := hlog
    have hthere : ((w.later d).db.setUser u ((changePatch user amount).apply user)).users u =
        some ((changePatch user amount).apply user) := Function.update_self ..
    have hrow' := hrow (user.purchased + user.allowance) (user.purchased + amount + user.allowance)
    refine wp_post (fun _ _ w' h => ?_)
      (wp_logGrant hrow'.toPlain (by rw [hrow'.user, hthere]; rfl)
        (.inr ⟨⟨(w.later d).clock, u, amount⟩, ⟨⟨w.increases, rows, rfl, hsub, hrows⟩, le_refl _⟩, hrow'⟩))
    obtain ⟨hlog', hfollows⟩ := h
    refine ⟨hlog', hfollows.room hmoreRoom, fun v hv => ?_⟩
    rw [hfollows.users]
    exact Function.update_of_ne hv ..

/-- A debit is written and logged, and raises nothing. -/
theorem wp_writeDebit (hlog : w.Logged adminUser) (hamount : amount ≤ 0) (huser : w.db.users u = some user)
    (hrow : ∀ before after, Plain (row before after) ∧ (row before after).userId = u) :
    (writePurchasedCredits u user amount row).wp grantRuns (grantContract limit) (fun _ _ w' => w'.Logged adminUser)
      (fun _ _ w' => w'.Logged adminUser) () w := by
  unfold writePurchasedCredits
  rw [wp_bind]
  refine wp_grantStmt fun d o hinv ho => ?_
  cases o with
  | dropped e => exact ⟨hinv, hlog.later d⟩
  | lost e => cases ho
  | served =>
    have hupdate := grantExec_update (w := w.later d) huser amount
    rw [if_neg (not_lt_of_ge hamount)] at hupdate
    rw [answer_served, ← changePatch, hupdate]
    refine ⟨⟨hinv.positive, hinv.bounded⟩, ?_⟩
    show (logCreditTransaction _ >>= _).wp grantRuns (grantContract limit) _ _ () _
    rw [wp_bind]
    have hthere : ((w.later d).db.setUser u ((changePatch user amount).apply user)).users u =
        some ((changePatch user amount).apply user) := Function.update_self ..
    obtain ⟨hplain, hrowUser⟩ := hrow (user.purchased + user.allowance) (user.purchased + amount + user.allowance)
    exact wp_post (fun _ _ _ h => h.1)
      (wp_logGrant hplain (by rw [hrowUser, hthere]; rfl) (.inl hlog))

/-! ## The check -/

variable {now : Time}

/-- After the check there is room. -/
theorem wp_validateAdminCreditGrant {config : GrantConfig} (amount : ℚ) (count : Nat) (hlog : w.Logged adminUser) :
    (validateAdminCreditGrant config now amount adminUser count).wp grantRuns (grantContract config.dailyGrantLimit)
      (fun _ _ w' => (∃ d, w' = w.later d) ∧ ∃ c, w'.Room config.dailyGrantLimit c (amount * count))
      (fun _ _ w' => ∃ d, w' = w.later d) () w := by
  unfold validateAdminCreditGrant
  split
  · exact ⟨0, rfl⟩
  · -- the sum of the last 24 hours, or nothing
    rw [wp_bind]
    have htotal : (getAdminDailyGrantTotal now (toString adminUser.id)).wp grantRuns (grantContract config.dailyGrantLimit)
        (fun total _ w' => (∃ d, w' = w.later d) ∧ ∀ t, total = some t → w'.grantedSince (w'.clock - 86400) ≤ t)
        (fun _ _ w' => ∃ d, w' = w.later d) () w := by
      unfold getAdminDailyGrantTotal
      rw [wp_tryCatch, wp_bind]
      refine wp_grantRead (fun _ => rfl) (fun d amounts hinv hanswer => ?_) fun d e => ⟨⟨d, rfl⟩, nofun⟩
      obtain rfl : (w.later d).db.adminGrants (createdByAdmin adminUser) ((w.later d).clock - 86400) = amounts :=
        Except.ok.inj hanswer
      refine ⟨⟨d, rfl⟩, fun t ht => ?_⟩
      cases ht
      exact GrantWorld.grantedSince_le (hlog.later d) hinv.positive _
    refine wp_post (fun total _ w' h => ?_) htotal
    obtain ⟨hlater, hgranted⟩ := h
    split
    · exact hlater
    · rename_i hroom
      cases total with
      | none => exact absurd rfl hroom
      | some t =>
        have hle : t + amount * count ≤ config.dailyGrantLimit := by simpa using hroom
        refine ⟨hlater, w'.clock, le_refl _, ?_⟩
        have hcovered := hgranted t rfl
        linarith

/-! ## The endpoints -/

theorem wp_asHttp_keeps {α : Type} {C : Setting PyErr Stmt Res Unit GrantWorld} {K : Contract Stmt GrantWorld} {detail : String}
    {p : DbProg α} {Q : α → Unit → GrantWorld → Prop} {I : GrantWorld → Prop} (h : p.wp C K Q (fun _ _ => I) () w) :
    (asHttp detail p).wp C K Q (fun _ _ => I) () w := by
  unfold asHttp
  rw [wp_tryCatch]
  refine wp_mono (fun _ _ _ h => h) (fun e _ w' h => ?_) h
  split
  · exact h
  · exact h

variable {message : String} {refuse : ℚ → ℚ → Option PyErr}

theorem wp_change (hlog : w.Logged adminUser)
    (hwrite : ∀ d user, w.db.users u = some user → (writePurchasedCredits u user amount row).wp grantRuns (grantContract limit)
      (fun _ _ w' => w'.Logged adminUser) (fun _ _ w' => w'.Logged adminUser) () (w.later d)) :
    (changePurchasedCredits u amount message refuse row).wp grantRuns (grantContract limit)
      (fun _ _ w' => w'.Logged adminUser) (fun _ _ w' => w'.Logged adminUser) () w := by
  unfold changePurchasedCredits
  rw [wp_bind]
  refine wp_grantRead (fun _ => rfl) (fun d row? _ hanswer => ?_) fun d e => hlog.later d
  obtain rfl : w.db.users u = row? := Except.ok.inj hanswer
  cases huser : w.db.users u with
  | none => exact hlog.later d
  | some user =>
    dsimp only
    split
    · exact hlog.later d
    · refine wp_seq (hwrite d user huser) fun done _ w' h => ?_
      cases done with
      | none => exact h
      | some done => exact h

theorem wp_changeGrant (hlog : w.Logged adminUser) (hroom : w.Room limit c amount)
    (hamount : 0 < amount) (hrow : ∀ before after, IsGrant adminUser u amount (row before after)) :
    (changePurchasedCredits u amount message refuse row).wp grantRuns (grantContract limit)
      (fun _ _ w' => w'.Logged adminUser) (fun _ _ w' => w'.Logged adminUser) () w := by
  refine wp_change hlog fun d user huser => ?_
  have hroom' : (w.later d).Room limit c (amount + 0) := (hroom.later d).mono (by rw [add_zero])
  exact wp_mono (fun _ _ _ h => h.logged) (fun _ _ _ h => h.logged)
    (wp_writeGrant (hlog.later d) hroom' hamount (le_refl 0) huser hrow)

theorem wp_changeDebit (hlog : w.Logged adminUser) (hamount : amount ≤ 0)
    (hrow : ∀ before after, Plain (row before after) ∧ (row before after).userId = u) :
    (changePurchasedCredits u amount message refuse row).wp grantRuns (grantContract limit)
      (fun _ _ w' => w'.Logged adminUser) (fun _ _ w' => w'.Logged adminUser) () w :=
  wp_change hlog fun d _ huser => wp_writeDebit (hlog.later d) hamount huser hrow

theorem wp_addCreditsEndpoint_grant {config : GrantConfig} (request : CreditAddRequest) (hlog : w.Logged adminUser) :
    (addCreditsEndpoint config now request adminUser).wp grantRuns (grantContract config.dailyGrantLimit)
      (fun _ _ w' => w'.Logged adminUser) (fun _ _ w' => w'.Logged adminUser) () w := by
  refine wp_asHttp_keeps ?_
  rw [wp_bind]
  refine wp_mono (fun _ _ w' h => ?_) (fun _ _ w' h => ?_) (wp_validateAdminCreditGrant request.amount 1 hlog)
  · obtain ⟨⟨d, rfl⟩, c, hroom⟩ := h
    refine wp_changeGrant (hlog.later d) (hroom.mono (by simp)) request.amount_pos fun before after => ?_
    exact { payment := rfl, request := rfl, notPurchase := nofun, user := rfl, amount := rfl, credit := rfl, creator := rfl }
  · obtain ⟨d, rfl⟩ := h
    exact hlog.later d

theorem wp_adjustCreditsEndpoint_grant {config : GrantConfig} (request : CreditAdjustRequest)
    (hlog : w.Logged adminUser) :
    (adjustCreditsEndpoint config now request adminUser).wp grantRuns (grantContract config.dailyGrantLimit)
      (fun _ _ w' => w'.Logged adminUser) (fun _ _ w' => w'.Logged adminUser) () w := by
  refine wp_asHttp_keeps ?_
  by_cases hpos : 0 < request.amount
  · dsimp only
    rw [if_pos hpos, wp_bind]
    refine wp_mono (fun _ _ w' h => ?_) (fun _ _ w' h => ?_) (wp_validateAdminCreditGrant request.amount 1 hlog)
    · obtain ⟨⟨d, rfl⟩, c, hroom⟩ := h
      refine wp_changeGrant (hlog.later d) (hroom.mono (by simp)) hpos fun before after => ?_
      exact
        { payment := rfl, request := rfl, notPurchase := by rw [if_pos hpos]; nofun, user := rfl, amount := rfl
          credit := if_pos hpos, creator := rfl }
    · obtain ⟨d, rfl⟩ := h
      exact hlog.later d
  · dsimp only
    rw [if_neg hpos]
    refine wp_changeDebit hlog (le_of_not_gt hpos) fun before after => ⟨?_, rfl⟩
    exact { payment := rfl, request := rfl, notPurchase := by rw [if_neg hpos]; nofun }

/-- What `lookup` finds among the rows read was read for that user. -/
theorem lookup_rowsRead {users : Int → Option User} {ids : List Int}
    (h : (ids.filterMap fun v => (users v).map fun row => (v, row)).lookup u = some user) : users u = some user := by
  induction ids with
  | nil => cases h
  | cons v ids ih =>
    rw [List.filterMap_cons] at h
    cases hv : users v with
    | none =>
      rw [hv] at h
      exact ih h
    | some row =>
      rw [hv] at h
      by_cases heq : u = v
      · subst heq
        have hrow : row = user := by simpa using h
        rw [hv, hrow]
      · rw [Option.map_some, List.lookup_cons, beq_false_of_ne heq] at h
        exact ih h

variable (request : BulkCreditAddRequest)

/-- One user of a bulk request: one amount less of the room. -/
theorem wp_bulkAddOne_grant (usersById : List (Int × User)) (u : Int) (hlog : w.Logged adminUser)
    (hroom : w.Room limit c (request.amount + more)) (hmore : 0 ≤ more)
    (husers : ∀ user, usersById.lookup u = some user → w.db.users u = some user) :
    (bulkAddOne now request adminUser usersById u).wp grantRuns (grantContract limit)
      (fun _ _ w' => Written adminUser limit c more u w w') E () w := by
  unfold bulkAddOne
  rw [wp_tryCatch]
  cases huser : usersById.lookup u with
  | none =>
    have hless : w.Room limit c more := hroom.mono (by linarith [request.amount_pos])
    exact ⟨hlog, hless, fun _ _ => rfl⟩
  | some user =>
    dsimp only
    rw [wp_bind]
    refine wp_post (fun done _ w' h => ?_)
      (wp_writeGrant hlog hroom request.amount_pos hmore (husers user huser) fun before after => ?_)
    · cases done with
      | none => exact h
      | some done => exact h
    · exact { payment := rfl, request := rfl, notPurchase := nofun, user := rfl, amount := rfl, credit := rfl, creator := rfl }

theorem wp_bulkAddEach_grant (usersById : List (Int × User)) {ids : List Int} (hids : ids.Nodup)
    (hlog : w.Logged adminUser) (hroom : w.Room limit c (request.amount * ids.length))
    (husers : ∀ u ∈ ids, ∀ user, usersById.lookup u = some user → w.db.users u = some user) :
    (bulkAddEach now request adminUser usersById ids).wp grantRuns (grantContract limit)
      (fun _ _ w' => w'.Logged adminUser) (fun _ _ w' => w'.Logged adminUser) () w := by
  induction ids generalizing w with
  | nil => exact hlog
  | cons u ids ih =>
    obtain ⟨hnew, hrest⟩ := List.nodup_cons.mp hids
    have hmore : 0 ≤ request.amount * (ids.length : ℚ) := mul_nonneg (le_of_lt request.amount_pos) (Nat.cast_nonneg _)
    have hroom' : w.Room limit c (request.amount + request.amount * (ids.length : ℚ)) := by
      refine hroom.mono (le_of_eq ?_)
      rw [List.length_cons, Nat.cast_succ]
      ring
    rw [bulkAddEach, wp_bind]
    refine wp_post (fun result _ w' h => ?_)
      (wp_bulkAddOne_grant request usersById u hlog hroom' hmore (husers u List.mem_cons_self))
    rw [wp_bind]
    refine wp_mono (fun _ _ _ h => h) (fun _ _ _ h => h) (ih hrest h.logged h.room fun v hv user hlookup => ?_)
    have hvu : v ≠ u := by
      rintro rfl
      exact hnew hv
    rw [h.others v hvu]
    exact husers v (List.mem_cons_of_mem u hv) user hlookup

theorem wp_bulkAddCreditsEndpoint_grant {config : GrantConfig} (hlog : w.Logged adminUser) :
    (bulkAddCreditsEndpoint config now request adminUser).wp grantRuns (grantContract config.dailyGrantLimit)
      (fun _ _ w' => w'.Logged adminUser) (fun _ _ w' => w'.Logged adminUser) () w := by
  refine wp_asHttp_keeps ?_
  dsimp only
  rw [wp_bind]
  refine wp_mono (fun _ _ w' h => ?_) (fun _ _ w' h => ?_)
    (wp_validateAdminCreditGrant request.amount request.userIds.reverse.dedup.reverse.length hlog)
  · obtain ⟨⟨d, rfl⟩, c, hroom⟩ := h
    rw [wp_bind]
    refine wp_grantRead (fun _ => rfl) (fun d' rows _ hanswer => ?_) fun d' e => (hlog.later d).later d'
    obtain rfl : (request.userIds.reverse.dedup.reverse.filterMap fun u => (w.db.users u).map fun row => (u, row)) = rows :=
      Except.ok.inj hanswer
    rw [wp_bind]
    have hnodup : request.userIds.reverse.dedup.reverse.Nodup := List.nodup_reverse.mpr (List.nodup_dedup _)
    exact wp_bulkAddEach_grant request _ hnodup ((hlog.later d).later d') (hroom.later d')
        fun u _ user hlookup => lookup_rowsRead hlookup
  · obtain ⟨d, rfl⟩ := h
    exact hlog.later d

end Rules

/-! ## The calls of an admin -/

section Machine

variable {ι : Type} [DecidableEq ι] {config : GrantConfig} {adminUser : AdminUser} {calls : ι → GrantCall}

/-- Every call but a refund keeps the limit, and logs what it grants. -/
theorem wp_grantCall {w : GrantWorld} {call : GrantCall} (hcall : call.isRefund = false) (hlog : w.Logged adminUser) :
    (call.prog config adminUser).wp grantRuns (grantContract config.dailyGrantLimit) (fun _ _ w' => w'.Logged adminUser)
      (fun _ _ w' => w'.Logged adminUser) () w := by
  cases call with
  | add request =>
    unfold GrantCall.prog
    rw [wp_bind]
    exact wp_addCreditsEndpoint_grant request hlog
  | adjust request =>
    unfold GrantCall.prog
    rw [wp_bind]
    exact wp_adjustCreditsEndpoint_grant request hlog
  | bulkAdd request =>
    unfold GrantCall.prog
    rw [wp_bind]
    exact wp_bulkAddCreditsEndpoint_grant request hlog
  | refund request => cases hcall

omit [DecidableEq ι] in
theorem eachSound_grants (hcalls : ∀ i, (calls i).isRefund = false) :
    EachSound grantRuns (grantContract config.dailyGrantLimit) (GrantWorld.Logged adminUser)
      (fun (d : Nat) w => w.later d) (fun i => (calls i).prog config adminUser) where
  refl w := ⟨0, rfl⟩
  trans := by
    rintro w - - ⟨d, rfl⟩ ⟨d', rfl⟩
    exact ⟨d + d', w.later_later d d'⟩
  stable := by
    rintro w - ⟨d, rfl⟩ hlog
    exact hlog.later d
  passes d w hinv := ⟨⟨d, rfl⟩, hinv.later d⟩
  sound i w hlog := wp_grantCall (hcalls i) hlog

@[reducible] def GrantsInTurn (s : CallsState ι PyErr Stmt Res GrantAnswer GrantWorld) (e : CallEvent ι PyErr Nat) : Prop :=
  InTurn (fun q o => linkAnswers q o = true) s e

end Machine

section Example

def threeUsers : World where
  users := fun u => if 1 ≤ u ∧ u ≤ 3 then some {} else none
  userIds := [1, 2, 3]

def campaign : GrantCall :=
  .bulkAdd
    { userIds := [1, 2, 3], amount := 1000, reason := "campaign credits", amount_pos := by decide, reason_length := by decide,
      users_nonempty := by decide, users_bounded := by decide }

def largeRefund : GrantCall := .refund { userId := 1, amount := 6000, amount_pos := by decide }

def twoGrantCalls (call : GrantCall) :
    Machine (CallsState (Fin 2) PyErr Stmt Res GrantAnswer GrantWorld) (CallEvent (Fin 2) PyErr Nat) Unit :=
  grantMachine {} { id := 7 } (fun _ => call) { db := threeUsers, clock := 100000 }

def turns (i : Fin 2) (count : Nat) : List (CallEvent (Fin 2) PyErr Nat) := List.replicate count (.turn i .served)

def granted (call : GrantCall) (events : List (CallEvent (Fin 2) PyErr Nat)) :
    CallsState (Fin 2) PyErr Stmt Res GrantAnswer GrantWorld :=
  (((twoGrantCalls call).run (twoGrantCalls call).init events).map Prod.fst).getD (twoGrantCalls call).init

theorem reach_granted {call : GrantCall} {events : List (CallEvent (Fin 2) PyErr Nat)}
    {ok : CallsState (Fin 2) PyErr Stmt Res GrantAnswer GrantWorld → CallEvent (Fin 2) PyErr Nat → Prop}
    (hok : (twoGrantCalls call).Within ok (twoGrantCalls call).init events)
    (hrun : ((twoGrantCalls call).run (twoGrantCalls call).init events).isSome) : (twoGrantCalls call).Reach ok (granted call events) := by
  obtain ⟨⟨s, os⟩, h⟩ := Option.isSome_iff_exists.mp hrun
  refine Machine.reach_of_run .init events os hok ?_
  rw [granted, h]
  rfl

def hourApart : List (CallEvent (Fin 2) PyErr Nat) := turns 0 8 ++ [.pass 3600] ++ turns 1 1

def atOnce : List (CallEvent (Fin 2) PyErr Nat) := turns 0 1 ++ turns 1 8 ++ turns 0 7

def rowDropped : List (CallEvent (Fin 2) PyErr Nat) :=
  turns 0 3 ++ [.turn 0 (.dropped ⟨.apiError "57014", "canceling statement due to statement timeout"⟩)] ++ turns 0 4

end Example

end Gatewayz
