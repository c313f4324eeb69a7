import Gatewayz.Billing.Rules
import Gatewayz.Exec.Pool
import Mathlib.Data.Fintype.BigOperators

/-!
# `Correctness.FailedDeduction` — a deduction that raises leaves no trace

One `deduct_credits` runs on its legacy path among other programs, which may do anything. The path writes both
balance columns under a guard, then inserts the ledger row; if the insert fails it writes the old columns back.
That last write carries no guard: it also takes back what others committed in between, and it leaves a ledger
row behind if an insert was committed whose answer was lost.

`failed_deduction_leaves_no_trace` is the law under the exact condition at that write: **the rollback finds both
columns as the call's own update left them, and no row of the call in the ledger**.
-/

namespace Gatewayz

open Exec

/-! ## The runs -/

structure Trace where
  /-- Is this the deduction the law is about? -/
  watched : Bool
  /-- What its statements did to the user's allowance and purchased credits. -/
  moved : ℚ × ℚ := 0
  rows : Nat := 0
  /-- The two columns as its guarded update left them. -/
  wrote : Option (ℚ × ℚ) := none

def wroteBy (u : Int) (old : Option (ℚ × ℚ)) : (s : Stmt) → Except PyErr (Res s) → Option (ℚ × ℚ)
  | .updateUserIf v _ _ _, .ok (some row) => if v = u then some (row.allowance, row.purchased) else old
  | _, _ => old

def Trace.note (u : Int) (g : Trace) (s : Stmt) (r : Except PyErr (Res s)) (w w' : World) : Trace where
  watched := g.watched
  moved := g.moved + (w'.columns u - w.columns u)
  rows := g.rows + (written w w').length
  wrote := wroteBy u g.wrote s r

/-- The deduction is on its legacy path, where it raises for lack of balance, for a conflict, or after a failed
    insert and a rollback: the procedure is not carried out unheard, nor the guarded update, and the rollback
    reaches the database. Anything may happen to its reads and inserts, and to the other programs. -/
def onLegacyPath (g : Trace) (s : Stmt) (o : Outcome PyErr) : Prop :=
  g.watched = true →
    match s, o with
    | .rpcAtomicDeductCredits _, .lost _ => False
    | .updateUserIf _ _ _ _, .lost _ => False
    | .updateUser _ _, .dropped _ => False
    | _, _ => True

/-- The rollback finds what the call's own update left, and no ledger row of the call. -/
def rollbackFindsOwn (u : Int) (g : Trace) (s : Stmt) (w : World) : Prop :=
  g.watched = true →
    match s with
    | .updateUser v _ =>
      g.rows = 0 ∧ (v = u → g.wrote = (w.users u).map fun row => (row.allowance, row.purchased))
    | _ => True

instance (g : Trace) (s : Stmt) (o : Outcome PyErr) : Decidable (onLegacyPath g s o) := by
  apply @Stmt.casesOn (fun s => Decidable (onLegacyPath g s o)) s <;> intros <;>
    apply @Outcome.casesOn PyErr (fun o => Decidable (onLegacyPath g _ o)) o <;> intros <;> unfold onLegacyPath <;>
    infer_instance

instance (u : Int) (g : Trace) (s : Stmt) (w : World) : Decidable (rollbackFindsOwn u g s w) := by
  apply @Stmt.casesOn (fun s => Decidable (rollbackFindsOwn u g s w)) s <;> intros <;> unfold rollbackFindsOwn <;>
    infer_instance

/-- The runs the law is about … -/
abbrev legacyRuns (u : Int) : Setting PyErr Stmt Res Trace World :=
  setting (Trace.note u) fun g s o _ => onLegacyPath g s o
/-- … and those of them in which the rollback undoes nothing but the call's own update. -/
abbrev selectiveRuns (u : Int) : Setting PyErr Stmt Res Trace World :=
  setting (Trace.note u) fun g s o w => onLegacyPath g s o ∧ rollbackFindsOwn u g s w

/-! ## The deduction among others -/

def anarchy : Contract Stmt World := ⟨fun _ => True, fun _ _ => True, fun _ _ _ => True⟩

def Traceless (g : Trace) (_ : World) : Prop := g.watched = true ∧ g.moved = 0 ∧ g.rows = 0

section Calls

variable {u : Int}

theorem Trace.note_same (g : Trace) {s : Stmt} (r : Except PyErr (Res s)) (w : World) :
    g.note u s r w w = { g with wrote := wroteBy u g.wrote s r } := by
  simp [Trace.note]

theorem steady_traceless :
    Steady (Trace.note u) (fun g s o w => onLegacyPath g s o ∧ rollbackFindsOwn u g s w) anarchy Traceless where
  rely := fun _ _ _ _ h => h
  read := fun s _ g o w _ _ h => ⟨trivial, by rw [g.note_same]; exact h⟩

variable {g : Trace} {w : World}

theorem wp_anarchy {s : Stmt} {Q : Res s → Trace → World → Prop} {E : PyErr → Trace → World → Prop}
    (h : ∀ w₁ o, onLegacyPath g s o → rollbackFindsOwn u g s w₁ →
      Answered (fun a => Q a (g.note u s (.ok a) w₁ (answer exec s o w₁).2) (answer exec s o w₁).2)
        (fun e => E e (g.note u s (.error e) w₁ (answer exec s o w₁).2) (answer exec s o w₁).2)
        (answer exec s o w₁).1) :
    (query s).wp (selectiveRuns u) anarchy Q E g w :=
  wp_stmt (C := selectiveRuns u) fun w₁ _ _ o ⟨hpath, hfinds⟩ => ⟨trivial, trivial, h w₁ o hpath hfinds⟩

variable {d : Deduction}

theorem wp_rollback (hwatch : g.watched = true)
    (hwrote : d.userId = u → g.wrote = some (d.allowanceAfter, d.purchasedAfter))
    (hmoved : g.moved = if d.userId = u then (-d.fromAllowance, -d.fromPurchased) else 0) :
    d.rollback.wp (selectiveRuns u) anarchy (fun _ _ _ => True) (fun _ => Traceless) g w := by
  unfold Deduction.rollback
  simp only [wp_bind, wp_attempt]
  refine wp_anarchy fun w₁ o hpath hfinds => ?_
  obtain ⟨hrows, hcolumns⟩ := hfinds hwatch
  -- the write is carried out, whether or not its answer arrives
  have hdone : Traceless (g.note u (.updateUser d.userId d.rollbackPatch) (.ok none) w₁
      (updateUserRow d.userId d.rollbackPatch w₁).2) w₁ := by
    rcases updateUserRow_cases d.userId d.rollbackPatch w₁ with ⟨hu, he⟩ | ⟨row, hu, he⟩
    · rw [he]
      by_cases hd : d.userId = u
      · have hc := hcolumns hd
        rw [hwrote hd, ← hd, hu] at hc
        cases hc
      · refine ⟨hwatch, ?_, ?_⟩
        · simp [Trace.note, hmoved, hd]
        · simp [Trace.note, hrows]
    · rw [he]
      refine ⟨hwatch, ?_, ?_⟩
      · simp only [Trace.note, hmoved, World.columns, World.allowance_setUser, World.purchased_setUser]
        by_cases hd : d.userId = u
        · subst hd
          have hc := hcolumns rfl
          rw [hwrote rfl, hu] at hc
          obtain ⟨ha, hp⟩ := Prod.mk.inj (Option.some.inj hc)
          simp only [if_true, World.allowance_of_users hu, World.purchased_of_users hu, ← ha, ← hp]
          simp [Deduction.rollbackPatch, Deduction.allowanceAfter, Deduction.purchasedAfter]
        · simp [hd, Ne.symm hd]
      · simp [Trace.note, hrows, written]
  cases o with
  | served => exact hdone
  | dropped e => exact (hpath hwatch).elim
  | lost e => exact hdone

theorem wp_logRow {t : Transaction} {P : Trace → Prop}
    {Q : Option Transaction → Trace → World → Prop} {E : PyErr → Trace → World → Prop}
    (hP : ∀ g s r w w', (∃ t, s = .insertTransaction t) → P g → w'.columns u = w.columns u → P (g.note u s r w w'))
    (hQ : ∀ r g w, P g → Q r g w) (h : P g) : (logCreditTransaction t).wp (selectiveRuns u) anarchy Q E g w := by
  refine wp_logCreditTransaction (I := fun g' _ => P g') ?_ h
  intro g' w' h'
  refine wp_anarchy fun w₁ o _ _ => ?_
  have hcolumns : (exec (.insertTransaction t.logged) w₁).2.columns u = w₁.columns u := by
    simp only [exec]
    rcases insertTransactionRow_cases t.logged w₁ with ⟨e, he⟩ | ⟨-, he⟩
    · rw [he]
    · rw [he]; rfl
  have hnext : ∀ r w'', w''.columns u = w₁.columns u →
      P (g'.note u (.insertTransaction t.logged) r w₁ w'') := fun r w'' hc => hP g' _ r w₁ w'' ⟨_, rfl⟩ h' hc
  cases o with
  | served =>
    simp only [answer_served]
    cases he : (exec (.insertTransaction t.logged) w₁).1 with
    | ok row => exact hQ _ _ _ (hnext _ _ hcolumns)
    | error e => exact ⟨hnext _ _ hcolumns, hQ _ _ _ (hnext _ _ hcolumns)⟩
  | dropped e => exact ⟨hnext _ _ rfl, hQ _ _ _ (hnext _ _ rfl)⟩
  | lost e => exact ⟨hnext _ _ hcolumns, hQ _ _ _ (hnext _ _ hcolumns)⟩

/-- What is written down once the guarded update went through. -/
structure Charged (u : Int) (d : Deduction) (g : Trace) : Prop where
  watched : g.watched = true
  wrote : d.userId = u → g.wrote = some (d.allowanceAfter, d.purchasedAfter)
  moved : g.moved = if d.userId = u then (-d.fromAllowance, -d.fromPurchased) else 0

theorem wp_legacyPath_traceless (h : Traceless g w) :
    d.legacyPath.wp (selectiveRuns u) anarchy (fun _ _ _ => True) (fun _ => Traceless) g w := by
  obtain ⟨hwatch, hmoved, hrows⟩ := h
  unfold Deduction.legacyPath
  split
  · exact ⟨hwatch, hmoved, hrows⟩
  rw [wp_bind]
  refine wp_anarchy fun w₁ o hpath _ => ?_
  have hpath := hpath hwatch
  cases o with
  | dropped e => exact ⟨hwatch, by simp [Trace.note, hmoved], by simp [Trace.note, hrows]⟩
  | lost e => exact hpath.elim
  | served =>
    simp only [answer_served]
    rcases exec_updateUserIf_cases d.userId d.allowanceBefore d.purchasedBefore d.chargePatch w₁ with
      he | ⟨row, hu, ha, hp, he⟩
    · rw [he]
      simp only [answered_ok, wp_bind]
      refine wp_read steady_traceless (s := .selectUser d.userId) trivial ⟨hwatch, by simp [Trace.note, hmoved], ?_⟩ ?_ ?_
      · simp [Trace.note, hrows]
      · exact fun _ _ _ h _ => h
      · exact fun _ _ _ h => h
    · rw [he]
      simp only [answered_ok, wp_bind]
      refine wp_logRow (P := Charged u d) ?_ ?_ ⟨hwatch, ?_, ?_⟩
      · rintro g' s r w' w'' ⟨t, rfl⟩ ⟨hw, hwr, hmv⟩ hc
        exact ⟨hw, hwr, by simp [Trace.note, hmv, hc]⟩
      · rintro (_ | t) g' w' ⟨hw, hwr, hmv⟩
        · exact wp_rollback hw hwr hmv
        · trivial
      · intro hd
        simp [Trace.note, wroteBy, hd, Deduction.chargePatch]
      · simp only [Trace.note, hmoved, World.columns, World.allowance_setUser, World.purchased_setUser]
        by_cases hd : d.userId = u
        · subst hd
          simp [World.allowance_of_users hu, World.purchased_of_users hu, User.allowance, User.purchased, ha, hp,
            Deduction.chargePatch, Deduction.allowanceAfter, Deduction.purchasedAfter]
        · simp [hd, Ne.symm hd]

theorem wp_pay_traceless (h : Traceless g w) :
    d.pay.wp (selectiveRuns u) anarchy (fun _ _ _ => True) (fun _ => Traceless) g w := by
  unfold Deduction.pay
  rw [wp_bind]
  refine wp_atomicPath (wp_anarchy fun w₁ o hpath _ => ?_)
  have hpath := hpath h.1
  have hsame : ∀ r, Traceless (g.note u (.rpcAtomicDeductCredits d.rpcParams) r w₁ w₁) w₁ := fun r => by
    rw [g.note_same]; exact h
  cases o with
  | dropped e =>
    simp only [answer_dropped, answered_error, Bool.false_eq_true, if_false]
    exact ⟨wp_legacyPath_traceless (hsame _), hsame _⟩
  | lost e => exact hpath.elim
  | served =>
    simp only [answer_served, exec, answered_ok, if_true, Bool.false_eq_true, if_false]
    rcases atomicDeductCredits_cases d.rpcParams w₁ with ⟨hw, hfail⟩ | ⟨row, -, -, -, -, -, -, heq⟩
    · rw [hw]
      exact ⟨fun _ => trivial, fun _ => ⟨wp_legacyPath_traceless (hsame _), fun _ => hsame _⟩⟩
    · rw [heq]
      exact ⟨fun _ => trivial, fun h => by cases h⟩

theorem wp_deductCall (c : DeductCall) (h : Traceless g w) :
    c.prog.wp (selectiveRuns u) anarchy (fun _ _ _ => True) (fun _ => Traceless) g w :=
  wp_deductCredits steady_traceless h (fun _ _ _ _ => trivial) (fun _ _ _ h' => h')
    fun _ _ _ _ _ _ _ _ h' => wp_pay_traceless h'

end Calls

/-! ## Whole runs -/

section Runs

variable {ι : Type}

def deductionPool (c : DeductCall) (others : ι → DbProg Unit) :
    Pool (Option ι) PyErr Stmt Res Trace Unit
  | none => ⟨{ watched := true }, c.prog⟩
  | some i => ⟨{ watched := false }, others i⟩

/-- No trace: if the call has raised, the user's columns are the initial ones plus what the others did, and
    the call has no ledger row. -/
structure LeavesNoTrace [Fintype ι] (u : Int) (w : World) (T : Pool (Option ι) PyErr Stmt Res Trace Unit)
    (w' : World) : Prop where
  columns : (T none).prog.Raised → w'.columns u = w.columns u + ∑ i, (T (some i)).note.moved
  rows : (T none).prog.Raised → (T none).note.rows = 0

variable [DecidableEq ι]

omit [DecidableEq ι] in
theorem compatible_anarchy :
    Pool.Compatible (fun _ : Option ι => anarchy) (fun _ => True) (fun _ (_ : Unit) (_ : Trace) _ => True)
      (fun i (_ : PyErr) g w => i = none → Traceless g w) where
  inv := fun _ => rfl
  refl := fun _ _ => trivial
  trans := fun _ _ _ _ _ _ => trivial
  result := fun _ _ _ _ _ _ _ => trivial
  raise := fun _ _ _ _ _ _ h hi => h hi
  fits := fun _ _ _ _ _ _ _ _ _ => trivial

/-- **A failed deduction leaves no trace if its rollback finds what its own update left.** -/
theorem failed_deduction_leaves_no_trace [Fintype ι] (u : Int) (c : DeductCall) (others : ι → DbProg Unit)
    (w : World) (ts : Schedule (Option ι) PyErr)
    (ha : Pool.Admits (selectiveRuns u) ts (deductionPool c others) w) :
    LeavesNoTrace u w (Pool.run (selectiveRuns u) ts (deductionPool c others) w).1
      (Pool.run (selectiveRuns u) ts (deductionPool c others) w).2 := by
  have hsafe : Pool.Safe (selectiveRuns u) (fun _ => anarchy) (fun _ _ _ _ => True)
      (fun i _ g w => i = none → Traceless g w) (deductionPool c others) w := by
    intro i
    cases i with
    | none =>
      exact wp_mono (fun _ _ _ h => h) (fun _ _ _ h _ => h) (wp_deductCall c ⟨rfl, rfl, rfl⟩)
    | some i => exact wp_mono (fun _ _ _ h => h) (fun _ _ _ _ => nofun) (wp_anything (fun _ => trivial) (fun _ _ _ => trivial) (others i) _ w)
  obtain ⟨-, hend, -⟩ := Pool.pool_run compatible_anarchy ts hsafe trivial ha
  have hraised : ((Pool.run (selectiveRuns u) ts (deductionPool c others) w).1 none).prog.Raised →
      Traceless ((Pool.run (selectiveRuns u) ts (deductionPool c others) w).1 none).note
        (Pool.run (selectiveRuns u) ts (deductionPool c others) w).2 :=
    fun ⟨_, he⟩ => hend.raised he rfl
  have hsum := Pool.measure_run (C := selectiveRuns u) (World.columns · u) Trace.moved
    (fun _ _ _ _ => rfl) ts (deductionPool c others) w
  have hstart : ∑ i, (deductionPool c others i).note.moved = 0 :=
    Finset.sum_eq_zero fun i _ => by cases i <;> rfl
  rw [hstart, sub_zero, Fintype.sum_option] at hsum
  refine ⟨fun hr => ?_, fun hr => (hraised hr).2.2⟩
  rw [(hraised hr).2.1, zero_add, sub_eq_iff_eq_add] at hsum
  exact hsum

end Runs

/-- User 1 is charged half a dollar … -/
def halfDollar : DeductCall := ⟨0, "k", 1 / 2, none, none⟩
/-- … while ten are granted to him. -/
def grantTen (_ : Unit) : DbProg Unit :=
  addCreditsToUser { userId := 1, credits := 10, transactionType := .purchase }

def noSuchFunction : PyErr := ⟨.apiError "PGRST202", "Could not find the function"⟩
def insertRefused : PyErr := ⟨.apiError "57014", "timeout"⟩

def chargeSoFar : Schedule (Option Unit) PyErr :=
  [(none, .served), (none, .served), (none, .served), (none, .served), (none, .dropped noSuchFunction),
    (none, .served)]
def chargeTakenBack : Schedule (Option Unit) PyErr := [(none, .dropped insertRefused), (none, .served)]

theorem failed_deduction_leaves_no_trace_before_grant :
    LeavesNoTrace 1 (oneUser 0 5)
      (Pool.run (selectiveRuns 1) (chargeSoFar ++ chargeTakenBack ++ [(some (), .served)])
        (deductionPool halfDollar grantTen) (oneUser 0 5)).1
      (Pool.run (selectiveRuns 1) (chargeSoFar ++ chargeTakenBack ++ [(some (), .served)])
        (deductionPool halfDollar grantTen) (oneUser 0 5)).2 :=
  failed_deduction_leaves_no_trace 1 halfDollar grantTen (oneUser 0 5) _ (by decide +kernel)

/-- A grant between the update and the rollback is taken back with it. -/
theorem rollback_takes_grant_back :
    Pool.Admits (legacyRuns 1) (chargeSoFar ++ (some (), .served) :: chargeTakenBack)
        (deductionPool halfDollar grantTen) (oneUser 0 5) ∧
      ¬ LeavesNoTrace 1 (oneUser 0 5)
        (Pool.run (legacyRuns 1) (chargeSoFar ++ (some (), .served) :: chargeTakenBack)
          (deductionPool halfDollar grantTen) (oneUser 0 5)).1
        (Pool.run (legacyRuns 1) (chargeSoFar ++ (some (), .served) :: chargeTakenBack)
          (deductionPool halfDollar grantTen) (oneUser 0 5)).2 :=
  ⟨by decide +kernel, fun h => absurd (h.columns (by decide +kernel)) (by decide +kernel)⟩

end Gatewayz
