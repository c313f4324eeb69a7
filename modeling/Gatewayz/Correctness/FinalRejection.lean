import Gatewayz.Billing.Effects
import Gatewayz.Billing.Users
import Gatewayz.Exec.Retry

/-!
# `Correctness.FinalRejection` — a charge that is refused is tried again

`handle_credits_and_usage` tells a `ValueError`, which is final, from all else, which it tries again. But whatever is raised inside of the
`try` of `deduct_credits` leaves it as a `RuntimeError` (`kind_wrapDeductError`), the refusals too, and the loop sees a `ValueError` for
negative amounts only (`kind_of_raised`). So a refusal is followed by another attempt, and the last one is raised as a `RuntimeError`.
-/

namespace Gatewayz

open Exec

/-! ## Refusals -/

/-- What `deduct_credits` does inside of its `try`. -/
def deductInsideTry (now : Time) (apiKey : String) (tokens : ℚ) (metadata : Option Dict) (requestId : Option String) : DbProg Unit := do
  let existing ← alreadyCharged requestId
  if existing then pure ()
  else do
    let userLookup ← lookupUserByApiKey apiKey
    match userLookup with
    | none => throw (.valueError "User with API key not found")
    | some (userId, row) =>
      Deduction.settle
        { now := now, userId := userId, tokens := tokens, allowanceBefore := row.allowance,
          purchasedBefore := row.purchased, metadata := metadata.getD [] }

/-- A business rejection: the exceptions for an unknown key, for the daily limit and for lack of credits. -/
inductive Rejection : PyErr → Prop where
  | unknownKey : Rejection (.valueError "User with API key not found")
  | dailyLimit (used limit : ℚ) (resetTime : Time) :
      Rejection (.valueError ("Daily usage limit exceeded. Used: $" ++ formatFixed 4 used ++ ", Limit: $" ++ formatFixed 2 limit ++
        ". Resets at: " ++ isoformat resetTime))
  | insufficient (d : Deduction) (reason : String) (rpcBalance : Option ℚ) : Rejection (.valueError (d.insufficientText reason rpcBalance))
  | insufficientLegacy : Rejection (.valueError "Insufficient credits. Please add credits to continue.")

theorem deductCredits_of_le {now : Time} {apiKey : String} {tokens : ℚ} {metadata : Option Dict} {requestId : Option String}
    (h : 1 / 1000000 ≤ tokens) : deductCredits now apiKey tokens metadata requestId =
      tryCatch (deductInsideTry now apiKey tokens metadata requestId) fun e => throw (wrapDeductError e) := by
  have hnonneg : ¬tokens < 0 := not_lt.mpr ((by norm_num : (0 : ℚ) ≤ 1 / 1000000).trans h)
  rw [deductCredits, if_neg hnonneg, if_neg (not_lt.mpr h)]
  rfl

theorem kind_wrapDeductError (e : PyErr) : (wrapDeductError e).kind = .runtimeError := by
  unfold wrapDeductError
  split
  · next h => exact h
  · rfl

/-! ## The loop -/

abbrev SharedWorld := World × List (World → World)

namespace Charge

variable (c : Charge)

/-- `except ValueError`: raised at once. -/
def IsFinal (e : PyErr) : Prop := e.kind = .valueError

instance : DecidablePred IsFinal := fun _ => inferInstanceAs (Decidable (_ = _))

def retriesExhausted (e : PyErr) : PyErr :=
  .runtimeError ("Credit deduction failed after " ++ toString creditDeductionMaxRetries ++ " attempts: " ++ e.text)

theorem attempts_eq_retry (attempt left : ℕ) : c.attempts attempt left = Prog.retry c.deduct IsFinal retriesExhausted attempt left := by
  induction left generalizing attempt with
  | zero => rfl
  | succ left ih =>
    rw [Charge.attempts, Prog.retry]
    simp only [ih]
    rfl

/-- The deduction attempts of a run of `handle_credits_and_usage`. -/
def tries (os : List (Outcome PyErr)) (st : SharedWorld) : Prog.Attempts PyErr Unit SharedWorld :=
  Prog.attempts (among exec) c.deduct IsFinal 1 (creditDeductionMaxRetries - 1) os st

/-- What `handle_credits_and_usage` ends with. -/
def handled (os : List (Outcome PyErr)) (st : SharedWorld) : Except PyErr Unit := ((chargeWithRetries c).run (among exec) os st).1

/-- `deduct_credits` rejects the charge, at its first attempt. -/
def Rejected (os : List (Outcome PyErr)) (st : SharedWorld) : Prop :=
  1 / 1000000 ≤ c.cost ∧ ∃ e, Rejection e ∧
    ((deductInsideTry c.now c.apiKey c.cost (some (c.metadata.update [("attempt_number", .int 1), ("request_id", .str c.requestId)]))
      (some c.requestId)).run (among exec) os st).1 = .error e

variable {c} {os : List (Outcome PyErr)} {st : SharedWorld}

theorem handled_eq : c.handled os st = (c.tries os st).result IsFinal retriesExhausted := by
  rw [handled, chargeWithRetries, attempts_eq_retry, Prog.run_retry]
  rfl

variable {e : PyErr}

/-- The classes that reach the loop: a `ValueError` for a negative amount, a `RuntimeError` for all else. -/
theorem kind_of_raised {n : ℕ} (hraised : ((c.deduct n).run (among exec) os st).1 = .error e) :
    e.kind = if c.cost < 0 then .valueError else .runtimeError := by
  rw [deduct] at hraised
  split
  · next hnegative =>
    rw [deductCredits, if_pos hnegative] at hraised
    cases hraised
    rfl
  · next hnonneg =>
    by_cases hsmall : c.cost < 1 / 1000000
    · rw [deductCredits, if_neg hnonneg, if_pos hsmall] at hraised
      cases hraised
    · rw [deductCredits_of_le (not_lt.mp hsmall), Prog.run_tryCatch] at hraised
      split at hraised
      · cases hraised
      · cases hraised
        exact kind_wrapDeductError _

theorem isFinal_iff {n : ℕ} (hraised : ((c.deduct n).run (among exec) os st).1 = .error e) :
    IsFinal e ↔ c.cost < 0 := by
  rw [IsFinal, kind_of_raised hraised]
  split
  · next h => exact iff_of_true rfl h
  · next h => exact iff_of_false (by decide) h

theorem isFinal_last (hlast : (c.tries os st).last = .error e) : IsFinal e ↔ c.cost < 0 :=
  (Prog.attempts_forall (among exec) c.deduct IsFinal 1 (creditDeductionMaxRetries - 1) os st
    (P := fun r => ∀ e, r = .error e → (IsFinal e ↔ c.cost < 0)) fun _ _ _ _ => isFinal_iff).2 e hlast

theorem handled_of_negative (h : c.cost < 0) : c.handled os st = .error (.valueError "Credits cannot be negative") := by
  have hdeduct : c.deduct 1 = .fail (.valueError "Credits cannot be negative") := by
    rw [deduct, deductCredits, if_pos h]
    rfl
  rw [handled, chargeWithRetries, creditDeductionMaxRetries, Charge.attempts, hdeduct]
  rfl

/-- A `ValueError` is raised for a negative amount, and for nothing else. -/
theorem handled_valueError_iff : (∃ e, c.handled os st = .error e ∧ e.kind = .valueError) ↔ c.cost < 0 := by
  constructor
  · rintro ⟨e, hhandled, hkind⟩
    rw [handled_eq, Prog.Attempts.result] at hhandled
    cases hlast : (c.tries os st).last with
    | ok a =>
      rw [hlast] at hhandled
      cases hhandled
    | error e' =>
      rw [hlast] at hhandled
      obtain rfl : (if IsFinal e' then e' else retriesExhausted e') = e := Except.error.inj hhandled
      by_cases hfinal : IsFinal e'
      · exact (isFinal_last hlast).mp hfinal
      · rw [if_neg hfinal] at hkind
        cases hkind
  · exact fun hnegative => ⟨_, handled_of_negative hnegative, rfl⟩

theorem count_le : (c.tries os st).count ≤ creditDeductionMaxRetries := Nat.succ_le_succ (Prog.retried_spec ..).2

theorem count_of_raised (hnonneg : 0 ≤ c.cost) (hlast : (c.tries os st).last = .error e) :
    (c.tries os st).count = creditDeductionMaxRetries := by
  have hfinal : ¬IsFinal e := fun h => not_lt.mpr hnonneg ((isFinal_last hlast).mp h)
  exact congrArg Nat.succ (Prog.last_spec _ _ _ _ _ _ _ hlast hfinal)

theorem count_of_rejected (h : c.Rejected os st) : 2 ≤ (c.tries os st).count := by
  obtain ⟨hcost, e, -, hraised⟩ := h
  have hwrapped : ((c.deduct 1).run (among exec) os st).1 = .error (wrapDeductError e) := by
    rw [deduct, deductCredits_of_le hcost, Prog.run_tryCatch]
    generalize (deductInsideTry c.now c.apiKey c.cost _ _).run (among exec) os st = run at hraised ⊢
    obtain ⟨r, link, store⟩ := run
    obtain rfl : r = .error e := hraised
    rfl
  have hfinal : ¬IsFinal (wrapDeductError e) := by
    rw [IsFinal, kind_wrapDeductError]
    decide
  rw [tries, creditDeductionMaxRetries, Prog.attempts_of_retried (among exec) c.deduct IsFinal 1 1 os st hwrapped hfinal]
  exact Nat.succ_le_succ (Nat.succ_le_succ (Nat.zero_le _))

end Charge

/-! ## The law -/

/-- **No rejection is final.** After a rejected attempt there is another one, and what is raised in the end is not a `ValueError`: that is
for negative amounts. There are three attempts at most, and three if the last one failed. -/
theorem rejection_never_final (c : Charge) (os : List (Outcome PyErr)) (st : SharedWorld) :
    (c.Rejected os st → 2 ≤ (c.tries os st).count ∧ ¬∃ e, c.handled os st = .error e ∧ e.kind = .valueError) ∧
      ((∃ e, c.handled os st = .error e ∧ e.kind = .valueError) ↔ c.cost < 0) ∧
      (c.tries os st).count ≤ creditDeductionMaxRetries ∧
      (0 ≤ c.cost → (∃ e, (c.tries os st).last = .error e) → (c.tries os st).count = creditDeductionMaxRetries) := by
  refine ⟨fun hrejected => ⟨Charge.count_of_rejected hrejected, fun hvalue => ?_⟩, Charge.handled_valueError_iff, Charge.count_le,
    fun hnonneg ⟨_, hlast⟩ => Charge.count_of_raised hnonneg hlast⟩
  have hnegative := Charge.handled_valueError_iff.mp hvalue
  have hcost := hrejected.1
  linarith

def unfunded : Charge := ⟨0, "k", 1 / 2, [], "r"⟩

theorem unfunded_tried_thrice :
    unfunded.Rejected [] (oneUser 0 0, []) ∧ (unfunded.tries [] (oneUser 0 0, [])).count = 3 ∧
      unfunded.handled [] (oneUser 0 0, []) =
        .error (.runtimeError ("Credit deduction failed after 3 attempts: Failed to deduct credits: Insufficient credits. " ++
          "Current balance: ~$0.00, Required: ~$0.50. Please add credits to continue.")) := by
  have hcost : 1 / 1000000 ≤ unfunded.cost := by decide +kernel
  refine ⟨⟨hcost, _, .insufficient ⟨0, 1, 1 / 2, 0, 0, []⟩ "" (some 0), by decide +kernel⟩, by decide +kernel, by decide +kernel⟩

end Gatewayz
