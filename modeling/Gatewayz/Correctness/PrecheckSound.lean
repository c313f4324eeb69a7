import Gatewayz.Correctness.AdmittedBillable

/-!
# `Correctness.PrecheckSound` — what the pre-check lets through can be paid for

The pre-check compares a balance with the cost of the estimated input and of one completion. What it answers is the output
that a completion may have: what the request asks for, or what the balance is enough for.

The provider makes `n` completions. The check does not see `n`, so it is sound for one completion, and for more of them
where the balance is enough anyway: `precheck_exact_iff`.
-/

namespace Gatewayz

/-- The pre-check is exact for a request of `n` completions: a user who is let through can pay for all the output that
    is asked of the provider, and a user who is refused cannot pay for one token of it. -/
structure PrecheckExact (config : PricingConfig) (prices : PriceBook) (r : PrecheckRequest) (credits : ℚ) (n : Nat) :
    Prop where
  sound : ∀ maxTokens, checkCreditSufficiency config prices r credits = .ok maxTokens →
    ∀ c ≤ n * ({ r with maxTokens := maxTokens } : PrecheckRequest).maxOutputTokens,
      ∃ cost, calculateCost config prices r.modelId r.inputTokens c = .ok cost ∧ cost ≤ credits
  notStrict : ∀ maxCost, estimateAndCheckCredits config prices r credits = .ok (.insufficient maxCost) →
    ∃ cost, calculateCost config prices r.modelId r.inputTokens 1 = .ok cost ∧ credits < cost

section Law

variable {config : PricingConfig} {prices : PriceBook} {pricing : ModelPricing} {r : PrecheckRequest} {credits : ℚ}

def ModelPricing.marked (pricing : ModelPricing) (config : PricingConfig) (r : PrecheckRequest) (c : Nat) : ℚ :=
  pricing.plainCost r.inputTokens c * config.pricingMarkup

def ModelPricing.outputRate (pricing : ModelPricing) (config : PricingConfig) : ℚ :=
  pricing.completion * config.pricingMarkup

theorem ModelPricing.outputRate_nonneg : 0 ≤ pricing.outputRate config :=
  mul_nonneg pricing.completion_nonneg config.markup_nonneg

theorem ModelPricing.marked_eq (c : Nat) :
    pricing.marked config r c = pricing.marked config r 0 + c * pricing.outputRate config := by
  unfold marked outputRate plainCost
  push_cast
  ring

theorem ModelPricing.marked_mono {c d : Nat} (h : c ≤ d) : pricing.marked config r c ≤ pricing.marked config r d := by
  have hcast : (c : ℚ) ≤ d := by exact_mod_cast h
  have hrate : 0 ≤ pricing.outputRate config := pricing.outputRate_nonneg
  rw [pricing.marked_eq c, pricing.marked_eq d]
  nlinarith

/-- The model has one pair of prices, and no mixture of them is out of bounds. -/
structure Quotes (prices : PriceBook) (r : PrecheckRequest) (pricing : ModelPricing) : Prop where
  notFree : isFreeId r.modelId = false
  priced : prices r.modelId = .ok pricing
  inBounds : ∀ p c, pricing.checkBounds r.modelId p c = .ok ()

theorem Quotes.cost (h : Quotes prices r pricing) (c : Nat) :
    calculateCost config prices r.modelId r.inputTokens c = .ok (pricing.marked config r c) := by
  rw [calculateCost_plain h.notFree h.priced, h.inBounds]
  rfl

/-! ## What the check answers -/

theorem affordable_floor {left rate : ℚ} (hrate : 0 < rate) (hleft : 0 ≤ left) :
    (⌊left / rate⌋.toNat : ℚ) * rate ≤ left ∧ left < (⌊left / rate⌋.toNat + 1) * rate := by
  have hquot : 0 ≤ left / rate := div_nonneg hleft (le_of_lt hrate)
  have hnat : ((⌊left / rate⌋.toNat : ℤ) : ℚ) = (⌊left / rate⌋ : ℚ) := by
    rw [Int.toNat_of_nonneg (Int.floor_nonneg.mpr hquot)]
  have hcast : (⌊left / rate⌋.toNat : ℚ) = (⌊left / rate⌋ : ℚ) := by exact_mod_cast hnat
  rw [hcast]
  constructor
  · rw [← le_div_iff₀ hrate]
    exact Int.floor_le _
  · rw [← div_lt_iff₀ hrate]
    exact Int.lt_floor_add_one _

/-- What `calculate_affordable_max_tokens` answers. -/
theorem Quotes.affordable (h : Quotes prices r pricing) (config : PricingConfig) (credits : ℚ) :
    calculateAffordableMaxTokens config prices r credits =
      .ok (if credits - pricing.marked config r 0 ≤ 0 then none
        else if pricing.outputRate config ≤ 0 then some (2 ^ 31 - 1)
        else (some (⌊(credits - pricing.marked config r 0) / pricing.outputRate config⌋.toNat)).filter (0 < ·)) := by
  unfold calculateAffordableMaxTokens
  rw [h.cost 0]
  simp only
  by_cases hleft : credits - pricing.marked config r 0 ≤ 0
  · rw [if_pos hleft, if_pos hleft]
  rw [if_neg hleft, if_neg hleft, h.priced]
  show (if pricing.outputRate config ≤ 0 then _ else _) = _
  by_cases hrate : pricing.outputRate config ≤ 0
  · rw [if_pos hrate, if_pos hrate]
    rfl
  · rw [if_neg hrate, if_neg hrate]
    rfl

section Answers

variable (hmax : calculateMaximumCost config prices r = .ok (pricing.marked config r r.maxOutputTokens))
include hmax

theorem estimate_sufficient (henough : pricing.marked config r r.maxOutputTokens ≤ credits) :
    estimateAndCheckCredits config prices r credits = .ok (.sufficient (pricing.marked config r r.maxOutputTokens)) := by
  unfold estimateAndCheckCredits
  rw [hmax]
  show (if _ then _ else _) = _
  rw [if_pos henough]
  rfl

theorem estimate_capped (hless : credits < pricing.marked config r r.maxOutputTokens) {k : Nat} {cost : ℚ}
    (haffordable : calculateAffordableMaxTokens config prices r credits = .ok (some k))
    (hcost : calculateCost config prices r.modelId r.inputTokens k = .ok cost) :
    estimateAndCheckCredits config prices r credits = .ok (.capped cost k) := by
  unfold estimateAndCheckCredits
  rw [hmax]
  show (if _ then _ else _) = _
  rw [if_neg (not_le_of_gt hless), haffordable]
  show (calculateCost config prices r.modelId r.inputTokens k >>= _) = _
  rw [hcost]
  rfl

theorem estimate_insufficient (hless : credits < pricing.marked config r r.maxOutputTokens)
    (haffordable : calculateAffordableMaxTokens config prices r credits = .ok none) :
    estimateAndCheckCredits config prices r credits =
      .ok (.insufficient (pricing.marked config r r.maxOutputTokens)) := by
  unfold estimateAndCheckCredits
  rw [hmax]
  show (if _ then _ else _) = _
  rw [if_neg (not_le_of_gt hless), haffordable]
  rfl

end Answers

/-- What `estimate_and_check_credits` answers: the whole output can be paid for; or some of it, and the cap is all that
    can be paid for; or not one token of it. -/
theorem Quotes.estimate (h : Quotes prices r pricing) (config : PricingConfig) (credits : ℚ) :
    (pricing.marked config r r.maxOutputTokens ≤ credits ∧
      estimateAndCheckCredits config prices r credits = .ok (.sufficient (pricing.marked config r r.maxOutputTokens))) ∨
    (∃ k, 0 < k ∧ pricing.marked config r k ≤ credits ∧ credits < pricing.marked config r (k + 1) ∧
      credits < pricing.marked config r r.maxOutputTokens ∧
      estimateAndCheckCredits config prices r credits = .ok (.capped (pricing.marked config r k) k)) ∨
    (credits < pricing.marked config r 1 ∧ credits < pricing.marked config r r.maxOutputTokens ∧
      estimateAndCheckCredits config prices r credits =
        .ok (.insufficient (pricing.marked config r r.maxOutputTokens))) := by
  have hmax : calculateMaximumCost config prices r = .ok (pricing.marked config r r.maxOutputTokens) := h.cost _
  by_cases henough : pricing.marked config r r.maxOutputTokens ≤ credits
  · exact .inl ⟨henough, estimate_sufficient hmax henough⟩
  have hless := not_le.mp henough
  have haffordable := h.affordable config credits
  have hone : pricing.marked config r 1 = pricing.marked config r 0 + pricing.outputRate config := by
    rw [pricing.marked_eq 1, Nat.cast_one, one_mul]
  have hrate : 0 ≤ pricing.outputRate config := pricing.outputRate_nonneg
  by_cases hleft : credits - pricing.marked config r 0 ≤ 0
  · -- the input alone takes the balance
    rw [if_pos hleft] at haffordable
    refine .inr (.inr ⟨?_, hless, estimate_insufficient hmax hless haffordable⟩)
    rcases eq_or_lt_of_le hrate with hzero | hpos
    · rw [pricing.marked_eq r.maxOutputTokens, ← hzero, mul_zero] at hless
      rw [hone]
      linarith
    · rw [hone]
      linarith
  rw [if_neg hleft] at haffordable
  -- output without a price would have been paid for
  have hpos : ¬ pricing.outputRate config ≤ 0 := by
    intro hzero
    rw [pricing.marked_eq r.maxOutputTokens, le_antisymm hzero hrate, mul_zero] at hless
    linarith
  rw [if_neg hpos] at haffordable
  obtain ⟨hfits, hmore⟩ := affordable_floor (not_le.mp hpos) (le_of_lt (not_le.mp hleft))
  generalize ⌊(credits - pricing.marked config r 0) / pricing.outputRate config⌋.toNat = k at *
  by_cases hsome : 0 < k
  · rw [Option.filter_some, if_pos (by simpa using hsome)] at haffordable
    refine .inr (.inl ⟨k, hsome, ?_, ?_, hless, estimate_capped hmax hless haffordable (h.cost k)⟩)
    · rw [pricing.marked_eq k]
      linarith
    · rw [pricing.marked_eq (k + 1)]
      push_cast
      linarith
  · obtain rfl : k = 0 := by omega
    rw [Option.filter_some, if_neg (by simp)] at haffordable
    refine .inr (.inr ⟨?_, hless, estimate_insufficient hmax hless haffordable⟩)
    rw [hone]
    push_cast at hmore
    linarith

/-! ## The law -/

/-- What the handler makes of an answer: the `max_tokens` to send, or a refusal. -/
def PrecheckResult.forward (r : PrecheckRequest) : PrecheckResult → Except PyErr (Option Nat)
  | .sufficient _ => .ok r.maxTokens
  | .capped _ tokens => .ok (some tokens)
  | .insufficient _ => .error insufficientCreditsForReservation

theorem checkCreditSufficiency_forward (hfree : isFreeId r.modelId = false) {answer : PrecheckResult}
    (hanswer : estimateAndCheckCredits config prices r credits = .ok answer) :
    checkCreditSufficiency config prices r credits = answer.forward r := by
  unfold checkCreditSufficiency
  rw [hfree, hanswer]
  cases answer <;> rfl

theorem Quotes.exact_admitted (h : Quotes prices r pricing) {answer : PrecheckResult} {maxTokens : Option Nat} {n : Nat}
    (hanswer : estimateAndCheckCredits config prices r credits = .ok answer)
    (hforward : answer.forward r = .ok maxTokens) : PrecheckExact config prices r credits n ↔
      pricing.marked config r (n * ({ r with maxTokens := maxTokens } : PrecheckRequest).maxOutputTokens) ≤ credits := by
  have hcheck : checkCreditSufficiency config prices r credits = .ok maxTokens := by
    rw [checkCreditSufficiency_forward h.notFree hanswer, hforward]
  constructor
  · intro hexact
    obtain ⟨cost, hcost, hle⟩ := hexact.sound maxTokens hcheck _ (le_refl _)
    rw [h.cost] at hcost
    injection hcost with hcost
    rwa [hcost]
  · intro henough
    refine ⟨fun sent hsent c hc => ?_, fun maxCost hrefused => ?_⟩
    · rw [hcheck] at hsent
      injection hsent with hsent
      subst hsent
      exact ⟨_, h.cost c, le_trans (pricing.marked_mono hc) henough⟩
    · rw [hanswer] at hrefused
      injection hrefused with hrefused
      rw [hrefused] at hforward
      cases hforward

theorem Quotes.exact_refused (h : Quotes prices r pricing) {maxCost : ℚ} {n : Nat}
    (hanswer : estimateAndCheckCredits config prices r credits = .ok (.insufficient maxCost))
    (hless : credits < pricing.marked config r 1) : PrecheckExact config prices r credits n := by
  refine ⟨fun sent hsent => ?_, fun _ _ => ⟨_, h.cost 1, hless⟩⟩
  rw [checkCreditSufficiency_forward h.notFree hanswer] at hsent
  cases hsent

end Law

/-! ## A balance for one completion -/

/-- A thousand tokens in and a thousand out, by a model that takes three dollars and fifteen for a million. -/
def thousandTokens : PrecheckRequest := ⟨"anthropic/claude-sonnet-4", 1000, some 1000, 4096⟩

theorem sonnet_quotes : Quotes (fun _ => .ok sonnetPrice) thousandTokens sonnetPrice := by
  refine ⟨by decide +kernel, rfl, fun p c => ?_⟩
  refine (sonnetPrice.checkBounds_own (by decide) p c).resolve_right fun hhigh => ?_
  by_cases hsome : p + c = 0
  · obtain ⟨rfl, rfl⟩ := Nat.add_eq_zero_iff.mp hsome
    norm_num [ModelPricing.costPer1k, ModelPricing.plainCost] at hhigh
  · have hwithin : sonnetPrice.WithinBounds := ⟨by norm_num [sonnetPrice], by norm_num [sonnetPrice]⟩
    exact absurd (hwithin.costPer1k_le hsome) (not_le_of_gt hhigh)

end Gatewayz
