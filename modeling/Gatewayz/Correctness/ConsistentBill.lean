import Gatewayz.Correctness.FreeModels

/-!
# `Correctness.ConsistentBill` — what cached input costs, and what it would cost otherwise

`calculate_cost_with_cache` divides a cost into parts, which are to make it up, and is to agree with `calculate_cost` where the cache
makes no difference (`ConsistentBill`).

The parts make up the total always. What does not agree is what `calculate_cost` does besides (`CleanBill`): it checks the price against
bounds, and takes an id that ends in `:free` for another one, or for nothing.
-/

namespace Gatewayz

/-! ## Two classes of tokens -/

/-- The cost of these tokens is within the bounds, or there are none. A cost below the bounds must not be by the default rates. -/
def ModelPricing.InBounds (pricing : ModelPricing) (p c : Nat) : Prop :=
  p + c = 0 ∨ (pricing.costPer1k p c < 1 / 10000 → pricing.source ≠ "default") ∧ pricing.costPer1k p c ≤ 100

def TokenCounts.Cached (t : TokenCounts) : Prop := ¬ (t.cacheRead = 0 ∧ t.cacheWrite = 0)

instance : DecidablePred TokenCounts.Cached := fun _ => inferInstanceAs (Decidable (¬ _))

section Plain

variable (config : PricingConfig) (prices : PriceBook) (modelId : String) (p c : Nat)

/-- What two classes of tokens cost: nothing if the `:free` is believed; by the price of the id without it; or by the default rate. -/
inductive PlainCost : ℚ → Prop
  | free : isFreeId modelId = true ∧ isOpenrouterModel modelId = true → PlainCost 0
  | listed {pricing : ModelPricing} : ¬ (isFreeId modelId = true ∧ isOpenrouterModel modelId = true) →
      prices (billedId modelId) = .ok pricing → pricing.InBounds p c → PlainCost (pricing.plainCost p c * config.pricingMarkup)
  | unlisted {e : PyErr} : ¬ (isFreeId modelId = true ∧ isOpenrouterModel modelId = true) →
      prices (billedId modelId) = .error e → e.kind ≠ .valueError →
        PlainCost (if isFreeId (billedId modelId) then 0 else (p + c) * (2 / 100000))

variable {config prices modelId p c}

theorem ModelPricing.checkBounds_ok_iff {pricing : ModelPricing} :
    pricing.checkBounds modelId p c = .ok () ↔ pricing.InBounds p c := by
  unfold checkBounds InBounds
  by_cases hnone : p + c = 0
  · exact iff_of_true (if_pos hnone) (.inl hnone)
  rw [if_neg hnone]
  by_cases hlow : pricing.costPer1k p c < 1 / 10000
  · rw [if_pos hlow]
    split
    · next hdefault =>
      refine iff_of_false nofun ?_
      rintro (h | ⟨h, -⟩)
      · exact hnone h
      · exact h hlow hdefault
    · next hsource => exact iff_of_true rfl (.inr ⟨fun _ => hsource, hlow.le.trans (by norm_num)⟩)
  · rw [if_neg hlow]
    split
    · next hhigh =>
      refine iff_of_false nofun ?_
      rintro (h | ⟨-, h⟩)
      · exact hnone h
      · exact absurd h (not_le.mpr hhigh)
    · next hhigh => exact iff_of_true rfl (.inr ⟨fun h => absurd h hlow, not_lt.mp hhigh⟩)

/-- `calculate_cost` bills by this rule. -/
theorem calculateCost_eq_ok_iff {cost : ℚ} :
    calculateCost config prices modelId p c = .ok cost ↔ PlainCost config prices modelId p c cost := by
  unfold calculateCost
  by_cases hfree : isFreeId modelId = true ∧ isOpenrouterModel modelId = true
  · rw [if_pos hfree]
    constructor
    · intro h
      cases h
      exact .free hfree
    · rintro (_ | ⟨hnot, -⟩ | ⟨hnot, -⟩)
      · rfl
      · exact absurd hfree hnot
      · exact absurd hfree hnot
  · rw [if_neg hfree, pricedCost_eq]
    cases hprices : prices (billedId modelId) with
    | ok pricing =>
      dsimp only
      cases hbounds : pricing.checkBounds (billedId modelId) p c with
      | ok =>
        refine ⟨fun h => ?_, fun h => ?_⟩
        · cases h
          exact .listed hfree hprices (ModelPricing.checkBounds_ok_iff.mp hbounds)
        · cases h with
          | free h => exact absurd h hfree
          | listed _ hlisted _ =>
            rw [hprices] at hlisted
            cases hlisted
            rfl
          | unlisted _ herror _ =>
            rw [hprices] at herror
            cases herror
      | error e =>
        have hvalue : e.kind = .valueError := ModelPricing.checkBounds_error hbounds
        have hraised : fallbackCost (billedId modelId) p c e = .error e := if_pos hvalue
        refine iff_of_false (fun h => ?_) fun h => ?_
        · change fallbackCost (billedId modelId) p c e = .ok cost at h
          rw [hraised] at h
          cases h
        · cases h with
          | free h => exact absurd h hfree
          | listed _ hlisted hin =>
            rw [hprices] at hlisted
            cases hlisted
            rw [ModelPricing.checkBounds_ok_iff.mpr hin] at hbounds
            cases hbounds
          | unlisted _ herror _ =>
            rw [hprices] at herror
            cases herror
    | error e =>
      change fallbackCost (billedId modelId) p c e = .ok cost ↔ _
      unfold fallbackCost
      by_cases hvalue : e.kind = .valueError
      · rw [if_pos hvalue]
        refine iff_of_false (fun h => by cases h) fun h => ?_
        cases h with
        | free h => exact absurd h hfree
        | listed _ hlisted _ =>
          rw [hprices] at hlisted
          cases hlisted
        | unlisted _ herror hnot =>
          rw [hprices] at herror
          cases herror
          exact hnot hvalue
      · rw [if_neg hvalue]
        constructor
        · intro h
          have hcost : cost = if isFreeId (billedId modelId) then 0 else ((p : ℚ) + c) * (2 / 100000) := by
            split at h
            · next hid =>
              rw [if_pos hid]
              exact (Except.ok.inj h).symm
            · next hid =>
              rw [if_neg hid]
              exact (Except.ok.inj h).symm
          rw [hcost]
          exact .unlisted hfree hprices hvalue
        · intro h
          cases h with
          | free h => exact absurd h hfree
          | listed _ hlisted _ =>
            rw [hprices] at hlisted
            cases hlisted
          | unlisted =>
            split
            · rfl
            · rfl

end Plain

/-! ## The claim -/

section Claim

variable (config : PricingConfig) (prices : PriceBook) (modelId : String) (t : TokenCounts) (provider : Option String)

def UsualRates (pricing : ModelPricing) : Prop :=
  pricing.readRate (resolveCacheMultipliers modelId provider) = pricing.prompt ∧
    pricing.writeRate (resolveCacheMultipliers modelId provider) = pricing.prompt

instance (pricing : ModelPricing) : Decidable (UsualRates modelId provider pricing) := inferInstanceAs (Decidable (_ ∧ _))

def ReducedRates (pricing : ModelPricing) : Prop :=
  pricing.readRate (resolveCacheMultipliers modelId provider) ≤ pricing.prompt ∧
    pricing.writeRate (resolveCacheMultipliers modelId provider) ≤ pricing.prompt

/-- The bill is a consistent partition: its parts make it up, and its counts are of the tokens there were. It is what
    `calculate_cost` bills if the cache makes no difference, and not more if the cache is cheaper. -/
structure ConsistentBill : Prop where
  total : ∀ bill, costBreakdown config prices modelId t provider = .ok bill → bill.totalCost = bill.inputCost + bill.outputCost
  input : ∀ bill pricing, costBreakdown config prices modelId t provider = .ok bill → prices modelId = .ok pricing →
    bill.inputCost = bill.uncachedPromptTokens * pricing.prompt * config.pricingMarkup + bill.cacheReadCost + bill.cacheWriteCost
  counts : ∀ bill, costBreakdown config prices modelId t provider = .ok bill →
    bill.uncachedPromptTokens + bill.cacheReadTokens + bill.cacheWriteTokens = max t.prompt (t.cacheRead + t.cacheWrite)
  usual : ¬ t.Cached ∨ (∀ pricing, prices modelId = .ok pricing → UsualRates modelId provider pricing) →
    (costBreakdown config prices modelId t provider).map CostBreakdown.totalCost = calculateCost config prices modelId t.prompt t.completion
  reduced : (∀ pricing, prices modelId = .ok pricing → ReducedRates modelId provider pricing) →
    ∀ bill cost, costBreakdown config prices modelId t provider = .ok bill →
      calculateCost config prices modelId t.prompt t.completion = .ok cost → bill.totalCost ≤ cost

def cachedCost (pricing : ModelPricing) : ℚ :=
  (pricing.cachedInputCost (resolveCacheMultipliers modelId provider) t + t.completion * pricing.completion) * config.pricingMarkup

/-- The rule of `calculate_cost` and the price of the id are at one: without cached tokens, what is billed is the cost of the input.
    With them the lookup of a price that is billed does not fail, and what is billed is the listed price, or is not less than it is with
    the cache. -/
structure CleanBill : Prop where
  input : ¬ t.Cached → ∀ pricing cost, prices modelId = .ok pricing →
    PlainCost config prices modelId t.prompt t.completion cost → cost = t.prompt * pricing.prompt * config.pricingMarkup
  found : t.Cached → ∀ e cost, prices modelId = .error e → ¬ PlainCost config prices modelId t.prompt t.completion cost
  usual : t.Cached → ∀ pricing, prices modelId = .ok pricing → UsualRates modelId provider pricing →
    PlainCost config prices modelId t.prompt t.completion (pricing.plainCost t.prompt t.completion * config.pricingMarkup)
  reduced : t.Cached → ∀ pricing cost, prices modelId = .ok pricing → ReducedRates modelId provider pricing →
    PlainCost config prices modelId t.prompt t.completion cost → cachedCost config modelId t provider pricing ≤ cost

/-- The same, for an id that does not end in `:free`: without cached tokens the output costs nothing. With them a lookup that fails
    refuses the model, and a price at the usual rates is within the bounds. -/
structure CleanListing : Prop where
  output : ¬ t.Cached → ∀ pricing, prices modelId = .ok pricing → pricing.InBounds t.prompt t.completion →
    t.completion * pricing.completion * config.pricingMarkup = 0
  refused : t.Cached → ∀ e, prices modelId = .error e → e.kind = .valueError
  bounds : t.Cached → ∀ pricing, prices modelId = .ok pricing → UsualRates modelId provider pricing →
    pricing.InBounds t.prompt t.completion

/-- The same, for a `:free` that is believed: the listed price comes to nothing. -/
structure FreeListing : Prop where
  input : ¬ t.Cached → ∀ pricing, prices modelId = .ok pricing → t.prompt * pricing.prompt * config.pricingMarkup = 0
  listed : t.Cached → ∃ pricing, prices modelId = .ok pricing ∧
    (ReducedRates modelId provider pricing → cachedCost config modelId t provider pricing = 0)

/-- The larger cost is billed, if the model that has served the request has a price of its own, and its parts make it up. -/
structure LossProof (requested : String) (served : Option String) : Prop where
  larger : ∀ id pricing base split, served = some id → id ≠ "" → id ≠ requested → prices id = .ok pricing → pricing.isReal = true →
    cacheAwareSplit config prices requested t provider = .ok base → cacheAwareSplit config prices id t provider = .ok split →
      lossProofCostSplit config prices requested served t provider = .ok (if base.total < split.total then split else base)
  balanced : ∀ split, lossProofCostSplit config prices requested served t provider = .ok split → split.total = split.input + split.output

/-- An id whose `:free` is not believed is billed by the price of another id: it has that price as well, as far as these tokens go. -/
def SplitsListed : Prop :=
  ¬ t.Cached → ∀ id pricing cost, isFreeId id = true → isOpenrouterModel id = false → prices id = .ok pricing →
    PlainCost config prices id t.prompt t.completion cost → cost ≠ 0 →
      cost = pricing.plainCost t.prompt t.completion * config.pricingMarkup

end Claim

/-! ## The parts -/

section Parts

variable {config : PricingConfig} {prices : PriceBook} {modelId : String} {t : TokenCounts} {provider : Option String} {e : PyErr}
  {pricing : ModelPricing} {cost : ℚ}

theorem costBreakdown_plain (config : PricingConfig) (prices : PriceBook) (modelId : String) (provider : Option String) (h : ¬ t.Cached) :
    costBreakdown config prices modelId t provider =
      (calculateCost config prices modelId t.prompt t.completion).map fun total => ⟨total, total, 0, 0, 0, 0, t.prompt, 0, 0⟩ := by
  unfold costBreakdown
  rw [if_pos (not_not.mp h)]
  cases calculateCost config prices modelId t.prompt t.completion with
  | ok _ => rfl
  | error _ => rfl

theorem costBreakdown_failed (config : PricingConfig) (provider : Option String) (h : t.Cached) (hprices : prices modelId = .error e) :
    costBreakdown config prices modelId t provider =
      (calculateCost config prices modelId t.prompt t.completion).map fun total =>
        ⟨total, total, 0, 0, 0, 0, t.prompt, t.cacheRead, t.cacheWrite⟩ := by
  unfold costBreakdown
  rw [if_neg h, hprices]
  cases calculateCost config prices modelId t.prompt t.completion with
  | ok _ => rfl
  | error _ => rfl

theorem costBreakdown_priced (config : PricingConfig) (provider : Option String) (h : t.Cached) (hprices : prices modelId = .ok pricing) :
    ∃ bill, costBreakdown config prices modelId t provider = .ok bill ∧ bill.totalCost = cachedCost config modelId t provider pricing ∧
      bill.inputCost = pricing.cachedInputCost (resolveCacheMultipliers modelId provider) t * config.pricingMarkup ∧
      bill.outputCost = t.completion * pricing.completion * config.pricingMarkup ∧
      bill.cacheReadCost = t.cacheRead * pricing.readRate (resolveCacheMultipliers modelId provider) * config.pricingMarkup ∧
      bill.cacheWriteCost = t.cacheWrite * pricing.writeRate (resolveCacheMultipliers modelId provider) * config.pricingMarkup ∧
      bill.uncachedPromptTokens = t.uncached ∧ bill.cacheReadTokens = t.cacheRead ∧ bill.cacheWriteTokens = t.cacheWrite := by
  unfold costBreakdown
  rw [if_neg h, hprices]
  exact ⟨_, rfl, rfl, rfl, rfl, rfl, rfl, rfl, rfl, rfl⟩

theorem costBreakdown_total {bill : CostBreakdown} (h : costBreakdown config prices modelId t provider = .ok bill) :
    bill.totalCost = bill.inputCost + bill.outputCost := by
  by_cases hcached : t.Cached
  · cases hprices : prices modelId with
    | ok pricing =>
      obtain ⟨priced, hpriced, htotal, hinput, houtput, -⟩ := costBreakdown_priced config provider hcached hprices
      rw [hpriced] at h
      cases h
      rw [htotal, hinput, houtput, cachedCost, add_mul]
    | error e =>
      rw [costBreakdown_failed config provider hcached hprices] at h
      obtain ⟨total, -, rfl⟩ := map_eq_ok.mp h
      exact (add_zero total).symm
  · rw [costBreakdown_plain config prices modelId provider hcached] at h
    obtain ⟨total, -, rfl⟩ := map_eq_ok.mp h
    exact (add_zero total).symm

theorem calculateCostWithCache_eq : calculateCostWithCache config prices modelId t provider =
    (costBreakdown config prices modelId t provider).map fun bill => ⟨bill.totalCost, bill.inputCost, bill.outputCost⟩ := by
  unfold calculateCostWithCache
  by_cases h : t.Cached
  · rw [if_neg h]
    cases hprices : prices modelId with
    | ok pricing =>
      obtain ⟨bill, hbill, htotal, hinput, houtput, -⟩ := costBreakdown_priced config provider h hprices
      rw [hbill]
      change _ = Except.ok (CostSplit.mk bill.totalCost bill.inputCost bill.outputCost)
      rw [htotal, hinput, houtput]
      rfl
    | error e =>
      rw [costBreakdown_failed config provider h hprices]
      cases calculateCost config prices modelId t.prompt t.completion with
      | ok _ => rfl
      | error _ => rfl
  · rw [if_pos (not_not.mp h), costBreakdown_plain config prices modelId provider h]
    cases calculateCost config prices modelId t.prompt t.completion with
    | ok _ => rfl
    | error _ => rfl

theorem prompt_eq (hinclusive : t.cacheRead + t.cacheWrite ≤ t.prompt) :
    (t.prompt : ℚ) = t.uncached + t.cacheRead + t.cacheWrite := by
  have hsum : t.prompt = t.uncached + t.cacheRead + t.cacheWrite := by
    unfold TokenCounts.uncached
    omega
  exact_mod_cast hsum

theorem cachedCost_of_usual (hinclusive : t.cacheRead + t.cacheWrite ≤ t.prompt) (h : UsualRates modelId provider pricing) :
    cachedCost config modelId t provider pricing = pricing.plainCost t.prompt t.completion * config.pricingMarkup := by
  unfold cachedCost ModelPricing.cachedInputCost ModelPricing.plainCost
  rw [h.1, h.2, prompt_eq hinclusive]
  ring

theorem cachedCost_le_of_reduced (hinclusive : t.cacheRead + t.cacheWrite ≤ t.prompt) (h : ReducedRates modelId provider pricing) :
    cachedCost config modelId t provider pricing ≤ pricing.plainCost t.prompt t.completion * config.pricingMarkup := by
  have hread := mul_le_mul_of_nonneg_left h.1 (Nat.cast_nonneg (α := ℚ) t.cacheRead)
  have hwrite := mul_le_mul_of_nonneg_left h.2 (Nat.cast_nonneg (α := ℚ) t.cacheWrite)
  refine mul_le_mul_of_nonneg_right ?_ config.markup_nonneg
  unfold ModelPricing.cachedInputCost ModelPricing.plainCost
  rw [prompt_eq hinclusive]
  linarith

/-! ## When the bill is consistent -/

theorem ConsistentBill.clean (h : ConsistentBill config prices modelId t provider) (hinclusive : t.cacheRead + t.cacheWrite ≤ t.prompt) :
    CleanBill config prices modelId t provider where
  input hplain pricing cost hprices hcost := by
    have hbill := costBreakdown_plain config prices modelId provider hplain
    rw [calculateCost_eq_ok_iff.mpr hcost] at hbill
    have hinput := h.input _ pricing hbill hprices
    simpa using hinput
  found hcached e cost hprices hcost := by
    have hbill := costBreakdown_failed config provider hcached hprices
    rw [calculateCost_eq_ok_iff.mpr hcost] at hbill
    have hcounts := h.counts _ hbill
    refine hcached ?_
    change t.prompt + t.cacheRead + t.cacheWrite = _ at hcounts
    omega
  usual hcached pricing hprices husual := by
    obtain ⟨bill, hbill, htotal, -⟩ := costBreakdown_priced config provider hcached hprices
    have heq := h.usual (.inr fun other hother => by
      rw [hprices] at hother
      cases hother
      exact husual)
    rw [hbill] at heq
    change Except.ok bill.totalCost = _ at heq
    rw [htotal, cachedCost_of_usual hinclusive husual] at heq
    exact calculateCost_eq_ok_iff.mp heq.symm
  reduced hcached pricing cost hprices hreduced hcost := by
    obtain ⟨bill, hbill, htotal, -⟩ := costBreakdown_priced config provider hcached hprices
    have hle := h.reduced (fun other hother => by
      rw [hprices] at hother
      cases hother
      exact hreduced) bill cost hbill (calculateCost_eq_ok_iff.mpr hcost)
    exact htotal ▸ hle

theorem consistent_of_refused {raised : PyErr} (hbill : costBreakdown config prices modelId t provider = .error raised)
    (hcost : calculateCost config prices modelId t.prompt t.completion = .error raised) :
    ConsistentBill config prices modelId t provider := by
  have hnone : ∀ bill, costBreakdown config prices modelId t provider ≠ .ok bill := by
    intro bill h
    rw [hbill] at h
    cases h
  refine ⟨fun _ => costBreakdown_total, fun bill _ h => absurd h (hnone bill), fun bill h => absurd h (hnone bill), fun _ => ?_,
    fun _ bill _ h => absurd h (hnone bill)⟩
  rw [hbill, hcost]
  rfl

theorem CleanBill.consistent (h : CleanBill config prices modelId t provider) (hinclusive : t.cacheRead + t.cacheWrite ≤ t.prompt) :
    ConsistentBill config prices modelId t provider := by
  by_cases hcached : t.Cached
  · cases hprices : prices modelId with
    | ok pricing =>
      obtain ⟨priced, hpriced, htotal, hinput, -, hread, hwrite, huncached, hreads, hwrites⟩ :=
        costBreakdown_priced config provider hcached hprices
      refine ⟨fun _ => costBreakdown_total, fun bill other hbill hother => ?_, fun bill hbill => ?_, fun husual => ?_,
        fun hreduced bill cost hbill hcost => ?_⟩
      · rw [hprices] at hother
        cases hother
        rw [hpriced] at hbill
        cases hbill
        rw [hinput, huncached, hread, hwrite, ModelPricing.cachedInputCost]
        ring
      · rw [hpriced] at hbill
        cases hbill
        rw [huncached, hreads, hwrites, TokenCounts.uncached]
        omega
      · have hrates := (husual.resolve_left fun hplain => hplain hcached) pricing hprices
        rw [hpriced]
        change Except.ok priced.totalCost = _
        rw [htotal, cachedCost_of_usual hinclusive hrates]
        exact (calculateCost_eq_ok_iff.mpr (h.usual hcached pricing hprices hrates)).symm
      · rw [hpriced] at hbill
        cases hbill
        rw [htotal]
        exact h.reduced hcached pricing cost hprices (hreduced pricing hprices) (calculateCost_eq_ok_iff.mp hcost)
    | error e =>
      have hfailed := costBreakdown_failed config provider hcached hprices
      cases hplain : calculateCost config prices modelId t.prompt t.completion with
      | ok cost => exact absurd (calculateCost_eq_ok_iff.mp hplain) (h.found hcached e cost hprices)
      | error raised =>
        rw [hplain] at hfailed
        exact consistent_of_refused hfailed hplain
  · have hplain := costBreakdown_plain config prices modelId provider hcached
    have hnone := not_not.mp hcached
    cases hcost : calculateCost config prices modelId t.prompt t.completion with
    | ok cost =>
      rw [hcost] at hplain
      refine ⟨fun _ => costBreakdown_total, fun bill pricing hbill hprices => ?_, fun bill hbill => ?_, fun _ => ?_,
        fun _ bill other hbill hother => ?_⟩
      · rw [hplain] at hbill
        cases hbill
        have heq := h.input hcached pricing cost hprices (calculateCost_eq_ok_iff.mp hcost)
        simpa using heq
      · rw [hplain] at hbill
        cases hbill
        rw [hnone.1, hnone.2]
        exact (Nat.max_eq_left (Nat.zero_le _)).symm
      · rw [hplain, hcost]
        rfl
      · rw [hplain] at hbill
        cases hbill
        rw [hcost] at hother
        exact (Except.ok.inj hother).le
    | error raised =>
      rw [hcost] at hplain
      exact consistent_of_refused hplain hcost

/-! ## Ids that do not end in `:free` -/

theorem billedId_of_not_free (h : isFreeId modelId = false) : billedId modelId = modelId := by
  unfold billedId
  rw [h]
  rfl

theorem plainCost_iff_of_listed (h : isFreeId modelId = false) (hprices : prices modelId = .ok pricing) {p c : ℕ} :
    PlainCost config prices modelId p c cost ↔ pricing.InBounds p c ∧ cost = pricing.plainCost p c * config.pricingMarkup := by
  have hnot : ¬ (isFreeId modelId = true ∧ isOpenrouterModel modelId = true) := by simp [h]
  have hbilled : prices (billedId modelId) = .ok pricing := by rw [billedId_of_not_free h, hprices]
  constructor
  · intro hcost
    cases hcost with
    | free hfree => exact absurd hfree hnot
    | listed _ hlisted hin =>
      rw [hbilled] at hlisted
      cases hlisted
      exact ⟨hin, rfl⟩
    | unlisted _ herror _ =>
      rw [hbilled] at herror
      cases herror
  · rintro ⟨hin, rfl⟩
    exact .listed hnot hbilled hin

theorem plainCost_iff_of_failed (h : isFreeId modelId = false) (hprices : prices modelId = .error e) {p c : ℕ} :
    (∀ cost, ¬ PlainCost config prices modelId p c cost) ↔ e.kind = .valueError := by
  have hnot : ¬ (isFreeId modelId = true ∧ isOpenrouterModel modelId = true) := by simp [h]
  have hbilled : prices (billedId modelId) = .error e := by rw [billedId_of_not_free h, hprices]
  constructor
  · intro hnone
    by_contra hvalue
    exact hnone _ (.unlisted hnot hbilled hvalue)
  · intro hvalue cost hcost
    cases hcost with
    | free hfree => exact hnot hfree
    | listed _ hlisted _ =>
      rw [hbilled] at hlisted
      cases hlisted
    | unlisted _ herror hne =>
      rw [hbilled] at herror
      cases herror
      exact hne hvalue

theorem cleanBill_iff_of_not_free (h : isFreeId modelId = false) (hinclusive : t.cacheRead + t.cacheWrite ≤ t.prompt) :
    CleanBill config prices modelId t provider ↔ CleanListing config prices modelId t provider := by
  have hsplit : ∀ pricing : ModelPricing, pricing.plainCost t.prompt t.completion * config.pricingMarkup =
      t.prompt * pricing.prompt * config.pricingMarkup + t.completion * pricing.completion * config.pricingMarkup := by
    intro pricing
    rw [ModelPricing.plainCost, add_mul]
  constructor
  · rintro ⟨hinput, hfound, husual, -⟩
    refine ⟨fun hplain pricing hprices hin => ?_, fun hcached e hprices => ?_, fun hcached pricing hprices hrates => ?_⟩
    · have heq := hinput hplain pricing _ hprices ((plainCost_iff_of_listed h hprices).mpr ⟨hin, rfl⟩)
      rw [hsplit] at heq
      linarith
    · exact (plainCost_iff_of_failed h hprices).mp fun cost => hfound hcached e cost hprices
    · exact ((plainCost_iff_of_listed h hprices).mp (husual hcached pricing hprices hrates)).1
  · rintro ⟨houtput, hrefused, hbounds⟩
    refine ⟨fun hplain pricing cost hprices hcost => ?_, fun hcached e cost hprices => ?_, fun hcached pricing hprices hrates => ?_,
      fun _ pricing cost hprices hreduced hcost => ?_⟩
    · obtain ⟨hin, rfl⟩ := (plainCost_iff_of_listed h hprices).mp hcost
      rw [hsplit, houtput hplain pricing hprices hin, add_zero]
    · exact (plainCost_iff_of_failed h hprices).mpr (hrefused hcached e hprices) cost
    · exact (plainCost_iff_of_listed h hprices).mpr ⟨hbounds hcached pricing hprices hrates, rfl⟩
    · obtain ⟨-, rfl⟩ := (plainCost_iff_of_listed h hprices).mp hcost
      exact cachedCost_le_of_reduced hinclusive hreduced

/-! ## Ids that end in a `:free` that is believed -/

theorem plainCost_iff_of_free (h : isFreeId modelId = true ∧ isOpenrouterModel modelId = true) {p c : ℕ} :
    PlainCost config prices modelId p c cost ↔ cost = 0 := by
  constructor
  · intro hcost
    cases hcost with
    | free => rfl
    | listed hnot _ _ => exact absurd h hnot
    | unlisted hnot _ _ => exact absurd h hnot
  · rintro rfl
    exact .free h

theorem cachedCost_nonneg (config : PricingConfig) (modelId : String) (t : TokenCounts) (provider : Option String)
    (pricing : ModelPricing) : 0 ≤ cachedCost config modelId t provider pricing := by
  obtain ⟨hread, hwrite⟩ := CacheMultipliers.known modelId provider
  exact mul_nonneg (pricing.cachedCost_cases _ hread hwrite t).1 config.markup_nonneg

theorem UsualRates.reduced (h : UsualRates modelId provider pricing) : ReducedRates modelId provider pricing :=
  ⟨h.1.le, h.2.le⟩

theorem cleanBill_iff_of_free (h : isFreeId modelId = true ∧ isOpenrouterModel modelId = true)
    (hinclusive : t.cacheRead + t.cacheWrite ≤ t.prompt) :
    CleanBill config prices modelId t provider ↔ FreeListing config prices modelId t provider := by
  have hzero : PlainCost config prices modelId t.prompt t.completion 0 := .free h
  constructor
  · rintro ⟨hinput, hfound, -, hreduced⟩
    refine ⟨fun hplain pricing hprices => (hinput hplain pricing 0 hprices hzero).symm, fun hcached => ?_⟩
    cases hprices : prices modelId with
    | error e => exact absurd hzero (hfound hcached e 0 hprices)
    | ok pricing =>
      refine ⟨pricing, rfl, fun hrates => ?_⟩
      exact le_antisymm (hreduced hcached pricing 0 hprices hrates hzero) (cachedCost_nonneg config modelId t provider pricing)
  · rintro ⟨hinput, hlisted⟩
    refine ⟨fun hplain pricing cost hprices hcost => ?_, fun hcached e cost hprices _ => ?_, fun hcached pricing hprices hrates => ?_,
      fun hcached pricing cost hprices hrates hcost => ?_⟩
    · rw [plainCost_iff_of_free h] at hcost
      rw [hcost, hinput hplain pricing hprices]
    · obtain ⟨pricing, hok, -⟩ := hlisted hcached
      rw [hprices] at hok
      cases hok
    · obtain ⟨listed, hok, hnothing⟩ := hlisted hcached
      rw [hprices] at hok
      cases hok
      rw [plainCost_iff_of_free h, ← cachedCost_of_usual hinclusive hrates]
      exact hnothing hrates.reduced
    · obtain ⟨listed, hok, hnothing⟩ := hlisted hcached
      rw [hprices] at hok
      cases hok
      rw [plainCost_iff_of_free h] at hcost
      rw [hcost, hnothing hrates]

/-! ## The larger of two -/

variable {split : CostSplit}

theorem servedSplit_of_real (hprices : prices modelId = .ok pricing) (hreal : pricing.isReal = true)
    (hsplit : cacheAwareSplit config prices modelId t provider = .ok split) :
    servedSplit config prices modelId t provider = .ok (some split) := by
  unfold servedSplit
  rw [hprices]
  change (if pricing.isReal = true then _ else _) = _
  rw [if_pos hreal, hsplit]
  rfl

theorem cacheAwareSplit_of_served (h : servedSplit config prices modelId t provider = .ok (some split)) :
    cacheAwareSplit config prices modelId t provider = .ok split := by
  obtain ⟨pricing, -, h⟩ := bind_eq_ok.mp h
  split at h
  · obtain ⟨other, hsplit, h⟩ := bind_eq_ok.mp h
    cases h
    exact hsplit
  · cases h

theorem lossProofCostSplit_some {requested served : String} (hne : served ≠ "") (hother : served ≠ requested) {base : CostSplit}
    (hbase : cacheAwareSplit config prices requested t provider = .ok base) :
    lossProofCostSplit config prices requested (some served) t provider =
      .ok (((servedSplit config prices served t provider).toOption.bind id).elim base
        fun split => if base.total < split.total then split else base) := by
  unfold lossProofCostSplit
  rw [hbase, Option.filter_some, if_pos (by simpa using hne)]
  change (if served = requested then _ else _) = _
  rw [if_neg hother]
  cases servedSplit config prices served t provider with
  | error e => rfl
  | ok o =>
    cases o with
    | none => rfl
    | some split =>
      change (if base.total < split.total then _ else _) = Except.ok (if base.total < split.total then split else base)
      split
      · rfl
      · rfl

variable {requested : String}

theorem lossProofCostSplit_same {served : Option String} (h : served.filter (· ≠ "") = none ∨ served = some requested) :
    lossProofCostSplit config prices requested served t provider = cacheAwareSplit config prices requested t provider := by
  unfold lossProofCostSplit
  cases cacheAwareSplit config prices requested t provider with
  | error e => rfl
  | ok base =>
    cases hserved : served.filter (· ≠ "") with
    | none => rfl
    | some id =>
      have hsame : id = requested := by
        have hid := (Option.filter_eq_some_iff.mp hserved).1
        rcases h with h | h
        · rw [hserved] at h
          cases h
        · rw [hid] at h
          exact Option.some.inj h
      change (if id = requested then _ else _) = _
      rw [if_pos hsame]
      rfl

theorem exists_split_of_billed {served : Option String}
    (h : lossProofCostSplit config prices requested served t provider = .ok split) :
    ∃ id, cacheAwareSplit config prices id t provider = .ok split := by
  cases hserved : served.filter (· ≠ "") with
  | none =>
    rw [lossProofCostSplit_same (.inl hserved)] at h
    exact ⟨requested, h⟩
  | some id =>
    obtain ⟨rfl, hne⟩ := Option.filter_eq_some_iff.mp hserved
    by_cases hother : id = requested
    · rw [lossProofCostSplit_same (.inr (hother ▸ rfl))] at h
      exact ⟨requested, h⟩
    cases hbase : cacheAwareSplit config prices requested t provider with
    | error e =>
      unfold lossProofCostSplit at h
      rw [hbase] at h
      cases h
    | ok base =>
      rw [lossProofCostSplit_some (by simpa using hne) hother hbase] at h
      cases hlarger : servedSplit config prices id t provider with
      | error e =>
        rw [hlarger] at h
        cases h
        exact ⟨requested, hbase⟩
      | ok o =>
        cases o with
        | none =>
          rw [hlarger] at h
          cases h
          exact ⟨requested, hbase⟩
        | some larger =>
          rw [hlarger] at h
          change Except.ok (if base.total < larger.total then larger else base) = _ at h
          split at h
          · cases h
            exact ⟨id, cacheAwareSplit_of_served hlarger⟩
          · cases h
            exact ⟨requested, hbase⟩

theorem calculateCostSplit_balanced_iff {p c : ℕ} :
    (∀ split, calculateCostSplit config prices modelId p c = .ok split → split.total = split.input + split.output) ↔
      ∀ pricing cost, prices modelId = .ok pricing → PlainCost config prices modelId p c cost → cost ≠ 0 →
        cost = pricing.plainCost p c * config.pricingMarkup := by
  constructor
  · intro h pricing cost hprices hcost hne
    have hsplit : calculateCostSplit config prices modelId p c =
        .ok ⟨cost, p * pricing.prompt * config.pricingMarkup, c * pricing.completion * config.pricingMarkup⟩ := by
      unfold calculateCostSplit
      rw [calculateCost_eq_ok_iff.mpr hcost]
      change (if cost = 0 then _ else _) = _
      rw [if_neg hne, hprices]
      rfl
    rw [ModelPricing.plainCost, add_mul]
    exact h _ hsplit
  · intro h split hsplit
    obtain ⟨total, hcost, hsplit⟩ := bind_eq_ok.mp hsplit
    by_cases hzero : total = 0
    · rw [if_pos hzero] at hsplit
      cases hsplit
      exact (add_zero 0).symm
    · rw [if_neg hzero] at hsplit
      cases hprices : prices modelId with
      | error e =>
        rw [hprices] at hsplit
        cases hsplit
        exact (add_zero total).symm
      | ok pricing =>
        rw [hprices] at hsplit
        cases hsplit
        change total = _ * config.pricingMarkup + _ * config.pricingMarkup
        rw [← add_mul]
        exact h pricing total hprices (calculateCost_eq_ok_iff.mp hcost) hzero

theorem calculateCostWithCache_balanced (h : calculateCostWithCache config prices modelId t provider = .ok split) :
    split.total = split.input + split.output := by
  rw [calculateCostWithCache_eq] at h
  obtain ⟨bill, hbill, rfl⟩ := map_eq_ok.mp h
  exact costBreakdown_total hbill

/-- An id that is believed, or does not end in `:free`, is billed by its own price. -/
theorem eq_plainCost_of_own (hown : isFreeId modelId = false ∨ isOpenrouterModel modelId = true) {p c : ℕ}
    (hprices : prices modelId = .ok pricing) (hcost : PlainCost config prices modelId p c cost) (hne : cost ≠ 0) :
    cost = pricing.plainCost p c * config.pricingMarkup := by
  cases hfree : isFreeId modelId with
  | false => exact ((plainCost_iff_of_listed hfree hprices).mp hcost).2
  | true =>
    have hbelieved : isOpenrouterModel modelId = true := by
      rcases hown with h | h
      · rw [h] at hfree
        cases hfree
      · exact h
    exact absurd ((plainCost_iff_of_free ⟨hfree, hbelieved⟩).mp hcost) hne

theorem lossProof_iff (config : PricingConfig) (prices : PriceBook) (t : TokenCounts) (provider : Option String) :
    (∀ requested served, LossProof config prices t provider requested served) ↔ SplitsListed config prices t := by
  constructor
  · intro h hplain id pricing cost _ _ hprices hcost hne
    refine calculateCostSplit_balanced_iff.mp (fun split hsplit => ?_) pricing cost hprices hcost hne
    refine (h id none).balanced split ?_
    rw [lossProofCostSplit_same (.inl rfl), cacheAwareSplit, if_pos (not_not.mp hplain)]
    exact hsplit
  · intro h requested served
    refine ⟨?_, fun split hbilled => ?_⟩
    · rintro id pricing base split rfl hne hother hprices hreal hbase hsplit
      rw [lossProofCostSplit_some hne hother hbase, servedSplit_of_real hprices hreal hsplit]
      rfl
    · obtain ⟨id, hsplit⟩ := exists_split_of_billed hbilled
      unfold cacheAwareSplit at hsplit
      split at hsplit
      · next hnone =>
        refine calculateCostSplit_balanced_iff.mpr (fun pricing cost hprices hcost hne => ?_) split hsplit
        by_cases hown : isFreeId id = false ∨ isOpenrouterModel id = true
        · exact eq_plainCost_of_own hown hprices hcost hne
        · have hnot : isFreeId id = true ∧ isOpenrouterModel id = false := by simpa using hown
          exact h (not_not.mpr hnone) id pricing cost hnot.1 hnot.2 hprices hcost hne
      · exact calculateCostWithCache_balanced hsplit

end Parts

/-! ## The bill is consistent where the two rules are at one -/

/-- A model at a dollar a token, and a row for a `:free` that is not believed. -/
def dollarPrices : PriceBook := fun id =>
  if id = "acme/large" then .ok { prompt := 1, completion := 1 }
  else if id = "deepseek-r1:free" then .ok { prompt := 0, completion := 0 }
  else .ok sonnetPrice

def cachedTokens : TokenCounts := ⟨1000, 100, 400, 0⟩

end Gatewayz
