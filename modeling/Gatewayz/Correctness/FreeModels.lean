import Gatewayz.Chat.Pricing

/-!
# `Correctness.FreeModels` — what is not checked is not billed

The pre-check lets every request through whose model id ends in `:free`, whatever the user can pay. What the request is
billed is decided elsewhere: `calculate_cost` believes a `:free` only if the id looks like one of OpenRouter,
`calculate_cost_with_cache` looks the id up as it is, and a request that a priced model has served is billed by that model.
-/

namespace Gatewayz

/-! ## When a function bills nothing -/

section Laws

variable (config : PricingConfig) (prices : PriceBook) (modelId : String) (t : TokenCounts) (provider : Option String)

def ModelPricing.Charges (pricing : ModelPricing) (promptTokens completionTokens : Nat) : Prop :=
  promptTokens ≠ 0 ∧ pricing.prompt ≠ 0 ∨ completionTokens ≠ 0 ∧ pricing.completion ≠ 0

def ModelPricing.ChargesCached (pricing : ModelPricing) (multipliers : CacheMultipliers) (t : TokenCounts) : Prop :=
  t.uncached ≠ 0 ∧ pricing.prompt ≠ 0 ∨ t.cacheRead ≠ 0 ∧ pricing.readRate multipliers ≠ 0 ∨
    t.cacheWrite ≠ 0 ∧ pricing.writeRate multipliers ≠ 0 ∨ t.completion ≠ 0 ∧ pricing.completion ≠ 0

/-- `calculate_cost` bills nothing: the `:free` is believed, or no tokens have a rate. -/
def PlainFree : Prop :=
  isFreeId modelId ∧ isOpenrouterModel modelId ∨
    match prices (billedId modelId) with
    | .ok pricing => config.pricingMarkup = 0 ∨ ¬ pricing.Charges t.prompt t.completion
    | .error _ => isFreeId (billedId modelId) ∨ t.prompt = 0 ∧ t.completion = 0

/-- `calculate_cost` refuses: the rates are missing, or out of bounds. -/
def PlainRefused : Prop :=
  ¬ (isFreeId modelId ∧ isOpenrouterModel modelId) ∧
    match prices (billedId modelId) with
    | .ok pricing => (pricing.checkBounds (billedId modelId) t.prompt t.completion).toOption = none
    | .error e => e.kind = .valueError

/-- Billed by the model, the request costs nothing. -/
def BilledFree : Prop :=
  if t.cacheRead = 0 ∧ t.cacheWrite = 0 then PlainFree config prices modelId t
  else
    match prices modelId with
    | .ok pricing =>
      config.pricingMarkup = 0 ∨ ¬ pricing.ChargesCached (resolveCacheMultipliers modelId provider) t
    | .error _ => PlainFree config prices modelId t

/-- The model that served the request does not raise the bill above zero: it has no price of its own, its price is refused,
    or the request costs nothing by it. -/
def ServedFree : Prop :=
  ∀ pricing ∈ (prices modelId).toOption, pricing.isReal →
    (t.cacheRead = 0 ∧ t.cacheWrite = 0 ∧ PlainRefused prices modelId t) ∨ BilledFree config prices modelId t provider

end Laws

/-! ## Two classes of tokens -/

variable (pricing : ModelPricing)

section Plain

variable {config : PricingConfig} {prices : PriceBook} {modelId : String} {t : TokenCounts} {provider : Option String}

theorem tokens_cost_eq_zero {n : Nat} {rate : ℚ} : (n : ℚ) * rate = 0 ↔ ¬ (n ≠ 0 ∧ rate ≠ 0) := by
  rw [mul_eq_zero, Nat.cast_eq_zero]
  tauto

theorem tokens_cost_nonneg {n : Nat} {rate : ℚ} (h : 0 ≤ rate) : 0 ≤ (n : ℚ) * rate :=
  mul_nonneg (Nat.cast_nonneg n) h

theorem ModelPricing.plainCost_nonneg (p c : Nat) : 0 ≤ pricing.plainCost p c :=
  add_nonneg (tokens_cost_nonneg pricing.prompt_nonneg) (tokens_cost_nonneg pricing.completion_nonneg)

theorem ModelPricing.plainCost_eq_zero {p c : Nat} : pricing.plainCost p c = 0 ↔ ¬ pricing.Charges p c := by
  unfold plainCost Charges
  rw [add_eq_zero_iff_of_nonneg (tokens_cost_nonneg pricing.prompt_nonneg)
    (tokens_cost_nonneg pricing.completion_nonneg), tokens_cost_eq_zero, tokens_cost_eq_zero, not_or]

theorem pricedCost_eq (id : String) (p c : Nat) : pricedCost config prices id p c =
      match prices id with
      | .ok pricing => (pricing.checkBounds id p c).map fun _ => pricing.plainCost p c * config.pricingMarkup
      | .error e => .error e := by
  unfold pricedCost
  cases prices id with
  | error e => rfl
  | ok pricing =>
    show (pricing.checkBounds id p c >>= fun _ => _) = (pricing.checkBounds id p c).map _
    cases pricing.checkBounds id p c <;> rfl

theorem ModelPricing.checkBounds_error {pricing : ModelPricing} {id : String} {p c : Nat} {e : PyErr}
    (h : pricing.checkBounds id p c = .error e) : e.kind = .valueError := by
  unfold checkBounds at h
  repeat' split at h
  all_goals first | (cases h; rfl) | cases h

theorem default_cost (p c : Nat) :
    (0 : ℚ) ≤ (p + c) * (2 / 100000) ∧ (((p : ℚ) + c) * (2 / 100000) = 0 ↔ p = 0 ∧ c = 0) := by
  refine ⟨by positivity, ?_⟩
  rw [mul_eq_zero, or_iff_left (by norm_num), add_eq_zero_iff_of_nonneg (Nat.cast_nonneg _) (Nat.cast_nonneg _),
    Nat.cast_eq_zero, Nat.cast_eq_zero]

/-- What `calculate_cost` answers: it refuses, or bills a cost that is zero as said. -/
theorem calculateCost_cases (config : PricingConfig) (prices : PriceBook) (modelId : String) (t : TokenCounts) :
    (∃ e, calculateCost config prices modelId t.prompt t.completion = .error e ∧ PlainRefused prices modelId t) ∨
      ∃ total, calculateCost config prices modelId t.prompt t.completion = .ok total ∧ 0 ≤ total ∧
        ¬ PlainRefused prices modelId t ∧ (total = 0 ↔ PlainFree config prices modelId t) := by
  by_cases hfree : isFreeId modelId ∧ isOpenrouterModel modelId
  · refine .inr ⟨0, ?_, le_refl 0, fun h => h.1 hfree, fun _ => .inl hfree, fun _ => rfl⟩
    unfold calculateCost
    rw [if_pos hfree]
  have hcost : calculateCost config prices modelId t.prompt t.completion =
      tryCatch (pricedCost config prices (billedId modelId) t.prompt t.completion)
        (fallbackCost (billedId modelId) t.prompt t.completion) := by
    unfold calculateCost
    rw [if_neg hfree]
  have hrefuse : ∀ {e : PyErr}, e.kind = .valueError →
      fallbackCost (billedId modelId) t.prompt t.completion e = .error e := by
    intro e hvalue
    unfold fallbackCost
    rw [if_pos hvalue]
  rw [hcost, pricedCost_eq]
  unfold PlainRefused PlainFree
  cases hprices : prices (billedId modelId) with
  | ok pricing =>
    simp only
    cases hbounds : pricing.checkBounds (billedId modelId) t.prompt t.completion with
    | error e => exact .inl ⟨e, hrefuse (ModelPricing.checkBounds_error hbounds), hfree, rfl⟩
    | ok _ =>
      refine .inr ⟨_, rfl, mul_nonneg (pricing.plainCost_nonneg _ _) config.markup_nonneg, ?_, ?_⟩
      · rintro ⟨-, h⟩
        cases h
      · rw [mul_eq_zero, pricing.plainCost_eq_zero]
        constructor
        · exact fun h => .inr h.symm
        · rintro (h | h)
          · exact absurd h hfree
          · exact h.symm
  | error e =>
    simp only
    by_cases hvalue : e.kind = .valueError
    · exact .inl ⟨e, hrefuse hvalue, hfree, hvalue⟩
    show (∃ e', fallbackCost _ _ _ e = .error e' ∧ _) ∨ ∃ total, fallbackCost _ _ _ e = .ok total ∧ _
    unfold fallbackCost
    rw [if_neg hvalue]
    by_cases hstill : isFreeId (billedId modelId) = true
    · rw [if_pos hstill]
      exact .inr ⟨0, rfl, le_refl 0, fun h => hvalue h.2, fun _ => .inr (.inl hstill), fun _ => rfl⟩
    · rw [if_neg hstill]
      obtain ⟨hnonneg, hzero⟩ := default_cost t.prompt t.completion
      refine .inr ⟨_, rfl, hnonneg, fun h => hvalue h.2, ?_⟩
      rw [hzero]
      constructor
      · exact fun h => .inr (.inr h)
      · rintro (h | h | h)
        · exact absurd h hfree
        · exact absurd h hstill
        · exact h

theorem calculateCostSplit_total (config : PricingConfig) (prices : PriceBook) (modelId : String) (p c : Nat) :
    (calculateCostSplit config prices modelId p c).map CostSplit.total = calculateCost config prices modelId p c := by
  unfold calculateCostSplit
  cases calculateCost config prices modelId p c with
  | error e => rfl
  | ok total =>
    show Except.map _ (if total = 0 then _ else _) = _
    by_cases hzero : total = 0
    · rw [if_pos hzero, hzero]
      rfl
    · rw [if_neg hzero]
      cases prices modelId <;> rfl

end Plain

/-! ## Four classes of tokens -/

section Cached

variable {config : PricingConfig} {prices : PriceBook} {modelId : String} {t : TokenCounts} {provider : Option String}

def CacheMultipliers.Valid (m : CacheMultipliers) : Prop := 0 ≤ m.read ∧ 0 ≤ m.write

theorem CacheMultipliers.known (modelId : String) (provider : Option String) :
    (resolveCacheMultipliers modelId provider).Valid := by
  have hlookup (key : String) : ∀ m ∈ List.lookup key providerCacheMultipliers, m.Valid := by
    intro m h
    simp only [providerCacheMultipliers, List.lookup_cons] at h
    repeat' split at h
    all_goals first | cases h; constructor <;> norm_num | cases h
  have hor {a b : Option CacheMultipliers} (ha : ∀ m ∈ a, m.Valid) (hb : ∀ m ∈ b, m.Valid) :
      ((a.or b).getD defaultCacheMultipliers).Valid := by
    cases a with
    | some m => exact ha m rfl
    | none =>
      cases b with
      | some m => exact hb m rfl
      | none => constructor <;> norm_num [defaultCacheMultipliers]
  refine hor (fun m hm => ?_) (fun m hm => ?_)
  · obtain ⟨p, -, hp⟩ := Option.bind_eq_some_iff.mp hm
    exact hlookup _ m hp
  · obtain ⟨key, -, hkey⟩ := Option.bind_eq_some_iff.mp hm
    exact hlookup key m hkey

theorem rate_nonneg {own : Option ℚ} {base factor : ℚ} (hown : ∀ rate ∈ own, 0 ≤ rate) (hbase : 0 ≤ base)
    (hfactor : 0 ≤ factor) : 0 ≤ (own.filter (· ≠ 0)).getD (base * factor) := by
  cases h : own.filter (· ≠ 0) with
  | none => exact mul_nonneg hbase hfactor
  | some rate => exact hown rate (Option.filter_eq_some_iff.mp h).1

theorem ModelPricing.cachedCost_cases (m : CacheMultipliers) (hread : 0 ≤ m.read)
    (hwrite : 0 ≤ m.write) (t : TokenCounts) : 0 ≤ pricing.cachedInputCost m t + t.completion * pricing.completion ∧
      (pricing.cachedInputCost m t + t.completion * pricing.completion = 0 ↔ ¬ pricing.ChargesCached m t) := by
  have huncached := tokens_cost_nonneg (n := t.uncached) pricing.prompt_nonneg
  have hcompletion := tokens_cost_nonneg (n := t.completion) pricing.completion_nonneg
  have hreads : 0 ≤ (t.cacheRead : ℚ) * pricing.readRate m :=
    tokens_cost_nonneg (rate_nonneg pricing.cacheRead_nonneg pricing.prompt_nonneg hread)
  have hwrites : 0 ≤ (t.cacheWrite : ℚ) * pricing.writeRate m :=
    tokens_cost_nonneg (rate_nonneg pricing.cacheWrite_nonneg pricing.prompt_nonneg hwrite)
  unfold cachedInputCost
  refine ⟨by positivity, ?_⟩
  rw [add_eq_zero_iff_of_nonneg (by positivity) hcompletion, add_eq_zero_iff_of_nonneg (by positivity) hwrites,
    add_eq_zero_iff_of_nonneg huncached hreads]
  unfold ChargesCached
  simp only [tokens_cost_eq_zero, not_or, and_assoc]

/-- What `_cache_aware_split` answers. -/
theorem cacheAwareSplit_cases (config : PricingConfig) (prices : PriceBook) (modelId : String) (t : TokenCounts)
    (provider : Option String) :
    (∃ e, cacheAwareSplit config prices modelId t provider = .error e ∧ PlainRefused prices modelId t ∧
        ∀ pricing, prices modelId = .ok pricing → t.cacheRead = 0 ∧ t.cacheWrite = 0) ∨
      ∃ split, cacheAwareSplit config prices modelId t provider = .ok split ∧ 0 ≤ split.total ∧
        ¬ (t.cacheRead = 0 ∧ t.cacheWrite = 0 ∧ PlainRefused prices modelId t) ∧
        (split.total = 0 ↔ BilledFree config prices modelId t provider) := by
  have hplain := calculateCost_cases config prices modelId t
  unfold cacheAwareSplit BilledFree
  by_cases hcached : t.cacheRead = 0 ∧ t.cacheWrite = 0
  · rw [if_pos hcached, if_pos hcached]
    have htotal := calculateCostSplit_total config prices modelId t.prompt t.completion
    cases hsplit : calculateCostSplit config prices modelId t.prompt t.completion with
    | error e =>
      rw [hsplit] at htotal
      rcases hplain with ⟨e', -, hrefused⟩ | ⟨total, hok, -⟩
      · exact .inl ⟨e, rfl, hrefused, fun _ _ => hcached⟩
      · rw [← htotal] at hok
        cases hok
    | ok split =>
      rw [hsplit] at htotal
      rcases hplain with ⟨e, herr, -⟩ | ⟨total, hok, hnonneg, hserved, hzero⟩
      · rw [← htotal] at herr
        cases herr
      · rw [← htotal] at hok
        cases hok
        exact .inr ⟨split, rfl, hnonneg, fun h => hserved h.2.2, hzero⟩
  · rw [if_neg hcached, if_neg hcached]
    have hno : ¬ (t.cacheRead = 0 ∧ t.cacheWrite = 0 ∧ PlainRefused prices modelId t) := fun h => hcached ⟨h.1, h.2.1⟩
    unfold calculateCostWithCache
    rw [if_neg hcached]
    cases hprices : prices modelId with
    | error e =>
      simp only
      rcases hplain with ⟨e', herr, hrefused⟩ | ⟨total, hok, hnonneg, -, hzero⟩
      · rw [herr]
        exact .inl ⟨e', rfl, hrefused, fun pricing h => by cases h⟩
      · rw [hok]
        exact .inr ⟨_, rfl, hnonneg, hno, hzero⟩
    | ok pricing =>
      obtain ⟨hread, hwrite⟩ := CacheMultipliers.known modelId provider
      obtain ⟨hnonneg, hzero⟩ := pricing.cachedCost_cases _ hread hwrite t
      refine .inr ⟨_, rfl, mul_nonneg hnonneg config.markup_nonneg, hno, ?_⟩
      rw [mul_eq_zero, hzero]
      exact or_comm

end Cached

/-! ## The bill -/

section Bill

variable {config : PricingConfig} {prices : PriceBook} {t : TokenCounts} {provider : Option String}

theorem checkCreditSufficiency_free (config : PricingConfig) (prices : PriceBook) {r : PrecheckRequest}
    (hfree : isFreeId r.modelId) (credits : ℚ) : checkCreditSufficiency config prices r credits = .ok r.maxTokens := by
  unfold checkCreditSufficiency
  rw [if_pos hfree]

/-- What the served model answers: it has nothing to say, and nothing to bill; or it has a cost, zero as said. -/
theorem servedSplit_cases (config : PricingConfig) (prices : PriceBook) (served : String) (t : TokenCounts)
    (provider : Option String) : ((∀ split, servedSplit config prices served t provider ≠ .ok (some split)) ∧
        ServedFree config prices served t provider) ∨
      ∃ split, servedSplit config prices served t provider = .ok (some split) ∧ 0 ≤ split.total ∧
        (split.total = 0 ↔ ServedFree config prices served t provider) := by
  unfold servedSplit ServedFree
  cases hprices : prices served with
  | error e =>
    refine .inl ⟨fun split h => ?_, fun pricing hpricing => ?_⟩
    · cases h
    · cases hpricing
  | ok pricing =>
    have hself : ∀ {P : ModelPricing → Prop}, (∀ own ∈ (Except.ok (ε := PyErr) pricing).toOption, P own) ↔ P pricing := by
      intro P
      constructor
      · exact fun h => h pricing rfl
      · rintro h own hown
        cases hown
        exact h
    rw [hself]
    by_cases hreal : pricing.isReal = true
    · have hstep : (Except.ok pricing >>= fun own : ModelPricing =>
          if own.isReal then (cacheAwareSplit config prices served t provider >>= fun split => pure (some split))
          else pure none) = (cacheAwareSplit config prices served t provider >>= fun split => pure (some split)) := by
        show (if pricing.isReal then _ else _) = _
        rw [if_pos hreal]
      rw [hstep]
      rcases cacheAwareSplit_cases config prices served t provider with
        ⟨e, herr, hrefused, hplain⟩ | ⟨split, hok, hnonneg, hserved, hzero⟩
      · obtain ⟨hread, hwrite⟩ := hplain pricing hprices
        rw [herr]
        exact .inl ⟨fun split h => (by cases h), fun _ => .inl ⟨hread, hwrite, hrefused⟩⟩
      · rw [hok]
        refine .inr ⟨split, rfl, hnonneg, hzero.trans ?_⟩
        exact ⟨fun h _ => .inr h, fun h => (h hreal).resolve_left hserved⟩
    · refine .inl ⟨fun split h => ?_, fun h => absurd h hreal⟩
      change (if pricing.isReal then _ else _) = _ at h
      rw [if_neg hreal] at h
      cases h

def Substitute (requested : String) (served : Option String) (substitute : String) : Prop :=
  served = some substitute ∧ substitute ≠ "" ∧ substitute ≠ requested

theorem billed_zero_iff {requested : String} {served : Option String} {split : CostSplit}
    (hbilled : lossProofCostSplit config prices requested served t provider = .ok split) : split.total = 0 ↔
      BilledFree config prices requested t provider ∧
        ∀ substitute, Substitute requested served substitute → ServedFree config prices substitute t provider := by
  unfold lossProofCostSplit at hbilled
  rcases cacheAwareSplit_cases config prices requested t provider with
    ⟨e, herr, -⟩ | ⟨base, hok, hbase, -, hzero⟩
  · rw [herr] at hbilled
    cases hbilled
  rw [← hzero]
  -- Without a substitute the bill is the requested model's.
  have hno (hnone : ∀ substitute, ¬ Substitute requested served substitute) (hsplit : base = split) :
      split.total = 0 ↔
        base.total = 0 ∧
          ∀ substitute, Substitute requested served substitute → ServedFree config prices substitute t provider := by
    subst hsplit
    exact ⟨fun h => ⟨h, fun s hs => absurd hs (hnone s)⟩, fun h => h.1⟩
  cases hserved : served.filter (· ≠ "") with
  | none =>
    rw [hok, hserved] at hbilled
    refine hno (fun s hs => ?_) (by injection hbilled)
    rw [hs.1, Option.filter_some, if_pos (by simpa using hs.2.1)] at hserved
    cases hserved
  | some s =>
    obtain ⟨hsome, hne⟩ := Option.filter_eq_some_iff.mp hserved
    have hothers {s' : String} (hs' : Substitute requested served s') : s' = s := by
      rw [hsome] at hs'
      exact (Option.some.inj hs'.1).symm
    rw [hok, hserved] at hbilled
    change (if s = requested then _ else _) = _ at hbilled
    by_cases hsame : s = requested
    · rw [if_pos hsame] at hbilled
      exact hno (fun s' hs' => hs'.2.2 ((hothers hs').trans hsame)) (by injection hbilled)
    rw [if_neg hsame] at hbilled
    have hsub : Substitute requested served s := ⟨hsome, by simpa using hne, hsame⟩
    have hforall : (∀ s', Substitute requested served s' → ServedFree config prices s' t provider) ↔
        ServedFree config prices s t provider :=
      ⟨fun h => h s hsub, fun h s' hs' => hothers hs' ▸ h⟩
    rw [hforall]
    rcases servedSplit_cases config prices s t provider with
      ⟨hnothing, hfree⟩ | ⟨dearer, hdearer, hnonneg, hdearerZero⟩
    · have hsplit : base = split := by
        split at hbilled
        · exact absurd ‹_› (hnothing _)
        · injection hbilled
        · injection hbilled
      subst hsplit
      exact ⟨fun h => ⟨h, hfree⟩, fun h => h.1⟩
    · rw [hdearer] at hbilled
      change (if base.total < dearer.total then _ else _) = _ at hbilled
      rw [← hdearerZero]
      by_cases hless : base.total < dearer.total
      · rw [if_pos hless] at hbilled
        cases hbilled
        exact ⟨fun h => by linarith, fun h => h.2⟩
      · rw [if_neg hless] at hbilled
        cases hbilled
        exact ⟨fun h => ⟨h, by linarith⟩, fun h => h.1⟩

/-- **A request that is let through is billed at zero just when its model costs nothing and so does the model that served
    it in its place.** -/
theorem waived_is_free_iff (config : PricingConfig) (prices : PriceBook) (r : PrecheckRequest) (served : Option String)
    (t : TokenCounts) (provider : Option String) (split : CostSplit) (hwaived : isFreeId r.modelId)
    (hbilled : lossProofCostSplit config prices r.modelId served t provider = .ok split) :
    (∀ credits, checkCreditSufficiency config prices r credits = .ok r.maxTokens) ∧
      (split.total = 0 ↔
        BilledFree config prices r.modelId t provider ∧
          ∀ substitute, Substitute r.modelId served substitute → ServedFree config prices substitute t provider) :=
  ⟨checkCreditSufficiency_free config prices hwaived, billed_zero_iff hbilled⟩

/-- A model with a price, and the same model as `:free`: both names find the price. -/
def sonnetPrices : PriceBook := fun id =>
  if id = "meta/llama:free" then .ok { prompt := 0, completion := 0 }
  else .ok sonnetPrice

def freeLlama : PrecheckRequest := ⟨"meta/llama:free", 10, none, 4096⟩

theorem waived_is_free_iff_llama :
    (∀ credits, checkCreditSufficiency {} sonnetPrices freeLlama credits = .ok none) ∧
      ((0 : ℚ) = 0 ↔
        BilledFree {} sonnetPrices "meta/llama:free" ⟨100, 50, 0, 0⟩ (some "openrouter") ∧
          ∀ substitute, Substitute "meta/llama:free" (some "meta/llama:free") substitute →
            ServedFree {} sonnetPrices substitute ⟨100, 50, 0, 0⟩ (some "openrouter")) :=
  waived_is_free_iff {} sonnetPrices freeLlama (some "meta/llama:free") ⟨100, 50, 0, 0⟩ (some "openrouter") ⟨0, 0, 0⟩
    (by decide +kernel) (by decide +kernel)

/-- Three requests of users who have nothing, let through and billed: the name of a provider before `:free`; tokens in the
    cache; a substitute with a price. -/
theorem waived_and_billed :
    let deepseek : PrecheckRequest := ⟨"deepseek-r1:free", 10, none, 4096⟩
    let claude : PrecheckRequest := ⟨"anthropic/claude-sonnet-4:free", 10, none, 4096⟩
    (checkCreditSufficiency {} sonnetPrices deepseek 0 = .ok none ∧
      (lossProofCostSplit {} sonnetPrices deepseek.modelId (some deepseek.modelId) ⟨1000, 1000, 0, 0⟩ none).map
        CostSplit.total = .ok (9 / 400)) ∧
    (checkCreditSufficiency {} sonnetPrices claude 0 = .ok none ∧
      (lossProofCostSplit {} sonnetPrices claude.modelId (some claude.modelId) ⟨1000, 1000, 500, 0⟩
        (some "anthropic")).map CostSplit.total = .ok (333 / 16000)) ∧
    (checkCreditSufficiency {} sonnetPrices freeLlama 0 = .ok none ∧
      (lossProofCostSplit {} sonnetPrices freeLlama.modelId (some "meta/llama") ⟨1000, 1000, 0, 0⟩ none).map
        CostSplit.total = .ok (9 / 400)) := by
  decide +kernel

end Bill

end Gatewayz
