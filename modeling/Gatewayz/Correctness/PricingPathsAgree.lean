import Gatewayz.Chat.PriceLookup
import Gatewayz.Correctness.ConsistentBill

/-!
# `Correctness.PricingPathsAgree` — two lookups, and when they tell the same price

Both lookups run the same five steps, and leave the same state behind whatever happens (`getModelPricing_state`). They part where
something is raised before the cache has been read that is not a `ValueError` (`Escapes`): then one of them sells every model at the
default price, and the other one refuses those of an expensive family.
-/

namespace Gatewayz.PriceLookup

/-! ## The claim -/

/-- A `ValueError` was raised. -/
def Refused {α : Type} (x : Except PyErr α) : Prop := ∃ e, x = .error e ∧ e.kind = .valueError

/-- Two answers agree: both are refusals, or the same value; and the cache is the same. -/
structure Agree {α : Type} (x y : Except PyErr α × PricingState) : Prop where
  answer : Refused x.1 ∧ Refused y.1 ∨ ∃ a, x.1 = .ok a ∧ y.1 = .ok a
  cache : x.2.cache = y.2.cache

namespace Sources

variable (s : Sources) (modelId : String) (st : PricingState)

/-- Something that is not a `ValueError` is raised before the cache is read. -/
def Escapes : Prop := ∃ e, s.prepare modelId = .error e ∧ e.kind ≠ .valueError

/-- The lookup is tried, or refused at once: the catalog is not being built, and nothing else is raised. -/
def Tried : Prop := (∃ ids, s.prepare modelId = .ok (some ids)) ∨ ∃ e, s.prepare modelId = .error e ∧ e.kind = .valueError

/-- The model has no price: not in the cache, and not in any of the sources. -/
structure Unpriced : Prop where
  cache : ∀ ids, s.prepare modelId = .ok (some ids) → st.fresh ids.normalized s.now = none
  database : ∀ ids, s.prepare modelId = .ok (some ids) → s.getPricingFromDatabase ids.candidates = none
  manual : ∀ ids, s.prepare modelId = .ok (some ids) → s.getManualPricing ids.candidates = none
  catalog : ∀ ids, s.prepare modelId = .ok (some ids) → s.getPricingFromCacheFallback ids.candidates = none

def HighValue : Prop := isHighValue modelId = true ∨ ∃ normalized, s.normalize modelId = .ok normalized ∧ isHighValue normalized = true

end Sources

/-! ## What is raised -/

section Raised

variable {s : Sources} {modelId : String} {st st' : PricingState} {e : PyErr}

theorem lookUpPricing_of_error (st : PricingState) (h : s.prepare modelId = .error e) : s.lookUpPricing modelId st = (.error e, st) := by
  unfold Sources.lookUpPricing
  rw [h]

variable {ids : LookupIds}

theorem lookUpPricing_of_ids (st : PricingState) (h : s.prepare modelId = .ok (some ids)) :
    Refused (s.lookUpPricing modelId st).1 ∨ ∃ pricing, (s.lookUpPricing modelId st).1 = .ok pricing := by
  unfold Sources.lookUpPricing
  rw [h]
  dsimp only
  cases st.fresh ids.normalized s.now with
  | some pricing => exact .inr ⟨pricing, rfl⟩
  | none =>
    dsimp only
    rcases s.search ids (st.put ids.normalized none) with ⟨found, after⟩
    cases found with
    | some pricing => exact .inr ⟨pricing, rfl⟩
    | none =>
      change Refused (s.lastResort modelId ids after).1 ∨ ∃ pricing, (s.lastResort modelId ids after).1 = .ok pricing
      unfold Sources.lastResort
      split
      · exact .inl ⟨_, rfl, rfl⟩
      · exact .inr ⟨defaultPricing, rfl⟩

/-- What the lookup raises is a `ValueError`, or was raised before the cache was read. -/
theorem lookUpPricing_cases (s : Sources) (modelId : String) (st : PricingState) :
    (∃ pricing, (s.lookUpPricing modelId st).1 = .ok pricing) ∨ Refused (s.lookUpPricing modelId st).1 ∨
      ∃ e, s.prepare modelId = .error e ∧ e.kind ≠ .valueError ∧ s.lookUpPricing modelId st = (.error e, st) := by
  cases hprepare : s.prepare modelId with
  | error e =>
    have hlookup := lookUpPricing_of_error st hprepare
    by_cases hvalue : e.kind = .valueError
    · exact .inr (.inl ⟨e, by rw [hlookup], hvalue⟩)
    · exact .inr (.inr ⟨e, rfl, hvalue, hlookup⟩)
  | ok ids =>
    cases ids with
    | none =>
      refine .inl ⟨defaultPricing, ?_⟩
      unfold Sources.lookUpPricing
      rw [hprepare]
    | some ids =>
      rcases lookUpPricing_of_ids st hprepare with hrefused | hok
      · exact .inr (.inl hrefused)
      · exact .inl hok

theorem normalized_of_prepare {normalized : String} (h : s.prepare modelId = .ok (some ids))
    (hnormalized : s.normalize modelId = .ok normalized) : ids.normalized = normalized := by
  unfold Sources.prepare at h
  cases hbuilding : s.building with
  | error e =>
    rw [hbuilding] at h
    cases h
  | ok building =>
    rw [hbuilding, hnormalized] at h
    cases building with
    | true => cases h
    | false =>
      cases haliased : s.aliased normalized with
      | error e =>
        change (s.aliased normalized >>= fun aliased => _) = _ at h
        rw [haliased] at h
        cases h
      | ok aliased =>
        change (s.aliased normalized >>= fun aliased => _) = _ at h
        rw [haliased] at h
        cases h
        rfl

/-! ## The two lookups -/

theorem getModelPricing_of_escape (st : PricingState) (h : s.prepare modelId = .error e) (hother : e.kind ≠ .valueError) :
    s.getModelPricing modelId st = (.ok defaultPricing, st.track modelId s.later (some e.text)) := by
  unfold Sources.getModelPricing
  rw [lookUpPricing_of_error st h]
  exact if_neg hother

theorem getModelPricingAsync_of_escape (st : PricingState) (h : s.prepare modelId = .error e) (hother : e.kind ≠ .valueError) :
    s.getModelPricingAsync modelId st =
      (if isHighValue modelId then
          .error (.valueError
            ("Pricing data not available for high-value model '" ++ modelId ++ "'. Request blocked to prevent under-billing."))
        else .ok defaultPricing,
        st.track modelId s.later (some e.text)) := by
  unfold Sources.getModelPricingAsync
  rw [lookUpPricing_of_error st h]
  exact if_neg hother

theorem getModelPricing_of_not_escapes (st : PricingState) (h : ¬ s.Escapes modelId) :
    s.getModelPricing modelId st = s.lookUpPricing modelId st ∧ s.getModelPricingAsync modelId st = s.lookUpPricing modelId st := by
  unfold Sources.getModelPricing Sources.getModelPricingAsync
  rcases lookUpPricing_cases s modelId st with ⟨pricing, hok⟩ | ⟨e, herror, hvalue⟩ | ⟨e, hprepare, hother, -⟩
  · rcases hlookup : s.lookUpPricing modelId st with ⟨answer, after⟩
    rw [hlookup] at hok
    cases hok
    exact ⟨rfl, rfl⟩
  · rcases hlookup : s.lookUpPricing modelId st with ⟨answer, after⟩
    rw [hlookup] at herror
    cases herror
    exact ⟨if_pos hvalue, if_pos hvalue⟩
  · exact absurd ⟨e, hprepare, hother⟩ h

/-- Neither raises anything but a `ValueError`. -/
theorem getModelPricing_cases (s : Sources) (modelId : String) (st : PricingState) :
    Refused (s.getModelPricing modelId st).1 ∨ ∃ pricing, (s.getModelPricing modelId st).1 = .ok pricing := by
  by_cases h : s.Escapes modelId
  · obtain ⟨e, hprepare, hother⟩ := h
    rw [getModelPricing_of_escape st hprepare hother]
    exact .inr ⟨defaultPricing, rfl⟩
  · rw [(getModelPricing_of_not_escapes st h).1]
    rcases lookUpPricing_cases s modelId st with hok | hrefused | ⟨e, hprepare, hother, -⟩
    · exact .inr hok
    · exact .inl hrefused
    · exact absurd ⟨e, hprepare, hother⟩ h

theorem getModelPricing_eq (st : PricingState) (h : ¬ (s.Escapes modelId ∧ isHighValue modelId = true)) :
    s.getModelPricing modelId st = s.getModelPricingAsync modelId st := by
  by_cases hescapes : s.Escapes modelId
  · have hcheap : ¬ isHighValue modelId = true := fun hhigh => h ⟨hescapes, hhigh⟩
    obtain ⟨e, hprepare, hother⟩ := hescapes
    rw [getModelPricing_of_escape st hprepare hother, getModelPricingAsync_of_escape st hprepare hother, if_neg hcheap]
  · obtain ⟨hsync, hasync⟩ := getModelPricing_of_not_escapes st hescapes
    rw [hsync, hasync]

theorem getModelPricing_apart (st : PricingState) (h : s.Escapes modelId) (hhigh : isHighValue modelId = true) :
    (s.getModelPricing modelId st).1 = .ok defaultPricing ∧ Refused (s.getModelPricingAsync modelId st).1 := by
  obtain ⟨e, hprepare, hother⟩ := h
  rw [getModelPricing_of_escape st hprepare hother, getModelPricingAsync_of_escape st hprepare hother, if_pos hhigh]
  exact ⟨rfl, _, rfl, rfl⟩

theorem lookUpPricing_refused (hprepare : s.prepare modelId = .ok (some ids))
    (hunpriced : s.Unpriced modelId st) (hhigh : s.HighValue modelId) : Refused (s.lookUpPricing modelId st).1 := by
  have hname : isHighValue modelId = true ∨ isHighValue ids.normalized = true := by
    refine hhigh.imp_right ?_
    rintro ⟨normalized, hnormalized, hpattern⟩
    exact normalized_of_prepare hprepare hnormalized ▸ hpattern
  unfold Sources.lookUpPricing
  rw [hprepare]
  dsimp only
  rw [hunpriced.cache ids hprepare]
  unfold Sources.search
  rw [hunpriced.database ids hprepare, hunpriced.manual ids hprepare, hunpriced.catalog ids hprepare]
  change Refused (s.lastResort modelId ids (st.put ids.normalized none)).1
  unfold Sources.lastResort
  rw [if_pos (by simpa using hname)]
  exact ⟨_, rfl, rfl⟩

theorem refused_iff_tried (hunpriced : s.Unpriced modelId st) (hhigh : s.HighValue modelId) :
    Refused (s.getModelPricing modelId st).1 ∧ Refused (s.getModelPricingAsync modelId st).1 ↔ s.Tried modelId := by
  cases hprepare : s.prepare modelId with
  | error e =>
    by_cases hvalue : e.kind = .valueError
    · have hnot : ¬ s.Escapes modelId := by
        rintro ⟨other, hother, hkind⟩
        rw [hprepare] at hother
        cases hother
        exact hkind hvalue
      refine iff_of_true ?_ (.inr ⟨e, hprepare, hvalue⟩)
      obtain ⟨hsync, hasync⟩ := getModelPricing_of_not_escapes st hnot
      rw [hsync, hasync, lookUpPricing_of_error st hprepare]
      exact ⟨⟨e, rfl, hvalue⟩, e, rfl, hvalue⟩
    · refine iff_of_false ?_ ?_
      · rintro ⟨⟨other, herror, -⟩, -⟩
        rw [getModelPricing_of_escape st hprepare hvalue] at herror
        cases herror
      · rintro (⟨ids, hids⟩ | ⟨other, hother, hkind⟩)
        · rw [hprepare] at hids
          cases hids
        · rw [hprepare] at hother
          cases hother
          exact hvalue hkind
  | ok found =>
    have hnot : ¬ s.Escapes modelId := by
      rintro ⟨e, herror, -⟩
      rw [hprepare] at herror
      cases herror
    obtain ⟨hsync, hasync⟩ := getModelPricing_of_not_escapes st hnot
    rw [hsync, hasync]
    cases found with
    | none =>
      refine iff_of_false ?_ ?_
      · rintro ⟨⟨e, herror, -⟩, -⟩
        unfold Sources.lookUpPricing at herror
        rw [hprepare] at herror
        cases herror
      · rintro (⟨ids, hids⟩ | ⟨e, herror, -⟩)
        · rw [hprepare] at hids
          cases hids
        · rw [hprepare] at herror
          cases herror
    | some ids =>
      have hrefused : Refused (s.lookUpPricing modelId st).1 := lookUpPricing_refused hprepare hunpriced hhigh
      exact iff_of_true ⟨hrefused, hrefused⟩ (.inl ⟨ids, hprepare⟩)

end Raised

/-! ## The two costs -/

section Costs

variable {config : PricingConfig} {prices others : PriceBook} {modelId : String} {p c : ℕ} {e : PyErr}

theorem calculateCost_congr (h : prices (billedId modelId) = others (billedId modelId)) :
    Gatewayz.calculateCost config prices modelId p c = Gatewayz.calculateCost config others modelId p c := by
  unfold Gatewayz.calculateCost pricedCost
  rw [h]

theorem calculateCost_refused (hnot : ¬ (isFreeId modelId = true ∧ isOpenrouterModel modelId = true))
    (h : Refused (prices (billedId modelId))) : Refused (Gatewayz.calculateCost config prices modelId p c) := by
  obtain ⟨e, herror, hvalue⟩ := h
  refine ⟨e, ?_, hvalue⟩
  unfold Gatewayz.calculateCost
  rw [if_neg hnot, pricedCost_eq, herror]
  exact if_pos hvalue

theorem defaultPricing_inBounds (p c : ℕ) : defaultPricing.InBounds p c := by
  by_cases hnone : p + c = 0
  · exact .inl hnone
  have htokens : (p : ℚ) + c ≠ 0 := by exact_mod_cast hnone
  have hper : defaultPricing.costPer1k p c = 1 / 50 := by
    unfold ModelPricing.costPer1k ModelPricing.plainCost defaultPricing
    field_simp
    norm_num
  refine .inr ?_
  rw [hper]
  norm_num

theorem calculateCost_default (config : PricingConfig) (prices : PriceBook) (modelId : String) (p c : ℕ)
    (h : prices (billedId modelId) = .ok defaultPricing) :
    ∃ cost, Gatewayz.calculateCost config prices modelId p c = .ok cost := by
  by_cases hfree : isFreeId modelId = true ∧ isOpenrouterModel modelId = true
  · exact ⟨_, calculateCost_eq_ok_iff.mpr (.free hfree)⟩
  · exact ⟨_, calculateCost_eq_ok_iff.mpr (.listed hfree h (defaultPricing_inBounds p c))⟩

theorem fallbackCost_error {raised : PyErr} (h : fallbackCost modelId p c e = .error raised) : raised.kind = .valueError := by
  unfold fallbackCost at h
  split at h
  · next hvalue =>
    cases h
    exact hvalue
  · split at h
    · cases h
    · cases h

theorem calculateCost_error (h : Gatewayz.calculateCost config prices modelId p c = .error e) : e.kind = .valueError := by
  unfold Gatewayz.calculateCost at h
  split at h
  · cases h
  · rw [pricedCost_eq] at h
    cases hprices : prices (billedId modelId) with
    | error other =>
      rw [hprices] at h
      exact fallbackCost_error h
    | ok pricing =>
      rw [hprices] at h
      dsimp only at h
      cases hbounds : pricing.checkBounds (billedId modelId) p c with
      | error other =>
        rw [hbounds] at h
        exact fallbackCost_error h
      | ok =>
        rw [hbounds] at h
        cases h

theorem calculateCost_refused_or (config : PricingConfig) (prices : PriceBook) (modelId : String) (p c : ℕ) :
    Refused (Gatewayz.calculateCost config prices modelId p c) ∨ ∃ cost, Gatewayz.calculateCost config prices modelId p c = .ok cost := by
  cases hcost : Gatewayz.calculateCost config prices modelId p c with
  | error e => exact .inl ⟨e, rfl, calculateCost_error hcost⟩
  | ok cost => exact .inr ⟨cost, rfl⟩

theorem Agree.of_eq {α : Type} {x y : Except PyErr α × PricingState} (h : x = y) (hx : Refused x.1 ∨ ∃ a, x.1 = .ok a) : Agree x y := by
  subst h
  refine ⟨?_, rfl⟩
  rcases hx with hrefused | ⟨a, hok⟩
  · exact .inl ⟨hrefused, hrefused⟩
  · exact .inr ⟨a, hok, hok⟩

theorem not_agree_of_apart {α : Type} {x y : Except PyErr α × PricingState} {a : α} (hx : x.1 = .ok a) (hy : Refused y.1) :
    ¬ Agree x y := by
  obtain ⟨e, herror, -⟩ := hy
  rintro ⟨⟨⟨other, hother, -⟩, -⟩ | ⟨b, -, hok⟩, -⟩
  · rw [hx] at hother
    cases hother
  · rw [herror] at hok
    cases hok

theorem calculateCost_agree_iff (s : Sources) (config : PricingConfig) (modelId : String) (p c : ℕ) (st : PricingState) :
    Agree (s.calculateCost config modelId p c st) (s.calculateCostAsync config modelId p c st) ↔
      isFreeId modelId = true ∧ isOpenrouterModel modelId = true ∨
        ¬ (s.Escapes (billedId modelId) ∧ isHighValue (billedId modelId) = true) := by
  by_cases hapart : s.Escapes (billedId modelId) ∧ isHighValue (billedId modelId) = true
  · obtain ⟨hdefault, hrefused⟩ := getModelPricing_apart st hapart.1 hapart.2
    by_cases hfree : isFreeId modelId = true ∧ isOpenrouterModel modelId = true
    · refine iff_of_true ⟨.inr ⟨0, if_pos hfree, if_pos hfree⟩, ?_⟩ (.inl hfree)
      change (if _ then st else _ : PricingState).cache = (if _ then st else _ : PricingState).cache
      rw [if_pos hfree, if_pos hfree]
    · obtain ⟨cost, hcost⟩ := calculateCost_default config (fun id => (s.getModelPricing id st).1) modelId p c hdefault
      refine iff_of_false (not_agree_of_apart hcost (calculateCost_refused hfree hrefused)) ?_
      rintro (h | h)
      · exact hfree h
      · exact h hapart
  · have heq := getModelPricing_eq st hapart
    refine iff_of_true (Agree.of_eq (Prod.ext ?_ ?_) (calculateCost_refused_or config _ modelId p c)) (.inr hapart)
    · exact calculateCost_congr (congrArg Prod.fst heq)
    · change (if _ then st else _ : PricingState) = (if _ then st else _ : PricingState)
      rw [heq]

end Costs

/-! ## The two paths agree unless something escapes for an expensive model -/

theorem getModelPricing_agree_iff (s : Sources) (modelId : String) (st : PricingState) :
    Agree (s.getModelPricing modelId st) (s.getModelPricingAsync modelId st) ↔ ¬ (s.Escapes modelId ∧ isHighValue modelId = true) := by
  by_cases hapart : s.Escapes modelId ∧ isHighValue modelId = true
  · obtain ⟨hdefault, hrefused⟩ := getModelPricing_apart st hapart.1 hapart.2
    exact iff_of_false (not_agree_of_apart hdefault hrefused) (not_not.mpr hapart)
  · exact iff_of_true (Agree.of_eq (getModelPricing_eq st hapart) (getModelPricing_cases s modelId st)) hapart

/-- **When the two paths agree**: the prices do unless something that is not a `ValueError` escapes for an id that names an expensive
    family; the costs do unless that is so of the id that is billed; and an expensive model without a price is refused on both paths
    just when its lookup is tried, or refused at once. -/
theorem pricing_paths_agree_iff (s : Sources) (config : PricingConfig) (modelId : String) (st : PricingState) :
    (Agree (s.getModelPricing modelId st) (s.getModelPricingAsync modelId st) ↔ ¬ (s.Escapes modelId ∧ isHighValue modelId = true)) ∧
      (∀ p c, Agree (s.calculateCost config modelId p c st) (s.calculateCostAsync config modelId p c st) ↔
        isFreeId modelId = true ∧ isOpenrouterModel modelId = true ∨
          ¬ (s.Escapes (billedId modelId) ∧ isHighValue (billedId modelId) = true)) ∧
      (s.Unpriced modelId st → s.HighValue modelId →
        (Refused (s.getModelPricing modelId st).1 ∧ Refused (s.getModelPricingAsync modelId st).1 ↔ s.Tried modelId)) :=
  ⟨getModelPricing_agree_iff s modelId st, fun p c => calculateCost_agree_iff s config modelId p c st, refused_iff_tried⟩

def withoutAliases : Sources where
  normalize _ := .error ⟨.other, "'NoneType' object has no attribute 'get'"⟩
  now := 0
  later := 0

/-- An expensive model without a price, when the normalisation raises: sold at the default price on one path, refused on the other. -/
theorem pricing_paths_apart :
    (withoutAliases.getModelPricing "anthropic/claude-opus-4" {}).1 = .ok defaultPricing ∧
      Refused (withoutAliases.getModelPricingAsync "anthropic/claude-opus-4" {}).1 ∧
      ¬ Agree (withoutAliases.getModelPricing "anthropic/claude-opus-4" {})
        (withoutAliases.getModelPricingAsync "anthropic/claude-opus-4" {}) ∧
      ¬ Agree (withoutAliases.calculateCost {} "anthropic/claude-opus-4" 1000 1000 {})
        (withoutAliases.calculateCostAsync {} "anthropic/claude-opus-4" 1000 1000 {}) := by
  have hescapes : withoutAliases.Escapes "anthropic/claude-opus-4" := ⟨_, rfl, by decide⟩
  have hhigh : isHighValue "anthropic/claude-opus-4" = true := by decide +kernel
  obtain ⟨hdefault, hrefused⟩ := getModelPricing_apart {} hescapes hhigh
  refine ⟨hdefault, hrefused, not_agree_of_apart hdefault hrefused, fun hagree => ?_⟩
  rcases (calculateCost_agree_iff withoutAliases {} "anthropic/claude-opus-4" 1000 1000 {}).mp hagree with hfree | hnot
  · exact absurd hfree.1 (by decide +kernel)
  · have hbilled : billedId "anthropic/claude-opus-4" = "anthropic/claude-opus-4" := billedId_of_not_free (by decide +kernel)
    rw [hbilled] at hnot
    exact hnot ⟨hescapes, hhigh⟩

end Gatewayz.PriceLookup
