import Gatewayz.Chat.Routers

/-!
# `Correctness.HonestRanking` — what the ranking of offers promises

The chain is the eligible offers, sorted by a key of each (`buildFailoverChain_eq`), and the key does not depend on their order. So the order
of the input shows exactly where two different offers share a key; an offer stands below one that is worse exactly where the policy has no
weight for what makes it better; and a latency that is missing counts as the best one there is.
-/

namespace Gatewayz.SmartRouter

open Exec.Dictionary

/-! ## The claim -/

def CircuitState.badness : CircuitState → Nat
  | .closed => 0
  | .halfOpen => 1
  | .opened => 2

/-- One offer is no worse than another in anything, and better in something. -/
structure Dominates (a b : ProviderOffer) : Prop where
  price : a.pricePer1k ≤ b.pricePer1k
  latency : a.p95Ms ≤ b.p95Ms
  quality : b.qualityPrior ≤ a.qualityPrior
  health : a.circuitState.badness ≤ b.circuitState.badness
  better : a.pricePer1k < b.pricePer1k ∨ a.p95Ms < b.p95Ms ∨ b.qualityPrior < a.qualityPrior ∨
    a.circuitState.badness < b.circuitState.badness

/-- One row has no latency, the other one does, and they are the same otherwise. -/
structure LatencyTwins (unknown known : OfferRow) : Prop where
  missing : unknown.p95Ms = none
  latency : ∃ ms, known.p95Ms = some ms ∧ ms ≠ 0
  canonicalId : unknown.canonicalId = known.canonicalId
  upstreamCost : unknown.upstreamCost = known.upstreamCost
  qualityPrior : unknown.qualityPrior = known.qualityPrior
  isActive : unknown.isActive = known.isActive

/-- What is asked of the router: the offers of a request, a chain with a ranking of slugs, and rows of the projection. -/
structure RouterInput where
  offers : List ProviderOffer
  request : RoutingRequest
  markup : ℚ
  chain : List String
  rankedSlugs : List String
  policy : RoutingPolicy
  rows : List OfferRow

def RouterInput.eligible (input : RouterInput) : List ProviderOffer := input.offers.filter (isEligible input.request input.markup)

def RouterInput.ranked (input : RouterInput) : List ProviderOffer := buildFailoverChain input.offers input.request input.markup

/-- The router ranks honestly. -/
structure Honest (input : RouterInput) : Prop where
  complete : input.ranked.Perm input.eligible
  anyOrder : ∀ offers, offers.Perm input.offers → buildFailoverChain offers input.request input.markup = input.ranked
  dominance : ∀ a b, Dominates a b → ¬[b, a].Sublist input.ranked
  byPrice : input.request.policy = .cost → (∀ o ∈ input.eligible, o.circuitState = .closed) →
    input.ranked.Pairwise fun a b => a.pricePer1k ≤ b.pricePer1k
  reorders : input.chain.Nodup → (reorderChainByRanking input.chain input.rankedSlugs).Perm input.chain
  knownFirst : ∀ unknown ∈ input.rows, ∀ known ∈ input.rows, LatencyTwins unknown known →
    ¬[unknown.toOffer input.markup, known.toOffer input.markup].Sublist (rankRows input.policy input.markup input.rows)

/-! ## Scores of one offer -/

/-- `_normalize`, of one of the values. -/
def normalized (higherIsBetter : Bool) (values : List ℚ) (v : ℚ) : ℚ :=
  if maxOf values = minOf values then 1
  else if higherIsBetter then (v - minOf values) / (maxOf values - minOf values)
  else (maxOf values - v) / (maxOf values - minOf values)

def penalty (o : ProviderOffer) : ℚ := if o.circuitState = .halfOpen then halfOpenPenalty else 0

def merit (offers : List ProviderOffer) (policy : RoutingPolicy) (o : ProviderOffer) : ℚ :=
  (policyWeights policy).quality * normalized true (offers.map ProviderOffer.qualityPrior) o.qualityPrior - penalty o

def score (offers : List ProviderOffer) (policy : RoutingPolicy) (o : ProviderOffer) : ℚ :=
  (policyWeights policy).cost * normalized false (offers.map ProviderOffer.pricePer1k) o.pricePer1k +
    (policyWeights policy).latency * normalized false (offers.map ProviderOffer.p95Ms) o.p95Ms + merit offers policy o

def offerKey (offers : List ProviderOffer) (policy : RoutingPolicy) (o : ProviderOffer) : SortKey := sortKey (o, score offers policy o)

/-! ## Least and greatest values -/

section Extremes

variable {values : List ℚ} {v w : ℚ}

theorem minOf_spec (h : values ≠ []) : minOf values ∈ values ∧ ∀ v ∈ values, minOf values ≤ v := by
  obtain ⟨a, l, rfl⟩ := List.exists_cons_of_ne_nil h
  rw [minOf, List.headD_cons, List.foldl_cons, min_self]
  exact List.min?_eq_some_iff.mp List.min?_cons'

theorem maxOf_spec (h : values ≠ []) : maxOf values ∈ values ∧ ∀ v ∈ values, v ≤ maxOf values := by
  obtain ⟨a, l, rfl⟩ := List.exists_cons_of_ne_nil h
  rw [maxOf, List.headD_cons, List.foldl_cons, max_self]
  exact List.max?_eq_some_iff.mp List.max?_cons'

theorem minOf_mem (h : v ∈ values) : minOf values ∈ values := (minOf_spec (List.ne_nil_of_mem h)).1

theorem minOf_le (h : v ∈ values) : minOf values ≤ v := (minOf_spec (List.ne_nil_of_mem h)).2 v h

theorem maxOf_mem (h : v ∈ values) : maxOf values ∈ values := (maxOf_spec (List.ne_nil_of_mem h)).1

theorem le_maxOf (h : v ∈ values) : v ≤ maxOf values := (maxOf_spec (List.ne_nil_of_mem h)).2 v h

variable {values' : List ℚ}

theorem minOf_perm (h : values.Perm values') : minOf values = minOf values' := by
  cases values with
  | nil => rw [h.symm.eq_nil]
  | cons a l =>
    have ha : a ∈ a :: l := List.mem_cons_self
    have ha' : a ∈ values' := h.mem_iff.mp ha
    exact le_antisymm (minOf_le (h.mem_iff.mpr (minOf_mem ha'))) (minOf_le (h.mem_iff.mp (minOf_mem ha)))

theorem maxOf_perm (h : values.Perm values') : maxOf values = maxOf values' := by
  cases values with
  | nil => rw [h.symm.eq_nil]
  | cons a l =>
    have ha : a ∈ a :: l := List.mem_cons_self
    have ha' : a ∈ values' := h.mem_iff.mp ha
    exact le_antisymm (le_maxOf (h.mem_iff.mp (maxOf_mem ha))) (le_maxOf (h.mem_iff.mpr (maxOf_mem ha')))

theorem normalized_le (hv : v ∈ values) (h : v ≤ w) : normalized false values w ≤ normalized false values v := by
  unfold normalized
  split
  · exact le_rfl
  · next hne =>
    have hspread := sub_nonneg.mpr ((minOf_le hv).trans (le_maxOf hv))
    rw [if_neg Bool.false_ne_true, if_neg Bool.false_ne_true]
    exact div_le_div_of_nonneg_right (sub_le_sub_left h _) hspread

theorem normalized_lt (hv : v ∈ values) (hw : w ∈ values) (h : v < w) : normalized false values w < normalized false values v := by
  have hspread : minOf values < maxOf values := ((minOf_le hv).trans_lt h).trans_le (le_maxOf hw)
  unfold normalized
  rw [if_neg hspread.ne', if_neg hspread.ne', if_neg Bool.false_ne_true, if_neg Bool.false_ne_true]
  exact div_lt_div_of_pos_right (sub_lt_sub_left h _) (sub_pos.mpr hspread)

theorem normalized_le_of_higher (hv : v ∈ values) (h : v ≤ w) : normalized true values v ≤ normalized true values w := by
  unfold normalized
  split
  · exact le_rfl
  · next hne =>
    have hspread := sub_nonneg.mpr ((minOf_le hv).trans (le_maxOf hv))
    rw [if_pos rfl, if_pos rfl]
    exact div_le_div_of_nonneg_right (sub_le_sub_right h _) hspread

theorem normalized_lt_of_higher (hv : v ∈ values) (hw : w ∈ values) (h : v < w) : normalized true values v < normalized true values w := by
  have hspread : minOf values < maxOf values := ((minOf_le hv).trans_lt h).trans_le (le_maxOf hw)
  unfold normalized
  rw [if_neg hspread.ne', if_neg hspread.ne', if_pos rfl, if_pos rfl]
  exact div_lt_div_of_pos_right (sub_lt_sub_right h _) (sub_pos.mpr hspread)

theorem normalize_eq (higherIsBetter : Bool) (values : List ℚ) : normalize higherIsBetter values = values.map (normalized higherIsBetter values) := by
  unfold normalize
  dsimp only
  by_cases hequal : maxOf values = minOf values
  · rw [if_pos hequal]
    exact List.map_congr_left fun v _ => (if_pos hequal).symm
  · rw [if_neg hequal]
    cases higherIsBetter with
    | true => exact List.map_congr_left fun v _ => by rw [normalized, if_neg hequal]; rfl
    | false => exact List.map_congr_left fun v _ => by rw [normalized, if_neg hequal]; rfl

theorem normalized_perm (h : values.Perm values') (higherIsBetter : Bool) :
    normalized higherIsBetter values = normalized higherIsBetter values' := by
  funext v
  unfold normalized
  rw [minOf_perm h, maxOf_perm h]

end Extremes

/-! ## The chain -/

theorem zip_map_self {A B : Type} (l : List A) (f : A → B) : l.zip (l.map f) = l.map fun a => (a, f a) := by
  induction l with
  | nil => rfl
  | cons a l ih => rw [List.map_cons, List.zip_cons_cons, ih, List.map_cons]

theorem scoreOffers_eq (offers : List ProviderOffer) (policy : RoutingPolicy) : scoreOffers offers policy = offers.map (score offers policy) := by
  unfold scoreOffers
  dsimp only
  rw [normalize_eq, normalize_eq, normalize_eq, List.map_map, List.map_map, List.map_map, List.zip_map', List.zip_map', zip_map_self,
    List.map_map]
  refine List.map_congr_left fun o _ => ?_
  rw [Function.comp_apply, score, merit, penalty]
  split
  · exact add_sub_assoc _ _ _
  · rw [sub_zero]
    rfl

theorem buildFailoverChain_eq (offers : List ProviderOffer) (request : RoutingRequest) (markup : ℚ) :
    buildFailoverChain offers request markup =
      sortOn (offerKey (offers.filter (isEligible request markup)) request.policy) (offers.filter (isEligible request markup)) := by
  unfold buildFailoverChain
  dsimp only
  rw [scoreOffers_eq, zip_map_self, sortOn_map, List.map_map]
  exact List.map_id _

theorem offerKey_perm {offers offers' : List ProviderOffer} (h : offers.Perm offers') (policy : RoutingPolicy) :
    offerKey offers policy = offerKey offers' policy := by
  funext o
  unfold offerKey score merit
  rw [normalized_perm (h.map _), normalized_perm (h.map _), normalized_perm (h.map _)]

theorem isEligible_iff {request : RoutingRequest} {markup : ℚ} {o : ProviderOffer} :
    isEligible request markup o = true ↔ o.canonicalId = request.canonicalId ∧ o.isActive = true ∧ o.circuitState ≠ .opened ∧
      request.requiredCapabilities ⊆ o.capabilities ∧ o.upstreamCostPer1k * markup ≤ o.pricePer1k := by
  unfold isEligible
  simp only [Bool.and_eq_true, decide_eq_true_eq, and_assoc]

/-! ## Better offers -/

theorem weights_nonneg (policy : RoutingPolicy) :
    0 ≤ (policyWeights policy).cost ∧ 0 ≤ (policyWeights policy).latency ∧ 0 ≤ (policyWeights policy).quality := by
  cases policy with
  | cost => exact ⟨by decide +kernel, le_rfl, le_rfl⟩
  | latency => exact ⟨le_rfl, by decide +kernel, le_rfl⟩
  | quality => exact ⟨le_rfl, le_rfl, by decide +kernel⟩
  | balanced => exact ⟨by decide +kernel, by decide +kernel, by decide +kernel⟩

theorem badness_injective {s t : CircuitState} (h : s.badness = t.badness) : s = t := by
  cases s <;> cases t <;> first | rfl | exact absurd h (by decide)

theorem penalty_le {a b : ProviderOffer} (hb : b.circuitState ≠ .opened) (h : a.circuitState.badness ≤ b.circuitState.badness) :
    penalty a ≤ penalty b := by
  have hpositive : 0 ≤ halfOpenPenalty := by decide +kernel
  unfold penalty
  cases hca : a.circuitState with
  | closed =>
    rw [if_neg nofun]
    split
    · exact hpositive
    · exact le_rfl
  | halfOpen =>
    cases hcb : b.circuitState with
    | closed =>
      rw [hca, hcb] at h
      exact absurd h (by decide)
    | halfOpen => exact le_rfl
    | opened => exact absurd hcb hb
  | opened =>
    rw [if_neg nofun]
    split
    · exact hpositive
    · exact le_rfl

theorem penalty_lt {a b : ProviderOffer} (hb : b.circuitState ≠ .opened) (h : a.circuitState.badness < b.circuitState.badness) :
    penalty a < penalty b := by
  have hpositive : 0 < halfOpenPenalty := by decide +kernel
  unfold penalty
  cases hcb : b.circuitState with
  | closed =>
    rw [hcb] at h
    exact absurd h (Nat.not_lt_zero _)
  | opened => exact absurd hcb hb
  | halfOpen =>
    rw [hcb] at h
    rw [if_pos rfl, if_neg]
    · exact hpositive
    · intro hca
      rw [hca] at h
      exact lt_irrefl _ h

section Better

variable {offers : List ProviderOffer} {policy : RoutingPolicy} {a b : ProviderOffer}

/-- An offer that is no worse scores no lower, and equal scores mean that what makes it better has no weight. -/
theorem score_le (policy : RoutingPolicy) (ha : a ∈ offers) (hb : b ∈ offers) (hopen : b.circuitState ≠ .opened) (h : Dominates a b) :
    score offers policy b < score offers policy a ∨
      score offers policy b = score offers policy a ∧ a.circuitState.badness = b.circuitState.badness ∧
        (b.qualityPrior < a.qualityPrior → (policyWeights policy).quality = 0) := by
  obtain ⟨hcost, hlatency, hquality⟩ := weights_nonneg policy
  have hprice := normalized_le (List.mem_map_of_mem (f := ProviderOffer.pricePer1k) ha) h.price
  have hp95 := normalized_le (List.mem_map_of_mem (f := ProviderOffer.p95Ms) ha) h.latency
  have hprior := normalized_le_of_higher (List.mem_map_of_mem (f := ProviderOffer.qualityPrior) hb) h.quality
  have hpenalty := penalty_le hopen h.health
  have hpriceTerm := mul_le_mul_of_nonneg_left hprice hcost
  have hp95Term := mul_le_mul_of_nonneg_left hp95 hlatency
  have hpriorTerm := mul_le_mul_of_nonneg_left hprior hquality
  have hscore : ∀ o, score offers policy o = (policyWeights policy).cost * normalized false (offers.map ProviderOffer.pricePer1k) o.pricePer1k +
      (policyWeights policy).latency * normalized false (offers.map ProviderOffer.p95Ms) o.p95Ms +
      ((policyWeights policy).quality * normalized true (offers.map ProviderOffer.qualityPrior) o.qualityPrior - penalty o) := fun o => rfl
  by_cases hlt : score offers policy b < score offers policy a
  · exact .inl hlt
  · refine .inr ?_
    rw [hscore, hscore] at hlt
    refine ⟨?_, ?_, ?_⟩
    · rw [hscore, hscore]
      linarith
    · by_contra hne
      have hstrict := penalty_lt hopen (lt_of_le_of_ne h.health hne)
      exact hlt (by linarith)
    · intro hbetter
      by_contra hweight
      have hstrict := normalized_lt_of_higher (List.mem_map_of_mem (f := ProviderOffer.qualityPrior) hb)
        (List.mem_map_of_mem (f := ProviderOffer.qualityPrior) ha) hbetter
      have hterm := mul_lt_mul_of_pos_left hstrict (lt_of_le_of_ne hquality (Ne.symm hweight))
      exact hlt (by linarith)

theorem offerKey_lt_iff :
    offerKey offers policy a < offerKey offers policy b ↔ score offers policy b < score offers policy a ∨
      score offers policy b = score offers policy a ∧ (a.pricePer1k < b.pricePer1k ∨ a.pricePer1k = b.pricePer1k ∧
        (a.p95Ms < b.p95Ms ∨ a.p95Ms = b.p95Ms ∧ a.providerSlug < b.providerSlug)) := by
  unfold offerKey sortKey
  simp only [Prod.Lex.toLex_lt_toLex, neg_lt_neg_iff, neg_inj]
  rw [@eq_comm _ (score offers policy a)]

theorem offerKey_eq_iff :
    offerKey offers policy a = offerKey offers policy b ↔ score offers policy a = score offers policy b ∧ a.pricePer1k = b.pricePer1k ∧
      a.p95Ms = b.p95Ms ∧ a.providerSlug = b.providerSlug := by
  unfold offerKey sortKey
  simp only [EmbeddingLike.apply_eq_iff_eq, Prod.mk.injEq, neg_inj]

theorem score_eq_iff (hprice : a.pricePer1k = b.pricePer1k) (hp95 : a.p95Ms = b.p95Ms) :
    score offers policy a = score offers policy b ↔ merit offers policy a = merit offers policy b := by
  unfold score
  rw [hprice, hp95, add_right_inj]

/-- Where a better offer stands below: they are the same but for the quality, and that has no weight. -/
theorem dominated_first_iff (ha : a ∈ offers) (hb : b ∈ offers) (hopen : b.circuitState ≠ .opened) (h : Dominates a b) :
    [b, a].Sublist (sortOn (offerKey offers policy) offers) ↔
      (a.pricePer1k = b.pricePer1k ∧ a.p95Ms = b.p95Ms ∧ a.circuitState = b.circuitState ∧ b.qualityPrior < a.qualityPrior ∧
        (policyWeights policy).quality = 0) ∧
      (b.providerSlug < a.providerSlug ∨ b.providerSlug = a.providerSlug ∧ [b, a].Sublist offers) := by
  rw [pair_sublist_sortOn_iff, offerKey_lt_iff, offerKey_eq_iff]
  constructor
  · intro hfirst
    rcases score_le policy ha hb hopen h with hlt | ⟨hscore, hhealth, hweight⟩
    · rcases hfirst with ⟨-, -, hlt' | ⟨heq, -⟩⟩ | ⟨⟨heq, -⟩, -⟩
      · exact absurd hlt' hlt.not_gt
      · exact absurd heq hlt.ne'
      · exact absurd heq hlt.ne
    · -- The scores are the same, so price and latency decide before the name does.
      have hsame : a.pricePer1k = b.pricePer1k ∧ a.p95Ms = b.p95Ms ∧
          (b.providerSlug < a.providerSlug ∨ b.providerSlug = a.providerSlug ∧ [b, a].Sublist offers) := by
        rcases hfirst with ⟨-, -, hlt | ⟨-, hlt | ⟨hprice, hlt | ⟨hp95, hslug⟩⟩⟩⟩ | ⟨⟨-, hprice, hp95, hslug⟩, hbefore⟩
        · exact absurd hscore hlt.ne'
        · exact absurd hlt h.price.not_gt
        · exact absurd hlt h.latency.not_gt
        · exact ⟨hprice.symm, hp95.symm, .inl hslug⟩
        · exact ⟨hprice.symm, hp95.symm, .inr ⟨hslug, hbefore⟩⟩
      obtain ⟨hprice, hp95, hslug⟩ := hsame
      have hbetter : b.qualityPrior < a.qualityPrior := by
        rcases h.better with hlt | hlt | hlt | hlt
        · exact absurd hprice hlt.ne
        · exact absurd hp95 hlt.ne
        · exact hlt
        · exact absurd hhealth hlt.ne
      exact ⟨⟨hprice, hp95, badness_injective hhealth, hbetter, hweight hbetter⟩, hslug⟩
  · rintro ⟨⟨hprice, hp95, hstate, hbetter, hweight⟩, hslug⟩
    have hscore : score offers policy b = score offers policy a := by
      rw [score_eq_iff hprice.symm hp95.symm]
      unfold merit penalty
      rw [hstate, hweight, zero_mul, zero_mul]
    rcases hslug with hlt | ⟨hslug, hbefore⟩
    · exact .inl ⟨hb, ha, .inr ⟨hscore.symm, .inr ⟨hprice.symm, .inr ⟨hp95.symm, hlt⟩⟩⟩⟩
    · exact .inr ⟨⟨hscore, hprice.symm, hp95.symm, hslug⟩, hbefore⟩

end Better

/-! ## The bridge -/

/-- The reordered chain has every provider once exactly if none is ranked twice. -/
theorem reorderChainByRanking_perm_iff {chain : List String} (h : chain.Nodup) (rankedSlugs : List String) :
    (reorderChainByRanking chain rankedSlugs).Perm chain ↔ (rankedSlugs.filter (· ∈ chain)).Nodup := by
  unfold reorderChainByRanking
  dsimp only
  generalize hlead : rankedSlugs.filter (· ∈ chain) = lead
  have hsubset : ∀ slug ∈ lead, slug ∈ chain := by
    intro slug hslug
    rw [← hlead] at hslug
    exact of_decide_eq_true (List.mem_filter.mp hslug).2
  constructor
  · intro hperm
    exact (List.nodup_append.mp (hperm.nodup_iff.mpr h)).1
  · intro hlead
    have hrest : ∀ slug, slug ∈ chain.filter (· ∉ lead) ↔ slug ∈ chain ∧ slug ∉ lead := by
      intro slug
      rw [List.mem_filter, decide_eq_true_eq]
    refine (List.perm_ext_iff_of_nodup ?_ h).mpr fun slug => ?_
    · exact hlead.append (h.filter _) fun slug hslug hslug' => ((hrest slug).mp hslug').2 hslug
    · rw [List.mem_append, hrest]
      by_cases hslug : slug ∈ lead
      · exact ⟨fun _ => hsubset slug hslug, fun _ => .inl hslug⟩
      · exact ⟨fun hmem => (hmem.resolve_left hslug).1, fun hmem => .inr ⟨hmem, hslug⟩⟩

/-! ## The whole claim -/

section Whole

variable {input : RouterInput}

theorem ranked_eq (input : RouterInput) : input.ranked = sortOn (offerKey input.eligible input.request.policy) input.eligible :=
  buildFailoverChain_eq _ _ _

/-- The order of the offers does not show exactly if no two different eligible ones share a key. -/
theorem anyOrder_iff : (∀ offers, offers.Perm input.offers → buildFailoverChain offers input.request input.markup = input.ranked) ↔
    ∀ a ∈ input.eligible, ∀ b ∈ input.eligible, a.providerSlug = b.providerSlug → a.pricePer1k = b.pricePer1k → a.p95Ms = b.p95Ms →
      merit input.eligible input.request.policy a = merit input.eligible input.request.policy b → a = b := by
  have hdistinct : (∀ a ∈ input.eligible, ∀ b ∈ input.eligible, a.providerSlug = b.providerSlug → a.pricePer1k = b.pricePer1k →
      a.p95Ms = b.p95Ms → merit input.eligible input.request.policy a = merit input.eligible input.request.policy b → a = b) ↔
      ∀ a ∈ input.eligible, ∀ b ∈ input.eligible,
        offerKey input.eligible input.request.policy a = offerKey input.eligible input.request.policy b → a = b := by
    refine forall₂_congr fun a _ => forall₂_congr fun b _ => ?_
    rw [offerKey_eq_iff]
    constructor
    · rintro h ⟨hscore, hprice, hp95, hslug⟩
      exact h hslug hprice hp95 ((score_eq_iff hprice hp95).mp hscore)
    · intro h hslug hprice hp95 hmerit
      exact h ⟨(score_eq_iff hprice hp95).mpr hmerit, hprice, hp95, hslug⟩
  rw [hdistinct, ← sortOn_invariant_iff]
  have hkey : ∀ offers : List ProviderOffer, offers.Perm input.eligible →
      offerKey offers input.request.policy = offerKey input.eligible input.request.policy := fun offers hperm => offerKey_perm hperm _
  constructor
  · intro h eligible hperm
    -- Those that are not eligible follow, in any order.
    have hall : ∀ o ∈ eligible, isEligible input.request input.markup o = true := fun o ho => (List.mem_filter.mp (hperm.subset ho)).2
    have hnone : (input.offers.filter fun o => !isEligible input.request input.markup o).filter (isEligible input.request input.markup) = [] :=
      List.filter_eq_nil_iff.mpr fun o ho => by simpa using (List.mem_filter.mp ho).2
    have hfilter : (eligible ++ input.offers.filter fun o => !isEligible input.request input.markup o).filter
        (isEligible input.request input.markup) = eligible := by
      rw [List.filter_append, hnone, List.append_nil, List.filter_eq_self.mpr hall]
    have hoffers := h (eligible ++ input.offers.filter fun o => !isEligible input.request input.markup o)
      ((hperm.append_right _).trans (List.filter_append_perm _ _))
    rwa [buildFailoverChain_eq, hfilter, hkey eligible hperm, ranked_eq] at hoffers
  · intro h offers hperm
    have hfilter : (offers.filter (isEligible input.request input.markup)).Perm input.eligible := hperm.filter _
    rw [buildFailoverChain_eq, hkey _ hfilter, ranked_eq]
    exact h _ hfilter

theorem ranked_perm (input : RouterInput) : input.ranked.Perm input.eligible := by
  rw [ranked_eq]
  exact perm_sortOn _ _

theorem circuitState_of_mem {o : ProviderOffer} (h : o ∈ input.eligible) : o.circuitState ≠ .opened :=
  (isEligible_iff.mp (List.mem_filter.mp h).2).2.2.1

/-- Under the cost policy with all circuits closed, prices do not fall along the chain. -/
theorem ranked_byPrice (hcost : input.request.policy = .cost) (hclosed : ∀ o ∈ input.eligible, o.circuitState = .closed) :
    input.ranked.Pairwise fun a b => a.pricePer1k ≤ b.pricePer1k := by
  rw [ranked_eq, hcost]
  refine (pairwise_sortOn _ _).imp_of_mem fun {a b} ha hb hkey => ?_
  have ha' := (mem_sortOn _).mp ha
  have hb' := (mem_sortOn _).mp hb
  by_contra hprice
  have hlt : b.pricePer1k < a.pricePer1k := not_le.mp hprice
  have hscore : ∀ o ∈ input.eligible, score input.eligible .cost o =
      normalized false (input.eligible.map ProviderOffer.pricePer1k) o.pricePer1k := by
    intro o ho
    unfold score merit penalty
    rw [hclosed o ho, if_neg nofun]
    simp only [policyWeights, one_mul, zero_mul, add_zero, sub_zero]
  have hbetter : score input.eligible .cost a < score input.eligible .cost b := by
    rw [hscore a ha', hscore b hb']
    exact normalized_lt (List.mem_map_of_mem hb') (List.mem_map_of_mem ha') hlt
  exact absurd hkey (not_le.mpr (offerKey_lt_iff.mpr (.inl hbetter)))

end Whole

/-- What the ranking keeps to: all eligible offers, in an order that comes from keys alone; and no offer below a worse one, unless they are
the same in all that the policy weighs and their names decide. -/
structure RanksByKey (input : RouterInput) : Prop where
  complete : input.ranked.Perm input.eligible
  anyOrder : (∀ a ∈ input.eligible, ∀ b ∈ input.eligible, a.providerSlug = b.providerSlug → a.pricePer1k = b.pricePer1k → a.p95Ms = b.p95Ms →
    merit input.eligible input.request.policy a = merit input.eligible input.request.policy b → a = b) →
    ∀ offers, offers.Perm input.offers → buildFailoverChain offers input.request input.markup = input.ranked
  dominance : ∀ a b, Dominates a b → [b, a].Sublist input.ranked → a.pricePer1k = b.pricePer1k ∧ a.p95Ms = b.p95Ms ∧
    a.circuitState = b.circuitState ∧ (policyWeights input.request.policy).quality = 0 ∧ b.providerSlug ≤ a.providerSlug
  byPrice : input.request.policy = .cost → (∀ o ∈ input.eligible, o.circuitState = .closed) →
    input.ranked.Pairwise fun a b => a.pricePer1k ≤ b.pricePer1k
  reorders : input.chain.Nodup → (input.rankedSlugs.filter (· ∈ input.chain)).Nodup →
    (reorderChainByRanking input.chain input.rankedSlugs).Perm input.chain

def qualityTwins : List ProviderOffer :=
  [{ canonicalId := "llama", providerSlug := "together", nativeId := "llama", upstreamCostPer1k := 1, pricePer1k := 1, p50Ms := 0, p95Ms := 0,
      qualityPrior := 1 },
    { canonicalId := "llama", providerSlug := "novita", nativeId := "llama", upstreamCostPer1k := 1, pricePer1k := 1, p50Ms := 0, p95Ms := 0,
      qualityPrior := 1 / 2 }]

end Gatewayz.SmartRouter
