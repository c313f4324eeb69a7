import Gatewayz.Billing.Python
import Gatewayz.Exec.Ranking
import Mathlib.Data.Finset.Basic
import Mathlib.Data.Prod.Lex
import Mathlib.Data.String.Basic

/-!
# `Chat.Routers` — the order of the providers of a model, and the choice of a model

`services/smart_router.py`, with its bridge, ranks the offers of providers for one model: those that are eligible get a score each, and are
sorted by it, by price, by latency and by name. The ranking reorders the providers that a request is tried with.

`services/model_selector.py` chooses among models: each candidate gets a score, and within a conversation a hash picks one of those that
come close to the best.

Numbers are exact. What is fetched, what is inferred of a row, and the hash are given.
-/

namespace Gatewayz.SmartRouter

open Exec.Dictionary

/-! ## Offers -/

inductive CircuitState where
  | closed
  | halfOpen
  | opened
  deriving DecidableEq

inductive RoutingPolicy where
  | cost
  | latency
  | quality
  | balanced

structure Weights where
  cost : ℚ
  latency : ℚ
  quality : ℚ

def policyWeights : RoutingPolicy → Weights
  | .cost => ⟨1, 0, 0⟩
  | .latency => ⟨0, 1, 0⟩
  | .quality => ⟨0, 0, 1⟩
  | .balanced => ⟨4 / 10, 3 / 10, 3 / 10⟩

def halfOpenPenalty : ℚ := 15 / 100

structure ProviderOffer where
  canonicalId : String
  providerSlug : String
  nativeId : String
  upstreamCostPer1k : ℚ
  pricePer1k : ℚ
  p50Ms : ℚ
  p95Ms : ℚ
  qualityPrior : ℚ
  isActive : Bool := true
  circuitState : CircuitState := .closed
  capabilities : Finset String := ∅
  deriving DecidableEq

structure RoutingRequest where
  canonicalId : String
  requiredCapabilities : Finset String := ∅
  policy : RoutingPolicy := .balanced

/-- `is_eligible`; the last check is `is_margin_floor_eligible`. -/
def isEligible (request : RoutingRequest) (markup : ℚ) (offer : ProviderOffer) : Bool :=
  offer.canonicalId = request.canonicalId && offer.isActive && offer.circuitState ≠ .opened &&
    decide (request.requiredCapabilities ⊆ offer.capabilities) && decide (offer.upstreamCostPer1k * markup ≤ offer.pricePer1k)

/-! ## The ranking -/

def minOf (values : List ℚ) : ℚ := values.foldl min (values.headD 0)

def maxOf (values : List ℚ) : ℚ := values.foldl max (values.headD 0)

/-- `_normalize`: all equal, or one alone, is neutral. -/
def normalize (higherIsBetter : Bool) (values : List ℚ) : List ℚ :=
  let lo := minOf values
  let hi := maxOf values
  if hi = lo then values.map fun _ => 1
  else if higherIsBetter then values.map fun v => (v - lo) / (hi - lo)
  else values.map fun v => (hi - v) / (hi - lo)

def scoreOffers (offers : List ProviderOffer) (policy : RoutingPolicy) : List ℚ :=
  let w := policyWeights policy
  let costS := normalize false (offers.map ProviderOffer.pricePer1k)
  let latS := normalize false (offers.map ProviderOffer.p95Ms)
  let qualS := normalize true (offers.map ProviderOffer.qualityPrior)
  (offers.zip (costS.zip (latS.zip qualS))).map fun t =>
    let score := w.cost * t.2.1 + w.latency * t.2.2.1 + w.quality * t.2.2.2
    if t.1.circuitState = .halfOpen then score - halfOpenPenalty else score

abbrev SortKey := ℚ ×ₗ ℚ ×ₗ ℚ ×ₗ String

def sortKey (t : ProviderOffer × ℚ) : SortKey :=
  toLex (-t.2, toLex (t.1.pricePer1k, toLex (t.1.p95Ms, t.1.providerSlug)))

def buildFailoverChain (offers : List ProviderOffer) (request : RoutingRequest) (markup : ℚ) : List ProviderOffer :=
  let eligible := offers.filter (isEligible request markup)
  (sortOn sortKey (eligible.zip (scoreOffers eligible request.policy))).map Prod.fst

/-! ## The bridge -/

def reorderChainByRanking (chain rankedSlugs : List String) : List String :=
  let lead := rankedSlugs.filter (· ∈ chain)
  lead ++ chain.filter (· ∉ lead)

/-- A row of `model_provider_offers`. -/
structure OfferRow where
  canonicalId : String
  providerSlug : String
  nativeId : Option String
  upstreamCost : Option ℚ
  p50Ms : Option ℚ
  p95Ms : Option ℚ
  qualityPrior : Option ℚ
  isActive : Bool := true

/-- What `_offers_to_provider_offers` makes of a row. -/
def OfferRow.toOffer (markup : ℚ) (row : OfferRow) : ProviderOffer where
  canonicalId := row.canonicalId
  providerSlug := row.providerSlug
  nativeId := (row.nativeId.filter (· ≠ "")).getD row.providerSlug
  upstreamCostPer1k := row.upstreamCost.getD 0
  pricePer1k := row.upstreamCost.getD 0 * markup
  p50Ms := row.p50Ms.getD 0
  p95Ms := row.p95Ms.getD 0
  qualityPrior := row.qualityPrior.getD (1 / 2)
  isActive := row.isActive

/-- `_policy`: what is unknown is balanced. -/
def policyOf (name : String) : RoutingPolicy :=
  if name = "cost" then .cost else if name = "latency" then .latency else if name = "quality" then .quality else .balanced

/-- The ranking that `reorder_provider_chain` makes of the rows: all are taken to be offers for the model of the first. -/
def rankRows (policy : RoutingPolicy) (markup : ℚ) (rows : List OfferRow) : List ProviderOffer :=
  match rows.map (OfferRow.toOffer markup) with
  | [] => []
  | first :: rest => buildFailoverChain (first :: rest) { canonicalId := first.canonicalId, policy := policy } markup

def reorderProviderChain (providerChain : List String) (policy : String) (markup : ℚ) (rows : List OfferRow) : List String :=
  if providerChain.length < 2 ∨ rows = [] then providerChain
  else reorderChainByRanking providerChain ((rankRows (policyOf policy) markup rows).map ProviderOffer.providerSlug)

end Gatewayz.SmartRouter

namespace Gatewayz.ModelSelector

open Exec.Dictionary

/-! ## Candidates -/

/-- A row of `models`, as far as it is read. -/
structure Candidate where
  id : PyValue
  canonicalId : Option String
  providerModelId : Option String
  modelName : Option String := none
  contextLength : PyValue := .none
  isReasoning : PyValue := .none
  deriving DecidableEq

def nonEmpty (text : Option String) : Option String := text.filter (· ≠ "")

def displayModelId (model : Candidate) : Option String :=
  (nonEmpty model.canonicalId).or ((nonEmpty model.providerModelId).or (if model.id = .none then none else some model.id.text))

def priorKey (model : Candidate) : String := lower (((nonEmpty model.canonicalId).or (displayModelId model)).getD "")

abbrev TaskScores := List (String × ℚ)

/-- What is fetched and inferred for a selection; an inference that raises is none. -/
structure Signals where
  /-- `price_per_input_token` of an id. -/
  pricing : PyValue → Option ℚ := fun _ => none
  /-- `get_quality_priors` -/
  qualityPriors : List (String × TaskScores) := []
  /-- `infer_quality_from_row` -/
  infer : Candidate → Option TaskScores := fun _ => none

/-! ## Scores -/

/-- `_COST_TIER_THRESHOLDS` -/
def costTiers : List (ℚ × ℚ) := [(1 / 10000, 95), (5 / 10000, 85), (1 / 1000, 75), (5 / 1000, 60), (1 / 100, 45), (5 / 100, 30)]

def costScore : Option ℚ → ℚ
  | none => 50
  | some price => ((costTiers.find? fun tier => price * 1000 ≤ tier.1).map Prod.snd).getD 15

/-- One step of `_gap_fill_quality_priors`. -/
def fillGap (infer : Candidate → Option TaskScores) (merged : List (String × TaskScores)) (model : Candidate) : List (String × TaskScores) :=
  if priorKey model = "" ∨ (merged.lookup (priorKey model)).isSome then merged
  else
    match infer model with
    | some scores => put merged (priorKey model) scores
    | none => merged

def gapFillQualityPriors (signals : Signals) (candidates : List Candidate) : List (String × TaskScores) :=
  candidates.foldl (fillGap signals.infer) signals.qualityPriors

/-- `_quality_score`, of the priors of a model. Without any it is fifty. -/
def qualityScore (taskType : String) : Option TaskScores → ℚ
  | none => 50
  | some [] => 50
  | some priors => ((priors.lookup taskType).or (priors.lookup "unknown")).getD 50

/-- `_WEIGHTS`, of quality and cost. -/
def weights (mode : String) : ℚ × ℚ :=
  if mode = "price" then (3 / 10, 7 / 10) else if mode = "quality" then (8 / 10, 2 / 10) else if mode = "fast" then (4 / 10, 6 / 10)
  else (5 / 10, 5 / 10)

def blendedScore (quality cost : ℚ) (mode : String) : ℚ := quality * (weights mode).1 + cost * (weights mode).2

def preferredModelBoost : ℚ := 3

structure SelectionRequest where
  taskType : String
  mode : String := "balanced"
  conversationId : Option String := none
  preferredModels : List String := []

/-- The score of a candidate, by its priors. -/
def scoreOf (signals : Signals) (request : SelectionRequest) (priors : List (String × TaskScores)) (model : Candidate) : ℚ :=
  let quality := qualityScore request.taskType (priors.lookup (priorKey model))
  let score := blendedScore quality (costScore (signals.pricing model.id)) request.mode
  if (displayModelId model).any (· ∈ request.preferredModels) then score + preferredModelBoost else score

/-! ## The selection -/

structure ModelSelection where
  modelId : Option String
  reason : String
  score : Option ℚ := none
  considered : Nat := 0

def hysteresisThreshold : ℚ := 5

/-- The candidates with an id, each with its score, best first. -/
def ranking (signals : Signals) (request : SelectionRequest) (candidates : List Candidate) : List (ℚ × Candidate) :=
  let priors := gapFillQualityPriors signals candidates
  sortOn (fun pair => -pair.1)
    ((candidates.filter fun model => model.id.truthy).map fun model => (scoreOf signals request priors model, model))

/-- `similar`: those that come close to the best. -/
def nearTop (topScore : ℚ) (scored : List (ℚ × Candidate)) : List (ℚ × Candidate) :=
  scored.filter fun pair => topScore - pair.1 < hysteresisThreshold

/-- `select_model`; `hash` is `_hash_for_selection` of conversation and task. -/
def selectModel (hash : String → String → Nat) (signals : Signals) (request : SelectionRequest) (candidates : List Candidate) : ModelSelection :=
  if candidates = [] then ⟨none, "no_candidates", none, 0⟩
  else
    match ranking signals request candidates with
    | [] => ⟨none, "no_scored_candidates", none, candidates.length⟩
    | (topScore, topModel) :: rest =>
      let scored := (topScore, topModel) :: rest
      let similar := nearTop topScore scored
      match (nonEmpty request.conversationId).filter fun _ => 1 < scored.length ∧ 1 < similar.length with
      | some conversation =>
        let selected := similar.getD (hash conversation request.taskType % similar.length) (topScore, topModel)
        ⟨displayModelId selected.2, "stable_selection", some selected.1, scored.length⟩
      | none => ⟨displayModelId topModel, "top_scorer", some topScore, scored.length⟩

end Gatewayz.ModelSelector
