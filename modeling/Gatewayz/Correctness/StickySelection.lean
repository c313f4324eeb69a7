import Gatewayz.Chat.Routers

/-!
# `Correctness.StickySelection` — what the choice of a model depends on

The choice is the candidate at one place of a list that is sorted by score alone (`selectModel_eq`). How many candidates score higher says
whose scores have that place, but among those with the same score it is the order of the candidates that decides; and that order also decides
which row of a model its inferred priors come from.
-/

namespace Gatewayz.ModelSelector

open Exec.Dictionary

/-! ## The claim -/

structure SelectionCall where
  signals : Signals
  request : SelectionRequest
  candidates : List Candidate

namespace SelectionCall

def scored (call : SelectionCall) : List Candidate := call.candidates.filter fun model => model.id.truthy

def scoreIn (call : SelectionCall) (order : List Candidate) (model : Candidate) : ℚ :=
  scoreOf call.signals call.request (gapFillQualityPriors call.signals order) model

def cluster (call : SelectionCall) (order : List Candidate) : List Candidate :=
  call.scored.filter fun model => ∀ best ∈ call.scored, call.scoreIn order best - call.scoreIn order model < hysteresisThreshold

def place (hash : String → String → Nat) (call : SelectionCall) (order : List Candidate) : Nat :=
  match nonEmpty call.request.conversationId with
  | some conversation => hash conversation call.request.taskType % (call.cluster order).length
  | none => 0

def Contends (hash : String → String → Nat) (call : SelectionCall) (order : List Candidate) (model : Candidate) : Prop :=
  model ∈ call.scored ∧
    call.scored.countP (fun other => call.scoreIn order model < call.scoreIn order other) ≤ call.place hash order ∧
    call.place hash order < call.scored.countP fun other => call.scoreIn order model ≤ call.scoreIn order other

/-- `select_model`, of the candidates in some order. -/
def select (hash : String → String → Nat) (call : SelectionCall) (order : List Candidate) : ModelSelection :=
  selectModel hash call.signals call.request order

end SelectionCall

/-- Two calls of one conversation, about the same task, with the same models close to the best. -/
structure SameCluster (first second : SelectionCall) : Prop where
  conversation : ∃ id, nonEmpty first.request.conversationId = some id ∧ nonEmpty second.request.conversationId = some id
  taskType : first.request.taskType = second.request.taskType
  cluster : ((first.cluster first.candidates).map displayModelId).Perm ((second.cluster second.candidates).map displayModelId)

/-- The selection is stable, for a call and a second one. -/
structure Stable (hash : String → String → Nat) (first second : SelectionCall) : Prop where
  anyOrder : ∀ order, order.Perm first.candidates → (first.select hash order).modelId = (first.select hash first.candidates).modelId
  anyOrder_second : ∀ order, order.Perm second.candidates → (second.select hash order).modelId = (second.select hash second.candidates).modelId
  nearBest : ∀ s, (first.select hash first.candidates).score = some s →
    (∃ model ∈ first.scored, displayModelId model = (first.select hash first.candidates).modelId ∧ first.scoreIn first.candidates model = s) ∧
      ∀ model ∈ first.scored, first.scoreIn first.candidates model - s < hysteresisThreshold
  best : nonEmpty first.request.conversationId = none → ∀ s, (first.select hash first.candidates).score = some s →
    ∀ model ∈ first.scored, first.scoreIn first.candidates model ≤ s
  sticky : SameCluster first second → (first.select hash first.candidates).modelId = (second.select hash second.candidates).modelId

/-! ## The condition -/

def OneContender (hash : String → String → Nat) (call : SelectionCall) : Prop :=
  ∀ order, order.Perm call.candidates → ∀ model, call.Contends hash order model →
    ∀ order', order'.Perm call.candidates → ∀ model', call.Contends hash order' model' → displayModelId model = displayModelId model'

/-- When the selection is stable. -/
structure StableWhen (hash : String → String → Nat) (first second : SelectionCall) : Prop where
  one : OneContender hash first
  other : OneContender hash second
  both : SameCluster first second → ∀ model, first.Contends hash first.candidates model →
    ∀ model', second.Contends hash second.candidates model' → displayModelId model = displayModelId model'

def CaseDistinct (call : SelectionCall) : Prop :=
  ∀ a ∈ call.candidates, ∀ b ∈ call.candidates, priorKey a = priorKey b → displayModelId a = displayModelId b

/-! ## Priors -/

/-- The priors of a key are those that are set, or else the first that can be inferred of a row with the key. -/
theorem lookup_foldl_fillGap (infer : Candidate → Option TaskScores) {k : String} (hk : k ≠ "") (candidates : List Candidate)
    (merged : List (String × TaskScores)) : (candidates.foldl (fillGap infer) merged).lookup k =
      (merged.lookup k).or ((candidates.filter fun model => priorKey model = k).findSome? infer) := by
  induction candidates generalizing merged with
  | nil =>
    rw [List.foldl_nil, List.filter_nil, List.findSome?_nil, Option.or_none]
  | cons model rest ih =>
    rw [List.foldl_cons, ih]
    by_cases hkey : priorKey model = k
    · rw [List.filter_cons, if_pos (decide_eq_true hkey), List.findSome?_cons]
      unfold fillGap
      rw [hkey]
      cases hlookup : merged.lookup k with
      | some scores =>
        rw [if_pos (.inr rfl), hlookup, Option.some_or, Option.some_or]
      | none =>
        rw [if_neg (by simpa using hk)]
        cases hinfer : infer model with
        | none => rw [hlookup]
        | some scores =>
          dsimp only
          rw [lookup_put, if_pos rfl, Option.some_or, Option.none_or]
    · rw [List.filter_cons, if_neg (by simpa using hkey)]
      congr 1
      unfold fillGap
      split
      · rfl
      · split
        · rw [lookup_put, if_neg (Ne.symm hkey)]
        · rfl

theorem lookup_foldl_fillGap_empty (infer : Candidate → Option TaskScores) (candidates : List Candidate) (merged : List (String × TaskScores)) :
    (candidates.foldl (fillGap infer) merged).lookup "" = merged.lookup "" := by
  induction candidates generalizing merged with
  | nil => rfl
  | cons model rest ih =>
    rw [List.foldl_cons, ih]
    unfold fillGap
    split
    · rfl
    · next hkey =>
      split
      · rw [lookup_put, if_neg fun h => hkey (.inl h.symm)]
      · rfl

variable {model : Candidate}

section Scores

variable {call : SelectionCall} {order order' : List Candidate}

theorem scoreIn_congr (h : ∀ k, order.filter (fun model => priorKey model = k) = order'.filter fun model => priorKey model = k) :
    call.scoreIn order = call.scoreIn order' := by
  funext model
  have hpriors : (gapFillQualityPriors call.signals order).lookup (priorKey model) =
      (gapFillQualityPriors call.signals order').lookup (priorKey model) := by
    unfold gapFillQualityPriors
    by_cases hk : priorKey model = ""
    · rw [hk, lookup_foldl_fillGap_empty, lookup_foldl_fillGap_empty]
    · rw [lookup_foldl_fillGap _ hk, lookup_foldl_fillGap _ hk, h]
  unfold SelectionCall.scoreIn scoreOf
  rw [hpriors]

/-! ## The selection -/

def bestFirst (call : SelectionCall) (order : List Candidate) : List Candidate :=
  sortOn (fun model => -call.scoreIn order model) (order.filter fun model => model.id.truthy)

theorem bestFirst_perm (h : order.Perm call.candidates) : (bestFirst call order).Perm call.scored := (perm_sortOn _ _).trans (h.filter _)

variable {top : Candidate} {rest : List Candidate}

theorem scoreIn_le_top (h : order.Perm call.candidates) (hbest : bestFirst call order = top :: rest)
    (hmodel : model ∈ call.scored) : call.scoreIn order model ≤ call.scoreIn order top := by
  have hsorted : (bestFirst call order).Pairwise _ := pairwise_sortOn _ _
  rw [hbest] at hsorted
  rcases List.mem_cons.mp (hbest ▸ (bestFirst_perm h).mem_iff.mpr hmodel) with rfl | hrest
  · exact le_rfl
  · exact neg_le_neg_iff.mp ((List.pairwise_cons.mp hsorted).1 model hrest)

theorem bestFirst_eq_append (h : order.Perm call.candidates) (hbest : bestFirst call order = top :: rest) :
    ∃ near far, bestFirst call order = near ++ far ∧ near.length = (call.cluster order).length ∧ 0 < near.length ∧
      (bestFirst call order).filter (fun model => call.scoreIn order top - call.scoreIn order model < hysteresisThreshold) = near := by
  have hsplit := sorted_split (pairwise_sortOn (fun model => -call.scoreIn order model) (order.filter fun model => model.id.truthy))
    (hysteresisThreshold - call.scoreIn order top)
  have hnear : ∀ model, decide (-call.scoreIn order model < hysteresisThreshold - call.scoreIn order top) =
      decide (call.scoreIn order top - call.scoreIn order model < hysteresisThreshold) := by
    intro model
    rw [decide_eq_decide]
    constructor
    · intro hlt
      linarith
    · intro hlt
      linarith
  simp only [hnear] at hsplit
  refine ⟨_, _, hsplit, ?_, ?_, rfl⟩
  · unfold SelectionCall.cluster
    rw [length_filter_sortOn, (h.filter _).countP_eq, ← List.countP_eq_length_filter]
    refine List.countP_congr fun model hmodel => ?_
    rw [decide_eq_true_eq, decide_eq_true_eq]
    constructor
    · intro hlt other hother
      exact (sub_le_sub_right (scoreIn_le_top h hbest hother) _).trans_lt hlt
    · intro hall
      exact hall top ((bestFirst_perm h).mem_iff.mp (hbest ▸ List.mem_cons_self))
  · have hmem : top ∈ bestFirst call order := hbest ▸ List.mem_cons_self
    refine List.length_pos_of_mem (List.mem_filter.mpr ⟨hmem, decide_eq_true ?_⟩)
    rw [sub_self]
    decide +kernel

theorem ranking_eq_map (call : SelectionCall) (order : List Candidate) :
    ranking call.signals call.request order = (bestFirst call order).map fun model => (call.scoreIn order model, model) := by
  unfold ranking
  exact sortOn_map (fun pair : ℚ × Candidate => -pair.1) (fun model => (call.scoreIn order model, model)) _

theorem select_of_nil (hash : String → String → Nat) (hbest : bestFirst call order = []) :
    (call.select hash order).modelId = none ∧ (call.select hash order).score = none := by
  unfold SelectionCall.select selectModel
  split
  · exact ⟨rfl, rfl⟩
  · rw [ranking_eq_map, hbest]
    exact ⟨rfl, rfl⟩

/-- The choice is the candidate at the place. -/
theorem select_of_cons (hash : String → String → Nat) (h : order.Perm call.candidates)
    (hbest : bestFirst call order = top :: rest) :
    ∃ model, (bestFirst call order)[call.place hash order]? = some model ∧
      (call.select hash order).modelId = displayModelId model ∧ (call.select hash order).score = some (call.scoreIn order model) := by
  have horder : order ≠ [] := by
    rintro rfl
    exact absurd hbest nofun
  obtain ⟨near, far, happend, hlength, hpositive, hnear⟩ := bestFirst_eq_append h hbest
  have hsimilar : nearTop (call.scoreIn order top) (ranking call.signals call.request order) =
      near.map fun model => (call.scoreIn order model, model) := by
    rw [ranking_eq_map, nearTop, List.filter_map, ← hnear]
    rfl
  have hranking : ranking call.signals call.request order =
      (call.scoreIn order top, top) :: rest.map fun model => (call.scoreIn order model, model) := by
    rw [ranking_eq_map, hbest, List.map_cons]
  have htop : (bestFirst call order)[0]? = some top := by rw [hbest, List.getElem?_cons_zero]
  have hcount : (call.cluster order).length = near.length := hlength.symm
  unfold SelectionCall.select selectModel SelectionCall.place
  rw [if_neg horder, hranking]
  dsimp only
  rw [← hranking, hsimilar, hcount, List.length_map]
  cases hconversation : nonEmpty call.request.conversationId with
  | none => exact ⟨top, htop, rfl, rfl⟩
  | some conversation =>
    by_cases hseveral : 1 < (ranking call.signals call.request order).length ∧ 1 < near.length
    · rw [Option.filter_some, if_pos (decide_eq_true hseveral)]
      have hlt : hash conversation call.request.taskType % near.length < near.length := Nat.mod_lt _ hpositive
      refine ⟨near[hash conversation call.request.taskType % near.length], ?_, ?_, ?_⟩
      · rw [happend, List.getElem?_append_left hlt, List.getElem?_eq_getElem hlt]
      · dsimp only
        rw [List.getD_eq_getElem?_getD, List.getElem?_map, List.getElem?_eq_getElem hlt]
        rfl
      · dsimp only
        rw [List.getD_eq_getElem?_getD, List.getElem?_map, List.getElem?_eq_getElem hlt]
        rfl
    · -- One alone comes close to the best, and that is the best.
      rw [Option.filter_some, if_neg (by simpa using hseveral)]
      have hone : near.length = 1 := by
        have hle : near.length ≤ (ranking call.signals call.request order).length := by
          rw [ranking_eq_map, List.length_map, happend, List.length_append]
          exact Nat.le_add_right _ _
        omega
      dsimp only
      rw [hone, Nat.mod_one]
      exact ⟨top, htop, rfl, rfl⟩

theorem contends_of_place {hash : String → String → Nat} (h : order.Perm call.candidates)
    (hmodel : (bestFirst call order)[call.place hash order]? = some model) : call.Contends hash order model := by
  obtain ⟨hbelow, hwithin⟩ := places_of_key hmodel
  simp only [neg_lt_neg_iff, neg_le_neg_iff] at hbelow hwithin
  rw [(h.filter _).countP_eq] at hbelow hwithin
  exact ⟨(bestFirst_perm h).mem_iff.mp (List.mem_of_getElem? hmodel), hbelow, hwithin⟩

theorem place_congr {hash : String → String → Nat} (h : call.scoreIn order = call.scoreIn order') : call.place hash order = call.place hash order' := by
  unfold SelectionCall.place SelectionCall.cluster
  rw [h]

/-- Each that can have the place has it in some order of the candidates, or one with the same key has. -/
theorem exists_order_of_contends {hash : String → String → Nat} (h : order.Perm call.candidates)
    (hcontends : call.Contends hash order model) : ∃ order', order'.Perm call.candidates ∧
      ∃ model', (bestFirst call order')[call.place hash order']? = some model' ∧ priorKey model' = priorKey model := by
  obtain ⟨hmem, hbelow, hwithin⟩ := hcontends
  have hmem' := List.mem_filter.mp hmem
  let tied : Candidate → Bool := fun other => decide (-call.scoreIn order other = -call.scoreIn order model) && other.id.truthy
  have hlt : (fun other => decide (-call.scoreIn order other < -call.scoreIn order model)) =
      fun other => decide (call.scoreIn order model < call.scoreIn order other) := funext fun other => decide_eq_decide.mpr neg_lt_neg_iff
  have hle : (fun other => decide (-call.scoreIn order other ≤ -call.scoreIn order model)) =
      fun other => decide (call.scoreIn order model ≤ call.scoreIn order other) := funext fun other => decide_eq_decide.mpr neg_le_neg_iff
  have hcount : call.scored.countP (fun other => call.scoreIn order model ≤ call.scoreIn order other) =
      call.scored.countP (fun other => call.scoreIn order model < call.scoreIn order other) + order.countP tied := by
    have hsum := countP_le_eq (fun other => -call.scoreIn order other) call.scored (-call.scoreIn order model)
    rw [hle, hlt] at hsum
    have hfilter : call.scored.countP (fun other => -call.scoreIn order other = -call.scoreIn order model) = call.candidates.countP tied :=
      List.countP_filter
    rw [hsum, h.countP_eq, hfilter]
  have htied : tied model = true := Bool.and_eq_true_iff.mpr ⟨decide_eq_true rfl, hmem'.2⟩
  have hplace : call.place hash order - call.scored.countP (fun other => call.scoreIn order model < call.scoreIn order other) <
      order.countP tied := by omega
  obtain ⟨order', hperm, hfilters, model', hmodel', hkey⟩ := exists_moved_class priorKey (h.mem_iff.mpr hmem'.1) htied hplace
  have hscores : call.scoreIn order' = call.scoreIn order := scoreIn_congr hfilters
  have hperm' := hperm.trans h
  refine ⟨order', hperm', model', ?_, hkey⟩
  unfold bestFirst
  rw [place_congr hscores, hscores, getElem?_sortOn (k := -call.scoreIn order model), List.filter_filter, (hperm'.filter _).countP_eq, hlt]
  · exact hmodel'
  · rw [(hperm'.filter _).countP_eq, hlt]
    exact hbelow
  · rw [(hperm'.filter _).countP_eq, hle]
    exact hwithin

end Scores

/-! ## The whole claim -/

section Whole

variable {hash : String → String → Nat} {call first second : SelectionCall} {order : List Candidate}

theorem select_cases (hash : String → String → Nat) (h : order.Perm call.candidates) :
    (call.scored = [] ∧ (call.select hash order).modelId = none ∧ (call.select hash order).score = none) ∨
      ∃ model, call.Contends hash order model ∧ (bestFirst call order)[call.place hash order]? = some model ∧
        (call.select hash order).modelId = displayModelId model ∧ (call.select hash order).score = some (call.scoreIn order model) := by
  cases hbest : bestFirst call order with
  | nil => exact .inl ⟨(hbest ▸ bestFirst_perm h).nil_eq.symm, select_of_nil hash hbest⟩
  | cons top rest =>
    obtain ⟨model, hmodel, hid, hscore⟩ := select_of_cons hash h hbest
    exact .inr ⟨model, contends_of_place h hmodel, hbest ▸ hmodel, hid, hscore⟩

theorem length_cluster_eq_zero_iff : (call.cluster call.candidates).length = 0 ↔ call.scored = [] := by
  constructor
  · intro hzero
    cases hbest : bestFirst call call.candidates with
    | nil => exact (hbest ▸ bestFirst_perm (.refl _)).nil_eq.symm
    | cons top rest =>
      obtain ⟨near, far, -, hlength, hpositive, -⟩ := bestFirst_eq_append (.refl _) hbest
      omega
  · intro hnil
    unfold SelectionCall.cluster
    rw [hnil]
    rfl

theorem anyOrder_of_oneContender (hone : OneContender hash call) (h : order.Perm call.candidates) :
    (call.select hash order).modelId = (call.select hash call.candidates).modelId := by
  rcases select_cases hash h with ⟨hnil, hid, -⟩ | ⟨model, hcontends, -, hid, -⟩
  · rcases select_cases hash (.refl call.candidates) with ⟨-, hid', -⟩ | ⟨model', hcontends', -⟩
    · rw [hid, hid']
    · exact absurd (hnil ▸ hcontends'.1) List.not_mem_nil
  · rcases select_cases hash (.refl call.candidates) with ⟨hnil, -⟩ | ⟨model', hcontends', -, hid', -⟩
    · exact absurd (hnil ▸ hcontends.1) List.not_mem_nil
    · rw [hid, hid']
      exact hone order h model hcontends call.candidates (.refl _) model' hcontends'

theorem displayModelId_of_contends (hcase : CaseDistinct call)
    (hany : ∀ order, order.Perm call.candidates → (call.select hash order).modelId = (call.select hash call.candidates).modelId)
    (h : order.Perm call.candidates) (hcontends : call.Contends hash order model) :
    displayModelId model = (call.select hash call.candidates).modelId := by
  obtain ⟨order', h', model', hmodel', hkey⟩ := exists_order_of_contends h hcontends
  rcases select_cases hash h' with ⟨hnil, -⟩ | ⟨model'', -, hmodel'', hid, -⟩
  · exact absurd (hnil ▸ hcontends.1) List.not_mem_nil
  · obtain rfl : model'' = model' := Option.some.inj (hmodel''.symm.trans hmodel')
    have hmem := (bestFirst_perm h').mem_iff.mp (List.mem_of_getElem? hmodel')
    rw [← hany order' h', hid]
    exact hcase model (List.mem_filter.mp hcontends.1).1 model'' (List.mem_filter.mp hmem).1 hkey.symm

/-- The score of the choice comes close to the best score, and without a conversation it is the best. -/
theorem select_score (hash : String → String → Nat) (call : SelectionCall) {s : ℚ} (hs : (call.select hash call.candidates).score = some s) :
    (∃ model ∈ call.scored, displayModelId model = (call.select hash call.candidates).modelId ∧ call.scoreIn call.candidates model = s) ∧
      (∀ model ∈ call.scored, call.scoreIn call.candidates model - s < hysteresisThreshold) ∧
      (nonEmpty call.request.conversationId = none → ∀ model ∈ call.scored, call.scoreIn call.candidates model ≤ s) := by
  have hrefl : call.candidates.Perm call.candidates := .refl _
  rcases select_cases hash hrefl with ⟨-, -, hnone⟩ | ⟨model, hcontends, hmodel, hid, hscore⟩
  · exact absurd (hnone.symm.trans hs) nofun
  · obtain rfl : call.scoreIn call.candidates model = s := Option.some.inj (hscore.symm.trans hs)
    refine ⟨⟨model, hcontends.1, hid.symm, rfl⟩, ?_, ?_⟩
    · cases hbest : bestFirst call call.candidates with
      | nil => exact absurd (hbest ▸ hmodel) nofun
      | cons top rest =>
        obtain ⟨near, far, happend, hlength, hpositive, hnear⟩ := bestFirst_eq_append hrefl hbest
        have hlt : call.place hash call.candidates < near.length := by
          unfold SelectionCall.place
          split
          · rw [← hlength]
            exact Nat.mod_lt _ hpositive
          · exact hpositive
        rw [happend, List.getElem?_append_left hlt] at hmodel
        have hmem := List.mem_of_getElem? hmodel
        rw [← hnear] at hmem
        have hclose := of_decide_eq_true (List.mem_filter.mp hmem).2
        intro other hother
        exact (sub_le_sub_right (scoreIn_le_top hrefl hbest hother) _).trans_lt hclose
    · intro hconversation other hother
      have hplace : call.place hash call.candidates = 0 := by
        unfold SelectionCall.place
        rw [hconversation]
      rw [hplace] at hmodel
      cases hbest : bestFirst call call.candidates with
      | nil => exact absurd (hbest ▸ hmodel) nofun
      | cons top rest =>
        rw [hbest, List.getElem?_cons_zero] at hmodel
        cases hmodel
        exact scoreIn_le_top hrefl hbest hother

end Whole

def tiedCall : SelectionCall where
  signals := {}
  request := { taskType := "code", conversationId := some "chat" }
  candidates :=
    [{ id := .int 1, canonicalId := some "glm", providerModelId := none }, { id := .int 2, canonicalId := some "qwen", providerModelId := none }]

end Gatewayz.ModelSelector
