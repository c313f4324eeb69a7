import Gatewayz.Correctness.DisabledForGood

/-!
# `Correctness.AvailableProviders` — failover, and who is available

A call with failover is to try distinct providers, not more than it may, all of them suitable and available, and to come to everybody
that it may try (`UsesAvailable`).

It looks at the providers it may try before it asks whether they are available, and asks for the features of the first one only.
-/

namespace Gatewayz.Selector

open Exec

variable {R : Type}

/-! ## Who is there to be tried -/

section Turn

variable (s : ProviderSelector) (call : FailoverCall R)

def suitable : List ProviderConfig :=
  (enabledProviders ((s.registry call.modelId).getD [])).filter fun p => call.requiredFeatures.all fun f => p.features.contains f

def Available (name : String) : Prop := (s.healthTracker.isAvailable call.modelId name call.start).1 = true

instance : DecidablePred (Available s call) := fun _ => inferInstanceAs (Decidable (_ = true))

/-- The provider that is first in turn: the preferred one if it is suitable, and else the one of the highest priority. -/
def primary : Option ProviderConfig :=
  s.registry.selectProvider call.modelId call.preferredProvider call.requiredFeatures none

/-- The suitable providers as their turn comes: the first one, and then the others by priority. -/
def inTurn : List ProviderConfig :=
  (primary s call).elim [] fun first => first :: (suitable s call).filter fun p => p.name ≠ first.name

def due : List ProviderConfig := ((inTurn s call).filter fun p => Available s call p.name).take call.maxRetries.toNat

/-- Whom the call looks at: the first one, and as many others as it may try. -/
def considered : List ProviderConfig :=
  (primary s call).elim [] fun first =>
    first :: (s.registry.fallbackProviders call.modelId first.name).take (call.maxRetries - 1).toNat

def SameTarget (p q : ProviderConfig) : Prop := p.name = q.name ∧ p.modelId = q.modelId

end Turn

def FailoverCall.answering (call : FailoverCall R) (executeFn : ℕ → String → String → Except String R) : FailoverCall R :=
  { call with executeFn := executeFn }

/-- A call uses what is available. -/
structure UsesAvailable (s : ProviderSelector) (call : FailoverCall R) : Prop where
  distinct : ((s.executeWithFailover call).1.attempts.map Attempt.provider).Nodup
  atMost : ((s.executeWithFailover call).1.attempts.length : ℤ) ≤ call.maxRetries
  permitted : ∀ a ∈ (s.executeWithFailover call).1.attempts,
    Available s call a.provider ∧ ∃ p ∈ suitable s call, p.name = a.provider ∧ p.modelId = a.modelId
  gaveUp : (s.executeWithFailover call).1.success = false → (s.executeWithFailover call).1.attempts = [] →
    ∀ p ∈ suitable s call, ¬ Available s call p.name
  succeeds : (∃ p ∈ due s call, ∀ i, ∃ response, call.executeFn i p.name p.modelId = .ok response) →
    (s.executeWithFailover call).1.success = true

/-- The providers looked at are the right ones: those of them that are available are distinct and suitable, and everybody who is due
    is one of them. -/
structure WellServed (s : ProviderSelector) (call : FailoverCall R) : Prop where
  distinct : (((considered s call).filter fun p => Available s call p.name).map ProviderConfig.name).Nodup
  suitable : ∀ p ∈ considered s call, Available s call p.name → ∃ q ∈ suitable s call, SameTarget q p
  reached : ∀ p ∈ due s call, ∃ q ∈ considered s call, SameTarget q p

/-! ## What is tried -/

section Tried

variable {s : ProviderSelector} {call : FailoverCall R}

def Attempt.target (a : Attempt) : String × String := (a.provider, a.modelId)

def ProviderConfig.target (p : ProviderConfig) : String × String := (p.name, p.modelId)

/-- They are tried in order, until one succeeds. -/
theorem tried_tryProviders (call : FailoverCall R) (i : ℕ) (ps : List ProviderConfig) (s : ProviderSelector) (attempts : List Attempt)
    (lastError : String) : ∃ tried, tried <+: ps ∧ (ps ≠ [] → tried ≠ []) ∧
      (ProviderSelector.tryProviders call i ps s attempts lastError).1.attempts.map Attempt.target =
        attempts.map Attempt.target ++ tried.map ProviderConfig.target := by
  induction ps generalizing i s attempts lastError with
  | nil => exact ⟨[], List.prefix_rfl, fun hne => absurd rfl hne, (List.append_nil _).symm⟩
  | cons p ps ih =>
    rw [ProviderSelector.tryProviders]
    split
    · refine ⟨[p], List.prefix_append [p] ps, fun _ => List.cons_ne_nil _ _, ?_⟩
      rw [List.map_append]
      rfl
    · obtain ⟨tried, hbegins, -, heq⟩ := ih (i + 1) (s.recordFailure call.modelId p.name (call.finished i)) _ _
      refine ⟨p :: tried, List.cons_prefix_cons.mpr ⟨rfl, hbegins⟩, fun _ => List.cons_ne_nil _ _, ?_⟩
      rw [heq, List.map_append, List.append_assoc]
      rfl

theorem tryProviders_of_failing (i : ℕ) (ps : List ProviderConfig) (s : ProviderSelector) (attempts : List Attempt) (lastError : String)
    (hfails : ∀ i name modelId response, call.executeFn i name modelId ≠ .ok response) :
    (ProviderSelector.tryProviders call i ps s attempts lastError).1.attempts.map Attempt.target =
      attempts.map Attempt.target ++ ps.map ProviderConfig.target := by
  induction ps generalizing i s attempts lastError with
  | nil => exact (List.append_nil _).symm
  | cons p ps ih =>
    rw [ProviderSelector.tryProviders]
    split
    · next response hok => exact absurd hok (hfails i p.name p.modelId response)
    · rw [ih, List.map_append, List.append_assoc]
      rfl

theorem exists_of_success (i : ℕ) (ps : List ProviderConfig) (s : ProviderSelector) (attempts : List Attempt) (lastError : String)
    (h : (ProviderSelector.tryProviders call i ps s attempts lastError).1.success = true) :
    ∃ p ∈ ps, ∃ i response, call.executeFn i p.name p.modelId = .ok response := by
  induction ps generalizing i s attempts lastError with
  | nil => cases h
  | cons p ps ih =>
    rw [ProviderSelector.tryProviders] at h
    split at h
    · next response hok => exact ⟨p, List.mem_cons_self, i, response, hok⟩
    · obtain ⟨q, hq, hsome⟩ := ih _ _ _ _ h
      exact ⟨q, List.mem_cons_of_mem p hq, hsome⟩

variable {p : ProviderConfig}

theorem success_of_exists (i : ℕ) (ps : List ProviderConfig) (s : ProviderSelector)
    (attempts : List Attempt) (lastError : String) (hp : p ∈ ps)
    (hok : ∀ i, ∃ response, call.executeFn i p.name p.modelId = .ok response) :
    (ProviderSelector.tryProviders call i ps s attempts lastError).1.success = true := by
  induction ps generalizing i s attempts lastError with
  | nil => cases hp
  | cons q ps ih =>
    rw [ProviderSelector.tryProviders]
    split
    · rfl
    · next error herror =>
      rcases List.mem_cons.mp hp with rfl | hrest
      · obtain ⟨response, hresponse⟩ := hok i
        rw [hresponse] at herror
        cases herror
      · exact ih _ _ _ _ hrest

theorem available_eq_filter (modelId : String) (now : ℚ) (ps : List ProviderConfig) (tracker : ProviderHealthTracker) :
    (ProviderHealthTracker.available modelId now ps tracker).1 = ps.filter fun p => (tracker.isAvailable modelId p.name now).1 := by
  induction ps generalizing tracker with
  | nil => rfl
  | cons p ps ih =>
    have hrest : (ps.filter fun q => ((tracker.isAvailable modelId p.name now).2.isAvailable modelId q.name now).1) =
        ps.filter fun q => (tracker.isAvailable modelId q.name now).1 :=
      List.filter_congr fun q _ => isAvailable_isAvailable tracker modelId p.name q.name now
    rw [ProviderHealthTracker.available, List.filter_cons]
    dsimp only
    rw [ih, hrest]

def toTry (s : ProviderSelector) (call : FailoverCall R) : List ProviderConfig :=
  (considered s call).filter fun p => Available s call p.name

/-- A call tries the providers it looks at that are available. -/
theorem execute_eq (h : 1 ≤ call.maxRetries) :
    ∃ s', (s.executeWithFailover call).1.attempts = (ProviderSelector.tryProviders call 0 (toTry s call) s' [] "None").1.attempts ∧
      (s.executeWithFailover call).1.success = (ProviderSelector.tryProviders call 0 (toTry s call) s' [] "None").1.success := by
  have hempty : primary s call = none → toTry s call = [] := by
    intro hnone
    rw [toTry, considered, hnone]
    rfl
  unfold ProviderSelector.executeWithFailover
  cases hmodel : s.registry call.modelId with
  | none =>
    have hnone : primary s call = none := by
      rw [primary, Registry.selectProvider, hmodel]
    rw [hempty hnone]
    exact ⟨s, rfl, rfl⟩
  | some providers =>
    dsimp only
    cases hprimary : s.registry.selectProvider call.modelId call.preferredProvider call.requiredFeatures none with
    | none =>
      rw [hempty hprimary]
      exact ⟨s, rfl, rfl⟩
    | some first =>
      have htry : (ProviderHealthTracker.available call.modelId call.start
          (first :: slice (s.registry.fallbackProviders call.modelId first.name) (call.maxRetries - 1)) s.healthTracker).1 =
            toTry s call := by
        rw [available_eq_filter, toTry, considered, primary, hprimary, slice, if_pos (by omega)]
        exact List.filter_congr fun p _ => Bool.decide_eq_true.symm
      dsimp only
      rw [htry]
      split
      · next hnobody =>
        rw [hnobody]
        exact ⟨s, rfl, rfl⟩
      · exact ⟨_, rfl, rfl⟩

/-! ## When it is as it should be -/

theorem length_considered (h : 1 ≤ call.maxRetries) : ((considered s call).length : ℤ) ≤ call.maxRetries := by
  unfold considered
  cases primary s call with
  | none => simpa using by omega
  | some first =>
    have htake := List.length_take_le (call.maxRetries - 1).toNat (s.registry.fallbackProviders call.modelId first.name)
    simp only [Option.elim_some, List.length_cons]
    omega

theorem mem_toTry : p ∈ toTry s call ↔ p ∈ considered s call ∧ Available s call p.name := by
  rw [toTry, List.mem_filter, decide_eq_true_iff]

theorem available_of_due (h : p ∈ due s call) : Available s call p.name := by
  have hmem := List.mem_of_mem_take h
  rw [List.mem_filter, decide_eq_true_iff] at hmem
  exact hmem.2

theorem primary_of_suitable (h : p ∈ suitable s call) : ∃ first, primary s call = some first := by
  have hmodel : ∃ providers, s.registry call.modelId = some providers := by
    cases hnone : s.registry call.modelId with
    | none =>
      rw [suitable, hnone] at h
      cases h
    | some providers => exact ⟨providers, rfl⟩
  obtain ⟨providers, hproviders⟩ := hmodel
  have hcandidates : ((enabledProviders providers).filter fun p => call.requiredFeatures.all fun f => p.features.contains f).filter
      (fun p => (none : Option ℚ).all fun most => p.costPer1kInput.all fun cost => cost ≤ most) = suitable s call := by
    rw [suitable, hproviders]
    exact List.filter_eq_self.mpr fun _ _ => rfl
  have hhead : ∃ first, (suitable s call).head? = some first :=
    Option.isSome_iff_exists.mp (List.isSome_head?.mpr (List.ne_nil_of_mem h))
  obtain ⟨first, hfirst⟩ := hhead
  rw [primary, Registry.selectProvider, hproviders]
  dsimp only
  rw [hcandidates]
  split
  · next preferred _ =>
    cases hfound : (suitable s call).find? fun p => p.name = preferred with
    | none => exact ⟨first, hfirst⟩
    | some found => exact ⟨found, rfl⟩
  · exact ⟨first, hfirst⟩

theorem due_ne_nil (h : 1 ≤ call.maxRetries) (hp : p ∈ suitable s call) (havailable : Available s call p.name) :
    due s call ≠ [] := by
  obtain ⟨first, hfirst⟩ := primary_of_suitable hp
  have hturn : ∃ q ∈ inTurn s call, q.name = p.name := by
    rw [inTurn, hfirst]
    by_cases hname : p.name = first.name
    · exact ⟨first, List.mem_cons_self, hname.symm⟩
    · exact ⟨p, List.mem_cons_of_mem first (List.mem_filter.mpr ⟨hp, decide_eq_true hname⟩), rfl⟩
  obtain ⟨q, hq, hname⟩ := hturn
  have hmem : q ∈ (inTurn s call).filter fun p => Available s call p.name :=
    List.mem_filter.mpr ⟨hq, decide_eq_true (hname ▸ havailable)⟩
  rw [due, Ne, List.take_eq_nil_iff]
  rintro (hzero | hnil)
  · omega
  · rw [hnil] at hmem
    cases hmem

theorem WellServed.uses (hwell : WellServed s call) (h : 1 ≤ call.maxRetries) : UsesAvailable s call := by
  obtain ⟨s', hattempts, hsuccess⟩ := execute_eq (s := s) h
  obtain ⟨tried, hbegins, hsome, htargets⟩ := tried_tryProviders call 0 (toTry s call) s' [] "None"
  rw [← hattempts, List.map_nil, List.nil_append] at htargets
  refine ⟨?_, ?_, fun a ha => ?_, fun _ hnone p hp havailable => ?_, fun ⟨p, hp, hok⟩ => ?_⟩
  · have hnames : (s.executeWithFailover call).1.attempts.map Attempt.provider = tried.map ProviderConfig.name := by
      have hfst := congrArg (List.map Prod.fst) htargets
      rwa [List.map_map, List.map_map] at hfst
    rw [hnames]
    exact hwell.distinct.sublist (hbegins.sublist.map _)
  · have hlength := congrArg List.length htargets
    rw [List.length_map, List.length_map] at hlength
    have hfilter : (toTry s call).length ≤ (considered s call).length := List.length_filter_le _ _
    have hle := hbegins.length_le
    have hconsidered := length_considered (s := s) h
    omega
  · have htarget : a.target ∈ tried.map ProviderConfig.target := htargets ▸ List.mem_map_of_mem ha
    obtain ⟨p, hp, heq⟩ := List.mem_map.mp htarget
    obtain ⟨hname, hmodel⟩ := Prod.mk.inj heq
    obtain ⟨hconsidered, havailable⟩ := mem_toTry.mp (hbegins.subset hp)
    obtain ⟨q, hq, hsame⟩ := hwell.suitable p hconsidered havailable
    exact ⟨hname ▸ havailable, q, hq, hsame.1.trans hname, hsame.2.trans hmodel⟩
  · obtain ⟨q, hq⟩ := List.exists_mem_of_ne_nil _ (due_ne_nil h hp havailable)
    obtain ⟨r, hr, hsame⟩ := hwell.reached q hq
    have hmem : r ∈ toTry s call := mem_toTry.mpr ⟨hr, hsame.1 ▸ available_of_due hq⟩
    rw [hnone, List.map_nil] at htargets
    exact hsome (List.ne_nil_of_mem hmem) (List.map_eq_nil_iff.mp htargets.symm)
  · obtain ⟨q, hq, hsame⟩ := hwell.reached p hp
    rw [hsuccess]
    refine success_of_exists 0 (toTry s call) s' [] "None" (p := q) (mem_toTry.mpr ⟨hq, hsame.1 ▸ available_of_due hp⟩) ?_
    rw [hsame.1, hsame.2]
    exact hok

theorem attempts_of_failing (h : 1 ≤ call.maxRetries) (hfails : ∀ i name modelId response, call.executeFn i name modelId ≠ .ok response) :
    (s.executeWithFailover call).1.attempts.map Attempt.target = (toTry s call).map ProviderConfig.target := by
  obtain ⟨s', hattempts, -⟩ := execute_eq (s := s) h
  rw [hattempts, tryProviders_of_failing 0 _ s' [] "None" hfails]
  rfl

theorem wellServed_of_uses [Inhabited R] (h : 1 ≤ call.maxRetries)
    (huses : ∀ executeFn, UsesAvailable s (call.answering executeFn)) : WellServed s call := by
  have hfailing := huses fun _ _ _ => .error ""
  have htargets : (s.executeWithFailover (call.answering fun _ _ _ => .error "")).1.attempts.map Attempt.target =
      (toTry s call).map ProviderConfig.target := attempts_of_failing h nofun
  refine ⟨?_, fun p hp havailable => ?_, fun p hp => ?_⟩
  · have hnames := congrArg (List.map Prod.fst) htargets
    rw [List.map_map, List.map_map] at hnames
    exact hnames ▸ hfailing.distinct
  · have hmem : p.target ∈ (toTry s call).map ProviderConfig.target := List.mem_map_of_mem (mem_toTry.mpr ⟨hp, havailable⟩)
    rw [← htargets] at hmem
    obtain ⟨a, ha, heq⟩ := List.mem_map.mp hmem
    obtain ⟨hname, hmodel⟩ := Prod.mk.inj heq
    obtain ⟨-, q, hq, hqname, hqmodel⟩ := hfailing.permitted a ha
    exact ⟨q, hq, hqname.trans hname, hqmodel.trans hmodel⟩
  · -- a pattern in which nobody succeeds but `p`
    let only : ℕ → String → String → Except String R := fun _ name modelId =>
      if name = p.name ∧ modelId = p.modelId then .ok default else .error ""
    have honly : ∀ i, ∃ response, only i p.name p.modelId = .ok response := fun _ => ⟨default, if_pos ⟨rfl, rfl⟩⟩
    have hsuccess := (huses only).succeeds ⟨p, hp, honly⟩
    have hexecute : ∃ s', _ ∧ (s.executeWithFailover (call.answering only)).1.success =
        (ProviderSelector.tryProviders (call.answering only) 0 (toTry s call) s' [] "None").1.success := execute_eq h
    obtain ⟨s', -, heq⟩ := hexecute
    rw [heq] at hsuccess
    obtain ⟨q, hq, i, response, hok⟩ := exists_of_success 0 _ s' [] "None" hsuccess
    refine ⟨q, (mem_toTry.mp hq).1, ?_⟩
    change (if q.name = p.name ∧ q.modelId = p.modelId then Except.ok default else Except.error "") = Except.ok response at hok
    split at hok
    · next hsame => exact hsame
    · cases hok

/-- **A call uses what is available**, whatever becomes of its attempts, if and only if the providers it looks at are the right ones. -/
theorem failover_uses_available_iff [Inhabited R] (s : ProviderSelector) (call : FailoverCall R) (h : 1 ≤ call.maxRetries) :
    (∀ executeFn, UsesAvailable s (call.answering executeFn)) ↔ WellServed s call :=
  ⟨wellServed_of_uses h, fun hwell _ => 
    WellServed.uses (s := s) ⟨hwell.distinct, hwell.suitable, hwell.reached⟩ h⟩

end Tried

/-! ## A provider without the features -/

def threeProviders : ProviderSelector where
  registry := fun _ => some
    [⟨"first", "m1", 1, none, true, ["streaming"]⟩, ⟨"second", "m2", 2, none, true, []⟩, ⟨"third", "m3", 3, none, true, ["streaming"]⟩]

/-- A call that asks for streaming, and may try two providers. Only the third one would answer. -/
def streamingCall : FailoverCall Unit where
  modelId := "m"
  requiredFeatures := ["streaming"]
  maxRetries := 2
  start := 0
  executeFn := fun _ name _ => if name = "third" then .ok () else .error "down"
  finished := fun _ => 0

theorem failover_uses_available_streaming :
    (1 : ℤ) ≤ streamingCall.maxRetries ∧
      ((∀ executeFn, UsesAvailable threeProviders (streamingCall.answering executeFn)) ↔
        WellServed threeProviders streamingCall) :=
  ⟨by decide, failover_uses_available_iff threeProviders streamingCall (by decide)⟩

def firstOpen : ProviderSelector :=
  { threeProviders with healthTracker := { disabledUntil := fun _ name => if name = "first" then some 300 else none } }

/-- **Features are not asked of those that come later**: the second provider is tried, without the feature, and the third one is not,
    which has it and would answer. And a call that may try one provider gives up without an attempt where the first one's circuit is
    open, and others are available. -/
theorem features_not_asked :
    ((threeProviders.executeWithFailover streamingCall).1.attempts.map Attempt.provider = ["first", "second"] ∧
      ¬ UsesAvailable threeProviders streamingCall) ∧
    (firstOpen.executeWithFailover { streamingCall with maxRetries := 1 }).1.attempts = [] ∧
      ¬ UsesAvailable firstOpen { streamingCall with maxRetries := 1 } := by
  refine ⟨⟨by decide +kernel, fun h => ?_⟩, by decide +kernel, fun h => ?_⟩
  · have hsuccess := h.succeeds ⟨⟨"third", "m3", 3, none, true, ["streaming"]⟩, by decide +kernel, fun _ => ⟨(), rfl⟩⟩
    exact absurd hsuccess (by decide +kernel)
  · have hnobody := h.gaveUp (by decide +kernel) (by decide +kernel) ⟨"third", "m3", 3, none, true, ["streaming"]⟩ (by decide +kernel)
    exact hnobody (by decide +kernel)

end Gatewayz.Selector
