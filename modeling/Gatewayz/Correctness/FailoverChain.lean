import Gatewayz.Correctness.PaymentFailover

/-!
# `Correctness.FailoverChain` — the chain of providers, and who is disabled

A chain is never empty, has nobody twice, starts with the provider it is built for, and has all that failover may go to after it, in the
order of the registry.

Disabled providers are kept out of the order of the registry, and the provider it is built for is dropped if it is disabled. OpenRouter
is appended without being asked whether it is enabled, where nobody else is left (`NobodyElse`).
-/

namespace Gatewayz

namespace Routing

variable (s : Routing)

/-! ## What the registry says -/

def Ranked (p : String) (priority : Int) : Prop := (p, some priority) ∈ s.gateways.getD []

def HasPriorities : Prop := ∃ p priority, s.Ranked p priority

/-- A provider that failover may go to: one with a priority, or one of the default order if there are no priorities. -/
def Eligible (p : String) : Prop :=
  s.isProviderEnabled p = true ∧ ((∃ priority, s.Ranked p priority) ∨ ¬ s.HasPriorities ∧ p ∈ fallbackProviderPriority)

/-- Priority order: a lower number first, and then by name. -/
def Precedes (p q : String) : Prop :=
  (∃ i j, s.Ranked p i ∧ s.Ranked q j ∧ priorityLe (i, p) (j, q)) ∨
    ¬ s.HasPriorities ∧ fallbackProviderPriority.idxOf p < fallbackProviderPriority.idxOf q

/-! ## The claim -/

/-- A chain that is as it should be. -/
structure WellFormed (initialProvider : String) (chain : List String) : Prop where
  nonempty : chain ≠ []
  nodup : chain.Nodup
  enabled : ∀ p ∈ chain, s.isProviderEnabled p = true
  first : lower initialProvider ≠ "" → s.isProviderEnabled (lower initialProvider) = true → chain.head? = some (lower initialProvider)
  complete : s.Eligible (lower initialProvider) → ∀ p, s.Eligible p → p ∈ chain
  ordered : s.Eligible (lower initialProvider) → chain.tail.Pairwise fun p q => s.Eligible p → s.Eligible q → s.Precedes p q

def startingProvider (initialProvider : String) : String :=
  if s.isProviderEnabled (lower initialProvider) then lower initialProvider else ""

/-- Nobody else is left: the provider is the only one that failover may go to, or there is none. -/
def NobodyElse (initialProvider : String) : Prop :=
  s.Eligible (s.startingProvider initialProvider) ∧ (∀ p, s.Eligible p → p = s.startingProvider initialProvider) ∨
    ¬ s.Eligible (s.startingProvider initialProvider) ∧ s.startingProvider initialProvider = ""

/-! ## The order of the registry -/

variable {s}

theorem mem_prioritized {entry : Int × String} :
    entry ∈ (s.gateways.getD []).filterMap (fun entry => entry.2.map fun priority => (priority, entry.1)) ↔ s.Ranked entry.2 entry.1 := by
  rw [List.mem_filterMap]
  constructor
  · rintro ⟨⟨p, priority⟩, hmem, heq⟩
    obtain ⟨i, rfl, rfl⟩ := Option.map_eq_some_iff.mp heq
    exact hmem
  · exact fun hmem => ⟨_, hmem, rfl⟩

theorem hasPriorities_iff :
    s.HasPriorities ↔ (s.gateways.getD []).filterMap (fun entry => entry.2.map fun priority => (priority, entry.1)) ≠ [] := by
  constructor
  · rintro ⟨p, priority, hranked⟩
    exact List.ne_nil_of_mem (a := (priority, p)) (mem_prioritized.mpr hranked)
  · intro hne
    obtain ⟨entry, hentry⟩ := List.exists_mem_of_ne_nil _ hne
    exact ⟨entry.2, entry.1, mem_prioritized.mp hentry⟩

theorem mem_failoverPriority {p : String} : p ∈ s.failoverPriority ↔ s.Eligible p := by
  unfold failoverPriority Eligible
  rw [hasPriorities_iff]
  dsimp only
  rw [List.mem_filter, and_comm]
  refine and_congr_right fun _ => ?_
  split
  · next hnone =>
    rw [hnone]
    refine ⟨fun h => .inr ⟨not_not_intro rfl, h⟩, ?_⟩
    rintro (⟨priority, hranked⟩ | ⟨-, h⟩)
    · exact absurd hnone (hasPriorities_iff.mp ⟨p, priority, hranked⟩)
    · exact h
  · next hsome =>
    rw [List.mem_map]
    constructor
    · rintro ⟨entry, hentry, rfl⟩
      exact .inl ⟨entry.1, mem_prioritized.mp ((List.mem_insertionSort _).mp hentry)⟩
    · rintro (⟨priority, hranked⟩ | ⟨hnone, -⟩)
      · exact ⟨(priority, p), (List.mem_insertionSort _).mpr (mem_prioritized.mpr hranked), rfl⟩
      · exact absurd hsome hnone

instance : Std.Total priorityLe where
  total a b := by
    unfold priorityLe
    rcases lt_trichotomy a.1 b.1 with hlt | heq | hgt
    · exact .inl (.inl hlt)
    · rcases String.le_total a.2 b.2 with hle | hle
      · exact .inl (.inr ⟨heq, hle⟩)
      · exact .inr (.inr ⟨heq.symm, hle⟩)
    · exact .inr (.inl hgt)

instance : IsTrans (Int × String) priorityLe where
  trans a b c hab hbc := by
    unfold priorityLe at hab hbc ⊢
    rcases hab with hab | ⟨hab, hab'⟩
    · rcases hbc with hbc | ⟨hbc, -⟩
      · exact .inl (hab.trans hbc)
      · exact .inl (hbc ▸ hab)
    · rcases hbc with hbc | ⟨hbc, hbc'⟩
      · exact .inl (hab ▸ hbc)
      · exact .inr ⟨hab.trans hbc, String.le_trans hab' hbc'⟩

theorem fallbackProviderPriority_pairwise :
    fallbackProviderPriority.Pairwise fun p q => fallbackProviderPriority.idxOf p < fallbackProviderPriority.idxOf q := by
  decide

theorem failoverPriority_pairwise : s.failoverPriority.Pairwise s.Precedes := by
  unfold failoverPriority
  dsimp only
  refine List.Pairwise.filter _ ?_
  split
  · next hnone =>
    have hno : ¬ s.HasPriorities := fun h => hasPriorities_iff.mp h hnone
    exact fallbackProviderPriority_pairwise.imp fun h => .inr ⟨hno, h⟩
  · rw [List.pairwise_map]
    refine (List.pairwise_insertionSort priorityLe _).imp_of_mem fun {a b} ha hb hle => .inl ⟨a.1, b.1, ?_, ?_, hle⟩
    · exact mem_prioritized.mp ((List.mem_insertionSort _).mp ha)
    · exact mem_prioritized.mp ((List.mem_insertionSort _).mp hb)

theorem precedes_of_idxOf_lt {p q : String} (hp : s.Eligible p) (hq : s.Eligible q)
    (h : s.failoverPriority.idxOf p < s.failoverPriority.idxOf q) : s.Precedes p q := by
  have hlp := List.idxOf_lt_length_of_mem (mem_failoverPriority.mpr hp)
  have hlq := List.idxOf_lt_length_of_mem (mem_failoverPriority.mpr hq)
  have hprecedes := List.pairwise_iff_getElem.mp (failoverPriority_pairwise (s := s)) _ _ hlp hlq h
  rwa [List.getElem_idxOf hlp, List.getElem_idxOf hlq] at hprecedes

/-! ## What the loop appends -/

theorem addMissing_of_mem {chain : List String} {p : String} (h : p ∈ chain) : addMissing chain p = chain :=
  if_pos (List.contains_iff_mem.mpr h)

theorem addMissing_of_not_mem {chain : List String} {p : String} (h : p ∉ chain) : addMissing chain p = chain ++ [p] :=
  if_neg fun hin => h (List.contains_iff_mem.mp hin)

theorem mem_addMissing_self (chain : List String) (p : String) : p ∈ addMissing chain p := by
  by_cases h : p ∈ chain
  · rw [addMissing_of_mem h]
    exact h
  · rw [addMissing_of_not_mem h]
    exact List.mem_append_right chain List.mem_cons_self

/-- The loop appends what was missing, in the order in which it meets it. -/
theorem foldl_addMissing (ps chain : List String) :
    ∃ added, ps.foldl addMissing chain = chain ++ added ∧ (∀ p, p ∈ added ↔ p ∈ ps ∧ p ∉ chain) ∧
      added.Pairwise fun p q => ps.idxOf p < ps.idxOf q := by
  induction ps generalizing chain with
  | nil => exact ⟨[], (List.append_nil chain).symm, by simp, .nil⟩
  | cons p ps ih =>
    obtain ⟨added, heq, hmem, hsorted⟩ := ih (addMissing chain p)
    -- those that come later are not `p`: it is in the chain by then
    have hne : ∀ q ∈ added, q ≠ p := by
      rintro q hq rfl
      exact ((hmem q).mp hq).2 (mem_addMissing_self chain q)
    have hlater : added.Pairwise fun q r => (p :: ps).idxOf q < (p :: ps).idxOf r := by
      refine hsorted.imp_of_mem fun {q r} hq hr hlt => ?_
      rw [List.idxOf_cons_ne ps (hne q hq).symm, List.idxOf_cons_ne ps (hne r hr).symm]
      exact Nat.succ_lt_succ hlt
    by_cases hin : p ∈ chain
    · rw [addMissing_of_mem hin] at heq hmem
      refine ⟨added, ?_, fun q => ?_, hlater⟩
      · rw [List.foldl_cons, addMissing_of_mem hin, heq]
      · rw [hmem, List.mem_cons]
        constructor
        · exact fun h => ⟨.inr h.1, h.2⟩
        · rintro ⟨rfl | hq, hout⟩
          · exact absurd hin hout
          · exact ⟨hq, hout⟩
    · rw [addMissing_of_not_mem hin] at heq hmem
      refine ⟨p :: added, ?_, fun q => ?_, ?_⟩
      · rw [List.foldl_cons, addMissing_of_not_mem hin, heq, List.append_assoc]
        rfl
      · rw [List.mem_cons, hmem, List.mem_cons, List.mem_append, List.mem_singleton]
        constructor
        · rintro (rfl | ⟨hq, hout⟩)
          · exact ⟨.inl rfl, hin⟩
          · exact ⟨.inr hq, fun h => hout (.inl h)⟩
        · rintro ⟨rfl | hq, hout⟩
          · exact .inl rfl
          · by_cases hqp : q = p
            · exact .inl hqp
            · exact .inr ⟨hq, fun h => h.elim hout hqp⟩
      · refine List.pairwise_cons.mpr ⟨fun q hq => ?_, hlater⟩
        rw [List.idxOf_cons_self, List.idxOf_cons_ne ps (hne q hq).symm]
        exact Nat.succ_pos _

/-! ## The chain -/

section Chain

variable {provider p initialProvider : String}

def lineUp (s : Routing) (provider : String) : List String :=
  s.failoverPriority.foldl addMissing (if provider = "" then [] else [provider])

theorem lineUp_cons (hne : provider ≠ "") : ∃ added, s.lineUp provider = provider :: added ∧
      added.Pairwise fun p q => s.failoverPriority.idxOf p < s.failoverPriority.idxOf q := by
  obtain ⟨added, heq, -, hsorted⟩ := foldl_addMissing s.failoverPriority [provider]
  refine ⟨added, ?_, hsorted⟩
  rw [lineUp, if_neg hne, heq]
  rfl

theorem mem_lineUp (h : s.Eligible provider) : p ∈ s.lineUp provider ↔ s.Eligible p := by
  obtain ⟨added, heq, hmem, -⟩ := foldl_addMissing s.failoverPriority (if provider = "" then [] else [provider])
  have hstart : p ∈ (if provider = "" then [] else [provider]) → s.Eligible p := by
    intro hp
    split at hp
    · cases hp
    · rw [List.mem_singleton.mp hp]
      exact h
  rw [lineUp, heq, List.mem_append, hmem, mem_failoverPriority]
  constructor
  · exact fun hp => hp.elim hstart And.left
  · intro hp
    by_cases hin : p ∈ (if provider = "" then [] else [provider])
    · exact .inl hin
    · exact .inr ⟨hp, hin⟩

theorem nodup_lineUp : (s.lineUp provider).Nodup := by
  unfold lineUp
  refine nodup_foldl_addMissing _ ?_
  split
  · exact List.nodup_nil
  · exact List.nodup_singleton provider

theorem lineUp_ne_nil (h : s.Eligible provider) : s.lineUp provider ≠ [] := List.ne_nil_of_mem ((mem_lineUp h).mpr h)

theorem lineUp_eq_singleton_iff (h : s.Eligible provider) : s.lineUp provider = [provider] ↔ ∀ q, s.Eligible q → q = provider := by
  constructor
  · intro heq q hq
    exact List.mem_singleton.mp (heq ▸ (mem_lineUp h).mpr hq)
  · intro halone
    refine List.perm_singleton.mp ((List.perm_ext_iff_of_nodup nodup_lineUp (List.nodup_singleton provider)).mpr fun q => ?_)
    rw [mem_lineUp h, List.mem_singleton]
    exact ⟨halone q, fun heq => heq ▸ h⟩

theorem eligibleChain_of_others (h : s.Eligible provider) (hothers : ¬ ∀ q, s.Eligible q → q = provider) :
    s.eligibleChain provider = s.lineUp provider := by
  refine if_neg ?_
  rintro (hnil | ⟨hsingle, -⟩)
  · exact lineUp_ne_nil h hnil
  · exact hothers ((lineUp_eq_singleton_iff h).mp hsingle)

theorem eligibleChain_of_alone (h : s.Eligible provider) (halone : ∀ q, s.Eligible q → q = provider) :
    s.eligibleChain provider = if provider = "openrouter" then [provider] else [provider, "openrouter"] := by
  have hsingle : s.lineUp provider = [provider] := (lineUp_eq_singleton_iff h).mpr halone
  have hchain : s.failoverPriority.foldl addMissing (if provider = "" then [] else [provider]) = [provider] := hsingle
  unfold eligibleChain
  rw [hchain]
  dsimp only
  by_cases hopenrouter : provider = "openrouter"
  · rw [if_pos hopenrouter, if_neg]
    rintro (hnil | ⟨-, hne⟩)
    · cases hnil
    · exact hne hopenrouter
  · rw [if_neg hopenrouter, if_pos (.inr ⟨rfl, hopenrouter⟩), addMissing_of_not_mem]
    · rfl
    · rw [List.mem_singleton]
      exact Ne.symm hopenrouter

theorem build_of_eligible (h : s.Eligible (s.startingProvider initialProvider)) :
    s.buildProviderFailoverChain initialProvider = s.eligibleChain (s.startingProvider initialProvider) :=
  if_pos (List.contains_iff_mem.mpr (mem_failoverPriority.mpr h))

theorem build_of_not_eligible (h : ¬ s.Eligible (s.startingProvider initialProvider)) :
    s.buildProviderFailoverChain initialProvider =
      [if s.startingProvider initialProvider = "" then "openrouter" else s.startingProvider initialProvider] :=
  if_neg fun hin => h (mem_failoverPriority.mp (List.contains_iff_mem.mp hin))

theorem startingProvider_of_enabled (h : s.isProviderEnabled (lower initialProvider) = true) :
    s.startingProvider initialProvider = lower initialProvider := if_pos h

theorem enabled_startingProvider (h : s.startingProvider initialProvider ≠ "") :
    s.isProviderEnabled (s.startingProvider initialProvider) = true := by
  unfold startingProvider at h ⊢
  split at h
  · next henabled =>
    rw [if_pos henabled]
    exact henabled
  · exact absurd rfl h

/-! ## What always holds of it -/

theorem pairwise_tail_lineUp : (s.lineUp provider).tail.Pairwise fun p q => s.Eligible p → s.Eligible q → s.Precedes p q := by
  by_cases hempty : provider = ""
  · obtain ⟨added, heq, -, hsorted⟩ := foldl_addMissing s.failoverPriority []
    have hchain : s.lineUp provider = added := by rw [lineUp, if_pos hempty, heq, List.nil_append]
    rw [hchain]
    exact (hsorted.sublist (List.tail_sublist added)).imp fun hlt hp hq => precedes_of_idxOf_lt hp hq hlt
  · obtain ⟨added, heq, hsorted⟩ := lineUp_cons (s := s) hempty
    rw [heq]
    exact hsorted.imp fun hlt hp hq => precedes_of_idxOf_lt hp hq hlt

theorem build_ne_nil : s.buildProviderFailoverChain initialProvider ≠ [] := by
  by_cases h : s.Eligible (s.startingProvider initialProvider)
  · rw [build_of_eligible h]
    by_cases halone : ∀ q, s.Eligible q → q = s.startingProvider initialProvider
    · rw [eligibleChain_of_alone h halone]
      split
      · exact List.cons_ne_nil _ _
      · exact List.cons_ne_nil _ _
    · rw [eligibleChain_of_others h halone]
      exact lineUp_ne_nil h
  · rw [build_of_not_eligible h]
    exact List.cons_ne_nil _ _

theorem head_build (hne : lower initialProvider ≠ "") (henabled : s.isProviderEnabled (lower initialProvider) = true) :
    (s.buildProviderFailoverChain initialProvider).head? = some (lower initialProvider) := by
  have hstart := startingProvider_of_enabled henabled
  by_cases h : s.Eligible (s.startingProvider initialProvider)
  · rw [build_of_eligible h]
    by_cases halone : ∀ q, s.Eligible q → q = s.startingProvider initialProvider
    · rw [eligibleChain_of_alone h halone, hstart]
      split
      · rfl
      · rfl
    · obtain ⟨added, heq, -⟩ := lineUp_cons (s := s) hne
      rw [eligibleChain_of_others h halone, hstart, heq]
      rfl
  · rw [build_of_not_eligible h, hstart, if_neg hne]
    rfl

theorem mem_build_of_eligible (h : s.Eligible (lower initialProvider)) (hp : s.Eligible p) :
    p ∈ s.buildProviderFailoverChain initialProvider := by
  have hstart := startingProvider_of_enabled h.1
  rw [← hstart] at h
  rw [build_of_eligible h]
  by_cases halone : ∀ q, s.Eligible q → q = s.startingProvider initialProvider
  · rw [eligibleChain_of_alone h halone, halone p hp]
    split
    · exact List.mem_cons_self
    · exact List.mem_cons_self
  · rw [eligibleChain_of_others h halone]
    exact (mem_lineUp h).mpr hp

theorem pairwise_tail_build (h : s.Eligible (lower initialProvider)) :
    (s.buildProviderFailoverChain initialProvider).tail.Pairwise fun p q => s.Eligible p → s.Eligible q → s.Precedes p q := by
  have hstart := startingProvider_of_enabled h.1
  rw [← hstart] at h
  rw [build_of_eligible h]
  by_cases halone : ∀ q, s.Eligible q → q = s.startingProvider initialProvider
  · rw [eligibleChain_of_alone h halone]
    split
    · exact .nil
    · exact List.pairwise_singleton _ _
  · rw [eligibleChain_of_others h halone]
    exact pairwise_tail_lineUp

/-! ## Who is disabled -/

/-- Nobody in it is disabled, unless OpenRouter is, and is appended. -/
theorem enabled_build_iff : (∀ p ∈ s.buildProviderFailoverChain initialProvider, s.isProviderEnabled p = true) ↔
    (s.NobodyElse initialProvider → s.isProviderEnabled "openrouter" = true) := by
  unfold NobodyElse
  by_cases h : s.Eligible (s.startingProvider initialProvider)
  · rw [build_of_eligible h]
    by_cases halone : ∀ q, s.Eligible q → q = s.startingProvider initialProvider
    · rw [eligibleChain_of_alone h halone]
      constructor
      · intro hall _
        by_cases hopenrouter : s.startingProvider initialProvider = "openrouter"
        · exact hopenrouter ▸ h.1
        · rw [if_neg hopenrouter] at hall
          exact hall "openrouter" (by simp)
      · intro hopenrouter p hp
        have henabled := hopenrouter (.inl ⟨h, halone⟩)
        split at hp
        · exact (List.mem_singleton.mp hp) ▸ h.1
        · rcases List.mem_pair.mp hp with rfl | rfl
          · exact h.1
          · exact henabled
    · rw [eligibleChain_of_others h halone]
      refine iff_of_true (fun p hp => ((mem_lineUp h).mp hp).1) ?_
      rintro (⟨-, hall⟩ | ⟨hnot, -⟩)
      · exact absurd hall halone
      · exact absurd h hnot
  · rw [build_of_not_eligible h]
    by_cases hempty : s.startingProvider initialProvider = ""
    · rw [if_pos hempty]
      simp only [List.mem_singleton, forall_eq, hempty, and_true]
      exact ⟨fun henabled _ => henabled, fun hopenrouter => hopenrouter (.inr (hempty ▸ h))⟩
    · rw [if_neg hempty]
      refine iff_of_true (fun p hp => (List.mem_singleton.mp hp) ▸ enabled_startingProvider hempty) ?_
      rintro (⟨hin, -⟩ | ⟨-, heq⟩)
      · exact absurd hin h
      · exact absurd heq hempty

/-- **The chain is well formed if and only if** OpenRouter is enabled, or somebody else is left. Nobody, as the provider of a request, is
    the empty name. -/
theorem build_wellFormed_iff (s : Routing) (initialProvider : Option String) :
    s.WellFormed (initialProvider.getD "") (s.buildProviderFailoverChain (initialProvider.getD "")) ↔
      (s.NobodyElse (initialProvider.getD "") → s.isProviderEnabled "openrouter" = true) := by
  rw [← enabled_build_iff]
  exact ⟨WellFormed.enabled, fun henabled =>
    { nonempty := build_ne_nil
      nodup := nodup_build s _
      enabled := henabled
      first := head_build
      complete := fun h p hp => mem_build_of_eligible h hp
      ordered := pairwise_tail_build }⟩

def onlyAnthropic : Routing := { enabledProviders := some ["anthropic"] }

/-- **A provider that is disabled, in a chain**: OpenRouter, after the only one that is not. -/
theorem build_disabled : onlyAnthropic.buildProviderFailoverChain "anthropic" = ["anthropic", "openrouter"] ∧
    ¬ onlyAnthropic.WellFormed "anthropic" (onlyAnthropic.buildProviderFailoverChain "anthropic") := by
  have hchain : onlyAnthropic.buildProviderFailoverChain "anthropic" = ["anthropic", "openrouter"] := by decide +kernel
  refine ⟨hchain, fun h => ?_⟩
  have henabled := h.enabled "openrouter" (by rw [hchain]; decide)
  exact absurd henabled (by decide +kernel)

end Chain

end Routing

end Gatewayz
