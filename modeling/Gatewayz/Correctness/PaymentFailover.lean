import Gatewayz.Chat.AnonymousFailover
import Gatewayz.Correctness.PermittedProviders

/-!
# `Correctness.PaymentFailover` — the loops that make their own chain longer

When the last provider of its chain wants to be paid, an anonymous request goes on with the providers that payment failover adds. The two
loops are to try nobody twice, to come to an end, to find whoever would answer, and to raise what the last provider raised
(`Fulfilled`). `payment_failover_iff` says when they do.

In one piece they do, for every chain in which the loop finds no provider a second time; `prepare_upstream_request` makes no other
(`reachedOnce_providerChain`). A stream is different. There `provider`, which the extension starts from, has no value before a stream has
been opened, and so a 402 at the end of a chain that opened none ends the loop with an error of its own, while others would have answered
(`streaming_unbound`).
-/

namespace Gatewayz

open Exec

/-! ## Who can get into a chain -/

namespace Routing

variable (s : Routing) {chain : List String} {p q : String}

theorem mem_addMissing (h : p ∈ addMissing chain q) : p ∈ chain ∨ p = q := by
  unfold addMissing at h
  split at h
  · exact .inl h
  · simpa using h

theorem mem_foldl_addMissing {ps : List String} (h : p ∈ ps.foldl addMissing chain) : p ∈ chain ∨ p ∈ ps := by
  induction ps generalizing chain with
  | nil => exact .inl h
  | cons q ps ih =>
    rcases ih h with hp | hp
    · rcases mem_addMissing hp with hold | rfl
      · exact .inl hold
      · exact .inr List.mem_cons_self
    · exact .inr (List.mem_cons_of_mem q hp)

theorem mem_build (h : p ∈ s.buildProviderFailoverChain q) : p = lower q ∨ p = "openrouter" ∨ p ∈ s.failoverPriority := by
  unfold buildProviderFailoverChain at h
  have hname : (if s.isProviderEnabled (lower q) = true then lower q else "") = lower q ∨
      (if s.isProviderEnabled (lower q) = true then lower q else "") = "" := by
    split
    · exact .inl rfl
    · exact .inr rfl
  revert h hname
  generalize (if s.isProviderEnabled (lower q) = true then lower q else "") = name
  dsimp only
  intro h hname
  split at h
  · unfold eligibleChain at h
    have hstart : ∀ y ∈ (if name = "" then [] else [name]), y = lower q := by
      intro y hy
      split at hy
      · cases hy
      · next hne =>
        rcases hname with rfl | hempty
        · exact List.mem_singleton.mp hy
        · exact absurd hempty hne
    have hfold : ∀ y ∈ s.failoverPriority.foldl addMissing (if name = "" then [] else [name]),
        y = lower q ∨ y ∈ s.failoverPriority := fun y hy => (mem_foldl_addMissing hy).imp_left (hstart y)
    revert h hfold
    generalize s.failoverPriority.foldl addMissing (if name = "" then [] else [name]) = chain
    dsimp only
    intro h hfold
    split at h
    · rcases mem_addMissing h with hp | hp
      · exact (hfold p hp).imp_right .inr
      · exact .inr (.inl hp)
    · exact (hfold p h).imp_right .inr
  · split at h
    · exact .inr (.inl (List.mem_singleton.mp h))
    · next hne =>
      rcases hname with rfl | hempty
      · exact .inl (List.mem_singleton.mp h)
      · exact absurd hempty hne

variable {modelId : String}

theorem mem_enforce (h : p ∈ s.enforceModelFailoverRules modelId chain) : p ∈ chain := by
  unfold enforceModelFailoverRules at h
  dsimp only at h
  split at h
  · exact h
  split at h
  · next hlocked =>
    rw [List.mem_singleton.mp h]
    exact List.contains_iff_mem.mp hlocked.2
  split at h
  · split at h
    · exact h
    · unfold nativeFirst at h
      split at h
      · next hnative =>
        rcases List.mem_cons.mp h with rfl | hp
        · exact List.mem_of_mem_filter (List.contains_iff_mem.mp hnative.1)
        · exact List.mem_of_mem_filter (List.mem_of_mem_erase hp)
      · exact List.mem_of_mem_filter h
  · split at h
    · next hopenrouter =>
      rw [List.mem_singleton.mp h]
      exact List.contains_iff_mem.mp hopenrouter.2
    · exact h

theorem mem_filterByCircuitBreaker (h : p ∈ s.filterByCircuitBreaker modelId chain) : p ∈ chain := by
  unfold filterByCircuitBreaker at h
  dsimp only at h
  split at h
  · exact h
  split at h
  · exact h
  split at h
  · exact List.mem_of_mem_take h
  · exact List.mem_of_mem_filter h

theorem mem_filterByCircuitBreaker_of_available (h : p ∈ chain) (hp : s.modelAvailable modelId p = some true) :
    p ∈ s.filterByCircuitBreaker modelId chain := by
  have hmem : p ∈ chain.filter fun p => (s.modelAvailable modelId p).getD false :=
    List.mem_filter.mpr ⟨h, by rw [hp]; rfl⟩
  unfold filterByCircuitBreaker
  dsimp only
  split
  · exact h
  split
  · exact h
  split
  · next hnone =>
    rw [hnone] at hmem
    cases hmem
  · exact hmem

end Routing

namespace AnonymousDispatch

/-! ## The providers there are -/

section Providers

variable (d : AnonymousDispatch) (start : Option String) (chain : List String)

def names : List String := chain ++ start.toList ++ "openrouter" :: d.registry.failoverPriority

/-- The distinct providers: these names, and as `build_provider_failover_chain` writes them. -/
def providers : Finset String := (d.names start chain ++ (d.names start chain).map lower).toFinset

variable {d start chain} {p q : String} {idx : Nat}

theorem mem_providers : p ∈ d.providers start chain ↔ p ∈ d.names start chain ∨ ∃ n ∈ d.names start chain, lower n = p := by
  rw [providers, List.mem_toFinset, List.mem_append, List.mem_map]

theorem mem_providers_of_name (h : p ∈ d.names start chain) : p ∈ d.providers start chain := mem_providers.mpr (.inl h)

theorem mem_providers_of_mem (h : p ∈ chain) : p ∈ d.providers start chain :=
  mem_providers_of_name (List.mem_append_left _ (List.mem_append_left _ h))

theorem lower_mem_providers (h : p ∈ d.providers start chain) : lower p ∈ d.providers start chain := by
  rcases mem_providers.mp h with hname | ⟨n, hn, rfl⟩
  · exact mem_providers.mpr (.inr ⟨p, hname, rfl⟩)
  · rw [lower_lower]
    exact mem_providers.mpr (.inr ⟨n, hn, rfl⟩)

theorem mem_of_mem_extendedChain (h : p ∈ d.extendedChain idx q) : p ∈ d.registry.buildProviderFailoverChain q := by
  have hrules := Routing.mem_filterByCircuitBreaker _ h
  rw [Routing.enforceFailoverRules_eq] at hrules
  exact Routing.mem_enforce _ hrules

theorem extendedChain_providers (hq : q ∈ d.providers start chain) (h : p ∈ d.extendedChain idx q) : p ∈ d.providers start chain := by
  rcases d.registry.mem_build (mem_of_mem_extendedChain h) with rfl | rfl | hpriority
  · exact lower_mem_providers hq
  · exact mem_providers_of_name (by simp [names])
  · exact mem_providers_of_name (by simp [names, hpriority])

theorem nodup_extendedChain : (d.extendedChain idx q).Nodup := by
  unfold extendedChain
  rw [Routing.enforceFailoverRules_eq]
  exact nodup_filterByCircuitBreaker _ (nodup_enforce _ (nodup_build _ q))

theorem mem_newProviders {xs : List String} : p ∈ d.newProviders idx q xs ↔ p ∈ d.extendedChain idx q ∧ p ∉ xs := by
  rw [newProviders, List.mem_filter]
  simp

theorem providers_subset (provider : String) : d.providers none chain ⊆ d.providers (some provider) chain := by
  have hnames : ∀ n ∈ d.names none chain, n ∈ d.names (some provider) chain := by
    intro n hn
    simp only [names, Option.toList_none, Option.toList_some, List.append_nil, List.mem_append] at hn ⊢
    exact hn.imp_left .inl
  intro p hp
  rcases mem_providers.mp hp with hname | ⟨n, hn, rfl⟩
  · exact mem_providers_of_name (hnames p hname)
  · exact mem_providers.mpr (.inr ⟨n, hnames n hn, rfl⟩)

end Providers

/-! ## Outcomes -/

section Law

variable {ρ : Type} (d : AnonymousDispatch) (attempt : String → String → ProviderAttempt ρ)

def outcome (p : String) : ProviderAttempt ρ := attempt p (d.transformModelId d.originalModel p)

def FailsOver (p : String) : Prop := ∃ e assigned, d.outcome attempt p = .failed e assigned ∧ shouldFailover (d.httpExc p e) = true

def PaymentRequired (p : String) : Prop :=
  ∃ e assigned, d.outcome attempt p = .failed e assigned ∧ Anon.isPaymentRequired (d.httpExc p e) = true

def pass (locals : FailoverLocals) (p : String) : FailoverLocals :=
  match d.outcome attempt p with
  | .answered _ => locals
  | .failed e assigned => ⟨if assigned then some p else locals.provider, some (d.httpExc p e)⟩

/-- The variable `provider` after attempts that have failed. -/
def providerAfter (start : Option String) (ps : List String) : Option String :=
  (ps.foldl (d.pass attempt) { provider := start }).provider

/-- The chain is exhausted: all have failed over, the last with a 402. -/
def Exhausted (chain : List String) : Prop :=
  ∃ before last, chain = before ++ [last] ∧ (∀ p ∈ before, d.FailsOver attempt p) ∧ d.PaymentRequired attempt last

/-- No provider of the chain is reached twice: if the loop gets to it, it is not one of those before it. -/
def ReachedOnce (chain : List String) : Prop :=
  ∀ before p after, chain = before ++ p :: after → (∀ q ∈ before, d.FailsOver attempt q) → p ∉ before

/-- How the chain grows. -/
inductive Grown (start : Option String) (chain : List String) : List String → Prop
  | initial : Grown start chain chain
  | extended {xs : List String} {provider : String} (h : Grown start chain xs) (hexhausted : d.Exhausted attempt xs)
      (hprovider : d.providerAfter attempt start xs = some provider) (hnew : d.newProviders (xs.length - 1) provider xs ≠ []) :
      Grown start chain (xs ++ d.newProviders (xs.length - 1) provider xs)

variable {d attempt} {start : Option String} {chain xs : List String} {p q : String} {locals : FailoverLocals} {idx : Nat}

theorem shouldFailover_of_paymentRequired {e : Exc} (h : Anon.isPaymentRequired e = true) : shouldFailover e = true := by
  have hstatus : e.httpStatus? = some 402 := of_decide_eq_true h
  rw [shouldFailover, hstatus]
  rfl

theorem PaymentRequired.failsOver (h : d.PaymentRequired attempt p) : d.FailsOver attempt p := by
  obtain ⟨e, assigned, hp, he⟩ := h
  exact ⟨e, assigned, hp, shouldFailover_of_paymentRequired he⟩

theorem Exhausted.failsOver (h : d.Exhausted attempt xs) : ∀ p ∈ xs, d.FailsOver attempt p := by
  obtain ⟨before, last, rfl, hbefore, hlast⟩ := h
  intro p hp
  rcases List.mem_append.mp hp with hp | hp
  · exact hbefore p hp
  · rw [List.mem_singleton.mp hp]
    exact hlast.failsOver

variable {before after : List String}

theorem ReachedOnce.nodup (h : d.ReachedOnce attempt chain) (hchain : chain = before ++ after)
    (hbefore : ∀ q ∈ before, d.FailsOver attempt q) : before.Nodup := by
  induction before using List.reverseRecOn generalizing after with
  | nil => exact List.nodup_nil
  | append_singleton before p ih =>
    have hsplit : chain = before ++ p :: after := by rw [hchain, List.append_assoc, List.singleton_append]
    have hfails : ∀ q ∈ before, d.FailsOver attempt q := fun q hq => hbefore q (List.mem_append_left [p] hq)
    refine List.nodup_append.mpr ⟨ih hsplit hfails, List.nodup_singleton p, fun q hq r hr hqr => ?_⟩
    rw [hqr, List.mem_singleton.mp hr] at hq
    exact h before p after hsplit hfails hq

theorem failsOver_or_first (d : AnonymousDispatch) (attempt : String → String → ProviderAttempt ρ) (chain : List String) :
    (∀ p ∈ chain, d.FailsOver attempt p) ∨
      ∃ before p after, chain = before ++ p :: after ∧ (∀ q ∈ before, d.FailsOver attempt q) ∧ ¬ d.FailsOver attempt p := by
  induction chain with
  | nil => exact .inl fun p hp => absurd hp List.not_mem_nil
  | cons p chain ih =>
    by_cases hp : d.FailsOver attempt p
    · rcases ih with hall | ⟨before, q, after, hchain, hbefore, hq⟩
      · exact .inl (List.forall_mem_cons.mpr ⟨hp, hall⟩)
      · exact .inr ⟨p :: before, q, after, by rw [hchain, List.cons_append], List.forall_mem_cons.mpr ⟨hp, hbefore⟩, hq⟩
    · exact .inr ⟨[], p, chain, rfl, fun q hq => absurd hq List.not_mem_nil, hp⟩

theorem outcome_eq (d : AnonymousDispatch) (attempt : String → String → ProviderAttempt ρ) (p : String) :
    d.outcome attempt p = attempt p (d.transformModelId d.originalModel p) := rfl

/-- What the body can do. -/
theorem body_cases (d : AnonymousDispatch) (attempt : String → String → ProviderAttempt ρ) (idx : Nat) (xs : List String) (p : String)
    (locals : FailoverLocals) :
    (∃ a, d.outcome attempt p = .answered a ∧ d.body attempt idx xs p locals = .leave (.ok a)) ∨
      (∃ e assigned, d.outcome attempt p = .failed e assigned ∧ d.body attempt idx xs p locals = .leave (.error (d.httpExc p e))) ∨
      (d.FailsOver attempt p ∧ idx + 1 < xs.length ∧ d.body attempt idx xs p locals = .next [] (d.pass attempt locals p)) ∨
      (d.PaymentRequired attempt p ∧ idx + 1 = xs.length ∧ (d.pass attempt locals p).provider = none ∧
        d.body attempt idx xs p locals = .leave (.error Anon.unboundProvider)) ∨
      ∃ provider, d.PaymentRequired attempt p ∧ idx + 1 = xs.length ∧ (d.pass attempt locals p).provider = some provider ∧
        d.newProviders idx provider xs ≠ [] ∧
        d.body attempt idx xs p locals = .next (d.newProviders idx provider xs) (d.pass attempt locals p) := by
  unfold body pass
  rw [← outcome_eq d attempt p]
  cases hp : d.outcome attempt p with
  | answered a => exact .inl ⟨a, rfl, rfl⟩
  | failed e assigned =>
    dsimp only
    split
    · next hnext => exact .inr (.inr (.inl ⟨⟨e, assigned, hp, hnext.2⟩, hnext.1, rfl⟩))
    split
    · next hlast =>
      cases hprovider : if assigned = true then some p else locals.provider with
      | none => exact .inr (.inr (.inr (.inl ⟨⟨e, assigned, hp, hlast.1⟩, hlast.2, rfl, rfl⟩)))
      | some provider =>
        dsimp only
        split
        · exact .inr (.inl ⟨e, assigned, rfl, rfl⟩)
        · next hnew =>
          exact .inr (.inr (.inr (.inr ⟨provider, ⟨e, assigned, hp, hlast.1⟩, hlast.2, rfl, hnew, rfl⟩)))
    · exact .inr (.inl ⟨e, assigned, rfl, rfl⟩)

theorem body_answered {a : ρ} (h : d.outcome attempt p = .answered a) : d.body attempt idx xs p locals = .leave (.ok a) := by
  unfold body
  rw [← outcome_eq d attempt p, h]

theorem body_leaves (h : ¬ d.FailsOver attempt p) : ∃ r, d.body attempt idx xs p locals = .leave r := by
  rcases body_cases d attempt idx xs p locals with ⟨a, -, he⟩ | ⟨e, assigned, -, he⟩ | ⟨hfails, -, -⟩ |
      ⟨hpayment, -, -, -⟩ | ⟨provider, hpayment, -, -, -, -⟩
  · exact ⟨_, he⟩
  · exact ⟨_, he⟩
  · exact absurd hfails h
  · exact absurd hpayment.failsOver h
  · exact absurd hpayment.failsOver h

theorem body_passes (h : d.FailsOver attempt p) (hidx : idx + 1 < xs.length) :
    d.body attempt idx xs p locals = .next [] (d.pass attempt locals p) := by
  obtain ⟨e, assigned, hp, he⟩ := h
  unfold body pass
  rw [← outcome_eq d attempt p, hp]
  dsimp only
  rw [if_pos ⟨hidx, he⟩]

theorem body_last (h : d.PaymentRequired attempt p) (hidx : idx + 1 = xs.length) :
    ((d.pass attempt locals p).provider = none → d.body attempt idx xs p locals = .leave (.error Anon.unboundProvider)) ∧
      ∀ provider, (d.pass attempt locals p).provider = some provider → d.newProviders idx provider xs ≠ [] →
        d.body attempt idx xs p locals = .next (d.newProviders idx provider xs) (d.pass attempt locals p) := by
  obtain ⟨e, assigned, hp, he⟩ := h
  unfold body pass
  rw [← outcome_eq d attempt p, hp]
  dsimp only
  have hlast : ¬ (idx + 1 < xs.length ∧ shouldFailover (d.httpExc p e) = true) := fun hnext => by omega
  have hpayment : Anon.isPaymentRequired (d.httpExc p e) = true ∧ idx + 1 = xs.length := ⟨he, hidx⟩
  rw [if_neg hlast, if_pos hpayment]
  constructor
  · intro hprovider
    rw [hprovider]
  · intro provider hprovider hnew
    rw [hprovider]
    dsimp only
    rw [if_neg hnew]

/-! ## Runs -/

abbrev localsAfter (d : AnonymousDispatch) (attempt : String → String → ProviderAttempt ρ) (start : Option String) (ps : List String) :
    FailoverLocals := ps.foldl (d.pass attempt) { provider := start }

theorem localsAfter_concat (d : AnonymousDispatch) (attempt : String → String → ProviderAttempt ρ) (start : Option String)
    (ps : List String) (p : String) :
    localsAfter d attempt start (ps ++ [p]) = d.pass attempt (localsAfter d attempt start ps) p := by
  rw [localsAfter, List.foldl_append]
  rfl

theorem run_to (start : Option String) (p : String) (after : List String)
    (hbefore : ∀ q ∈ before, d.FailsOver attempt q) {i : Nat} (hi : i ≤ before.length) (fuel : Nat) :
    (d.loop attempt).run (fuel + (before.length - i)) (before ++ p :: after) i (localsAfter d attempt start (before.take i)) =
      (d.loop attempt).run fuel (before ++ p :: after) before.length (localsAfter d attempt start before) := by
  have hpasses : ∀ q ∈ before.drop i, ∀ j < (before.take i ++ before.drop i).length, ∀ locals,
      (d.loop attempt).body j (before.take i ++ before.drop i ++ p :: after) q locals = .next [] (d.pass attempt locals q) := by
    intro q hq j hj locals
    refine body_passes (hbefore q (List.mem_of_mem_drop hq)) ?_
    rw [List.length_append, List.length_cons]
    omega
  have hwalk := GrowingLoop.run_walk (d.pass attempt) fuel (before.take i) (before.drop i) (p :: after)
    (localsAfter d attempt start (before.take i)) hpasses
  rw [List.take_append_drop, List.length_drop, List.length_take, Nat.min_eq_left hi, ← List.foldl_append, List.take_append_drop] at hwalk
  exact hwalk

/-- Run: a chain that has grown is the chain of the loop at some time, and what is behind has failed over. -/
theorem run_grown (h : d.Grown attempt start chain xs) :
    ∃ i spent, (i = 0 ∨ i < xs.length) ∧ (∀ q ∈ xs.take i, d.FailsOver attempt q) ∧
      ∀ fuel, (d.loop attempt).run (fuel + spent) chain 0 { provider := start } =
        (d.loop attempt).run fuel xs i (localsAfter d attempt start (xs.take i)) := by
  induction h with
  | initial => exact ⟨0, 0, .inl rfl, fun q hq => absurd hq (by simp), fun fuel => rfl⟩
  | @extended xs provider h hexhausted hprovider hnew ih =>
    obtain ⟨i, spent, hi, -, hrun⟩ := ih
    have hfails := hexhausted.failsOver
    obtain ⟨before, last, hxs, hbefore, hlast⟩ := hexhausted
    have hlength : before.length + 1 = xs.length := by simp [hxs]
    have hi : i ≤ before.length := by omega
    refine ⟨xs.length, 1 + (before.length - i) + spent, .inr ?_, ?_, fun fuel => ?_⟩
    · have hpos := List.length_pos_iff.mpr hnew
      rw [List.length_append]
      omega
    · rw [List.take_left]
      exact hfails
    have hlocals : localsAfter d attempt start xs = d.pass attempt (localsAfter d attempt start before) last := by
      rw [hxs, localsAfter_concat]
    have hprovider' : (d.pass attempt (localsAfter d attempt start before) last).provider = some provider := by
      rw [← hlocals]
      exact hprovider
    have hplace : xs[before.length]? = some last := by simp [hxs]
    have hwalked := run_to start last [] hbefore hi (fuel + 1)
    rw [← hxs] at hwalked
    have htake : xs.take i = before.take i := by rw [hxs, List.take_append_of_le_length hi]
    have hgrows : (d.loop attempt).body before.length xs last (localsAfter d attempt start before) =
        .next (d.newProviders before.length provider xs) (localsAfter d attempt start xs) := by
      rw [hlocals]
      rw [← hlength] at hnew
      exact (body_last hlast hlength).2 provider hprovider' hnew
    have hfuel : fuel + (1 + (before.length - i) + spent) = fuel + 1 + (before.length - i) + spent := by omega
    rw [hfuel, hrun, htake, hwalked, GrowingLoop.run_next hplace hgrows, List.take_left, ← hlength]
    rfl

variable {fuel : Nat}

/-- The chain, and what it grows by, is tried to the end. -/
theorem run_complete (h : d.Grown attempt start chain xs) {a : ρ} (hxs : xs = before ++ p :: after)
    (hbefore : ∀ q ∈ before, d.FailsOver attempt q) (hp : d.outcome attempt p = .answered a)
    {out : List String × Except Exc ρ} (hrun : (d.loop attempt).run fuel chain 0 { provider := start } = some out) :
    out.2 = .ok a := by
  obtain ⟨i, spent, hi, hbehind, hgrown⟩ := run_grown h
  have hplace : xs[before.length]? = some p := by simp [hxs]
  -- the provider that answers is not behind
  have hle : i ≤ before.length := by
    by_contra hlt
    have hmem : p ∈ xs.take i := by
      rw [hxs, List.take_append]
      refine List.mem_append.mpr (.inr ?_)
      obtain ⟨n, hn⟩ : ∃ n, i - before.length = n + 1 := ⟨i - before.length - 1, by omega⟩
      rw [hn]
      exact List.mem_cons_self
    obtain ⟨e, assigned, hfailed, -⟩ := hbehind p hmem
    rw [hp] at hfailed
    cases hfailed
  have hwalked := run_to start p after hbefore hle (fuel + 1)
  have hleave : (d.loop attempt).body before.length xs p (localsAfter d attempt start before) = .leave (.ok a) := body_answered hp
  have htake : xs.take i = before.take i := by rw [hxs, List.take_append_of_le_length hle]
  rw [← hxs, ← htake, GrowingLoop.run_leave hplace hleave] at hwalked
  have hlong := GrowingLoop.run_mono hrun (1 + (before.length - i) + spent)
  have hfuel : fuel + (1 + (before.length - i) + spent) = fuel + 1 + (before.length - i) + spent := by omega
  rw [hfuel, hgrown, hwalked] at hlong
  rw [← Option.some.inj hlong]

/-- A chain exhausted by a 402 is the end of a loop that has no `provider`. -/
theorem run_unbound (h : d.Exhausted attempt chain)
    (hprovider : d.providerAfter attempt start chain = none) {out : List String × Except Exc ρ}
    (hrun : (d.loop attempt).run fuel chain 0 { provider := start } = some out) :
    out.2 = .error Anon.unboundProvider := by
  obtain ⟨before, last, hchain, hbefore, hlast⟩ := h
  have hlength : before.length + 1 = chain.length := by simp [hchain]
  have hplace : chain[before.length]? = some last := by simp [hchain]
  have hprovider' : (d.pass attempt (localsAfter d attempt start before) last).provider = none := by
    rw [← localsAfter_concat, ← hchain]
    exact hprovider
  have hwalked := run_to start last [] hbefore (Nat.zero_le _) (fuel + 1)
  rw [← hchain, GrowingLoop.run_leave hplace ((body_last hlast hlength).1 hprovider')] at hwalked
  have hlong := GrowingLoop.run_mono hrun (1 + (before.length - 0))
  rw [← Nat.add_assoc] at hlong
  rw [show (d.loop attempt).run (fuel + 1 + (before.length - 0)) chain 0 { provider := start } = _ from hwalked] at hlong
  rw [← Option.some.inj hlong]

theorem run_ends_of_nodup (hchain : chain.Nodup) (hfuel : (d.providers start chain).card < fuel) :
    ∃ visited result, (d.loop attempt).run fuel chain 0 { provider := start } = some (visited, result) ∧ visited.Nodup ∧
      ∀ p ∈ visited, p ∈ d.providers start chain := by
  let I : List String → Nat → FailoverLocals → Prop := fun xs _ locals =>
    (∀ p ∈ xs, p ∈ d.providers start chain) ∧ ∀ p, locals.provider = some p → p ∈ d.providers start chain
  have hpass : ∀ xs i p locals, I xs i locals → p ∈ d.providers start chain →
      ∀ q, (d.pass attempt locals p).provider = some q → q ∈ d.providers start chain := by
    intro xs i p locals hI hp q hq
    unfold pass at hq
    split at hq
    · exact hI.2 q hq
    · dsimp only at hq
      split at hq
      · rw [← Option.some.inj hq]
        exact hp
      · exact hI.2 q hq
  have hnext : ∀ xs i p locals more locals', I xs i locals → xs[i]? = some p →
      d.body attempt i xs p locals = .next more locals' →
      I (xs ++ more) (i + 1) locals' ∧ more.Nodup ∧ ∀ q ∈ more, q ∈ d.providers start chain ∧ q ∉ xs := by
    intro xs i p locals more locals' hI hp hbody
    have hprovider := hpass xs i p locals hI (hI.1 p (List.mem_of_getElem? hp))
    rcases body_cases d attempt i xs p locals with ⟨a, -, he⟩ | ⟨e, assigned, -, he⟩ | ⟨-, -, he⟩ | ⟨-, -, -, he⟩ |
        ⟨provider, -, -, hsome, -, he⟩
    · rw [he] at hbody
      cases hbody
    · rw [he] at hbody
      cases hbody
    · rw [he] at hbody
      cases hbody
      exact ⟨⟨by simpa using hI.1, hprovider⟩, List.nodup_nil, fun q hq => absurd hq List.not_mem_nil⟩
    · rw [he] at hbody
      cases hbody
    · rw [he] at hbody
      cases hbody
      have hnew : ∀ q ∈ d.newProviders i provider xs, q ∈ d.providers start chain ∧ q ∉ xs := fun q hq =>
        ⟨extendedChain_providers (hprovider provider hsome) (mem_newProviders.mp hq).1, (mem_newProviders.mp hq).2⟩
      refine ⟨⟨fun q hq => ?_, hprovider⟩, nodup_extendedChain.filter _, hnew⟩
      exact (List.mem_append.mp hq).elim (hI.1 q) fun hq => (hnew q hq).1
  have hstart : I chain 0 { provider := start } := by
    refine ⟨fun p hp => mem_providers_of_mem hp, fun p hp => mem_providers_of_name ?_⟩
    simp [names, show start = some p from hp]
  exact GrowingLoop.run_ends (L := d.loop attempt) hnext hstart hchain hstart.1 (i := 0) hfuel (Nat.zero_le _)

theorem take_reached : (before ++ p :: after).take (before.length + 1) = before ++ [p] := by
  rw [← List.singleton_append, ← List.append_assoc]
  exact List.take_left' List.length_append

/-- The loop ends, and tries nobody twice. -/
theorem run_ends (hchain : d.ReachedOnce attempt chain) (hfuel : (d.providers start chain).card < fuel) :
    ∃ visited result, (d.loop attempt).run fuel chain 0 { provider := start } = some (visited, result) ∧ visited.Nodup ∧
      ∀ p ∈ visited, p ∈ d.providers start chain := by
  rcases failsOver_or_first d attempt chain with hall | ⟨before, p, after, hsplit, hbefore, hp⟩
  · exact run_ends_of_nodup (hchain.nodup (List.append_nil chain).symm hall) hfuel
  have hnodup : (before ++ [p]).Nodup := by
    refine List.nodup_append.mpr ⟨hchain.nodup hsplit hbefore, List.nodup_singleton p, fun q hq r hr hqr => ?_⟩
    rw [hqr, List.mem_singleton.mp hr] at hq
    exact hchain before p after hsplit hbefore hq
  have hall : ∀ q ∈ before ++ [p], q ∈ d.providers start chain := by
    intro q hq
    refine mem_providers_of_mem ?_
    rw [hsplit]
    rcases List.mem_append.mp hq with hq | hq
    · exact List.mem_append_left _ hq
    · rw [List.mem_singleton.mp hq]
      exact List.mem_append_right _ List.mem_cons_self
  -- the fuel is enough to get to the first that does not fail over
  have hlength : before.length + 1 ≤ (d.providers start chain).card := by
    have hvisited : before.length + 1 = (before ++ [p]).length := by rw [List.length_append, List.length_singleton]
    rw [hvisited, ← List.toFinset_card_of_nodup hnodup]
    exact Finset.card_le_card fun q hq => hall q (List.mem_toFinset.mp hq)
  obtain ⟨rest, rfl⟩ : ∃ rest, fuel = rest + 1 + (before.length - 0) := ⟨fuel - 1 - before.length, by omega⟩
  obtain ⟨r, hleave⟩ : ∃ r, d.body attempt before.length chain p (localsAfter d attempt start before) = .leave r := body_leaves hp
  have hplace : chain[before.length]? = some p := by simp [hsplit]
  have hwalked := run_to start p after hbefore (Nat.zero_le _) (rest + 1)
  rw [← hsplit, GrowingLoop.run_leave hplace hleave] at hwalked
  have hvisited : chain.take (before.length + 1) = before ++ [p] := by rw [hsplit, take_reached]
  rw [hvisited] at hwalked
  exact ⟨before ++ [p], r, hwalked, hnodup, hall⟩

variable {visited : List String}

theorem reachedOnce_of_run {result : Except Exc ρ}
    (hrun : (d.loop attempt).run fuel chain 0 { provider := start } = some (visited, result))
    (hnodup : visited.Nodup) :
    d.ReachedOnce attempt chain := by
  intro before p after hsplit hbefore hp
  have hwalked := run_to start p after hbefore (Nat.zero_le _) fuel
  have hlong := GrowingLoop.run_mono hrun (before.length - 0)
  rw [hsplit] at hlong
  have hlt : before.length < (before ++ p :: after).length := by simp
  have hreached := GrowingLoop.run_reached (hwalked.symm.trans hlong) hlt
  rw [take_reached] at hreached
  exact (List.nodup_append.mp (hnodup.sublist hreached.sublist)).2.2 p hp p (List.mem_singleton_self p) rfl

def EndedByLast (d : AnonymousDispatch) (attempt : String → String → ProviderAttempt ρ) (chain visited : List String)
    (result : Except Exc ρ) : Prop :=
  (∀ a, result = .ok a → ∃ before last, visited = before ++ [last] ∧ d.outcome attempt last = .answered a) ∧
    ∀ e, result = .error e → chain = [] ∧ e = upstreamError ∨
      ∃ before last exc assigned, visited = before ++ [last] ∧ d.outcome attempt last = .failed exc assigned ∧ e = d.httpExc last exc

/-- Unless the chain is exhausted while there is no `provider`, nothing else ends it. -/
theorem run_endedByLast (hbound : ¬ (d.Exhausted attempt chain ∧ d.providerAfter attempt start chain = none))
    {result : Except Exc ρ} (hrun : (d.loop attempt).run fuel chain 0 { provider := start } = some (visited, result)) :
    EndedByLast d attempt chain visited result := by
  let I : List String → Nat → FailoverLocals → Prop := fun xs i locals =>
    (i < xs.length ∨ i = 0 ∧ xs = chain ∧ locals = { provider := start }) ∧
      (locals.provider.isSome ∨
        xs = chain ∧ (∀ q ∈ chain.take i, d.FailsOver attempt q) ∧ locals = localsAfter d attempt start (chain.take i))
  refine GrowingLoop.run_rule (L := d.loop attempt) (I := I) (Q := EndedByLast d attempt chain) ?_ ?_ ?_ ?_ hrun
  · intro xs i p locals more locals' hI hp hbody
    obtain ⟨-, hlocals⟩ := hI
    have hkeeps : locals.provider.isSome → (d.pass attempt locals p).provider.isSome := by
      intro hsome
      unfold pass
      split
      · exact hsome
      · dsimp only
        split
        · rfl
        · exact hsome
    rcases body_cases d attempt i xs p locals with ⟨a, -, he⟩ | ⟨e, assigned, -, he⟩ | ⟨hfails, hlt, he⟩ | ⟨-, -, -, he⟩ |
        ⟨provider, -, hlast, hsome, hnew, he⟩
    · cases he.symm.trans hbody
    · cases he.symm.trans hbody
    · cases he.symm.trans hbody
      rw [List.append_nil]
      refine ⟨.inl hlt, hlocals.imp hkeeps ?_⟩
      rintro ⟨rfl, hall, rfl⟩
      rw [List.take_add_one, hp]
      refine ⟨rfl, fun q hq => ?_, (localsAfter_concat d attempt start _ p).symm⟩
      rcases List.mem_append.mp hq with hq | hq
      · exact hall q hq
      · rw [List.mem_singleton.mp hq]
        exact hfails
    · cases he.symm.trans hbody
    · cases he.symm.trans hbody
      have hpos := List.length_pos_iff.mpr hnew
      exact ⟨.inl (by rw [List.length_append]; omega), .inl (by rw [hsome]; rfl)⟩
  · intro xs i p locals r hI hp hbody
    have hvisited : xs.take (i + 1) = xs.take i ++ [p] := by
      rw [List.take_add_one, hp]
      rfl
    rw [hvisited]
    rcases body_cases d attempt i xs p locals with ⟨a, ha, he⟩ | ⟨e, assigned, hfailed, he⟩ | ⟨-, -, he⟩ |
        ⟨hpayment, hlast, hnone, he⟩ | ⟨provider, -, -, -, -, he⟩
    · cases he.symm.trans hbody
      refine ⟨fun b hb => ⟨_, p, rfl, ?_⟩, fun e he => ?_⟩
      · rw [ha, Except.ok.inj hb]
      · cases he
    · cases he.symm.trans hbody
      refine ⟨fun b hb => ?_, fun f hf => .inr ⟨_, p, e, assigned, rfl, hfailed, (Except.error.inj hf).symm⟩⟩
      cases hb
    · cases he.symm.trans hbody
    · -- the variable had no value before either, so the loop is still in its first chain
      exfalso
      have hunset : locals.provider.isSome = false := by
        obtain ⟨e, assigned, hfailed, -⟩ := hpayment
        unfold pass at hnone
        rw [hfailed] at hnone
        dsimp only at hnone
        split at hnone
        · cases hnone
        · rw [hnone]
          rfl
      rcases hI.2 with hsome | ⟨rfl, hall, rfl⟩
      · rw [hunset] at hsome
        cases hsome
      · have hxs : xs = xs.take i ++ [p] := by rw [← hvisited, List.take_of_length_le (by omega)]
        refine hbound ⟨⟨_, p, hxs, hall, hpayment⟩, ?_⟩
        rw [providerAfter, hxs, List.foldl_append]
        exact hnone
    · cases he.symm.trans hbody
  · intro xs i locals hI hp
    have hge := List.getElem?_eq_none_iff.mp hp
    rcases hI.1 with hlt | ⟨rfl, rfl, rfl⟩
    · omega
    · have hnil : xs = [] := List.length_eq_zero_iff.mp (by omega)
      refine ⟨fun a ha => ?_, fun e he => .inl ⟨hnil, (Except.error.inj he).symm⟩⟩
      cases ha
  · exact ⟨.inr ⟨rfl, rfl, rfl⟩, .inr ⟨rfl, fun q hq => absurd hq (by simp), rfl⟩⟩

theorem foldl_pass_provider (ps : List String) (locals : FailoverLocals) :
    (ps.foldl (d.pass attempt) locals).provider = none ↔
      locals.provider = none ∧ ∀ p ∈ ps, ∀ e, d.outcome attempt p ≠ .failed e true := by
  induction ps generalizing locals with
  | nil => simp
  | cons p ps ih =>
    rw [List.foldl_cons, ih, List.forall_mem_cons, ← and_assoc]
    refine and_congr_left fun _ => ?_
    unfold pass
    cases d.outcome attempt p with
    | answered a => simp
    | failed e assigned =>
      cases assigned with
      | true => simp
      | false => simp

theorem providerAfter_none :
    d.providerAfter attempt none chain = none ↔ ∀ p ∈ chain, ∀ e, d.outcome attempt p ≠ .failed e true := by
  rw [providerAfter, foldl_pass_provider]
  simp

theorem providerAfter_some {provider : String} : d.providerAfter attempt (some provider) chain ≠ none := by
  rw [providerAfter, Ne, foldl_pass_provider]
  simp

/-! ## The law -/

structure Fulfilled (d : AnonymousDispatch) (attempt : String → String → ProviderAttempt ρ) (start : Option String)
    (chain visited : List String) (result : Except Exc ρ) : Prop where
  /-- No provider is tried twice, … -/
  once : visited.Nodup
  /-- … all of them are providers there are, … -/
  known : ∀ p ∈ visited, p ∈ d.providers start chain
  /-- … and there are no more attempts than providers. -/
  bounded : visited.length ≤ (d.providers start chain).card
  /-- After a 402 at the end of the chain, a provider answers that is permitted and not circuit-open, if those before it fail over. -/
  recovers : ∀ xs provider p a, d.Grown attempt start chain xs → d.Exhausted attempt xs →
    d.providerAfter attempt start xs = some provider →
    p ∈ d.registry.enforceFailoverRules (d.openrouterOpen (xs.length - 1)) d.originalModel
      (d.registry.buildProviderFailoverChain provider) true →
    d.modelAvailable (xs.length - 1) d.originalModel p = some true → d.outcome attempt p = .answered a →
    (∀ q ∈ (d.newProviders (xs.length - 1) provider xs).takeWhile (· ≠ p), d.FailsOver attempt q) → result = .ok a
  /-- What comes of it is the answer or the mapped error of the last attempt. -/
  ended : EndedByLast d attempt chain visited result

/-- Payment failover is complete and terminates. -/
def PaymentFailover (d : AnonymousDispatch) (attempt : String → String → ProviderAttempt ρ) (start : Option String)
    (chain : List String) (run : Option (List String × Except Exc ρ)) : Prop :=
  ∃ visited result, run = some (visited, result) ∧ Fulfilled d attempt start chain visited result

theorem exists_split {ps : List String} (h : p ∈ ps) : ∃ after, ps = ps.takeWhile (· ≠ p) ++ p :: after := by
  induction ps with
  | nil => cases h
  | cons q ps ih =>
    by_cases hq : q = p
    · exact ⟨ps, by simp [hq]⟩
    · obtain ⟨after, hafter⟩ := ih ((List.mem_cons.mp h).resolve_left (Ne.symm hq))
      refine ⟨after, ?_⟩
      have hkeep : decide (q ≠ p) = true := decide_eq_true hq
      rw [List.takeWhile_cons_of_pos (p := fun x => decide (x ≠ p)) hkeep, List.cons_append, ← hafter]

/-- Every loop that finds its `provider` bound keeps it all. -/
theorem paymentFailover_bound (hchain : d.ReachedOnce attempt chain) (hfuel : (d.providers start chain).card < fuel)
    (hbound : ¬ (d.Exhausted attempt chain ∧ d.providerAfter attempt start chain = none)) :
    d.PaymentFailover attempt start chain ((d.loop attempt).run fuel chain 0 { provider := start }) := by
  obtain ⟨visited, result, hrun, hnodup, hknown⟩ := run_ends hchain hfuel
  have hlength : visited.length ≤ (d.providers start chain).card := by
    rw [← List.toFinset_card_of_nodup hnodup]
    exact Finset.card_le_card fun p hp => hknown p (List.mem_toFinset.mp hp)
  refine ⟨visited, result, hrun, hnodup, hknown, hlength, ?_, run_endedByLast hbound hrun⟩
  intro xs provider p a hgrown hexhausted hprovider hpermitted havailable hp hbefore
  have hnot : p ∉ xs := by
    intro hmem
    obtain ⟨e, assigned, hfailed, -⟩ := hexhausted.failsOver p hmem
    rw [hp] at hfailed
    cases hfailed
  have hnew : p ∈ d.newProviders (xs.length - 1) provider xs :=
    mem_newProviders.mpr ⟨Routing.mem_filterByCircuitBreaker_of_available _ hpermitted havailable, hnot⟩
  have hgrown' := hgrown.extended hexhausted hprovider (List.ne_nil_of_mem hnew)
  obtain ⟨after, hafter⟩ := exists_split hnew
  have hsplit : xs ++ d.newProviders (xs.length - 1) provider xs =
      (xs ++ (d.newProviders (xs.length - 1) provider xs).takeWhile (· ≠ p)) ++ p :: after := by rw [List.append_assoc, ← hafter]
  refine run_complete hgrown' hsplit (fun q hq => ?_) hp hrun
  exact (List.mem_append.mp hq).elim (hexhausted.failsOver q) (hbefore q)

theorem not_endedByLast (hchain : chain ≠ []) :
    ¬ EndedByLast d attempt chain visited (.error Anon.unboundProvider) := by
  rintro ⟨-, herror⟩
  rcases herror _ rfl with ⟨hnil, -⟩ | ⟨before, last, exc, assigned, -, -, hmapped⟩
  · exact hchain hnil
  · have hstatus := mapProviderError_isHttp last (d.transformModelId d.originalModel last) exc
    rw [← httpExc, ← hmapped] at hstatus
    cases hstatus

theorem PaymentFailover.reachedOnce
    (h : d.PaymentFailover attempt start chain ((d.loop attempt).run fuel chain 0 { provider := start })) :
    d.ReachedOnce attempt chain := by
  obtain ⟨visited, result, hrun, hfulfilled⟩ := h
  exact reachedOnce_of_run hrun hfulfilled.once

theorem not_paymentFailover (h : d.Exhausted attempt chain) (hprovider : d.providerAfter attempt start chain = none) :
    ¬ d.PaymentFailover attempt start chain ((d.loop attempt).run fuel chain 0 { provider := start }) := by
  rintro ⟨visited, result, hrun, hfulfilled⟩
  have herror : result = .error Anon.unboundProvider := run_unbound h hprovider hrun
  have hended := hfulfilled.ended
  rw [herror] at hended
  obtain ⟨before, last, hchain, -⟩ := h
  exact not_endedByLast (by simp [hchain]) hended

end Law

/-- **When payment failover keeps its promise.** In one piece: if the loop does not find a provider in the chain a second time.
    Streaming: if also no 402 at the end of the chain finds that no attempt has opened a stream, for then `provider` has no value
    yet. -/
theorem payment_failover_iff {σ τ υ : Type} (d : AnonymousDispatch) (streams : StreamCalls σ) (requests : RequestCalls τ υ)
    (provider : String) (chain : List String) {fuel : Nat} (hfuel : (d.providers (some provider) chain).card < fuel) :
    (d.PaymentFailover (requests.attempt d.registry.providerRouting) (some provider) chain
        (d.dispatchNonStreaming requests provider fuel chain) ↔
      d.ReachedOnce (requests.attempt d.registry.providerRouting) chain) ∧
    (d.PaymentFailover (streams.attempt d.registry.providerRouting) none chain (d.dispatchStreaming streams fuel chain) ↔
      d.ReachedOnce (streams.attempt d.registry.providerRouting) chain ∧
      ¬ (d.Exhausted (streams.attempt d.registry.providerRouting) chain ∧
        ∀ p ∈ chain, ∀ e, d.outcome (streams.attempt d.registry.providerRouting) p ≠ .failed e true)) := by
  have hless : (d.providers none chain).card < fuel := lt_of_le_of_lt (Finset.card_le_card (d.providers_subset provider)) hfuel
  refine ⟨⟨PaymentFailover.reachedOnce, fun hchain => paymentFailover_bound hchain hfuel fun h => providerAfter_some h.2⟩, ?_⟩
  rw [← providerAfter_none]
  constructor
  · intro hkept
    refine ⟨hkept.reachedOnce, fun hexhausted => ?_⟩
    exact not_paymentFailover hexhausted.1 hexhausted.2 hkept
  · rintro ⟨hchain, hbound⟩
    exact paymentFailover_bound hchain hless hbound

/-! ## Together is out of credit -/

def unconfigured : AnonymousDispatch where
  registry := {}
  modelAvailable := fun _ _ _ => some true
  openrouterOpen := fun _ => some false
  originalModel := "mistralai/mistral-7b-instruct"
  transformModelId := fun model _ => model

def outOfCredit (provider : String) : Except Exc Unit :=
  if provider = "together" then .error (.sdkStatus .other 402 "Payment Required") else .ok ()

def streamsOutOfCredit : StreamCalls Unit where
  stream := fun provider _ => outOfCredit provider
  openrouterAsync := fun provider _ => outOfCredit provider
  openrouter := fun provider _ => outOfCredit provider
  headers := fun _ _ => .ok ()

def requestsOutOfCredit : RequestCalls Unit Unit where
  request := fun provider _ _ => outOfCredit provider
  process := fun _ _ _ => .ok ()
  trace := fun _ _ _ => .ok ()

theorem payment_failover_iff_outOfCredit :
    (unconfigured.PaymentFailover (requestsOutOfCredit.attempt unconfigured.registry.providerRouting) (some "together") ["together"]
        (unconfigured.dispatchNonStreaming requestsOutOfCredit "together" 100 ["together"]) ↔
      unconfigured.ReachedOnce (requestsOutOfCredit.attempt unconfigured.registry.providerRouting) ["together"]) ∧
    (unconfigured.PaymentFailover (streamsOutOfCredit.attempt unconfigured.registry.providerRouting) none ["together"]
        (unconfigured.dispatchStreaming streamsOutOfCredit 100 ["together"]) ↔
      unconfigured.ReachedOnce (streamsOutOfCredit.attempt unconfigured.registry.providerRouting) ["together"] ∧
      ¬ (unconfigured.Exhausted (streamsOutOfCredit.attempt unconfigured.registry.providerRouting) ["together"] ∧
        ∀ p ∈ ["together"], ∀ e,
          unconfigured.outcome (streamsOutOfCredit.attempt unconfigured.registry.providerRouting) p ≠ .failed e true)) :=
  payment_failover_iff unconfigured streamsOutOfCredit requestsOutOfCredit "together" ["together"] (by decide +kernel)

/-- The circuits of all other providers were open when the chain was built, and are closed again. In one piece the request is answered by
    another provider; its stream ends with an error of the loop. -/
theorem streaming_unbound :
    (unconfigured.dispatchNonStreaming requestsOutOfCredit "together" 100 ["together"]) =
      some (["together", "openai"], .ok ((), "openai", "mistralai/mistral-7b-instruct")) ∧
    (∀ out, unconfigured.dispatchStreaming streamsOutOfCredit 100 ["together"] = some out → out.2 = .error Anon.unboundProvider) ∧
    ¬ unconfigured.PaymentFailover (streamsOutOfCredit.attempt unconfigured.registry.providerRouting) none ["together"]
      (unconfigured.dispatchStreaming streamsOutOfCredit 100 ["together"]) := by
  have hfailed : unconfigured.outcome (streamsOutOfCredit.attempt unconfigured.registry.providerRouting) "together" =
      .failed (.sdkStatus .other 402 "Payment Required") false := by rfl
  have hexhausted : unconfigured.Exhausted (streamsOutOfCredit.attempt unconfigured.registry.providerRouting) ["together"] :=
    ⟨[], "together", rfl, fun p hp => absurd hp List.not_mem_nil, _, false, hfailed, by rfl⟩
  have hunbound :
      unconfigured.providerAfter (streamsOutOfCredit.attempt unconfigured.registry.providerRouting) none ["together"] = none := by
    rw [providerAfter_none]
    intro p hp e
    rw [List.mem_singleton.mp hp, hfailed]
    nofun
  refine ⟨by decide +kernel, fun out => run_unbound hexhausted hunbound, not_paymentFailover hexhausted hunbound⟩

end AnonymousDispatch

end Gatewayz
