import Gatewayz.Chat.Providers
import Gatewayz.Chat.Streams
import Gatewayz.Correctness.DispatchOnce
import Gatewayz.Exec.Along

/-!
# `Correctness.PermittedProviders` — who is asked

A request may go to the providers of its failover chain, after the rules of its model and the circuit breaker (`permitted`).
The smart router orders the chain. Health routing puts a healthy provider in front of an unhealthy one, from the chain or
from anywhere. And the handler makes its own choice for a model of the multi-provider registry, while it calls OpenRouter
for a name that it does not know.

`permitted_only_iff` says when these do no harm: health routing finds its alternative in the chain, and each name in the chain
leads to its own client, by the registry's choice too if there is one.
-/

namespace Gatewayz

open Exec

/-! ## The chain is permuted -/

section Chain

variable (s : Routing)

variable {chain : List String}

theorem nodup_addMissing (h : chain.Nodup) (p : String) : (Routing.addMissing chain p).Nodup := by
  unfold Routing.addMissing
  split
  · exact h
  · next hp =>
    rw [List.contains_iff_mem] at hp
    refine List.nodup_append.mpr ⟨h, List.nodup_singleton p, fun a ha b hb hab => ?_⟩
    rw [List.mem_singleton] at hb
    exact hp (hb ▸ hab ▸ ha)

theorem nodup_foldl_addMissing (ps : List String) (h : chain.Nodup) : (ps.foldl Routing.addMissing chain).Nodup := by
  induction ps generalizing chain with
  | nil => exact h
  | cons p ps ih => exact ih (nodup_addMissing h p)

theorem nodup_eligibleChain (provider : String) : (s.eligibleChain provider).Nodup := by
  unfold Routing.eligibleChain
  have hstart : (if provider = "" then [] else [provider]).Nodup := by
    split
    · exact List.nodup_nil
    · exact List.nodup_singleton provider
  have hchain := nodup_foldl_addMissing s.failoverPriority hstart
  revert hchain
  generalize s.failoverPriority.foldl Routing.addMissing (if provider = "" then [] else [provider]) = chain
  intro hchain
  dsimp only
  split
  · exact nodup_addMissing hchain _
  · exact hchain

theorem nodup_build (provider : String) : (s.buildProviderFailoverChain provider).Nodup := by
  unfold Routing.buildProviderFailoverChain
  generalize (if s.isProviderEnabled (lower provider) = true then lower provider else "") = name
  dsimp only
  split
  · exact nodup_eligibleChain s _
  · exact List.nodup_singleton _

theorem nodup_nativeFirst {native : String} (h : chain.Nodup) : (Routing.nativeFirst native chain).Nodup := by
  unfold Routing.nativeFirst
  split
  · exact List.nodup_cons.mpr ⟨h.not_mem_erase, h.erase native⟩
  · exact h

theorem nodup_enforce {model : String} (h : chain.Nodup) : (s.enforceModelFailoverRules model chain).Nodup := by
  unfold Routing.enforceModelFailoverRules
  dsimp only
  split
  · exact h
  · split
    · exact List.nodup_singleton _
    · split
      · split
        · exact h
        · exact nodup_nativeFirst (h.filter _)
      · split
        · exact List.nodup_singleton _
        · exact h

theorem nodup_filterByCircuitBreaker {model : String} (h : chain.Nodup) :
    (s.filterByCircuitBreaker model chain).Nodup := by
  unfold Routing.filterByCircuitBreaker
  dsimp only
  split
  · exact h
  · split
    · exact h
    · split
      · exact h.sublist (List.take_sublist 1 chain)
      · exact h.filter _

theorem nodup_permitted (model provider : String) : (s.permitted model provider).Nodup :=
  nodup_filterByCircuitBreaker s (nodup_enforce s (nodup_build s provider))

theorem reorderChainByRanking_perm {chain rankedSlugs : List String} (hchain : chain.Nodup) (hranked : rankedSlugs.Nodup) :
    (reorderChainByRanking chain rankedSlugs).Perm chain := by
  unfold reorderChainByRanking
  have hlead : (rankedSlugs.filter chain.contains).Nodup := hranked.filter _
  refine (List.perm_ext_iff_of_nodup ?_ hchain).mpr fun p => ?_
  · refine List.nodup_append.mpr ⟨hlead, hchain.filter _, fun a ha b hb hab => ?_⟩
    subst hab
    rw [List.mem_filter, List.contains_iff_mem.mpr ha] at hb
    cases hb.2
  · rw [List.mem_append, List.mem_filter, List.mem_filter, List.contains_iff_mem]
    constructor
    · rintro (⟨-, hp⟩ | ⟨hp, -⟩)
      · exact hp
      · exact hp
    · intro hp
      by_cases hranked : p ∈ rankedSlugs
      · exact .inl ⟨hranked, hp⟩
      · refine .inr ⟨hp, ?_⟩
        have hnot : p ∉ rankedSlugs.filter chain.contains := fun h => hranked (List.mem_of_mem_filter h)
        simp [hnot]

theorem reorderProviderChain_perm {model : String} (h : chain.Nodup) :
    (s.reorderProviderChain model chain).Perm chain := by
  unfold Routing.reorderProviderChain
  split
  · cases s.ranking model with
    | some ranking => exact reorderChainByRanking_perm h ranking.nodup
    | none => exact .refl _
  · exact .refl _

/-- Health routing permutes a chain that its alternative is in, and no other. -/
theorem routeByHealth_perm_iff {model : String} (h : chain.Nodup) :
    (s.routeByHealth model chain).Perm chain ↔ ∀ alt ∈ s.alternative model chain, alt ∈ chain := by
  unfold Routing.routeByHealth
  cases s.alternative model chain with
  | none =>
    constructor
    · intro _ alt hnone
      cases hnone
    · exact fun _ => .refl _
  | some alt =>
    dsimp only
    split
    · next hin =>
      rw [List.contains_iff_mem] at hin
      refine ⟨fun _ p hp => by cases hp; exact hin, fun _ => ?_⟩
      refine (List.perm_ext_iff_of_nodup (List.nodup_cons.mpr ⟨?_, h.filter _⟩) h).mpr fun p => ?_
      · simp
      · by_cases hp : p = alt
        · simp [hp, hin]
        · simp [hp]
    · next hout =>
      rw [List.contains_iff_mem] at hout
      refine ⟨fun hperm => ?_, fun hall => absurd (hall alt rfl) hout⟩
      have hlength := hperm.length_eq
      simp at hlength

end Chain

/-! ## What is sent -/

/-- Attempts begun, and who was called in which of them. -/
structure Outbox where
  attempts : Nat := 0
  contacted : List (Nat × String) := []

def dispatchTo (d : DispatchParams) (providerChain : List String) (checked stream : Bool) : ChatProg Unit :=
  if stream then authStreamWithFailover d providerChain checked
  else do
    let _ ← dispatchNonStreaming d providerChain
    pure ()

namespace Routing

def note (s : Routing) (g : Outbox) : ChatStmt → Outbox
  | .task .toInternalRequest => { g with attempts := g.attempts + 1 }
  | .callProvider p _ _ => { g with contacted := g.contacted ++ [(g.attempts, s.client p)] }
  | .openStream p _ _ => { g with contacted := g.contacted ++ [(g.attempts, s.client p)] }
  | _ => g

abbrev sendRuns (s : Routing) (env : ChatEnv) (enabled : Nat → ProviderConfig → Bool) :
    Setting ChatErr ChatStmt ChatRes Outbox ChatWorld :=
  chatRuns (s.environment env enabled) (fun g stmt _ _ _ => s.note g stmt) fun _ _ _ _ => True

/-- The call of an attempt goes where it should: to the provider of the chain that the attempt is for, and that one is
    permitted. -/
def SentRight (s : Routing) (model provider : String) (sent : Nat × String) : Prop :=
  sent.2 ∈ s.permitted model provider ∧ ∃ n, sent.1 = n + 1 ∧ (s.providerChain model provider)[n]? = some sent.2

/-- Only permitted providers are contacted: what comes after `permitted` permutes it, and in every run of the dispatch
    each attempt calls the provider that it is for. -/
structure OnlyPermitted (s : Routing) (model provider : String) : Prop where
  ranked : (s.reorderProviderChain model (s.permitted model provider)).Perm (s.permitted model provider)
  healthy : (s.providerChain model provider).Perm (s.reorderProviderChain model (s.permitted model provider))
  sent : ∀ (d : DispatchParams) (checked stream : Bool) (env : ChatEnv) (enabled : Nat → ProviderConfig → Bool)
    (link : List (Outcome ChatErr)) (w : ChatWorld), d.model = model →
      ∀ x ∈ ((dispatchTo d (s.providerChain model provider) checked stream).noted (s.sendRuns env enabled) link {} w).contacted,
        s.SentRight model provider x

/-- The name of a provider leads to its own client, whatever the registry has to say about the model. -/
def LeadsTo (s : Routing) (model p : String) : Prop :=
  match s.registered model with
  | none => p ≠ "" ∧ s.client p = p
  | some providers => ∀ c ∈ providers, s.client c.name = p

/-- Nothing leads off the chain. -/
structure KeepsToChain (s : Routing) (model provider : String) : Prop where
  alternative : ∀ alt ∈ s.alternative model (s.reorderProviderChain model (s.permitted model provider)),
    alt ∈ s.permitted model provider
  own : ∀ p ∈ s.permitted model provider, s.LeadsTo model p

/-! ## An attempt for `p` -/

/-- Steps that call nobody but `p`, and begin no attempt. -/
def AsksOnly (s : Routing) (p : String) : ChatStmt → Prop
  | .task .toInternalRequest => False
  | .callProvider name _ _ => s.client name = p
  | .openStream name _ _ => s.client name = p
  | _ => True

def Offered (registered : Option (List ProviderConfig)) (answered : Option (List ProviderConfig)) : Prop :=
  match registered with
  | none => answered = none
  | some providers => ∃ enabled, answered = some enabled ∧ ∀ c ∈ enabled, c ∈ providers

def Answers (s : Routing) : (stmt : ChatStmt) → Except ChatErr (ChatRes stmt) → Prop
  | .enabledProviders model, .ok answered => Offered (s.registered model) answered
  | _, _ => True

theorem answers_environment (s : Routing) (env : ChatEnv) (enabled : Nat → ProviderConfig → Bool) (stmt : ChatStmt)
    (o : Outcome ChatErr) (w : ChatWorld) : s.Answers stmt (answer (chatExec (s.environment env enabled)) stmt o w).1 := by
  cases o with
  | dropped e => cases stmt <;> trivial
  | lost e => cases stmt <;> trivial
  | served =>
    rw [answer_served]
    cases stmt with
    | enabledProviders model =>
      show Offered (s.registered model) ((s.registered model).map (List.filter (enabled w.moment)))
      cases s.registered model with
      | none => rfl
      | some providers => exact ⟨_, rfl, fun c hc => List.mem_of_mem_filter hc⟩
    | _ => unfold Answers; split <;> trivial

end Routing

variable {r : InternalChatRequest} {h : ChatHandler}

section Along

variable {s : Routing} {p : String}

theorem asksOnly_of_ofAttempt (stmt : ChatStmt) (h : stmt.ofAttempt) (hsends : stmt.sends = false) : s.AsksOnly p stmt := by
  unfold Routing.AsksOnly
  split
  · cases hsends
  · cases hsends
  · cases hsends
  · trivial

theorem along_availableOnly (model : String) (ps : List ProviderConfig) :
    (availableOnly model ps).Along s.Answers (s.AsksOnly p) fun available => ∀ c ∈ available, c ∈ ps := by
  induction ps with
  | nil => exact fun _ hc => hc
  | cons q ps ih =>
    refine along_bind (along_stmt trivial fun available _ => along_bind (along_mono (fun rest hrest => ?_) ih))
    intro c hc
    have hkept : ∀ c ∈ rest, c ∈ q :: ps := fun c hc => List.mem_cons_of_mem q (hrest c hc)
    split at hc
    · rcases List.mem_cons.mp hc with rfl | hc
      · exact List.mem_cons_self
      · exact hkept c hc
    · exact hkept c hc

theorem along_tryProviders {α : Type} {execute : ProviderConfig → ChatProg α} (ps : List ProviderConfig) (lastError : String)
    (h : ∀ c ∈ ps, (execute c).Along s.Answers (s.AsksOnly p) fun _ => True) :
    (tryProviders execute lastError ps).Along s.Answers (s.AsksOnly p) fun _ => True := by
  induction ps generalizing lastError with
  | nil => trivial
  | cons c ps ih =>
    have hc := h c List.mem_cons_self
    refine along_tryCatch (along_bind (along_mono (fun _ _ => trivial) hc)) fun e => ?_
    cases e with
    | exception e => exact ih e.text fun c hc => h c (List.mem_cons_of_mem _ hc)
    | cancelled => trivial
    | generatorExit => trivial

theorem along_executeWithFailover {α : Type} {execute : ProviderConfig → ChatProg α} (model : String)
    (enabled : List ProviderConfig) (h : ∀ c ∈ enabled, (execute c).Along s.Answers (s.AsksOnly p) fun _ => True) :
    (executeWithFailover model enabled execute).Along s.Answers (s.AsksOnly p) fun _ => True := by
  unfold executeWithFailover
  cases hprimary : enabled.head? with
  | none => trivial
  | some primary =>
    have htry : ∀ c ∈ providersToTry primary enabled, c ∈ enabled := by
      intro c hc
      rcases List.mem_cons.mp hc with rfl | hc
      · exact List.mem_of_mem_head? hprimary
      · exact List.mem_of_mem_filter (List.mem_of_mem_take hc)
    refine along_bind (along_mono (fun available havailable => ?_) (along_availableOnly model _))
    cases available with
    | nil => trivial
    | cons c cs => exact along_tryProviders _ _ fun c hc => h c (htry c (havailable c hc))

theorem detectedProvider_named (hname : r.provider = some p) (hp : p ≠ "") :
    ChatHandler.detectedProvider r = pure p := by
  unfold ChatHandler.detectedProvider
  rw [hname, Option.filter_some, if_pos (decide_eq_true hp)]

theorem along_upstream (h : ChatHandler) (user : ChatUser) (maxTokens : Option Nat)
    (hname : r.provider = some p) (hleads : s.LeadsTo r.model p) :
    (h.upstream user r maxTokens).Along s.Answers (s.AsksOnly p) fun _ => True := by
  unfold ChatHandler.upstream
  refine along_bind (along_stmt trivial fun registered hoffered => ?_)
  have hoffered : Routing.Offered (s.registered r.model) registered := hoffered
  unfold Routing.LeadsTo at hleads
  unfold Routing.Offered at hoffered
  split at hoffered
  · next hnone =>
    rw [hnone] at hleads
    subst hoffered
    rw [detectedProvider_named hname hleads.1]
    have hcall : ∀ modelId, s.AsksOnly p (.callProvider p modelId maxTokens) := fun _ => hleads.2
    refine along_bind ((along_ret p).mpr (along_bind (along_stmt trivial fun modelId _ => along_bind ?_)))
    exact along_mono (fun _ _ => trivial) (along_of_only (stays_callProvider trivial (hcall modelId)).only)
  · next providers hsome =>
    rw [hsome] at hleads
    obtain ⟨enabled, rfl, hsubset⟩ := hoffered
    refine along_bind (along_mono (fun result _ => ?_) (along_executeWithFailover r.model enabled fun c hc => ?_))
    · rcases result with text | ⟨⟨response, byok⟩, c⟩
      · exact along_bind (along_mono (fun _ _ => trivial) (along_of_only (stays_save trivial).only))
      · trivial
    · have hcall : s.AsksOnly p (.callProvider c.name c.modelId maxTokens) := hleads c (hsubset c hc)
      exact along_of_only (stays_callProvider trivial hcall).only

theorem along_orSaveFailed {α : Type} {user : Option ChatUser} {model provider : String}
    {t : TokenCounts} {Q : α → Prop} {part : ChatProg α} (hpart : part.Along s.Answers (s.AsksOnly p) Q) :
    (h.orSaveFailed user model provider t part).Along s.Answers (s.AsksOnly p) Q := by
  refine along_tryCatch hpart fun e => ?_
  cases e with
  | exception e => exact along_bind (along_mono (fun _ _ => trivial) (along_of_only (stays_save trivial).only))
  | cancelled => trivial
  | generatorExit => trivial

theorem along_userContext (h : ChatHandler) (model provider : String) (t : TokenCounts) :
    (h.orSaveFailed none model provider t h.initializeUserContext).Along s.Answers (s.AsksOnly p) fun _ => True :=
  along_orSaveFailed (along_of_only (stays_initializeUserContext trivial).only)

theorem along_process (h : ChatHandler) (hname : r.provider = some p) (hleads : s.LeadsTo r.model p) :
    (h.process r).Along s.Answers (s.AsksOnly p) fun _ => True := by
  refine along_bind (along_mono (fun user _ => ?_) (along_userContext h _ _ _))
  refine along_orSaveFailed (along_bind (along_stmt trivial fun maxTokens _ => ?_))
  refine along_bind (along_mono (fun served _ => ?_) (along_upstream h user maxTokens hname hleads))
  exact along_of_only (stays_settle asksOnly_of_ofAttempt h user r served).only

/-- What the stream is opened with: the name of `p`'s client. -/
theorem along_selectForStream (user : ChatUser) (hname : r.provider = some p) (hleads : s.LeadsTo r.model p) :
    (ChatHandler.selectForStream user r).Along s.Answers (s.AsksOnly p) fun selected => s.client selected.2.1 = p := by
  refine along_bind (along_stmt trivial fun maxTokens _ => along_bind (along_stmt trivial fun registered hoffered => ?_))
  have hoffered : Routing.Offered (s.registered r.model) registered := hoffered
  unfold Routing.LeadsTo at hleads
  unfold Routing.Offered at hoffered
  split at hoffered
  · next hnone =>
    rw [hnone] at hleads
    subst hoffered
    show Prog.Along _ _ _ (ChatHandler.detectedProvider r >>= _)
    rw [detectedProvider_named hname hleads.1]
    exact hleads.2
  · next providers hsome =>
    rw [hsome] at hleads
    obtain ⟨enabled, rfl, hsubset⟩ := hoffered
    cases hprimary : enabled.head? with
    | none =>
      dsimp only
      rw [hprimary]
      trivial
    | some primary =>
      dsimp only
      rw [hprimary]
      exact hleads primary (hsubset primary (List.mem_of_mem_head? hprimary))

theorem along_processStream (h : ChatHandler) (hname : r.provider = some p) (hleads : s.LeadsTo r.model p) :
    (h.processStream r).Along s.Answers (s.AsksOnly p) fun _ => True := by
  refine along_bind (along_mono (fun user _ => ?_) (along_userContext h _ _ _))
  refine along_bind (along_mono ?_ (along_orSaveFailed (along_selectForStream user hname hleads)))
  rintro ⟨maxTokens, provider, registered⟩ hclient
  have hmodelId : (h.streamModelId user r provider registered).Along s.Answers (s.AsksOnly p) fun _ => True := by
    cases registered with
    | some modelId => trivial
    | none => exact along_orSaveFailed (along_stmt trivial fun _ _ => trivial)
  refine along_bind (along_mono (fun modelId _ => ?_) hmodelId)
  have hopen : s.AsksOnly p (.openStream provider modelId maxTokens) := hclient
  exact along_of_only (stays_streamFrom asksOnly_of_ofAttempt hopen h user r).only

theorem along_fromInternalStream {stream : ChatProg Unit} (h : stream.Along s.Answers (s.AsksOnly p) fun _ => True) :
    (fromInternalStream stream).Along s.Answers (s.AsksOnly p) fun _ => True := by
  have hconsumed : (stream.within sseConsumer ()).Along s.Answers (s.AsksOnly p) fun _ => True := by
    refine along_within (fun _ _ hs _ => hs) (fun t stmt t' body hs => ?_) h ()
    unfold sseConsumer at hs
    split at hs
    · cases hs
      exact ⟨along_stmt trivial fun _ _ => trivial, fun _ => trivial⟩
    · cases hs
  refine along_tryCatch (along_bind (along_mono ?_ hconsumed)) fun e => ?_
  · rintro ⟨_, ended⟩ -
    cases ended with
    | ok a => exact along_stmt trivial fun _ _ => trivial
    | error e => trivial
  · cases e with
    | exception e => exact along_bind (along_stmt trivial fun _ _ => along_stmt trivial fun _ _ => trivial)
    | cancelled => trivial
    | generatorExit => trivial

end Along

/-! ## The attempts of a chain -/

variable {stmt : ChatStmt}

section Attempts

variable {s : Routing} {model provider q : String} {env : ChatEnv} {enabled : Nat → ProviderConfig → Bool}
variable {n : Nat} {g : Outbox} {w : ChatWorld}

def AllRight (s : Routing) (model provider : String) (g : Outbox) (_ : ChatWorld) : Prop :=
  ∀ x ∈ g.contacted, s.SentRight model provider x

/-- All calls went where they should, and this is attempt `n`. -/
def InAttempt (s : Routing) (model provider : String) (n : Nat) (g : Outbox) (w : ChatWorld) : Prop :=
  g.attempts = n ∧ AllRight s model provider g w

theorem allRight_contact {name : String} (h : InAttempt s model provider n g w) (hq : s.SentRight model provider (n, q))
    (hname : s.client name = q) :
    InAttempt s model provider n { g with contacted := g.contacted ++ [(g.attempts, s.client name)] } w := by
  refine ⟨h.1, fun x hx => ?_⟩
  rcases List.mem_append.mp hx with hx | hx
  · exact h.2 x hx
  · rw [List.mem_singleton] at hx
    subst hx
    rw [h.1, hname]
    exact hq

/-- Step: what the calls of an attempt for `q` keep. -/
theorem asksOnly_step (hq : s.SentRight model provider (n, q)) (hstmt : s.AsksOnly q stmt)
    (h : InAttempt s model provider n g w) (w' : ChatWorld) : InAttempt s model provider n (s.note g stmt) w' := by
  unfold Routing.note
  split
  · exact hstmt.elim
  · exact allRight_contact h hq hstmt
  · exact allRight_contact h hq hstmt
  · exact h

theorem wp_asksOnly {α : Type} (hq : s.SentRight model provider (n, q)) {p : ChatProg α} {Q : α → Prop}
    (hp : p.Along s.Answers (s.AsksOnly q) Q) (h : InAttempt s model provider n g w) :
    p.wp (s.sendRuns env enabled) .alone (fun _ => InAttempt s model provider n)
      (fun _ => InAttempt s model provider n) g w := by
  have hrely : ∀ (g : Outbox) (w w' : ChatWorld), w = w' → InAttempt s model provider n g w →
      InAttempt s model provider n g w' := fun _ _ _ hr h => hr ▸ h
  refine wp_post (fun _ _ _ h => h.1) (wp_of_along hrely ?_ (s.answers_environment env enabled) hp h)
  exact fun stmt hstmt g o w _ _ h => ⟨trivial, trivial, asksOnly_step hq hstmt h _⟩

variable (d : DispatchParams)

theorem wp_toInternalRequest (stream : Bool) (h : InAttempt s model provider n g w) :
    (toInternalRequest d stream q).wp (s.sendRuns env enabled) .alone
      (fun r g w => InAttempt s model provider (n + 1) g w ∧ r.provider = some q ∧ r.model = d.model)
      (fun _ => InAttempt s model provider (n + 1)) g w := by
  have hbegun : InAttempt s model provider (n + 1) { g with attempts := g.attempts + 1 } w := ⟨by rw [h.1], h.2⟩
  unfold toInternalRequest
  rw [wp_bind]
  refine wp_alone_stmt (C := s.sendRuns env enabled) fun o _ => ?_
  cases (answer (chatExec (s.environment env enabled)) (.task .toInternalRequest) o w).1 with
  | ok _ => exact ⟨hbegun, rfl, rfl⟩
  | error e => exact hbegun

/-- What is left of a chain after `n` attempts: each provider is the next attempt's, and leads to itself. -/
def Remaining (s : Routing) (model provider : String) (n : Nat) (rest : List String) : Prop :=
  ∀ m q, rest[m]? = some q → s.SentRight model provider (n + m + 1, q) ∧ s.LeadsTo model q

theorem Remaining.head {rest : List String} (h : Remaining s model provider n (q :: rest)) :
    s.SentRight model provider (n + 1, q) ∧ s.LeadsTo model q := h 0 q rfl

theorem Remaining.tail {rest : List String} (h : Remaining s model provider n (q :: rest)) :
    Remaining s model provider (n + 1) rest := by
  intro m p hp
  have hnext := h (m + 1) p hp
  rwa [← Nat.add_assoc, Nat.add_right_comm n m 1] at hnext

theorem wp_nonStreamingAttempt_right (hmodel : d.model = model)
    (hq : s.SentRight model provider (n + 1, q)) (hleads : s.LeadsTo model q) (h : InAttempt s model provider n g w) :
    (nonStreamingAttempt d q).wp (s.sendRuns env enabled) .alone (fun _ => InAttempt s model provider (n + 1))
      (fun _ => InAttempt s model provider (n + 1)) g w := by
  unfold nonStreamingAttempt
  refine wp_seq (wp_toInternalRequest d false h) fun r g w hr => ?_
  obtain ⟨h, hname, hrmodel⟩ := hr
  refine wp_asksOnly (Q := fun _ => True) hq ?_ h
  refine along_bind (along_mono (fun handler _ => ?_) (along_of_only (stays_newHandler trivial).only))
  have hprocess := along_process handler hname (by rw [hrmodel, hmodel]; exact hleads)
  refine along_bind (along_mono (fun _ _ => ?_) hprocess)
  refine along_bind (along_stmt trivial fun _ _ => along_bind (along_stmt trivial fun _ _ => ?_))
  exact along_bind (along_stmt trivial fun _ _ => trivial)

/-- The failover loop, by induction on the chain. -/
theorem wp_nonStreamingAttempts_right (hmodel : d.model = model) (rest : List String)
    (hrest : Remaining s model provider n rest) (h : InAttempt s model provider n g w) :
    (nonStreamingAttempts d rest).wp (s.sendRuns env enabled) .alone (fun _ => AllRight s model provider)
      (fun _ => AllRight s model provider) g w := by
  induction rest generalizing n g w with
  | nil => exact h.2
  | cons q rest ih =>
    obtain ⟨hq, hleads⟩ := hrest.head
    unfold nonStreamingAttempts
    rw [wp_exceptException]
    refine wp_mono (fun _ _ _ h => h.2) (fun e g w h => ?_) (wp_nonStreamingAttempt_right d hmodel hq hleads h)
    cases e with
    | exception e =>
      rw [caught_exception, wp_bind]
      have hmetric : (call (.task .errorMetric)).Along s.Answers (s.AsksOnly q) fun _ => True :=
        along_stmt trivial fun _ _ => trivial
      refine wp_mono (fun _ g w h => ?_) (fun _ _ _ h => h.2) (wp_asksOnly hq hmetric h)
      dsimp only
      split
      · exact ih hrest.tail h
      · exact h.2
    | cancelled => exact h.2
    | generatorExit => exact h.2

theorem wp_streamingAttempt (hmodel : d.model = model) (hq : s.SentRight model provider (n + 1, q))
    (hleads : s.LeadsTo model q) (h : InAttempt s model provider n g w) :
    ((streamingAttempt d q).within clientConsumer false).wp (s.sendRuns env enabled) .alone
      (fun _ => InAttempt s model provider (n + 1)) (fun _ => InAttempt s model provider (n + 1)) g w := by
  have hbegin : (toInternalRequest d true q).within clientConsumer false =
      (toInternalRequest d true q).attempt >>= fun r => pure (false, r) := by
    refine congrArg (Prog.ask _) (funext fun r => ?_)
    cases r <;> rfl
  unfold streamingAttempt
  rw [Prog.within_bind, hbegin, wp_bind, wp_bind, wp_attempt]
  refine wp_mono (fun r g w hr => ?_) (fun e g w h => h) (wp_toInternalRequest d true h)
  obtain ⟨h, hname, hrmodel⟩ := hr
  show Prog.wp _ _ _ _ (Prog.within clientConsumer false (newHandler d >>= fun handler =>
    fromInternalStream (handler.processStream r))) g w
  have hstream : (newHandler d >>= fun handler => fromInternalStream (handler.processStream r)).Along s.Answers (s.AsksOnly q)
      fun _ => True := by
    refine along_bind (along_mono (fun handler _ => ?_) (along_of_only (stays_newHandler trivial).only))
    exact along_fromInternalStream (along_processStream handler hname (by rw [hrmodel, hmodel]; exact hleads))
  refine wp_asksOnly hq (along_within (fun _ _ hs _ => hs) (fun t stmt t' body hs => ?_) hstream false) h
  unfold clientConsumer at hs
  split at hs
  · cases hs
    exact ⟨along_stmt trivial fun _ _ => trivial, fun _ => trivial⟩
  · cases hs

/-- The loop over the streams, by induction on the chain. -/
theorem wp_authStreamAttempts_right (hmodel : d.model = model) (rest : List String)
    (lastExc : Option Exc) (hrest : Remaining s model provider n rest) (h : InAttempt s model provider n g w) :
    (authStreamAttempts d rest lastExc).wp (s.sendRuns env enabled) .alone (fun _ => AllRight s model provider)
      (fun _ => AllRight s model provider) g w := by
  induction rest generalizing n g w lastExc with
  | nil => cases lastExc <;> exact h.2
  | cons q rest ih =>
    obtain ⟨hq, hleads⟩ := hrest.head
    unfold authStreamAttempts
    rw [wp_bind]
    refine wp_mono ?_ (fun _ _ _ h => h.2) (wp_streamingAttempt d hmodel hq hleads h)
    rintro ⟨contentStarted, ended⟩ g w h
    rcases ended with (e | - | -) | a
    · dsimp only
      repeat' split
      all_goals first | exact ih _ hrest.tail h | exact h.2
    · exact h.2
    · exact h.2
    · exact h.2

/-- The dispatch with a chain that leads nowhere else. -/
theorem wp_dispatchTo (hmodel : d.model = model) (chain : List String) (checked stream : Bool)
    (hchain : Remaining s model provider 0 chain) :
    (dispatchTo d chain checked stream).wp (s.sendRuns env enabled) .alone (fun _ => AllRight s model provider)
      (fun _ => AllRight s model provider) {} w := by
  have hbegin : InAttempt s model provider 0 {} w := ⟨rfl, fun x hx => by cases hx⟩
  have hkeeps : StepsKeep (s.sendRuns env enabled) (fun stmt => stmt.sends = false) (AllRight s model provider) := by
    refine ⟨fun stmt hs g o w _ h => ?_⟩
    show AllRight s model provider (s.note g stmt) _
    unfold Routing.note
    split
    · cases hs
    · cases hs
    · cases hs
    · exact h
  unfold dispatchTo
  cases stream with
  | true =>
    show Prog.wp _ _ _ _ (authStreamWithFailover d chain checked) _ _
    unfold authStreamWithFailover
    rw [wp_andFinally]
    have hrelease : ∀ g w, AllRight s model provider g w →
        Prog.wp (s.sendRuns env enabled) .alone (fun _ => AllRight s model provider) (fun _ => AllRight s model provider)
          (onlyIf checked (quietly (call (.releaseConcurrency d.apiKey)))) g w :=
      fun g w h => hkeeps.wp (stays_onlyIf (stays_quietly (stays_call rfl))) h
    exact wp_mono (fun _ g w h => hrelease g w h) (fun _ g w h => hrelease g w h)
      (wp_authStreamAttempts_right d hmodel chain none hchain hbegin)
  | false =>
    show Prog.wp _ _ _ _ (dispatchNonStreaming d chain >>= fun _ => pure ()) _ _
    rw [wp_bind]
    unfold dispatchNonStreaming
    split
    · exact hbegin.2
    · exact wp_nonStreamingAttempts_right d hmodel chain hchain hbegin

end Attempts

/-! ## A chain that fails -/

section Failing

variable {s : Routing} {env : ChatEnv} {enabled : Nat → ProviderConfig → Bool} {g : Outbox} {w : ChatWorld} {α : Type}
variable {E : ChatErr → Outbox → ChatWorld → Prop}

theorem served_of_wp {Q : ChatRes stmt → Outbox → ChatWorld → Prop} {a : ChatRes stmt}
    (ha : (chatExec (s.environment env enabled) stmt w).1 = .ok a)
    (h : (call stmt).wp (s.sendRuns env enabled) .alone Q E g w) : ∃ w', Q a (s.note g stmt) w' := by
  obtain ⟨-, -, hk⟩ := h w rfl trivial .served trivial
  revert hk
  rw [answer_served, ha]
  exact fun hk => ⟨_, hk⟩

theorem raised_of_wp {Q : ChatRes stmt → Outbox → ChatWorld → Prop} (e : ChatErr)
    (h : (call stmt).wp (s.sendRuns env enabled) .alone Q E g w) : ∃ w', E e (s.note g stmt) w' := by
  obtain ⟨-, -, hk⟩ := h w rfl trivial (.dropped e) trivial
  exact ⟨_, hk⟩

def busy : Exc := .httpException 503 "busy"

def freeOfCharge : ModelPricing := { prompt := 0, completion := 0 }

def freeOfChargeEnv : ChatEnv := { calmEnv [] with prices := fun _ _ => .ok freeOfCharge }

theorem calculateCost_free (config : PricingConfig) (model : String) (promptTokens completionTokens : Nat) :
    calculateCost config (fun _ => .ok freeOfCharge) model promptTokens completionTokens = .ok 0 := by
  have hplain : freeOfCharge.plainCost promptTokens completionTokens = 0 := by
    simp [ModelPricing.plainCost, freeOfCharge]
  have hbounds : ∀ m, freeOfCharge.checkBounds m promptTokens completionTokens = .ok () := by
    intro m
    unfold ModelPricing.checkBounds ModelPricing.costPer1k
    rw [hplain]
    split
    · rfl
    · rw [zero_div, zero_mul, if_pos (by norm_num)]
      rfl
  unfold calculateCost
  split
  · rfl
  · have hpriced : pricedCost config (fun _ => .ok freeOfCharge) (billedId model) promptTokens completionTokens = .ok 0 := by
      show (do freeOfCharge.checkBounds (billedId model) promptTokens completionTokens
               pure (freeOfCharge.plainCost promptTokens completionTokens * config.pricingMarkup) : Except PyErr ℚ) = .ok 0
      rw [hbounds, hplain, zero_mul]
      rfl
    rw [hpriced]
    rfl

theorem checkCredits_free (config : PricingConfig) (r : PrecheckRequest) {credits : ℚ} (h : 0 ≤ credits) :
    checkCreditSufficiency config (fun _ => .ok freeOfCharge) r credits = .ok r.maxTokens := by
  unfold checkCreditSufficiency
  split
  · rfl
  · have hsufficient : estimateAndCheckCredits config (fun _ => .ok freeOfCharge) r credits = .ok (.sufficient 0) := by
      show (calculateCost config (fun _ => .ok freeOfCharge) r.modelId r.inputTokens r.maxOutputTokens >>= _) = _
      rw [calculateCost_free]
      exact if_pos h
    rw [hsufficient]
    rfl

theorem save_of_wp {row : RequestRow} {Q : Unit → Outbox → ChatWorld → Prop}
    (h : (ChatHandler.save row).wp (s.sendRuns freeOfChargeEnv enabled) .alone Q E g w) : ∃ w', Q () g w' := by
  unfold ChatHandler.save at h
  rw [wp_bind] at h
  exact served_of_wp (a := true) rfl h

variable {maxTokens : Option Nat}

theorem busy_of_wp {name modelId : String} {Q : ProviderResponse × Bool → Outbox → ChatWorld → Prop}
    (h : (callProvider name modelId maxTokens).wp (s.sendRuns freeOfChargeEnv enabled) .alone Q E g w) :
    ∃ w', E (.exception busy) { g with contacted := g.contacted ++ [(g.attempts, s.client name)] } w' := by
  unfold callProvider bindByok at h
  rw [wp_bind, wp_exceptException] at h
  obtain ⟨w₁, h⟩ := served_of_wp (a := false) rfl h
  rw [wp_exceptException, wp_bind] at h
  exact raised_of_wp (.exception busy) h

theorem orSaveFailed_of_wp {user : Option ChatUser} {model provider : String} {t : TokenCounts}
    {Q : α → Outbox → ChatWorld → Prop} {part : ChatProg α}
    (hpart : (h.orSaveFailed user model provider t part).wp (s.sendRuns freeOfChargeEnv enabled) .alone Q E g w) :
    part.wp (s.sendRuns freeOfChargeEnv enabled) .alone Q
      (fun e g _ => ∀ x, e = .exception x → ∃ w', E (.exception x) g w') g w := by
  unfold ChatHandler.orSaveFailed at hpart
  rw [wp_exceptException] at hpart
  refine wp_mono (fun _ _ _ h => h) (fun e g w he => ?_) hpart
  rintro x rfl
  rw [caught_exception, wp_bind] at he
  exact save_of_wp he

/-- The failing attempt for `q`, if the registry does not know the model. -/
theorem upstream_unregistered {user : ChatUser} {q : String}
    {Q : Served → Outbox → ChatWorld → Prop} (hname : r.provider = some q) (hnone : s.registered r.model = none)
    (hwp : (h.upstream user r maxTokens).wp (s.sendRuns freeOfChargeEnv enabled) .alone Q E g w) :
    ∃ w', E (.exception busy)
      { g with contacted := g.contacted ++ [(g.attempts, s.client (if q = "" then "openrouter" else q))] } w' := by
  unfold ChatHandler.upstream at hwp
  rw [wp_bind] at hwp
  have hanswer : ∀ w, (chatExec (s.environment freeOfChargeEnv enabled) (.enabledProviders r.model) w).1 = .ok none := by
    intro w
    show Except.ok ((s.registered r.model).map _) = _
    rw [hnone]
    rfl
  obtain ⟨w₁, hwp⟩ := served_of_wp (hanswer w) hwp
  have hdetected : ∃ w', ((call (.transformModelId r.model (if q = "" then "openrouter" else q)) >>= fun modelId =>
      callProvider (if q = "" then "openrouter" else q) modelId maxTokens >>= fun x =>
        pure ⟨x.1, if q = "" then "openrouter" else q, modelId, x.2⟩ : ChatProg Served)).wp
          (s.sendRuns freeOfChargeEnv enabled) .alone Q E g w' := by
    by_cases hq : q = ""
    · rw [if_pos hq]
      have hdetect : ChatHandler.detectedProvider r = (do
          let detected ← call (.detectProvider r.model)
          pure ((detected.filter (· ≠ "")).getD "openrouter")) := by
        unfold ChatHandler.detectedProvider
        rw [hname, hq]
        rfl
      change Prog.wp _ _ _ _ (ChatHandler.detectedProvider r >>= _) _ _ at hwp
      rw [hdetect, wp_bind, wp_bind] at hwp
      exact served_of_wp (a := none) rfl hwp
    · rw [if_neg hq]
      change Prog.wp _ _ _ _ (ChatHandler.detectedProvider r >>= _) _ _ at hwp
      rw [detectedProvider_named hname hq] at hwp
      exact ⟨w₁, hwp⟩
  obtain ⟨w₂, hwp⟩ := hdetected
  rw [wp_bind] at hwp
  obtain ⟨w₃, hwp⟩ := served_of_wp (a := r.model) rfl hwp
  rw [wp_bind] at hwp
  exact busy_of_wp hwp

/-- … and if it does, and `c` is the only provider enabled. -/
theorem upstream_registered {user : ChatUser} {c : ProviderConfig} {providers : List ProviderConfig}
    {Q : Served → Outbox → ChatWorld → Prop} (hsome : s.registered r.model = some providers) (hc : c ∈ providers)
    (hwp : (h.upstream user r maxTokens).wp (s.sendRuns freeOfChargeEnv fun _ c' => c' = c) .alone Q E g w) :
    ∃ w', E (.exception (.py ⟨.other, "All providers failed. Last error: " ++ busy.text⟩))
      { g with contacted := g.contacted ++ [(g.attempts, s.client c.name)] } w' := by
  have hall : ∀ c' ∈ providers.filter (fun c' => decide (c' = c)), c' = c := fun c' hc' =>
    of_decide_eq_true (List.mem_filter.mp hc').2
  have hin : c ∈ providers.filter (fun c' => decide (c' = c)) := List.mem_filter.mpr ⟨hc, decide_eq_true rfl⟩
  obtain ⟨rest, henabled⟩ : ∃ rest, providers.filter (fun c' => decide (c' = c)) = c :: rest := by
    cases hfilter : providers.filter fun c' => decide (c' = c) with
    | nil => rw [hfilter] at hin; cases hin
    | cons c' rest =>
      have hhead := hall c' (by rw [hfilter]; exact List.mem_cons_self)
      exact ⟨rest, by rw [hhead]⟩
  have htry : providersToTry c (c :: rest) = [c] := by
    unfold providersToTry
    have hnobody : (c :: rest).filter (fun p => decide (p.name ≠ c.name)) = [] := by
      refine List.filter_eq_nil_iff.mpr fun c' hc' => ?_
      rw [← henabled] at hc'
      rw [hall c' hc']
      simp
    rw [hnobody, List.take_nil]
  unfold ChatHandler.upstream at hwp
  rw [wp_bind] at hwp
  have hanswer : ∀ w, (chatExec (s.environment freeOfChargeEnv fun _ c' => decide (c' = c)) (.enabledProviders r.model) w).1 =
      .ok (some (c :: rest)) := by
    intro w
    show Except.ok ((s.registered r.model).map (List.filter fun c' => decide (c' = c))) = _
    rw [hsome, Option.map_some, henabled]
  obtain ⟨w₁, hwp⟩ := served_of_wp (hanswer w) hwp
  change Prog.wp _ _ _ _ (executeWithFailover r.model (c :: rest) _ >>= _) _ _ at hwp
  unfold executeWithFailover at hwp
  rw [List.head?_cons] at hwp
  dsimp only at hwp
  rw [htry, wp_bind, wp_bind] at hwp
  unfold availableOnly availableOnly at hwp
  rw [wp_bind] at hwp
  obtain ⟨w₂, hwp⟩ := served_of_wp (a := true) rfl hwp
  change Prog.wp _ _ _ _ (tryProviders _ "None" [c]) _ _ at hwp
  unfold tryProviders at hwp
  rw [wp_exceptException, wp_bind] at hwp
  obtain ⟨w₃, hwp⟩ := busy_of_wp hwp
  change Prog.wp _ _ _ _ (ChatHandler.save _ >>= _) _ _ at hwp
  rw [wp_bind] at hwp
  exact save_of_wp hwp

/-- The attempt for `q` calls `name q`, and fails with `e`. -/
def FailsAt (s : Routing) (enabled : Nat → ProviderConfig → Bool) (model : String) (name : String → String) (e : Exc) : Prop :=
  ∀ (q : String) (h : ChatHandler) (user : ChatUser) (r : InternalChatRequest) (maxTokens : Option Nat) (g : Outbox)
    (w : ChatWorld) (Q : Served → Outbox → ChatWorld → Prop) (E : ChatErr → Outbox → ChatWorld → Prop),
    r.provider = some q → r.model = model →
      (h.upstream user r maxTokens).wp (s.sendRuns freeOfChargeEnv enabled) .alone Q E g w →
        ∃ w', E (.exception e) { g with contacted := g.contacted ++ [(g.attempts, s.client (name q))] } w'

variable {model : String} {name : String → String} {e : Exc}

theorem process_fails (hfails : FailsAt s enabled model name e) {q : String}
    {Q : InternalChatResponse → Outbox → ChatWorld → Prop} (hname : r.provider = some q) (hmodel : r.model = model)
    (hwp : (h.process r).wp (s.sendRuns freeOfChargeEnv enabled) .alone Q E g w) :
    ∃ w', E (.exception e) { g with contacted := g.contacted ++ [(g.attempts, s.client (name q))] } w' := by
  unfold ChatHandler.process at hwp
  rw [wp_bind] at hwp
  have huser := orSaveFailed_of_wp hwp
  unfold ChatHandler.initializeUserContext at huser
  rw [wp_exceptException, wp_bind] at huser
  obtain ⟨w₁, hwp⟩ := served_of_wp (a := some payingUser) rfl huser
  have hbody := orSaveFailed_of_wp hwp
  unfold ChatHandler.checkCredits at hbody
  rw [wp_bind] at hbody
  have hcredits : (0 : ℚ) ≤ payingUser.row.balance := by decide +kernel
  have hchecked : ∀ w, (chatExec (s.environment freeOfChargeEnv enabled)
      (.checkCreditSufficiency ⟨r.model, r.messages.tokens, r.maxTokens, 4096⟩ payingUser.row.balance) w).1 = .ok r.maxTokens := by
    intro w
    show raised (checkCreditSufficiency _ (fun _ => .ok freeOfCharge) _ _) = _
    rw [checkCredits_free _ _ hcredits]
    rfl
  obtain ⟨w₂, hbody⟩ := served_of_wp (hchecked _) hbody
  rw [wp_bind] at hbody
  obtain ⟨w₃, hraised⟩ := hfails q h payingUser r _ _ _ _ _ hname hmodel hbody
  exact hraised e rfl

/-- The whole chain is asked, if every attempt fails: by induction on it. -/
theorem sent_of_wp (hfails : FailsAt s enabled model name e) (he : failsOver e = true) {J : Outbox → Prop}
    (hback : ∀ g stmt, J (s.note g stmt) → J g) (d : DispatchParams) (hmodel : d.model = model) (rest : List String)
    (hwp : (nonStreamingAttempts d rest).wp (s.sendRuns freeOfChargeEnv enabled) .alone (fun _ g _ => J g) (fun _ g _ => J g)
      g w) : ∀ m q, rest[m]? = some q →
        ∃ g', J g' ∧ (g.attempts + m + 1, s.client (name q)) ∈ g'.contacted := by
  induction rest generalizing g w with
  | nil =>
    intro m q hq
    cases hq
  | cons q rest ih =>
    unfold nonStreamingAttempts nonStreamingAttempt toInternalRequest newHandler at hwp
    rw [wp_exceptException, wp_bind, wp_bind] at hwp
    obtain ⟨w₁, hwp⟩ := served_of_wp (a := ()) rfl hwp
    change Prog.wp _ _ _ _ (call .newRequestId >>= _ >>= _) _ _ at hwp
    rw [wp_bind, wp_bind] at hwp
    obtain ⟨w₂, hwp⟩ := served_of_wp (a := "r") rfl hwp
    change Prog.wp _ _ _ _ (ChatHandler.process _ _ >>= _) _ _ at hwp
    rw [wp_bind] at hwp
    obtain ⟨w₃, hwp⟩ := process_fails (q := q) hfails rfl hmodel hwp
    rw [caught_exception, wp_bind] at hwp
    obtain ⟨w₄, hwp⟩ := served_of_wp (a := ()) rfl hwp
    -- the note of the failed attempt
    change Prog.wp _ _ _ _ (ite (rest ≠ [] ∧ _) _ _)
      (Outbox.mk (g.attempts + 1) (g.contacted ++ [(g.attempts + 1, s.client (name q))])) w₄ at hwp
    rw [shouldFailover_mapProviderError] at hwp
    have hgoes : J ⟨g.attempts + 1, g.contacted ++ [(g.attempts + 1, s.client (name q))]⟩ :=
      wp_back (fun _ _ _ => trivial) (fun g stmt _ _ _ h => hback g stmt h) hwp
    intro m p hp
    cases m with
    | zero =>
      cases hp
      exact ⟨_, hgoes, List.mem_append_right _ List.mem_cons_self⟩
    | succ m =>
      have hmore : rest ≠ [] := by
        rintro rfl
        cases hp
      rw [if_pos ⟨hmore, he⟩] at hwp
      obtain ⟨g', hg', hin⟩ := ih hwp m p hp
      refine ⟨g', hg', ?_⟩
      have hcount : g.attempts + (m + 1) + 1 = g.attempts + 1 + m + 1 := by omega
      rw [hcount]
      exact hin

end Failing

/-! ## Both directions -/

section Law

variable {s : Routing} {model provider : String}

theorem mem_providerChain_iff (hranked : (s.reorderProviderChain model (s.permitted model provider)).Perm (s.permitted model provider))
    (hhealthy : (s.providerChain model provider).Perm (s.reorderProviderChain model (s.permitted model provider))) (p : String) :
    p ∈ s.providerChain model provider ↔ p ∈ s.permitted model provider :=
  (hhealthy.trans hranked).mem_iff

theorem ranked_perm : (s.reorderProviderChain model (s.permitted model provider)).Perm (s.permitted model provider) :=
  reorderProviderChain_perm s (nodup_permitted s model provider)

theorem healthy_perm_iff :
    (s.providerChain model provider).Perm (s.reorderProviderChain model (s.permitted model provider)) ↔
      ∀ alt ∈ s.alternative model (s.reorderProviderChain model (s.permitted model provider)),
        alt ∈ s.permitted model provider := by
  have hnodup : (s.reorderProviderChain model (s.permitted model provider)).Nodup :=
    ranked_perm.nodup_iff.mpr (nodup_permitted s model provider)
  unfold Routing.providerChain
  rw [routeByHealth_perm_iff s hnodup]
  constructor
  · exact fun h alt halt => ranked_perm.mem_iff.mp (h alt halt)
  · exact fun h alt halt => ranked_perm.mem_iff.mpr (h alt halt)

theorem onlyPermitted_of_keepsToChain (h : s.KeepsToChain model provider) : s.OnlyPermitted model provider := by
  have hhealthy := healthy_perm_iff.mpr h.alternative
  refine ⟨ranked_perm, hhealthy, fun d checked stream env enabled link w hmodel => ?_⟩
  have hchain : Remaining s model provider 0 (s.providerChain model provider) := by
    intro m q hq
    have hin := (mem_providerChain_iff ranked_perm hhealthy q).mp (List.mem_of_getElem? hq)
    exact ⟨⟨hin, m, by omega, hq⟩, h.own q hin⟩
  have hwp : (dispatchTo d (s.providerChain model provider) checked stream).wp (s.sendRuns env enabled) .alone
      (fun _ => AllRight s model provider) (fun _ => AllRight s model provider) {} w :=
    wp_dispatchTo d hmodel _ checked stream hchain
  have hend := wp_noted hwp
    (Prog.admits_of_allow (fun _ _ _ _ => trivial) link _ _ w)
  cases hr : ((dispatchTo d (s.providerChain model provider) checked stream).run (chatExec (s.environment env enabled))
      link w).1 with
  | ok a =>
    rw [hr] at hend
    exact hend
  | error e =>
    rw [hr] at hend
    exact hend

theorem client_of_onlyPermitted (h : s.OnlyPermitted model provider) {enabled : Nat → ProviderConfig → Bool}
    {name : String → String} {e : Exc} (hfails : FailsAt s enabled model name e) (he : failsOver e = true) {p : String}
    (hp : p ∈ s.permitted model provider) : s.client (name p) = p := by
  have hin := (mem_providerChain_iff h.ranked h.healthy p).mpr hp
  obtain ⟨m, hm⟩ := List.getElem?_of_mem hin
  let d : DispatchParams := ⟨{}, "gw", model, ⟨0, 0⟩, none⟩
  have hwp : (dispatchTo d (s.providerChain model provider) false false).wp (s.sendRuns freeOfChargeEnv enabled) .alone
      (fun _ g _ => AllRight s model provider g calmWorld) (fun _ g _ => AllRight s model provider g calmWorld) {} calmWorld := by
    refine wp_of_runs fun os _ => ?_
    have hsent := h.sent d false false freeOfChargeEnv enabled os calmWorld rfl
    generalize ((dispatchTo d (s.providerChain model provider) false false).run _ os calmWorld).1 = r
    cases r with
    | ok a => exact hsent
    | error e => exact hsent
  change Prog.wp _ _ _ _ (dispatchNonStreaming d _ >>= fun _ => pure ()) _ _ at hwp
  unfold dispatchNonStreaming at hwp
  have hchain : s.providerChain model provider ≠ [] := by
    intro hnil
    rw [hnil] at hin
    cases hin
  rw [wp_bind, if_neg hchain] at hwp
  have hback : ∀ g stmt, AllRight s model provider (s.note g stmt) calmWorld → AllRight s model provider g calmWorld := by
    intro g stmt hnote x hx
    refine hnote x ?_
    unfold Routing.note
    split
    · exact hx
    · exact List.mem_append_left _ hx
    · exact List.mem_append_left _ hx
    · exact hx
  obtain ⟨g, hright, hcontact⟩ := sent_of_wp hfails he (J := fun g => AllRight s model provider g calmWorld) hback d rfl _ hwp m p hm
  obtain ⟨-, n, hn, hat⟩ := hright _ hcontact
  have hsame : n = m := by
    have hn : 0 + m + 1 = n + 1 := hn
    omega
  subst hsame
  exact Option.some.inj (hat.symm.trans hm)

theorem client_openrouter_ne : s.client "openrouter" ≠ "" := by
  unfold Routing.client
  split
  · decide
  · split <;> decide

theorem keepsToChain_of_onlyPermitted (h : s.OnlyPermitted model provider) : s.KeepsToChain model provider := by
  refine ⟨healthy_perm_iff.mp h.healthy, fun p hp => ?_⟩
  unfold Routing.LeadsTo
  split
  · next hnone =>
    have hfails : FailsAt s (fun _ _ => true) model (fun q => if q = "" then "openrouter" else q) busy := by
      intro q handler user r maxTokens g w Q E hname hmodel hwp
      exact upstream_unregistered hname (by rw [hmodel]; exact hnone) hwp
    have hclient := client_of_onlyPermitted h hfails (by decide +kernel) hp
    by_cases hempty : p = ""
    · rw [if_pos hempty, hempty] at hclient
      exact absurd hclient client_openrouter_ne
    · rw [if_neg hempty] at hclient
      exact ⟨hempty, hclient⟩
  · next providers hsome =>
    intro c hc
    have hfails : FailsAt s (fun _ c' => c' = c) model (fun _ => c.name)
        (.py ⟨.other, "All providers failed. Last error: " ++ busy.text⟩) := by
      intro q handler user r maxTokens g w Q E hname hmodel hwp
      exact upstream_registered (by rw [hmodel]; exact hsome) hc hwp
    exact client_of_onlyPermitted h hfails (by decide +kernel) hp

/-- **Only permitted providers are contacted if and only if nothing leads off the chain.** -/
theorem permitted_only_iff (s : Routing) (model provider : String) :
    s.OnlyPermitted model provider ↔ s.KeepsToChain model provider :=
  ⟨keepsToChain_of_onlyPermitted, onlyPermitted_of_keepsToChain⟩

def troubled : Routing where
  totalModels := some 2
  modelsHealth :=
    [{ modelId := "meta-llama/llama-3.1-8b-instruct:free", provider := "openrouter", status := "unhealthy", uptimePercentage := some 20 },
      { modelId := "meta-llama/llama-3.1-8b-instruct:free", provider := "featherless", status := "healthy", uptimePercentage := some 99 }]

/-- The model is locked to OpenRouter, and Featherless is asked. -/
theorem locked_out :
    troubled.permitted "meta-llama/llama-3.1-8b-instruct:free" "openrouter" = ["openrouter"] ∧
      ((dispatchTo ⟨{}, "gw", "meta-llama/llama-3.1-8b-instruct:free", ⟨5, 2⟩, none⟩
        (troubled.providerChain "meta-llama/llama-3.1-8b-instruct:free" "openrouter") true false).noted
          (troubled.sendRuns (calmEnv []) fun _ _ => true) [] {} calmWorld).contacted = [(1, "featherless")] ∧
      ¬ troubled.OnlyPermitted "meta-llama/llama-3.1-8b-instruct:free" "openrouter" := by
  have hsent : ((dispatchTo ⟨{}, "gw", "meta-llama/llama-3.1-8b-instruct:free", ⟨5, 2⟩, none⟩
      (troubled.providerChain "meta-llama/llama-3.1-8b-instruct:free" "openrouter") true false).noted
        (troubled.sendRuns (calmEnv []) fun _ _ => true) [] {} calmWorld).contacted = [(1, "featherless")] := by decide +kernel
  have hpermitted : troubled.permitted "meta-llama/llama-3.1-8b-instruct:free" "openrouter" = ["openrouter"] := by decide +kernel
  refine ⟨hpermitted, hsent, fun h => ?_⟩
  have hright := (h.sent _ _ _ _ _ _ _ rfl (1, "featherless") (by rw [hsent]; exact List.mem_cons_self)).1
  rw [hpermitted] at hright
  exact absurd hright (by decide)

end Law

end Gatewayz
