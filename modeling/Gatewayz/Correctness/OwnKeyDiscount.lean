import Gatewayz.Chat.Byok
import Gatewayz.Chat.Streams

/-!
# `Correctness.OwnKeyDiscount` — who pays for a call, and who is given the discount

`is_byok` says whether a key of the customer was *bound* for the call; the key that the call is *made* with is a matter of the
client, and the only one that looks for the bound key is that of OpenRouter for answers in one piece. So the discount is right if
no key is bound, or if that client answers (`DiscountRight`, `discountRight_iff`).

The keys themselves go nowhere else. A bound key is asked for under its provider, and a pooled client is found under the hash of
its key (`PoolSound`): a call is made with a key of the deployment, or with that of its own user for its own provider.
-/

namespace Gatewayz.Byok

open Exec

/-! ## The pools -/

section Pool

variable {s : Settings} {keys : Set String} {pool : Pool} {provider baseUrl apiKey : String}

/-- A pool is sound: a client is kept under the hash of the key that it carries. -/
def PoolSound (s : Settings) (keys : Set String) (pool : Pool) : Prop :=
  ∀ entry ∈ pool, pooledEndpoints.lookup entry.2.provider = some entry.2.baseUrl ∧ entry.2.apiKey ∈ keys ∧
    entry.1 = cacheKey s entry.2.provider entry.2.baseUrl entry.2.apiKey

theorem mem_of_lookup {p u : String} (h : pooledEndpoints.lookup p = some u) : (p, u) ∈ pooledEndpoints := by
  obtain ⟨l₁, l₂, heq, -⟩ := List.lookup_eq_some_iff.mp h
  rw [heq]
  simp

theorem provider_eq_of_poolPrefix {p q u v : String} (hp : pooledEndpoints.lookup p = some u)
    (hq : pooledEndpoints.lookup q = some v) (h : poolPrefix p u = poolPrefix q v) : p = q ∧ u = v := by
  have hall : ∀ e ∈ pooledEndpoints, ∀ e' ∈ pooledEndpoints, poolPrefix e.1 e.2 = poolPrefix e'.1 e'.2 → e = e' := by
    decide +kernel
  have heq := hall _ (mem_of_lookup hp) _ (mem_of_lookup hq) h
  exact ⟨congrArg Prod.fst heq, congrArg Prod.snd heq⟩

/-- The client of a key carries this key, if no two keys have one hash. -/
theorem getPooledClient_eq (hhash : Set.InjOn (apiKeyHash s) keys) (hpool : PoolSound s keys pool)
    (hlookup : pooledEndpoints.lookup provider = some baseUrl) (hkey : apiKey ∈ keys) :
    (getPooledClient s pool provider baseUrl apiKey).1 = ⟨provider, baseUrl, apiKey⟩ ∧
      PoolSound s keys (getPooledClient s pool provider baseUrl apiKey).2 := by
  have hnew : ∀ pool', (∀ e ∈ pool', e ∈ pool) →
      PoolSound s keys (pool' ++ [(cacheKey s provider baseUrl apiKey, ⟨provider, baseUrl, apiKey⟩)]) := by
    intro pool' hsub entry hentry
    rcases List.mem_append.mp hentry with hold | hlast
    · exact hpool entry (hsub entry hold)
    · rw [List.mem_singleton.mp hlast]
      exact ⟨hlookup, hkey, rfl⟩
  unfold getPooledClient
  dsimp only
  cases hfound : pool.find? (fun entry => entry.1 = cacheKey s provider baseUrl apiKey) with
  | some entry =>
    have hmem := List.mem_of_find?_eq_some hfound
    have hcache : entry.1 = cacheKey s provider baseUrl apiKey := by simpa using List.find?_some hfound
    obtain ⟨hendpoint, hin, hentry⟩ := hpool entry hmem
    have heq := hentry.symm.trans hcache
    obtain ⟨hprovider, hurl⟩ := provider_eq_of_poolPrefix hendpoint hlookup (congrArg CacheKey.poolPrefix heq)
    have hsame : entry.2.apiKey = apiKey := hhash hin hkey (congrArg CacheKey.apiKeyHash heq)
    refine ⟨?_, fun e he => ?_⟩
    · show entry.2 = _
      rw [← hprovider, ← hurl, ← hsame]
    · rcases List.mem_append.mp he with hold | hlast
      · exact hpool e (List.mem_of_mem_filter hold)
      · rw [List.mem_singleton.mp hlast]
        exact hpool entry hmem
  | none =>
    refine ⟨rfl, hnew _ fun e he => ?_⟩
    have he' := List.mem_of_mem_filter he
    split at he'
    · exact List.mem_of_mem_drop he'
    · exact he'

end Pool

/-! ## One call -/

section Call

variable {s : Settings} {keys : Set String} {pools : Pools} {c : ProviderCall}

structure PoolsSound (s : Settings) (keys : Set String) (pools : Pools) : Prop where
  sync : PoolSound s keys pools.sync
  async : PoolSound s keys pools.async

/-- What a client is: it speaks for a provider with the key that was chosen. -/
theorem acquireClient_eq (hhash : Set.InjOn (apiKeyHash s) keys) (hpools : PoolsSound s keys pools) {ctx : Context} {mode : Mode}
    {client : String} (hkey : ∀ apiKey, upstreamKey s ctx mode client = some apiKey → apiKey ∈ keys) :
    PoolsSound s keys (acquireClient s ctx mode client pools).2 ∧
      ∀ c, (acquireClient s ctx mode client pools).1 = some c →
        c.provider = client ∧ upstreamKey s ctx mode client = some c.apiKey := by
  unfold acquireClient
  cases hchosen : upstreamKey s ctx mode client with
  | none => exact ⟨hpools, nofun⟩
  | some apiKey =>
    have hin := hkey apiKey hchosen
    cases hendpoint : pooledEndpoint s client with
    | none =>
      refine ⟨hpools, fun c hc => ?_⟩
      cases hc
      exact ⟨rfl, rfl⟩
    | some baseUrl =>
      have hlookup : pooledEndpoints.lookup client = some baseUrl := by
        unfold pooledEndpoint at hendpoint
        split at hendpoint
        · cases hendpoint
        · exact hendpoint
      dsimp only
      split
      · obtain ⟨heq, hsound⟩ := getPooledClient_eq hhash hpools.async hlookup hin
        refine ⟨⟨hpools.sync, hsound⟩, fun c hc => ?_⟩
        obtain rfl := (Option.some.inj hc).symm.trans heq
        exact ⟨rfl, rfl⟩
      · obtain ⟨heq, hsound⟩ := getPooledClient_eq hhash hpools.sync hlookup hin
        refine ⟨⟨hsound, hpools.async⟩, fun c hc => ?_⟩
        obtain rfl := (Option.some.inj hc).symm.trans heq
        exact ⟨rfl, rfl⟩

/-- The answer is paid for by the user: the call is made with the user's key, at the provider that it is for. -/
def PaidByOwnKey (c : ProviderCall) (client : Client) : Prop := c.ownKey = some client.apiKey ∧ client.provider = c.provider

def Bound (s : Settings) (c : ProviderCall) : Prop := s.byokEnabled = true ∧ c.ownKey.isSome = true

def ReadsOwn (c : ProviderCall) : Prop := c.mode = .request ∧ c.provider = "openrouter"

def Shared (s : Settings) (c : ProviderCall) : Prop :=
  clientOf s c.provider = c.provider ∧ c.ownKey.isSome = true ∧ c.ownKey = (s.platformKey c.provider).filter (· ≠ "")

/-- When the discount is right: the bound key is read; or no key is bound, which is wrong only for who has stored the key of the
    deployment (and would be right for them). -/
def DiscountRight (s : Settings) (c : ProviderCall) : Prop := Bound s c ∧ ReadsOwn c ∨ (Bound s c ↔ Shared s c)

theorem bindContext_bound (h : Bound s c) : ∃ apiKey, c.ownKey = some apiKey ∧ bindContext s c = some (c.provider, apiKey) := by
  obtain ⟨apiKey, hown⟩ := Option.isSome_iff_exists.mp h.2
  refine ⟨apiKey, hown, ?_⟩
  rw [bindContext, if_pos h.1, hown]
  rfl

theorem bindContext_unbound (h : ¬ Bound s c) : bindContext s c = none := by
  unfold bindContext
  split
  · next henabled =>
    cases hown : c.ownKey with
    | none => rfl
    | some apiKey => exact absurd ⟨henabled, by rw [hown]; rfl⟩ h
  · rfl

theorem isSome_bindContext : (bindContext s c).isSome = true ↔ Bound s c := by
  by_cases h : Bound s c
  · obtain ⟨apiKey, -, hctx⟩ := bindContext_bound h
    rw [hctx]
    exact ⟨fun _ => h, fun _ => rfl⟩
  · rw [bindContext_unbound h]
    exact ⟨nofun, fun hbound => absurd hbound h⟩

theorem ownKey_ne_empty {apiKey : String} (h : c.ownKey = some apiKey) : apiKey ≠ "" := by
  have hfilter := (Option.filter_eq_some_iff.mp h).2
  exact of_decide_eq_true hfilter

theorem clientOf_openrouter : clientOf s "openrouter" = "openrouter" := by
  unfold clientOf
  rw [if_neg]
  intro h
  rw [Bool.and_eq_true] at h
  exact absurd h.1 (by decide)

/-- The key of a call, if it has one: the user's, if that is bound and read, else the deployment's. -/
theorem upstreamKey_eq {apiKey : String} (h : upstreamKey s (bindContext s c) c.mode (clientOf s c.provider) = some apiKey) :
    (Bound s c ∧ ReadsOwn c ∧ c.ownKey = some apiKey) ∨
      (¬ (Bound s c ∧ ReadsOwn c) ∧ (s.platformKey (clientOf s c.provider)).filter (· ≠ "") = some apiKey) := by
  unfold upstreamKey at h
  cases hplatform : (s.platformKey (clientOf s c.provider)).filter (· ≠ "") with
  | none =>
    rw [hplatform] at h
    cases h
  | some platformKey =>
    rw [hplatform] at h
    dsimp only at h
    by_cases hbound : Bound s c
    · obtain ⟨own, hown, hctx⟩ := bindContext_bound hbound
      rw [hctx] at h
      by_cases hprovider : c.provider = "openrouter"
      · rw [hprovider, clientOf_openrouter] at h
        by_cases hmode : c.mode = .request
        · have hread : (getByokKeyFor (some ("openrouter", own)) "openrouter").filter (· ≠ "") = some own := by
            rw [getByokKeyFor, if_pos rfl, Option.filter_some, if_pos (decide_eq_true (ownKey_ne_empty hown))]
          rw [if_pos ⟨rfl, hmode⟩, hread] at h
          exact .inl ⟨hbound, ⟨hmode, hprovider⟩, hown.trans h⟩
        · rw [if_neg fun hboth => hmode hboth.2] at h
          exact .inr ⟨fun hboth => hmode hboth.2.1, h⟩
      · have hforeign : getByokKeyFor (some (c.provider, own)) "openrouter" = none := by rw [getByokKeyFor, if_neg hprovider]
        rw [hforeign] at h
        refine .inr ⟨fun hboth => hprovider hboth.2.2, ?_⟩
        split at h
        · exact h
        · exact h
    · rw [bindContext_unbound hbound] at h
      refine .inr ⟨fun hboth => hbound hboth.1, ?_⟩
      split at h
      · exact h
      · exact h

/-- One call: `is_byok` is right if and only if the condition holds, and the key is the deployment's or the user's own. -/
theorem discountRight_iff {client : Client} (hprovider : client.provider = clientOf s c.provider)
    (hkey : upstreamKey s (bindContext s c) c.mode (clientOf s c.provider) = some client.apiKey) :
    ((((bindContext s c).isSome = true) ↔ PaidByOwnKey c client) ↔ DiscountRight s c) ∧
      (s.platformKey client.provider = some client.apiKey ∨ PaidByOwnKey c client) := by
  rw [isSome_bindContext]
  rcases upstreamKey_eq hkey with ⟨hbound, hreads, hown⟩ | ⟨hnot, hplatform⟩
  · have hpaid : PaidByOwnKey c client := ⟨hown, by rw [hprovider, hreads.2, clientOf_openrouter]⟩
    exact ⟨⟨fun _ => .inl ⟨hbound, hreads⟩, fun _ => ⟨fun _ => hpaid, fun _ => hbound⟩⟩, .inr hpaid⟩
  · have hshared : PaidByOwnKey c client ↔ Shared s c := by
      constructor
      · rintro ⟨hown, hsame⟩
        have hclient : clientOf s c.provider = c.provider := hprovider.symm.trans hsame
        rw [hclient] at hplatform
        exact ⟨hclient, by rw [hown]; rfl, hown.trans hplatform.symm⟩
      · rintro ⟨hclient, -, hown⟩
        rw [hclient] at hplatform
        exact ⟨hown.trans hplatform, hprovider.trans hclient⟩
    rw [hshared]
    refine ⟨⟨fun hiff => .inr hiff, fun hright => hright.resolve_left hnot⟩, .inl ?_⟩
    rw [hprovider]
    exact (Option.filter_eq_some_iff.mp hplatform).1

/-! ## All calls -/

/-- The keys of a deployment and of a call are among the keys. -/
structure KnownKeys (s : Settings) (keys : Set String) (c : ProviderCall) : Prop where
  platform : ∀ provider apiKey, s.platformKey provider = some apiKey → apiKey ∈ keys
  own : ∀ apiKey, c.ownKey = some apiKey → apiKey ∈ keys

theorem KnownKeys.upstreamKey (h : KnownKeys s keys c) (apiKey : String)
    (hkey : upstreamKey s (bindContext s c) c.mode (clientOf s c.provider) = some apiKey) : apiKey ∈ keys := by
  rcases upstreamKey_eq hkey with ⟨-, -, hown⟩ | ⟨-, hplatform⟩
  · exact h.own apiKey hown
  · exact h.platform _ apiKey (Option.filter_eq_some_iff.mp hplatform).1

theorem poolsSound_of_reach (hhash : Set.InjOn (apiKeyHash s) keys)
    (h : (callMachine s).Reach (fun _ c => KnownKeys s keys c) pools) : PoolsSound s keys pools := by
  refine Machine.reach_invariant (M := callMachine s) (I := PoolsSound s keys) ⟨nofun, nofun⟩ ?_ h
  intro pools c pools' reply hpools hknown hstep
  have hsound := (acquireClient_eq hhash hpools hknown.upstreamKey).1
  cases hstep
  exact hsound

theorem client_of_reach (hhash : Set.InjOn (apiKeyHash s) keys)
    (h : (callMachine s).Reach (fun _ c => KnownKeys s keys c) pools) (hknown : KnownKeys s keys c) {client : Client}
    (hclient : (callThrough s c pools).1.client = some client) : client.provider = clientOf s c.provider ∧
      upstreamKey s (bindContext s c) c.mode (clientOf s c.provider) = some client.apiKey :=
  (acquireClient_eq hhash (poolsSound_of_reach hhash h) hknown.upstreamKey).2 client hclient

end Call

/-! ## The charges of a request -/

/-- A deployment while a request runs: what is stored, and what all requests have left in the pools, at each moment. -/
structure Deployment where
  settings : Settings
  stored : Nat → Int → String → Option String
  pools : Nat → Pools

/-- A charge: whose request, what was deducted, the price of the request, and the call that was answered last, with its client. -/
structure Charge where
  user : Option Int
  cost : ℚ
  price : Option ℚ
  answered : Option (ProviderCall × Client)

/-- The trail of a request. -/
structure Trail where
  user : Option Int := none
  /-- The call that the context is bound for. -/
  bound : Option ProviderCall := none
  answered : Option (ProviderCall × Client) := none
  price : Option ℚ := none
  charges : List Charge := []

def Trail.call (t : Trail) (provider : String) (mode : Mode) : Option ProviderCall :=
  (t.bound.filter fun c => c.provider = provider).map fun c => { c with mode := mode }

def Trail.client (dep : Deployment) (t : Trail) (provider : String) (mode : Mode) (w : ChatWorld) :
    Option (ProviderCall × Client) :=
  (t.call provider mode).bind fun c => (callThrough dep.settings c (dep.pools w.moment)).1.client.map fun client => (c, client)

/-- What a step adds to the trail. If `_bind_byok` fails, nothing can be read. -/
def Trail.enter (dep : Deployment) (t : Trail) (s : ChatStmt) (r : Except ChatErr (ChatRes s)) (w _ : ChatWorld) : Trail :=
  match s, r with
  | .getUser _, .ok (some user) => { t with user := some user.id }
  | .bindByok provider, .ok _ => { t with bound := some ⟨t.user, provider, .request, dep.stored w.moment⟩ }
  | .bindByok provider, .error _ => { t with bound := some ⟨t.user, provider, .request, fun _ _ => none⟩ }
  | .callProvider provider _ _, .ok _ => { t with answered := t.client dep provider .request w }
  | .openStream provider _ _, .ok (.ok _) => { t with answered := t.client dep provider .stream w }
  | .lossProofCostSplit _ _ _ _, .ok split => { t with price := some split.total }
  | .deductCredits _ cost _, _ => { t with charges := t.charges ++ [⟨t.user, cost, t.price, t.answered⟩] }
  | _, _ => t

/-- The deployment answers: `_bind_byok` binds what is stored, and a provider answers calls that have a client only. -/
def deploymentAnswers (env : ChatEnv) (dep : Deployment) (t : Trail) (s : ChatStmt) (o : Outcome ChatErr) (w : ChatWorld) :
    Prop :=
  match s, (answer (chatExec env) s o w).1 with
  | .bindByok provider, .ok byok =>
    byok = (bindContext dep.settings ⟨t.user, provider, .request, dep.stored w.moment⟩).isSome
  | .callProvider provider _ _, .ok _ => (t.call provider .request).isSome = true → (t.client dep provider .request w).isSome = true
  | .openStream provider _ _, .ok (.ok _) => (t.call provider .stream).isSome = true → (t.client dep provider .stream w).isSome = true
  | _, _ => True

abbrev trailRuns (env : ChatEnv) (dep : Deployment) : Setting ChatErr ChatStmt ChatRes Trail ChatWorld :=
  chatRuns env (Trail.enter dep) (deploymentAnswers env dep)

/-- A call of the deployment, and the client it got: its key store is that of some moment, or could not be read. -/
structure FromDeployment (dep : Deployment) (c : ProviderCall) (client : Client) : Prop where
  stored : ∃ m, ∀ u provider apiKey, c.stored u provider = some apiKey → dep.stored m u provider = some apiKey
  client : ∃ m, (callThrough dep.settings c (dep.pools m)).1.client = some client

/-- A charge as it is made: for the call that was answered, and the fee if a key was bound for that. -/
def Charge.FromCall (config : ChatConfig) (dep : Deployment) (x : Charge) : Prop :=
  ∃ price c client, x.price = some price ∧ x.answered = some (c, client) ∧ c.user = x.user ∧ FromDeployment dep c client ∧
    x.cost = if (bindContext dep.settings c).isSome then byokRoutingFee config price else price

def Charged (config : ChatConfig) (dep : Deployment) (t : Trail) (_ : ChatWorld) : Prop :=
  ∀ x ∈ t.charges, x.FromCall config dep

def BoundFor (config : ChatConfig) (dep : Deployment) (provider : String) (byok : Bool) (t : Trail) (w : ChatWorld) : Prop :=
  Charged config dep t w ∧ ∃ c, t.bound = some c ∧ c.provider = provider ∧ c.user = t.user ∧
    (bindContext dep.settings c).isSome = byok ∧ ∃ m, ∀ u provider apiKey, c.stored u provider = some apiKey → dep.stored m u provider = some apiKey

def AnsweredWith (config : ChatConfig) (dep : Deployment) (byok : Bool) (t : Trail) (w : ChatWorld) : Prop :=
  Charged config dep t w ∧ ∃ c client, t.answered = some (c, client) ∧ c.user = t.user ∧ FromDeployment dep c client ∧
    (bindContext dep.settings c).isSome = byok

section Charges

variable {env : ChatEnv} {dep : Deployment} {t : Trail} {w : ChatWorld} {config : ChatConfig} {byok : Bool}

/-! ### Steps -/

def ChargesNothing (s : ChatStmt) : Prop := ∀ apiKey cost metadata, s ≠ .deductCredits apiKey cost metadata

def CallsNobody (s : ChatStmt) : Prop :=
  ChargesNothing s ∧ (∀ provider modelId maxTokens, s ≠ .callProvider provider modelId maxTokens) ∧
    (∀ provider modelId maxTokens, s ≠ .openStream provider modelId maxTokens) ∧ ∀ apiKey, s ≠ .getUser apiKey

theorem charges_enter {s : ChatStmt} (hs : ChargesNothing s) (r : Except ChatErr (ChatRes s)) (w' : ChatWorld) :
    (t.enter dep s r w w').charges = t.charges := by
  unfold Trail.enter
  split
  any_goals rfl
  exact absurd rfl (hs _ _ _)

theorem answered_enter (dep : Deployment) (t : Trail) (w : ChatWorld) {s : ChatStmt} (hs : CallsNobody s)
    (r : Except ChatErr (ChatRes s)) (w' : ChatWorld) :
    (t.enter dep s r w w').answered = t.answered ∧ (t.enter dep s r w w').user = t.user := by
  unfold Trail.enter
  split
  any_goals exact ⟨rfl, rfl⟩
  · exact absurd rfl (hs.2.2.2 _)
  · exact absurd rfl (hs.2.1 _ _ _)
  · exact absurd rfl (hs.2.2.1 _ _ _)

theorem keeps_charged : StepsKeep (trailRuns env dep) ChargesNothing (Charged config dep) where
  step := fun s hs t o w _ h => by
    show ∀ x ∈ (t.enter dep s _ w (answer (chatExec env) s o w).2).charges, _
    rw [charges_enter hs]
    exact h

theorem keeps_answeredWith : StepsKeep (trailRuns env dep) CallsNobody (AnsweredWith config dep byok) where
  step := fun s hs t o w ha h => by
    refine ⟨keeps_charged.step s hs.1 t o w ha h.1, ?_⟩
    obtain ⟨-, c, client, hc, hcuser, hrest⟩ := h
    have hsame := answered_enter dep t w hs (answer (chatExec env) s o w).1 (answer (chatExec env) s o w).2
    exact ⟨c, client, hsame.1.trans hc, hcuser.trans hsame.2.symm, hrest⟩

theorem wp_bindByok (provider : String) (h : Charged config dep t w) :
    (bindByok provider).wp (trailRuns env dep) .alone (BoundFor config dep provider) (fun _ => Charged config dep) t w := by
  unfold bindByok
  rw [wp_exceptException]
  refine wp_alone_stmt (C := trailRuns env dep) fun o ho => ?_
  have hcharged := keeps_charged.step (.bindByok provider) nofun t o w ho h
  revert ho hcharged
  show deploymentAnswers env dep t (.bindByok provider) o w → _ → Answered _ _ (answer (chatExec env) (.bindByok provider) o w).1
  unfold deploymentAnswers
  generalize (answer (chatExec env) (.bindByok provider) o w).1 = r
  intro ho hcharged
  cases r with
  | ok byok => exact ⟨hcharged, _, rfl, rfl, rfl, ho.symm, w.moment, fun _ _ _ hread => hread⟩
  | error e =>
    cases e with
    | exception e =>
      refine ⟨hcharged, _, rfl, rfl, rfl, ?_, w.moment, nofun⟩
      show (bindContext dep.settings _).isSome = false
      rw [bindContext_unbound]
      · rfl
      · exact fun hbound => absurd hbound.2 (by unfold ProviderCall.ownKey; cases t.user <;> exact nofun)
    | cancelled => exact hcharged
    | generatorExit => exact hcharged

theorem wp_answered {provider : String} {mode : Mode} (h : BoundFor config dep provider byok t w)
    (hclient : (t.call provider mode).isSome = true → (t.client dep provider mode w).isSome = true) (w' : ChatWorld) :
    AnsweredWith config dep byok { t with answered := t.client dep provider mode w } w' := by
  obtain ⟨hcharged, c, hbound, hprovider, huser, hbyok, hstored⟩ := h
  have hcall : t.call provider mode = some { c with mode := mode } := by
    unfold Trail.call
    rw [hbound, Option.filter_some, if_pos (decide_eq_true hprovider)]
    rfl
  have hsome := hclient (by rw [hcall]; rfl)
  obtain ⟨⟨c', client⟩, hc'⟩ := Option.isSome_iff_exists.mp hsome
  have hthrough := hc'
  unfold Trail.client at hthrough
  rw [hcall, Option.bind_some] at hthrough
  obtain ⟨client', hclient', heq⟩ := Option.map_eq_some_iff.mp hthrough
  obtain ⟨rfl, rfl⟩ := Prod.mk.inj heq
  exact ⟨hcharged, _, client', hc', huser, ⟨hstored, w.moment, hclient'⟩, hbyok⟩

theorem wp_callProvider (provider modelId : String) (maxTokens : Option Nat) (h : Charged config dep t w) :
    (callProvider provider modelId maxTokens).wp (trailRuns env dep) .alone (fun r => AnsweredWith config dep r.2)
      (fun _ => Charged config dep) t w := by
  unfold callProvider
  refine wp_seq (wp_bindByok provider h) fun byok t w h => ?_
  rw [wp_exceptException, wp_bind]
  refine wp_alone_stmt (C := trailRuns env dep) fun o ho => ?_
  have hcharged := keeps_charged.step (.callProvider provider modelId maxTokens) nofun t o w ho h.1
  revert ho hcharged
  show deploymentAnswers env dep t (.callProvider provider modelId maxTokens) o w → _ →
    Answered _ _ (answer (chatExec env) (.callProvider provider modelId maxTokens) o w).1
  unfold deploymentAnswers
  generalize (answer (chatExec env) (.callProvider provider modelId maxTokens) o w).1 = r
  intro ho hcharged
  cases r with
  | ok response => exact wp_answered h ho _
  | error e =>
    cases e with
    | exception e => exact hcharged
    | cancelled => exact hcharged
    | generatorExit => exact hcharged

theorem wp_reraised (e : Exc) (h : Charged config dep t w) : (match e with
      | .circuitBreaker p => raise (.httpException 503 ("Provider '" ++ p ++ "' is temporarily unavailable"))
      | e => raise e : ChatProg (ProviderStream × Bool)).wp (trailRuns env dep) .alone
        (fun r => AnsweredWith config dep r.2) (fun _ => Charged config dep) t w := by
  split
  · exact h
  · exact h

theorem wp_callProviderStream (provider modelId : String) (maxTokens : Option Nat) (h : Charged config dep t w) :
    (callProviderStream provider modelId maxTokens).wp (trailRuns env dep) .alone (fun r => AnsweredWith config dep r.2)
      (fun _ => Charged config dep) t w := by
  unfold callProviderStream
  refine wp_seq (wp_bindByok provider h) fun byok t w h => ?_
  rw [wp_exceptException, wp_bind]
  refine wp_alone_stmt (C := trailRuns env dep) fun o ho => ?_
  have hcharged := keeps_charged.step (.openStream provider modelId maxTokens) nofun t o w ho h.1
  revert ho hcharged
  show deploymentAnswers env dep t (.openStream provider modelId maxTokens) o w → _ →
    Answered _ _ (answer (chatExec env) (.openStream provider modelId maxTokens) o w).1
  unfold deploymentAnswers
  generalize (answer (chatExec env) (.openStream provider modelId maxTokens) o w).1 = r
  intro ho hcharged
  cases r with
  | ok opened =>
    cases opened with
    | ok stream => exact wp_answered h ho _
    | error e => exact wp_reraised e hcharged
  | error e =>
    cases e with
    | exception e => exact wp_reraised e hcharged
    | cancelled => exact hcharged
    | generatorExit => exact hcharged

/-! ### Attempts -/

theorem wp_charged_bind {α β : Type} {p : ChatProg α} {f : α → ChatProg β} {Q : β → Trail → ChatWorld → Prop}
    (hp : p.Stays ChargesNothing fun _ => True) (h : Charged config dep t w)
    (hf : ∀ a t w, Charged config dep t w → (f a).wp (trailRuns env dep) .alone Q (fun _ => Charged config dep) t w) :
    (p >>= f).wp (trailRuns env dep) .alone Q (fun _ => Charged config dep) t w := by
  rw [wp_bind]
  exact wp_mono hf (fun _ _ _ h => h) (keeps_charged.wp hp h)

/-- What `execute_with_failover` leaves. -/
def AfterFailover (config : ChatConfig) (dep : Deployment) :
    Except String ((ProviderResponse × Bool) × ProviderConfig) → Trail → ChatWorld → Prop
  | .ok (r, _) => AnsweredWith config dep r.2
  | .error _ => Charged config dep

theorem wp_tryProviders (maxTokens : Option Nat) (ps : List ProviderConfig) (lastError : String) (h : Charged config dep t w) :
    (tryProviders (fun p => callProvider p.name p.modelId maxTokens) lastError ps).wp (trailRuns env dep) .alone
      (AfterFailover config dep) (fun _ => Charged config dep) t w := by
  induction ps generalizing lastError t w with
  | nil => exact h
  | cons p ps ih =>
    rw [tryProviders, wp_exceptException, wp_bind]
    refine wp_mono (fun _ _ _ h => h) (fun e t w h => ?_) (wp_callProvider p.name p.modelId maxTokens h)
    cases e with
    | exception e => exact ih e.text h
    | cancelled => exact h
    | generatorExit => exact h

variable (h : ChatHandler)

theorem wp_upstream (user : ChatUser) (r : InternalChatRequest) (maxTokens : Option Nat) (hc : Charged config dep t w) :
    (h.upstream user r maxTokens).wp (trailRuns env dep) .alone (fun s => AnsweredWith config dep s.byok)
      (fun _ => Charged config dep) t w := by
  unfold ChatHandler.upstream
  refine wp_charged_bind (stays_call nofun) hc fun registered t w hc => ?_
  cases registered with
  | some enabled =>
    dsimp only
    rw [wp_bind]
    have hfailover : (executeWithFailover r.model enabled fun p => callProvider p.name p.modelId maxTokens).wp
        (trailRuns env dep) .alone (AfterFailover config dep) (fun _ => Charged config dep) t w := by
      unfold executeWithFailover
      split
      · exact hc
      · refine wp_charged_bind (stays_availableOnly (fun _ => nofun) _) hc fun available t w hc => ?_
        cases available with
        | nil => exact hc
        | cons p ps => exact wp_tryProviders maxTokens (p :: ps) "None" hc
    refine wp_post (fun result t w hresult => ?_) hfailover
    rcases result with text | ⟨⟨response, byok⟩, p⟩
    · refine wp_charged_bind (stays_save nofun) hresult fun _ t w hc => ?_
      exact hc
    · exact hresult
  | none =>
    dsimp only
    refine wp_charged_bind (stays_detectedProvider nofun) hc fun provider t w hc => ?_
    refine wp_charged_bind (stays_call nofun) hc fun modelId t w hc => ?_
    rw [wp_bind]
    exact wp_callProvider provider modelId maxTokens hc

theorem wp_bill (r : InternalChatRequest) (provider modelId : String) (tokens : TokenCounts)
    (ha : AnsweredWith config dep byok t w) : (h.bill r provider modelId byok tokens).wp (trailRuns env dep) .alone
      (fun cost t w => AnsweredWith config dep byok t w ∧ ∃ price, t.price = some price ∧ cost.total = h.applyByokFee byok price)
      (fun _ => Charged config dep) t w := by
  unfold ChatHandler.bill
  rw [wp_bind]
  refine wp_alone_stmt (C := trailRuns env dep) fun o ho => ?_
  have hkept := keeps_answeredWith.step (.lossProofCostSplit r.model modelId tokens provider) ⟨nofun, nofun, nofun, nofun⟩ t o w ho ha
  cases hr : (answer (chatExec env) (.lossProofCostSplit r.model modelId tokens provider) o w).1 with
  | ok split =>
    rw [hr] at hkept
    exact ⟨hkept, split.total, rfl, rfl⟩
  | error e =>
    rw [hr] at hkept
    exact hkept.1

/-- The charge: what was billed, for the call that was answered. -/
theorem wp_chargeUser (hconfig : h.config = config) (user : ChatUser) (model : String)
    (tokens : TokenCounts) {cost price : ℚ} (ha : AnsweredWith config dep byok t w)
    (hprice : t.price = some price) (hcost : cost = h.applyByokFee byok price) :
    (h.chargeUser user cost model tokens).wp (trailRuns env dep) .alone (fun _ => Charged config dep)
      (fun _ => Charged config dep) t w := by
  have hentered : ∀ w', Charged config dep { t with charges := t.charges ++ [⟨t.user, cost, t.price, t.answered⟩] } w' := by
    intro w' x hx
    rcases List.mem_append.mp hx with hold | hnew
    · exact ha.1 x hold
    · rw [List.mem_singleton.mp hnew]
      obtain ⟨-, c, client, hanswered, huser, hfrom, hbyok⟩ := ha
      refine ⟨price, c, client, hprice, hanswered, huser, hfrom, ?_⟩
      rw [hbyok, ← hconfig]
      exact hcost
  unfold ChatHandler.chargeUser
  rw [wp_bind]
  refine wp_alone_stmt (C := trailRuns env dep) fun o _ => ?_
  show Answered _ _ (answer (chatExec env) (.deductCredits h.apiKey cost (h.chargeMetadata cost model tokens)) o w).1
  generalize (answer (chatExec env) (.deductCredits h.apiKey cost (h.chargeMetadata cost model tokens)) o w).1 = r
  cases r with
  | ok a =>
    refine wp_charged_bind (stays_call (P := ChargesNothing) (s := .recordUsage _) nofun) ?_ fun _ _ _ hc => hc
    exact hentered w
  | error e => exact hentered w

theorem wp_save (row : RequestRow) (hc : Charged config dep t w) :
    (ChatHandler.save row).wp (trailRuns env dep) .alone (fun _ => Charged config dep) (fun _ => Charged config dep) t w :=
  keeps_charged.wp (stays_save nofun) hc

theorem wp_settle (hconfig : h.config = config) (user : ChatUser) (r : InternalChatRequest)
    (s : Served) (ha : AnsweredWith config dep s.byok t w) :
    (h.settle user r s).wp (trailRuns env dep) .alone (fun _ => Charged config dep) (fun _ => Charged config dep) t w := by
  unfold ChatHandler.settle
  split
  · exact ha.1
  · refine wp_seq (wp_bill h r s.provider s.modelId _ ha) fun cost t w hbill => ?_
    obtain ⟨ha, price, hprice, hcost⟩ := hbill
    refine wp_seq (wp_chargeUser h hconfig user r.model _ ha hprice hcost) fun _ t w hc => ?_
    refine wp_seq (wp_save _ hc) fun _ t w hc => ?_
    exact wp_charged_bind (stays_call nofun) hc fun _ _ _ hc => hc

variable {α : Type} {part : ChatProg α} {Q : α → Trail → ChatWorld → Prop}

theorem wp_orSaveFailed (user : Option ChatUser) (model provider : String) (tokens : TokenCounts)
    (hpart : part.wp (trailRuns env dep) .alone Q (fun _ => Charged config dep) t w) :
    (h.orSaveFailed user model provider tokens part).wp (trailRuns env dep) .alone Q (fun _ => Charged config dep) t w := by
  unfold ChatHandler.orSaveFailed
  rw [wp_exceptException]
  refine wp_mono (fun _ _ _ h => h) (fun e t w hc => ?_) hpart
  cases e with
  | exception e =>
    rw [caught_exception, wp_bind]
    exact wp_mono (fun _ _ _ hc => hc) (fun _ _ _ hc => hc) (wp_save _ hc)
  | cancelled => exact hc
  | generatorExit => exact hc

theorem wp_process (hconfig : h.config = config) (r : InternalChatRequest) (hc : Charged config dep t w) :
    (h.process r).wp (trailRuns env dep) .alone (fun _ => Charged config dep) (fun _ => Charged config dep) t w := by
  unfold ChatHandler.process
  rw [wp_bind]
  have huser : h.initializeUserContext.Stays ChargesNothing fun _ => True := stays_initializeUserContext nofun
  refine wp_post (fun user t w hc => ?_)
    (wp_orSaveFailed h none r.model "unknown" noTokens (keeps_charged.wp huser hc))
  refine wp_orSaveFailed h (some user) r.model "unknown" noTokens ?_
  refine wp_charged_bind (stays_call nofun) hc fun maxTokens t w hc => ?_
  refine wp_seq (wp_upstream h user r maxTokens hc) fun served t w ha => ?_
  exact wp_settle h hconfig user r served ha

variable (d : DispatchParams)

theorem wp_nonStreamingAttempt (hconfig : d.config = config) (provider : String) (hc : Charged config dep t w) :
    (nonStreamingAttempt d provider).wp (trailRuns env dep) .alone (fun _ => Charged config dep)
      (fun _ => Charged config dep) t w := by
  unfold nonStreamingAttempt toInternalRequest newHandler
  rw [wp_bind]
  refine wp_charged_bind (stays_call nofun) hc fun _ t w hc => ?_
  rw [Prog.pure_eq, wp_ret, wp_bind]
  refine wp_charged_bind (stays_call nofun) hc fun requestId t w hc => ?_
  rw [Prog.pure_eq, wp_ret, wp_bind]
  refine wp_post (fun response t w hc => ?_) (wp_process ⟨d.config, d.apiKey, requestId⟩ hconfig _ hc)
  refine wp_charged_bind (stays_call nofun) hc fun _ t w hc => ?_
  refine wp_charged_bind (stays_call nofun) hc fun _ t w hc => ?_
  exact wp_charged_bind (stays_call nofun) hc fun _ _ _ hc => hc

/-- Answers in one piece: by induction on the chain. -/
theorem wp_dispatchNonStreaming (hconfig : d.config = config) (chain : List String) (hc : Charged config dep t w) :
    (dispatchNonStreaming d chain).wp (trailRuns env dep) .alone (fun _ => Charged config dep) (fun _ => Charged config dep)
      t w := by
  have hattempts : ∀ t w, Charged config dep t w → (nonStreamingAttempts d chain).wp (trailRuns env dep) .alone
      (fun _ => Charged config dep) (fun _ => Charged config dep) t w := by
    induction chain with
    | nil => exact fun t w hc => hc
    | cons provider rest ih =>
      intro t w hc
      rw [nonStreamingAttempts, wp_exceptException]
      refine wp_mono (fun _ _ _ h => h) (fun e t w hc => ?_) (wp_nonStreamingAttempt d hconfig provider hc)
      cases e with
      | exception e =>
        rw [caught_exception]
        refine wp_charged_bind (stays_call nofun) hc fun _ t w hc => ?_
        dsimp only
        split
        · exact ih t w hc
        · exact hc
      | cancelled => exact hc
      | generatorExit => exact hc
  unfold dispatchNonStreaming
  split
  · exact hc
  · exact hattempts t w hc

/-! ### Streams -/

theorem piped_consumeStream (r : InternalChatRequest) (provider modelId : String)
    (maxTokens : Option Nat) (hc : Charged config dep t w) :
    Piped (trailRuns env dep) (fun res => AnsweredWith config dep res.1) (fun _ => Charged config dep)
      (h.consumeStream r provider modelId maxTokens) t w := by
  have hsends : ∀ e, CallsNobody (.send e) := fun _ => ⟨nofun, nofun, nofun, nofun⟩
  have hclosing : CallsNobody (.task .closeStream) := ⟨nofun, nofun, nofun, nofun⟩
  have hclose : (quietly (call (.task .closeStream))).Stays CallsNobody fun _ => True := stays_quietly (stays_call hclosing)
  have hcharged : StepsKeep (trailRuns env dep) CallsNobody (Charged config dep) := ⟨fun s hs => keeps_charged.step s hs.1⟩
  refine piped_andFinally (Piped.mono (fun res t w ha => ?_) (fun _ t w hc => ?_)
    (Q := fun res => AnsweredWith config dep res.1) (X := fun _ => Charged config dep) ?_)
  · exact (keeps_answeredWith.piped hsends hclose ha).mono (fun _ _ _ h => h) fun _ _ _ h => h.1
  · exact hcharged.piped hsends hclose hc
  · have hsilent : (callProviderStream provider modelId maxTokens).Stays ChatStmt.Silent fun _ => True :=
      stays_callProviderStream trivial trivial
    refine piped_bind ((piped_of_wp hsilent.only (wp_callProviderStream provider modelId maxTokens hc)).mono ?_ fun _ _ _ h => h)
    rintro ⟨stream, byok⟩ t w ha
    have hloop : ∀ s : ChatStmt, s.ofStream → CallsNobody s := by
      intro s hs
      refine ⟨?_, ?_, ?_, ?_⟩
      · rintro _ _ _ rfl
        cases hs
      · rintro _ _ _ rfl
        cases hs
      · rintro _ _ _ rfl
        cases hs
      · rintro _ rfl
        cases hs
    refine piped_bind ((keeps_answeredWith.piped hsends
      (stays_streamChunks hloop h r.model stream.failure {} stream.chunks) ha).mono ?_ fun _ _ _ h => h.1)
    rintro ⟨st, ended⟩ t w ha
    exact piped_ret ha

theorem wp_settleStream (hconfig : h.config = config) (user : ChatUser) (r : InternalChatRequest)
    (provider modelId : String) (st : ChatHandler.StreamState) (ha : AnsweredWith config dep byok t w) :
    (h.settleStream user r provider modelId byok st).wp (trailRuns env dep) .alone (fun _ => Charged config dep)
      (fun _ => Charged config dep) t w := by
  unfold ChatHandler.settleStream
  refine wp_seq (wp_bill h r provider modelId _ ha) fun cost t w hbill => ?_
  obtain ⟨ha, price, hprice, hcost⟩ := hbill
  refine wp_seq (wp_chargeUser h hconfig user r.model _ ha hprice hcost) fun _ t w hc => ?_
  exact wp_save _ hc

theorem piped_orSaveFailed_charged (user : Option ChatUser) (model provider : String) (tokens : TokenCounts)
    (hpart : Piped (trailRuns env dep) Q (fun _ => Charged config dep) part t w) :
    Piped (trailRuns env dep) Q (fun _ => Charged config dep) (h.orSaveFailed user model provider tokens part) t w := by
  refine piped_orSaveFailed h user model provider tokens (hpart.mono (fun _ _ _ hq => hq) fun e t w hc => ?_)
  cases e with
  | exception e => exact keeps_charged.call nofun hc
  | cancelled => exact hc
  | generatorExit => exact hc

theorem piped_streamFrom (hconfig : h.config = config) (user : ChatUser) (r : InternalChatRequest)
    (provider modelId : String) (maxTokens : Option Nat) (hc : Charged config dep t w) :
    Piped (trailRuns env dep) (fun _ => Charged config dep) (fun _ => Charged config dep)
      (h.streamFrom user r provider modelId maxTokens) t w := by
  refine piped_bind (piped_orSaveFailed_charged h (some user) r.model provider noTokens
    ((piped_consumeStream h r provider modelId maxTokens hc).mono ?_ fun _ _ _ hc => hc))
  rintro ⟨byok, st, ended⟩ t w ha
  refine piped_orSaveFailed_charged h (some user) r.model provider st.counts ?_
  cases ended with
  | ok a =>
    have hsilent : (h.settleStream user r provider modelId byok st).Stays ChatStmt.Silent fun _ => True :=
      stays_bind (stays_bill trivial) fun _ =>
        stays_bind (stays_bind (stays_call trivial) fun _ => stays_bind (stays_call trivial) fun _ => trivial) fun _ =>
          stays_save trivial
    exact piped_of_wp hsilent.only (wp_settleStream h hconfig user r provider modelId st ha)
  | error e => exact piped_throw ha.1

theorem piped_processStream (hconfig : h.config = config) (r : InternalChatRequest) (hc : Charged config dep t w) :
    Piped (trailRuns env dep) (fun _ => Charged config dep) (fun _ => Charged config dep) (h.processStream r) t w := by
  have hsend : ∀ e, ChargesNothing (.send e) := fun _ => nofun
  refine piped_bind (piped_orSaveFailed_charged h none r.model "unknown" noTokens
    ((keeps_charged.piped hsend (stays_initializeUserContext nofun) hc).mono ?_ fun _ _ _ hc => hc))
  intro user t w hc
  refine piped_bind (piped_orSaveFailed_charged h (some user) r.model "unknown" noTokens
    ((keeps_charged.piped hsend (stays_selectForStream (fun _ _ => nofun) nofun nofun) hc).mono ?_ fun _ _ _ hc => hc))
  rintro ⟨maxTokens, provider, registered⟩ t w hc
  refine piped_bind ?_
  cases registered with
  | some modelId => exact piped_ret (piped_streamFrom h hconfig user r provider modelId maxTokens hc)
  | none =>
    refine piped_orSaveFailed_charged h (some user) r.model provider noTokens ?_
    have hcall : ChargesNothing (.transformModelId r.model provider) := nofun
    refine (keeps_charged.piped hsend (stays_call hcall) hc).mono ?_ fun _ _ _ hc => hc
    intro modelId t w hc
    exact piped_streamFrom h hconfig user r provider modelId maxTokens hc

variable {started : Bool}

theorem wpIn_yieldSse_charged (e : SseEvent) (hc : Charged config dep t w) :
    (call (.yieldSse e)).wpIn clientConsumer (trailRuns env dep) .alone (fun _ _ => Charged config dep)
      (fun _ _ => Charged config dep) started t w :=
  wpIn_yieldSse e (keeps_charged.call nofun hc)

theorem wpIn_toldOf_charged (e : ChatErr) (hc : Charged config dep t w) : ((match e with
      | .exception x => do call (.yieldSse (.error x.text)); call (.yieldSse .done)
      | e => throw e) : ChatProg Unit).wpIn clientConsumer (trailRuns env dep) .alone (fun _ _ => Charged config dep)
        (fun _ _ => Charged config dep) started t w := by
  cases e with
  | exception x =>
    dsimp only
    rw [wpIn_bind]
    refine wpIn_mono (fun _ _ _ _ hc => ?_) (fun _ _ _ _ hc => hc) (wpIn_yieldSse_charged _ hc)
    exact wpIn_yieldSse_charged _ hc
  | cancelled => exact hc
  | generatorExit => exact hc

theorem wpIn_fromInternalStream_charged {stream : ChatProg Unit}
    (h : Piped (trailRuns env dep) (fun _ => Charged config dep) (fun _ => Charged config dep) stream t w) :
    (fromInternalStream stream).wpIn clientConsumer (trailRuns env dep) .alone (fun _ _ => Charged config dep)
      (fun _ _ => Charged config dep) started t w := by
  unfold fromInternalStream exceptException
  rw [wpIn_tryCatch, wpIn_bind]
  refine wpIn_mono ?_ (fun _ _ _ _ he => he.elim) (h started)
  rintro started ⟨_, ended⟩ t w hended
  cases ended with
  | ok a => exact wpIn_mono (fun _ _ _ _ hc => hc) (fun _ e _ _ hc => wpIn_toldOf_charged e hc) (wpIn_yieldSse_charged _ hended)
  | error e => exact wpIn_toldOf_charged e hended

theorem wpIn_streamingAttempt_charged (hconfig : d.config = config) (provider : String) (hc : Charged config dep t w) :
    (streamingAttempt d provider).wpIn clientConsumer (trailRuns env dep) .alone (fun _ _ => Charged config dep)
      (fun _ _ => Charged config dep) started t w := by
  unfold streamingAttempt toInternalRequest newHandler
  rw [wpIn_bind, wpIn_bind]
  refine wpIn_call (s := .task .toInternalRequest) trivial ?_
  refine wp_mono (fun _ t w hc => ?_) (fun _ _ _ hc => hc) (keeps_charged.call nofun hc)
  rw [Prog.pure_eq, wpIn_ret, wpIn_bind, wpIn_bind]
  refine wpIn_call (s := .newRequestId) trivial ?_
  refine wp_mono (fun requestId t w hc => ?_) (fun _ _ _ hc => hc) (keeps_charged.call nofun hc)
  rw [Prog.pure_eq, wpIn_ret]
  exact wpIn_fromInternalStream_charged (piped_processStream ⟨d.config, d.apiKey, requestId⟩ hconfig _ hc)

/-- Streams: by induction on the chain. -/
theorem wp_authStreamWithFailover (hconfig : d.config = config) (chain : List String)
    (checked : Bool) (hc : Charged config dep t w) :
    (authStreamWithFailover d chain checked).wp (trailRuns env dep) .alone (fun _ => Charged config dep)
      (fun _ => Charged config dep) t w := by
  have hattempts : ∀ (lastExc : Option Exc) t w, Charged config dep t w → (authStreamAttempts d chain lastExc).wp
      (trailRuns env dep) .alone (fun _ => Charged config dep) (fun _ => Charged config dep) t w := by
    induction chain with
    | nil =>
      intro lastExc t w hc
      cases lastExc with
      | none => exact hc
      | some e => exact hc
    | cons provider rest ih =>
      intro lastExc t w hc
      rw [authStreamAttempts, wp_bind]
      refine wp_mono ?_ (fun _ _ _ he => he.elim) (wpIn_streamingAttempt_charged d hconfig provider hc)
      rintro ⟨started, ended⟩ t w hended
      rcases ended with (e | - | -) | a
      · have hc : Charged config dep t w := hended
        dsimp only
        split
        · split
          · exact ih (some e) t w hc
          · exact hc
        · split
          · exact ih _ t w hc
          · exact hc
      · exact hended
      · exact hended
      · exact hended
  have hrelease : (onlyIf checked (quietly (call (.releaseConcurrency d.apiKey)))).Stays ChargesNothing fun _ => True :=
    stays_onlyIf (stays_quietly (stays_call nofun))
  unfold authStreamWithFailover
  rw [wp_andFinally]
  refine wp_mono (fun _ t w hc => ?_) (fun _ t w hc => ?_) (hattempts none t w hc)
  · exact keeps_charged.wp hrelease hc
  · exact keeps_charged.wp hrelease hc

/-! ### The route -/

theorem chargesNothing_ofGates (s : ChatStmt) (hs : s.ofGates) : ChargesNothing s := by
  rintro _ _ _ rfl
  cases hs

theorem chargesNothing_ofLimiter (s : ChatStmt) (hs : s.ofLimiter) : ChargesNothing s := by
  rintro _ _ _ rfl
  cases hs

theorem chargesNothing_ofFinish (s : ChatStmt) (hs : s.ofFinish) : ChargesNothing s := by
  rintro _ _ _ rfl
  cases hs

theorem wp_underRouteHandlers (apiKey : String) (slotHeld : Bool)
    (hpart : part.wp (trailRuns env dep) .alone Q (fun _ => Charged config dep) t w) :
    (underRouteHandlers apiKey slotHeld part).wp (trailRuns env dep) .alone Q (fun _ => Charged config dep) t w := by
  unfold underRouteHandlers
  rw [wp_exceptException]
  refine wp_mono (fun _ _ _ h => h) (fun e t w hc => ?_) hpart
  cases e with
  | exception e =>
    rw [caught_exception]
    refine wp_charged_bind (stays_onlyIf (stays_quietly (stays_call nofun))) hc fun _ t w hc => ?_
    refine wp_charged_bind (stays_quietly (stays_call nofun)) hc fun _ t w hc => ?_
    split
    · exact hc
    · exact hc
  | cancelled => exact hc
  | generatorExit => exact hc

def AfterDispatch (env : ChatEnv) (dep : Deployment) (config : ChatConfig) : Dispatched → Trail → ChatWorld → Prop
  | .response _ _ => Charged config dep
  | .stream body => fun t w => Charged config dep t w ∧ ∀ t w, Charged config dep t w →
      body.wp (trailRuns env dep) .alone (fun _ => Charged config dep) (fun _ => Charged config dep) t w

theorem wp_dispatch (req : ChatRequest) (apiKey : String) (a : Admission) (model : String) (hc : Charged config dep t w) :
    (dispatch config req apiKey a model).wp (trailRuns env dep) .alone (AfterDispatch env dep config)
      (fun _ => Charged config dep) t w := by
  unfold dispatch
  refine wp_charged_bind (stays_prepare chargesNothing_ofGates req a model) hc fun ⟨plan, messages, sessionId⟩ t w hc => ?_
  dsimp only
  split
  · refine ⟨hc, fun t w hc => ?_⟩
    exact wp_authStreamWithFailover ⟨config, apiKey, model, messages, plan.maxTokens⟩ rfl plan.providerChain a.checked hc
  · rw [wp_bind]
    refine wp_post (fun processed t w hc => ?_)
      (wp_dispatchNonStreaming ⟨config, apiKey, model, messages, plan.maxTokens⟩ rfl plan.providerChain hc)
    refine wp_charged_bind (stays_requirePlanLimits chargesNothing_ofGates a.user _) hc fun _ t w hc => ?_
    refine wp_charged_bind (stays_onlyIf (stays_quietly (stays_call nofun))) hc fun _ t w hc => ?_
    exact wp_charged_bind (stays_onlyIf (stays_quietly (stays_call nofun))) hc fun _ _ _ hc => hc

/-- All charges of a request are for the call that was answered. -/
theorem wp_serve (req : ChatRequest) (apiKey : String) (hc : Charged config dep t w) :
    (serve config req apiKey).wp (trailRuns env dep) .alone (fun _ => Charged config dep) (fun _ => Charged config dep)
      t w := by
  have hslot : ChargesNothing (.incrementConcurrentRequests apiKey) := nofun
  unfold serve chatCompletions
  rw [wp_bind]
  refine wp_charged_bind (stays_call nofun) hc fun requestId t w hc => ?_
  refine wp_charged_bind (stays_call nofun) hc fun model t w hc => ?_
  refine wp_charged_bind (stays_call nofun) hc fun _ t w hc => ?_
  refine wp_seq (wp_underRouteHandlers apiKey false
    (keeps_charged.wp (stays_admission chargesNothing_ofGates chargesNothing_ofLimiter config apiKey model hslot) hc)) fun a t w hc => ?_
  refine wp_seq (wp_underRouteHandlers apiKey a.checked (wp_dispatch req apiKey a model hc)) fun dispatched t w hdispatched => ?_
  cases dispatched with
  | stream body =>
    obtain ⟨hc, hbody⟩ := hdispatched
    refine wp_charged_bind (stays_call nofun) hc fun _ t w hc => ?_
    exact wp_seq (hbody t w hc) fun _ _ _ hc => hc
  | response processed sessionId =>
    have hfinish := stays_finish (F := fun _ => True) chargesNothing_ofFinish chargesNothing_ofLimiter config apiKey a requestId
      processed sessionId
    dsimp only
    exact wp_seq (wp_underRouteHandlers apiKey false (keeps_charged.wp hfinish hdispatched)) fun _ _ _ hc => hc

end Charges

/-! ## The discount -/

structure Deployment.Known (dep : Deployment) (keys : Set String) : Prop where
  platform : ∀ provider apiKey, dep.settings.platformKey provider = some apiKey → apiKey ∈ keys
  stored : ∀ m user provider apiKey, dep.stored m user provider = some apiKey → apiKey ∈ keys
  pools : ∀ m, (callMachine dep.settings).Reach (fun _ c => KnownKeys dep.settings keys c) (dep.pools m)

theorem FromDeployment.known {dep : Deployment} {keys : Set String} (hknown : dep.Known keys) {c : ProviderCall} {client : Client}
    (h : FromDeployment dep c client) : KnownKeys dep.settings keys c where
  platform := hknown.platform
  own := fun apiKey hown => by
    obtain ⟨m, hstored⟩ := h.stored
    obtain ⟨u, -, hread⟩ := Option.bind_eq_some_iff.mp (Option.filter_eq_some_iff.mp hown).1
    exact hknown.stored m u c.provider apiKey (hstored u c.provider apiKey hread)

instance decidablePaidByOwnKey (c : ProviderCall) (client : Client) : Decidable (PaidByOwnKey c client) :=
  inferInstanceAs (Decidable (_ ∧ _))

/-- What the request is to cost: the fee if the user's own key has paid for the answer, else the price. -/
def rightBill (config : ChatConfig) (c : ProviderCall) (client : Client) (price : ℚ) : ℚ :=
  if PaidByOwnKey c client then byokRoutingFee config price else price

/-- **The BYOK discount, exactly.** In every run of a request each charge is for one call, of the request's user, and is right if and
    only if the discount is right for that call, or comes to the same as the price. And whatever was called before, a call is made
    with a key of the deployment for the provider, or with that of its own user for its own provider. -/
theorem byok_discount_exact (env : ChatEnv) (dep : Deployment) (keys : Set String)
    (hhash : Set.InjOn (apiKeyHash dep.settings) keys) (hknown : dep.Known keys) (req : ChatRequest) (apiKey : String)
    (os : List (Outcome ChatErr)) (w : ChatWorld)
    (ha : (serve env.config req apiKey).Admits (trailRuns env dep) os {} w) :
    (∀ x ∈ ((serve env.config req apiKey).noted (trailRuns env dep) os {} w).charges, ∃ price c client,
      x.price = some price ∧ x.answered = some (c, client) ∧ c.user = x.user ∧
        (x.cost = rightBill env.config c client price ↔
          DiscountRight dep.settings c ∨ byokRoutingFee env.config price = price)) ∧
    ∀ pools, (callMachine dep.settings).Reach (fun _ c => KnownKeys dep.settings keys c) pools →
      ∀ c, KnownKeys dep.settings keys c → ∀ client, (callThrough dep.settings c pools).1.client = some client →
        dep.settings.platformKey client.provider = some client.apiKey ∨ PaidByOwnKey c client := by
  have hcall : ∀ pools, (callMachine dep.settings).Reach (fun _ c => KnownKeys dep.settings keys c) pools →
      ∀ c, KnownKeys dep.settings keys c → ∀ client, (callThrough dep.settings c pools).1.client = some client →
        ((((bindContext dep.settings c).isSome = true) ↔ PaidByOwnKey c client) ↔ DiscountRight dep.settings c) ∧
          (dep.settings.platformKey client.provider = some client.apiKey ∨ PaidByOwnKey c client) := by
    intro pools hreach c hc client hclient
    obtain ⟨hprovider, hkey⟩ := client_of_reach hhash hreach hc hclient
    exact discountRight_iff hprovider hkey
  refine ⟨?_, fun pools hreach c hc client hclient => (hcall pools hreach c hc client hclient).2⟩
  have hstart : Charged env.config dep {} w := fun _ hx => absurd hx List.not_mem_nil
  have hserve : (serve env.config req apiKey).wp (trailRuns env dep) .alone (fun _ => Charged env.config dep)
      (fun _ => Charged env.config dep) {} w := wp_serve req apiKey hstart
  have hend := wp_noted hserve ha
  have hcharged : Charged env.config dep ((serve env.config req apiKey).noted (trailRuns env dep) os {} w) w := by
    revert hend
    cases ((serve env.config req apiKey).run (trailRuns env dep).exec os w).1 with
    | ok a => exact id
    | error e => exact id
  intro x hx
  obtain ⟨price, c, client, hprice, hanswered, huser, hfrom, hcost⟩ := hcharged x hx
  obtain ⟨m, hclient⟩ := hfrom.client
  have hright := (hcall (dep.pools m) (hknown.pools m) c (hfrom.known hknown) client hclient).1
  refine ⟨price, c, client, hprice, hanswered, huser, ?_⟩
  rw [hcost, ← hright]
  unfold rightBill
  by_cases hbyok : (bindContext dep.settings c).isSome = true
  · rw [if_pos hbyok]
    by_cases hpaid : PaidByOwnKey c client
    · rw [if_pos hpaid]
      exact ⟨fun _ => .inl ⟨fun _ => hpaid, fun _ => hbyok⟩, fun _ => rfl⟩
    · rw [if_neg hpaid]
      exact ⟨.inr, fun h => h.resolve_left fun hiff => hpaid (hiff.mp hbyok)⟩
  · rw [if_neg hbyok]
    by_cases hpaid : PaidByOwnKey c client
    · rw [if_pos hpaid]
      exact ⟨fun h => .inr h.symm, fun h => (h.resolve_left fun hiff => hbyok (hiff.mpr hpaid)).symm⟩
    · rw [if_neg hpaid]
      exact ⟨fun _ => .inl ⟨fun h => absurd h hbyok, fun h => absurd h hpaid⟩, fun _ => rfl⟩

instance decidableDeploymentAnswers (env : ChatEnv) (dep : Deployment) (t : Trail) (s : ChatStmt) (o : Outcome ChatErr)
    (w : ChatWorld) : Decidable (deploymentAnswers env dep t s o w) := by
  unfold deploymentAnswers
  split <;> infer_instance

def oneKeyStored (provider : String) : Deployment where
  settings := { byokEnabled := true, platformKey := fun _ => some "platform", sha256 := id }
  stored := fun _ user p => if user = 1 ∧ p = provider then some "mine" else none
  pools := fun _ => {}

def byokEnv (provider : String) : ChatEnv where
  answers := fun m s =>
    match s with
    | .bindByok p => p = provider
    | s => (calmEnv [provider]).answers m s
  prices := (calmEnv [provider]).prices

/-- What is seen of a charge: with the stored key and the provider of the call. -/
structure Bill where
  cost : ℚ
  price : Option ℚ
  answered : Option (Option String × String × Client)
  deriving DecidableEq

def Trail.bills (t : Trail) : List Bill :=
  t.charges.map fun x => ⟨x.cost, x.price, x.answered.map fun a => (a.1.ownKey, a.1.provider, a.2)⟩

def question (stream : Bool) : ChatRequest :=
  { model := "claude", messages := ⟨40, 10⟩, stream := stream, maxTokens := some 1000 }

theorem oneKeyStored_known (provider : String) : (oneKeyStored provider).Known {"platform", "mine"} where
  platform := fun p apiKey h => by
    rw [← Option.some.inj h]
    exact .inl rfl
  stored := fun m user p apiKey h => by
    change (if user = 1 ∧ p = provider then some "mine" else none) = some apiKey at h
    split at h
    · rw [← Option.some.inj h]
      exact .inr rfl
    · cases h
  pools := fun _ => .init

theorem injOn_oneKeyStored (provider : String) :
    Set.InjOn (apiKeyHash (oneKeyStored provider).settings) {"platform", "mine"} := by
  have hid : ∀ k ∈ ({"platform", "mine"} : Set String), apiKeyHash (oneKeyStored provider).settings k = k := by
    rintro k (rfl | rfl)
    · rfl
    · rfl
  intro k hk k' hk' heq
  rw [hid k hk, hid k' hk'] at heq
  exact heq

/-- User 1's own key for OpenRouter, and an answer in one piece: the discount is right. -/
theorem byok_discount_exact_openrouter :
    (∀ x ∈ ((serve {} (question false) "k").noted (trailRuns (byokEnv "openrouter") (oneKeyStored "openrouter")) [] {}
        calmWorld).charges, ∃ price c client,
      x.price = some price ∧ x.answered = some (c, client) ∧ c.user = x.user ∧
        (x.cost = rightBill {} c client price ↔
          DiscountRight (oneKeyStored "openrouter").settings c ∨ byokRoutingFee {} price = price)) ∧
    ∀ pools, (callMachine (oneKeyStored "openrouter").settings).Reach
        (fun _ c => KnownKeys (oneKeyStored "openrouter").settings {"platform", "mine"} c) pools →
      ∀ c, KnownKeys (oneKeyStored "openrouter").settings {"platform", "mine"} c → ∀ client,
        (callThrough (oneKeyStored "openrouter").settings c pools).1.client = some client →
          (oneKeyStored "openrouter").settings.platformKey client.provider = some client.apiKey ∨ PaidByOwnKey c client :=
  byok_discount_exact (byokEnv "openrouter") (oneKeyStored "openrouter") {"platform", "mine"}
    (injOn_oneKeyStored "openrouter") (oneKeyStored_known "openrouter") (question false) "k" [] calmWorld (by decide +kernel)

/-- **A key for Groq pays nothing, and neither does its owner.** The call is made with the key of the deployment, and the request is
    charged the fee, which is nothing. So it is with a streamed answer of OpenRouter. -/
theorem byok_discount_unpaid :
    (serve {} (question false) "k").Admits (trailRuns (byokEnv "groq") (oneKeyStored "groq")) [] {} calmWorld ∧
      ((serve {} (question false) "k").noted (trailRuns (byokEnv "groq") (oneKeyStored "groq")) [] {} calmWorld).bills =
        [⟨0, some (9 / 400), some (some "mine", "groq", ⟨"groq", "https://api.groq.com/openai/v1", "platform"⟩)⟩] ∧
      (serve {} (question true) "k").Admits (trailRuns (byokEnv "openrouter") (oneKeyStored "openrouter")) [] {} calmWorld ∧
      ((serve {} (question true) "k").noted (trailRuns (byokEnv "openrouter") (oneKeyStored "openrouter")) [] {}
          calmWorld).bills =
        [⟨0, some (9 / 400),
          some (some "mine", "openrouter", ⟨"openrouter", "https://openrouter.ai/api/v1", "platform"⟩)⟩] ∧
      ¬ ∀ x ∈ ((serve {} (question false) "k").noted (trailRuns (byokEnv "groq") (oneKeyStored "groq")) [] {}
          calmWorld).charges, ∀ price c client, x.price = some price → x.answered = some (c, client) →
        x.cost = rightBill {} c client price := by
  have hbills : ((serve {} (question false) "k").noted (trailRuns (byokEnv "groq") (oneKeyStored "groq")) [] {}
      calmWorld).bills =
        [⟨0, some (9 / 400), some (some "mine", "groq", ⟨"groq", "https://api.groq.com/openai/v1", "platform"⟩)⟩] := by
    decide +kernel
  refine ⟨by decide +kernel, hbills, by decide +kernel, by decide +kernel, fun hall => ?_⟩
  obtain ⟨x, hx, hseen⟩ := List.mem_map.mp (hbills ▸ List.mem_singleton_self _)
  obtain ⟨hcost, hprice, hanswered⟩ := Bill.mk.inj hseen
  obtain ⟨⟨c, client⟩, hc, hcall⟩ := Option.map_eq_some_iff.mp hanswered
  obtain ⟨hown, hcall⟩ := Prod.mk.inj hcall
  obtain ⟨-, hclient⟩ := Prod.mk.inj hcall
  change c.ownKey = _ at hown
  change client = _ at hclient
  have hright := hall x hx _ c client hprice hc
  have hunpaid : ¬ PaidByOwnKey c client := by
    intro hpaid
    have hkey := hpaid.1
    rw [hown, hclient] at hkey
    exact absurd hkey (by decide)
  rw [rightBill, if_neg hunpaid, hcost] at hright
  exact absurd hright (by decide +kernel)

end Gatewayz.Byok
