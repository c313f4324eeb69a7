import Gatewayz.Chat.Streams

/-!
# `Correctness.StreamFailover` — what a streaming client gets to see

Three generators read one another: the loop over the chain reads the adapter, the adapter reads the handler, the handler
reads the provider. The loop is ready to try the next provider when an attempt raises before its first event. But an attempt
never raises: the adapter answers every exception of the handler with an error event and `[DONE]`, and the loop takes that
for a stream that has ended well. So the client sees the stream of the first attempt, whatever that is.
-/

namespace Gatewayz

open Exec

/-! ## What providers emit and clients see -/

def InternalStreamChunk.bare (c : InternalStreamChunk) : InternalStreamChunk := { c with id := "", created := 0 }

def SseEvent.bare : SseEvent → SseEvent
  | .chunk c => .chunk c.bare
  | e => e

def SseEvent.isChunk : SseEvent → Bool
  | .chunk _ => true
  | _ => false

def plainHandler : ChatHandler := ⟨{}, "", ""⟩

def passedOn (model : String) : ChatHandler.StreamState → List ProviderChunk → List InternalStreamChunk
  | _, [] => []
  | st, c :: cs =>
    match plainHandler.normalized model 0 st c with
    | none => passedOn model st cs
    | some (chunk, st') => chunk :: passedOn model st' cs

/-- What a provider emits: chunks, and then an end or a failure. -/
structure Emission where
  chunks : List InternalStreamChunk
  failed : Bool

def emission (model : String) : Except Exc ProviderStream → Emission
  | .ok stream => ⟨passedOn model {} stream.chunks, stream.failure.isSome⟩
  | .error _ => ⟨[], true⟩

def Emission.early (em : Emission) : Bool := em.chunks.isEmpty && em.failed

/-- The SSE encoding of an emission, with an error event for a failure, and one `[DONE]`. -/
def Shows (sent : List SseEvent) (em : Emission) : Prop :=
  if em.failed then ∃ message, sent.map SseEvent.bare = em.chunks.map .chunk ++ [.error message, .done]
  else sent.map SseEvent.bare = em.chunks.map .chunk ++ [.done]

/-- Failover works: the client sees what the first provider emits that does not fail early, and nothing of any provider
    if all of them do. -/
structure FailoverWorks (model : String) (behaves : String → Except Exc ProviderStream) (chain : List String)
    (sent : List SseEvent) : Prop where
  chosen : ∀ p, (chain.find? fun p => !(emission model (behaves p)).early) = some p →
    Shows sent (emission model (behaves p))
  noneLeft : (∀ p ∈ chain, (emission model (behaves p)).early) → ∀ e ∈ sent, e.isChunk = false

/-! ## The runs -/

/-- How the providers behave, what the registry knows of the model, and which provider its name points to. -/
structure Providers where
  behaves : String → Except Exc ProviderStream
  registered : Option (List ProviderConfig) := none
  detected : Option String := none

/-- The answers that a run is about: the providers' and the registry's; the user is there, and in time. -/
def Providers.Answers (P : Providers) : (s : ChatStmt) → ChatRes s → Prop
  | .enabledProviders _, registered => registered = P.registered
  | .detectProvider _, detected => detected = P.detected
  | .openStream p _ _, stream => stream = P.behaves p
  | .getUser _, user => user.isSome = true
  | .isDisconnected, gone => gone = false
  | .pastDeadline, late => late = false
  | _, _ => True

/-- Only providers fail: every step is answered. -/
def onlyProvidersFail (env : ChatEnv) (P : Providers) (_ : List SseEvent) (s : ChatStmt) (o : Outcome ChatErr)
    (w : ChatWorld) : Prop :=
  match (answer (chatExec env) s o w).1 with
  | .ok a => P.Answers s a
  | .error _ => False

instance decidableAnswers (P : Providers) (s : ChatStmt) (a : ChatRes s) : Decidable (P.Answers s a) := by
  revert a
  apply ChatStmt.casesOn (motive := fun s => (a : ChatRes s) → Decidable (P.Answers s a)) s
  all_goals
    intros
    unfold Providers.Answers
    infer_instance

instance decidableOnlyProvidersFail (env : ChatEnv) (P : Providers) (g : List SseEvent) (s : ChatStmt)
    (o : Outcome ChatErr) (w : ChatWorld) : Decidable (onlyProvidersFail env P g s o w) := by
  unfold onlyProvidersFail
  split <;> infer_instance

def sentSoFar (g : List SseEvent) (s : ChatStmt) (_ : Except ChatErr (ChatRes s)) (_ _ : ChatWorld) : List SseEvent :=
  match s with
  | .send e => g ++ [e]
  | _ => g

abbrev failoverRuns (env : ChatEnv) (P : Providers) : Setting ChatErr ChatStmt ChatRes (List SseEvent) ChatWorld :=
  chatRuns env sentSoFar (onlyProvidersFail env P)

/-- The provider that an attempt opens: the registry's primary one, whatever the chain says, or else the one named. -/
def Providers.opened (P : Providers) (name : String) : Option String :=
  match P.registered with
  | some enabled => enabled.head?.map ProviderConfig.name
  | none => some (if name = "" then (P.detected.filter (· ≠ "")).getD "openrouter" else name)

def Providers.emits (P : Providers) (model name : String) : Emission :=
  match P.opened name with
  | some p => emission model (P.behaves p)
  | none => ⟨[], true⟩

/-- No failover is needed. If the chain's first provider is the one that is opened: it does not fail early, or all do. If
    another one is, it emits what the first one in the chain does that does not fail early, or no chunk if all do. -/
def NoFailoverNeeded (P : Providers) (model : String) : List String → Prop
  | [] => True
  | head :: rest =>
    if P.opened head = some head then
      (emission model (P.behaves head)).early = false ∨ ∀ p ∈ rest, (emission model (P.behaves p)).early
    else
      match (head :: rest).find? fun p => !(emission model (P.behaves p)).early with
      | some p => P.emits model head = emission model (P.behaves p)
      | none => (P.emits model head).chunks = []

/-! ## Inside two consumers -/

/-- What is to hold of an error, which is an `Exception`. -/
def Raised (X : Exc → List SseEvent → Prop) : ChatErr → List SseEvent → Prop
  | .exception e => X e
  | _ => fun _ => False

def Pipes {α : Type} (env : ChatEnv) (P : Providers) (Q : α → List SseEvent → Prop) (X : Exc → List SseEvent → Prop)
    (p : ChatProg α) (g : List SseEvent) : Prop :=
  ∀ w, Piped (failoverRuns env P) (fun a g _ => Q a g) (fun e g _ => Raised X e g) p g w

section Rules

variable {env : ChatEnv} {P : Providers} {α β : Type} {g : List SseEvent}
variable {Q : α → List SseEvent → Prop} {X : Exc → List SseEvent → Prop}

theorem Raised.mono {X' : Exc → List SseEvent → Prop} (hX : ∀ e g, X e g → X' e g) {e : ChatErr}
    (h : Raised X e g) : Raised X' e g := by
  cases e with
  | exception e => exact hX e g h
  | cancelled => exact h
  | generatorExit => exact h

theorem Pipes.mono {Q' : α → List SseEvent → Prop} {X' : Exc → List SseEvent → Prop} {p : ChatProg α}
    (hQ : ∀ a g, Q a g → Q' a g) (hX : ∀ e g, X e g → X' e g) (h : Pipes env P Q X p g) : Pipes env P Q' X' p g :=
  fun w => (h w).mono (fun a g _ => hQ a g) fun _ _ _ he => he.mono hX

theorem pipes_ret {a : α} (h : Q a g) : Pipes env P Q X (pure a) g := fun _ => piped_ret h

theorem pipes_raise {e : Exc} (h : X e g) : Pipes env P Q X (raise e) g := fun _ => piped_raise h

theorem pipes_bind {p : ChatProg α} {f : α → ChatProg β} {Q : β → List SseEvent → Prop}
    (h : Pipes env P (fun a g => Pipes env P Q X (f a) g) X p g) : Pipes env P Q X (p >>= f) g :=
  fun w => piped_bind ((h w).mono (fun _ _ w hf => hf w) fun _ _ _ he => he)

theorem pipes_attempt {p : ChatProg α} {Q : Except ChatErr α → List SseEvent → Prop}
    (h : Pipes env P (fun a => Q (.ok a)) (fun e => Q (.error (.exception e))) p g) : Pipes env P Q X p.attempt g := by
  refine fun w => piped_attempt ((h w).mono (fun _ _ _ hq => hq) fun e g w he => ?_)
  cases e with
  | exception e => exact he
  | cancelled => exact he.elim
  | generatorExit => exact he.elim

theorem pipes_exceptException {p : ChatProg α} {handler : Exc → ChatProg α}
    (h : Pipes env P Q (fun e g => Pipes env P Q X (handler e) g) p g) :
    Pipes env P Q X (exceptException p handler) g := by
  refine fun w => piped_exceptException ((h w).mono (fun _ _ _ hq => hq) fun e g w he => ?_)
  cases e with
  | exception e => exact he w
  | cancelled => exact he
  | generatorExit => exact he

theorem wp_silent {s : ChatStmt} (hs : s.Silent) {Q : ChatRes s → List SseEvent → ChatWorld → Prop}
    {E : ChatErr → List SseEvent → ChatWorld → Prop} {w : ChatWorld} (h : ∀ a w, P.Answers s a → Q a g w) :
    (call s).wp (failoverRuns env P) .alone Q E g w := by
  refine wp_alone_stmt (C := failoverRuns env P) fun o ho => ?_
  have hnote : ∀ r w', sentSoFar g s r w w' = g := by
    intro r w'
    unfold sentSoFar
    split
    · exact hs.elim
    · rfl
  change onlyProvidersFail env P g s o w at ho
  unfold onlyProvidersFail at ho
  cases hr : (answer (chatExec env) s o w).1 with
  | ok a =>
    rw [hr] at ho
    show Q a (sentSoFar g s (.ok a) w (answer (chatExec env) s o w).2) _
    rw [hnote]
    exact h a _ ho
  | error e =>
    rw [hr] at ho
    exact ho.elim

theorem pipes_call {s : ChatStmt} (hs : s.Silent) {Q : ChatRes s → List SseEvent → Prop}
    (h : ∀ a, P.Answers s a → Q a g) : Pipes env P Q X (call s) g :=
  fun _ => piped_call hs (wp_silent hs fun a _ ha => h a ha)

theorem wp_send (e : SseEvent) {Q : Unit → List SseEvent → ChatWorld → Prop}
    {E : ChatErr → List SseEvent → ChatWorld → Prop} {w : ChatWorld} (h : ∀ w, Q () (g ++ [e]) w) :
    (call (.send e)).wp (failoverRuns env P) .alone Q E g w := by
  refine wp_alone_stmt (C := failoverRuns env P) fun o ho => ?_
  change onlyProvidersFail env P g (.send e) o w at ho
  unfold onlyProvidersFail at ho
  cases hr : (answer (chatExec env) (.send e) o w).1 with
  | ok a => exact h _
  | error e' =>
    rw [hr] at ho
    exact ho.elim

theorem pipes_yieldChunk {c : InternalStreamChunk} {Q : Unit → List SseEvent → Prop} (h : Q () (g ++ [.chunk c])) :
    Pipes env P Q X (call (.yieldChunk c)) g := fun _ => piped_yieldChunk (wp_send _ fun _ => h)

theorem pipes_quietly {t : ChatTask} {Q : Unit → List SseEvent → Prop} (h : Q () g) :
    Pipes env P Q X (quietly (call (.task t))) g :=
  pipes_exceptException (pipes_call (s := .task t) trivial fun _ _ => h)

end Rules

/-! ## The handler -/

def ending : Option Exc → Except ChatErr Unit
  | none => .ok ()
  | some e => .error (.exception e)

def SentMore (g : List SseEvent) (chunks : List InternalStreamChunk) (g' : List SseEvent) : Prop :=
  g'.map SseEvent.bare = g.map SseEvent.bare ++ chunks.map .chunk

theorem SentMore.refl (g : List SseEvent) : SentMore g [] g := by simp [SentMore]

theorem SentMore.trans {g g' g'' : List SseEvent} {cs cs' : List InternalStreamChunk} (h : SentMore g cs g')
    (h' : SentMore g' cs' g'') : SentMore g (cs ++ cs') g'' := by
  unfold SentMore at *
  rw [h', h, List.map_append, List.append_assoc]

variable (h : ChatHandler)

theorem normalized_bare (model : String) (created : Time) (st : ChatHandler.StreamState) (c : ProviderChunk) :
    (h.normalized model created st c).map (fun r => (r.1.bare, r.2)) = plainHandler.normalized model 0 st c := by
  unfold ChatHandler.normalized
  split
  · rfl
  · split
    · rfl
    · rfl

section Handler

variable {env : ChatEnv} {P : Providers} {g : List SseEvent}

theorem pipes_streamChunk (model : String) (st : ChatHandler.StreamState) (c : ProviderChunk) : Pipes env P
      (fun next g' =>
        match plainHandler.normalized model 0 st c with
        | none => next = some st ∧ SentMore g [] g'
        | some (chunk, st') => next = some st' ∧ SentMore g [chunk] g')
      (fun _ _ => False) (h.streamChunk model st c) g := by
  refine pipes_bind (pipes_call (s := .task .awaitChunk) trivial fun _ _ => ?_)
  refine pipes_bind (pipes_call (s := .isDisconnected) trivial fun gone hgone => ?_)
  obtain rfl : gone = false := hgone
  refine pipes_bind (pipes_call (s := .pastDeadline) trivial fun late hlate => ?_)
  obtain rfl : late = false := hlate
  refine pipes_bind (pipes_call (s := .now) trivial fun created _ => ?_)
  rw [← normalized_bare h model created st c]
  cases h.normalized model created st c with
  | none => exact pipes_ret ⟨rfl, .refl g⟩
  | some r => exact pipes_bind (pipes_yieldChunk (pipes_ret ⟨rfl, by simp [SentMore, SseEvent.bare]⟩))

theorem pipes_streamChunks (model : String) (failure : Option Exc) (cs : List ProviderChunk)
    (st : ChatHandler.StreamState) :
    Pipes env P (fun r g' => r.2 = ending failure ∧ SentMore g (passedOn model st cs) g') (fun _ _ => False)
      (h.streamChunks model failure st cs) g := by
  induction cs generalizing st g with
  | nil =>
    cases failure with
    | none => exact pipes_ret ⟨rfl, .refl g⟩
    | some e => exact pipes_ret ⟨rfl, .refl g⟩
  | cons c cs ih =>
    refine pipes_bind (pipes_attempt ((pipes_streamChunk h model st c).mono (fun next g' hturn => ?_) ?_))
    · rw [passedOn]
      cases hn : plainHandler.normalized model 0 st c with
      | none =>
        rw [hn] at hturn
        obtain ⟨rfl, hsent⟩ := hturn
        exact (ih st).mono (fun r g'' hr => ⟨hr.1, hsent.trans hr.2⟩) fun _ _ he => he
      | some r =>
        obtain ⟨chunk, st'⟩ := r
        rw [hn] at hturn
        obtain ⟨rfl, hsent⟩ := hturn
        exact (ih st').mono (fun r g'' hr => ⟨hr.1, hsent.trans hr.2⟩) fun _ _ he => he
    · exact fun _ _ he => he.elim

theorem pipes_bindByok (provider : String) {Q : Bool → List SseEvent → Prop} {X : Exc → List SseEvent → Prop}
    (h : ∀ byok, Q byok g) : Pipes env P Q X (bindByok provider) g :=
  pipes_exceptException (pipes_call (s := .bindByok provider) trivial fun byok _ => h byok)

theorem pipes_callProviderStream (provider modelId : String) (maxTokens : Option Nat) :
    Pipes env P (fun r g' => P.behaves provider = .ok r.1 ∧ g' = g)
      (fun _ g' => (∃ e, P.behaves provider = .error e) ∧ g' = g) (callProviderStream provider modelId maxTokens) g := by
  refine pipes_bind (pipes_bindByok provider fun byok => pipes_exceptException (pipes_bind ?_))
  refine pipes_call (s := .openStream provider modelId maxTokens) trivial fun opened hopened => ?_
  obtain rfl : opened = P.behaves provider := hopened
  cases hb : P.behaves provider with
  | ok stream => exact pipes_ret ⟨rfl, rfl⟩
  | error e =>
    refine pipes_raise ?_
    split
    · exact pipes_raise ⟨⟨_, rfl⟩, rfl⟩
    · exact pipes_raise ⟨⟨_, rfl⟩, rfl⟩

theorem pipes_andFinally {α : Type} {p : ChatProg α} {t : ChatTask} {Q : α → List SseEvent → Prop}
    {X : Exc → List SseEvent → Prop} (h : Pipes env P Q X p g) :
    Pipes env P Q X (p.andFinally (quietly (call (.task t)))) g := by
  refine pipes_bind (pipes_attempt (h.mono (fun a g hq => ?_) fun e g he => ?_))
  · exact pipes_bind (pipes_quietly (pipes_ret hq))
  · exact pipes_bind (pipes_quietly (pipes_raise he))

theorem pipes_consumeStream (r : InternalChatRequest) (provider modelId : String) (maxTokens : Option Nat) : Pipes env P
      (fun res g' => ∃ stream, P.behaves provider = .ok stream ∧ res.2.2 = ending stream.failure ∧
        SentMore g (passedOn r.model {} stream.chunks) g')
      (fun _ g' => (∃ e, P.behaves provider = .error e) ∧ g' = g) (h.consumeStream r provider modelId maxTokens) g := by
  refine pipes_andFinally (pipes_bind ?_)
  refine (pipes_callProviderStream provider modelId maxTokens).mono ?_ fun _ _ he => he
  rintro ⟨stream, byok⟩ g' ⟨hstream, rfl⟩
  refine pipes_bind ((pipes_streamChunks h r.model stream.failure stream.chunks {}).mono ?_ fun _ _ he => he.elim)
  rintro ⟨st, ended⟩ g'' ⟨hended, hsent⟩
  exact pipes_ret ⟨stream, hstream, hended, hsent⟩

theorem pipes_orSaveFailed {α : Type} (user : Option ChatUser) (model provider : String)
    (t : TokenCounts) {part : ChatProg α} {Q : α → List SseEvent → Prop}
    {X : Exc → List SseEvent → Prop} (hpart : Pipes env P Q X part g) :
    Pipes env P Q X (h.orSaveFailed user model provider t part) g := by
  refine pipes_exceptException (hpart.mono (fun _ _ hq => hq) fun e g he => ?_)
  refine pipes_bind (pipes_bind (pipes_call (s := .saveRequest _) trivial fun _ _ => pipes_ret ?_))
  exact pipes_raise he

theorem pipes_settleStream (user : ChatUser) (r : InternalChatRequest) (provider modelId : String)
    (byok : Bool) (st : ChatHandler.StreamState) {X : Exc → List SseEvent → Prop} :
    Pipes env P (fun _ g' => g' = g) X (h.settleStream user r provider modelId byok st) g := by
  refine pipes_bind (pipes_bind (pipes_call (s := .lossProofCostSplit _ _ _ _) trivial fun _ _ => pipes_ret ?_))
  refine pipes_bind (pipes_bind (pipes_call (s := .deductCredits _ _ _) trivial fun _ _ => ?_))
  refine pipes_bind (pipes_call (s := .recordUsage _) trivial fun _ _ => pipes_ret ?_)
  exact pipes_bind (pipes_call (s := .saveRequest _) trivial fun _ _ => pipes_ret rfl)

/-- A provider's stream ended well … -/
def Finishing (em : Emission) (g g' : List SseEvent) : Prop := em.failed = false ∧ SentMore g em.chunks g'
/-- … or not. -/
def Failing (em : Emission) (g g' : List SseEvent) : Prop := em.failed = true ∧ SentMore g em.chunks g'

theorem pipes_streamFrom (user : ChatUser) (r : InternalChatRequest) (provider modelId : String)
    (maxTokens : Option Nat) : Pipes env P (fun _ => Finishing (emission r.model (P.behaves provider)) g)
      (fun _ => Failing (emission r.model (P.behaves provider)) g) (h.streamFrom user r provider modelId maxTokens) g := by
  refine pipes_bind (pipes_orSaveFailed h (some user) r.model provider noTokens
    ((pipes_consumeStream h r provider modelId maxTokens).mono ?_ ?_))
  · rintro ⟨byok, st, ended⟩ g' ⟨stream, hstream, hended, hsent⟩
    refine pipes_orSaveFailed h (some user) r.model provider st.counts ?_
    rw [hstream]
    cases hf : stream.failure with
    | none =>
      rw [hf] at hended
      obtain rfl : ended = .ok () := hended
      refine (pipes_settleStream h user r provider modelId byok st).mono ?_ fun _ _ he => he
      rintro _ g'' rfl
      exact ⟨by simp [emission, hf], hsent⟩
    | some e =>
      rw [hf] at hended
      obtain rfl : ended = .error (.exception e) := hended
      exact pipes_raise ⟨by simp [emission, hf], hsent⟩
  · rintro e g' ⟨⟨e', he'⟩, rfl⟩
    rw [he']
    exact ⟨rfl, .refl g'⟩

theorem pipes_initializeUserContext {X : Exc → List SseEvent → Prop} :
    Pipes env P (fun _ g' => g' = g) X h.initializeUserContext g := by
  refine pipes_exceptException (pipes_bind (pipes_call (s := .getUser h.apiKey) trivial fun user huser => ?_))
  cases user with
  | none => cases huser
  | some user => exact pipes_ret rfl

theorem pipes_selectForStream (user : ChatUser) (r : InternalChatRequest) (name : String) (hname : r.provider = some name) :
    Pipes env P (fun res g' => P.opened name = some res.2.1 ∧ g' = g) (fun _ g' => P.opened name = none ∧ g' = g)
      (ChatHandler.selectForStream user r) g := by
  refine pipes_bind (pipes_call (s := .checkCreditSufficiency _ _) trivial fun maxTokens _ => ?_)
  refine pipes_bind (pipes_call (s := .enabledProviders r.model) trivial fun registered hregistered => ?_)
  obtain rfl : registered = P.registered := hregistered
  unfold Providers.opened
  cases P.registered with
  | some enabled =>
    dsimp only
    cases enabled.head? with
    | none => exact pipes_raise ⟨rfl, rfl⟩
    | some primary => exact pipes_ret ⟨rfl, rfl⟩
  | none =>
    refine pipes_bind ?_
    unfold ChatHandler.detectedProvider
    rw [hname]
    by_cases hempty : name = ""
    · simp only [hempty, Option.filter_some, ne_eq, not_true_eq_false, decide_false, Bool.false_eq_true, if_false]
      refine pipes_bind (pipes_call (s := .detectProvider r.model) trivial fun detected hdetected => ?_)
      obtain rfl : detected = P.detected := hdetected
      exact pipes_ret (pipes_ret ⟨rfl, rfl⟩)
    · simp only [Option.filter_some, ne_eq, hempty, not_false_eq_true, decide_true, if_true]
      exact pipes_ret (pipes_ret ⟨by simp, rfl⟩)

/-- The handler's stream is the emission of the provider it opens, whatever the chain says. -/
theorem pipes_processStream (r : InternalChatRequest) (name : String) (hname : r.provider = some name) :
    Pipes env P (fun _ => Finishing (P.emits r.model name) g) (fun _ => Failing (P.emits r.model name) g)
      (h.processStream r) g := by
  refine pipes_bind (pipes_orSaveFailed h none r.model "unknown" noTokens
    ((pipes_initializeUserContext h).mono ?_ fun _ _ he => he))
  rintro user g' rfl
  refine pipes_bind (pipes_orSaveFailed h (some user) r.model "unknown" noTokens
    ((pipes_selectForStream user r name hname).mono ?_ ?_))
  · rintro ⟨maxTokens, provider, registered⟩ g' ⟨hopened, rfl⟩
    unfold Providers.emits
    rw [hopened]
    refine pipes_bind ?_
    cases registered with
    | some modelId => exact pipes_ret (pipes_streamFrom h user r provider modelId maxTokens)
    | none =>
      refine pipes_orSaveFailed h (some user) r.model provider noTokens ?_
      exact pipes_call (s := .transformModelId _ _) trivial fun modelId _ =>
        pipes_streamFrom h user r provider modelId maxTokens
  · rintro e g' ⟨hopened, rfl⟩
    unfold Providers.emits
    rw [hopened]
    exact ⟨rfl, .refl g'⟩

end Handler

/-! ## The adapter and the loop -/

variable {em : Emission}

section Loop

variable {env : ChatEnv} {P : Providers} {w : ChatWorld}

/-- The adapter never raises: a failure becomes an error event and `[DONE]`. -/
theorem wpIn_fromInternalStream {stream : ChatProg Unit} {started : Bool}
    (h : Pipes env P (fun _ => Finishing em []) (fun _ => Failing em []) stream []) :
    (fromInternalStream stream).wpIn clientConsumer (failoverRuns env P) .alone (fun _ _ g _ => Shows g em)
      (fun _ _ _ _ => False) started [] w := by
  unfold fromInternalStream exceptException
  rw [wpIn_tryCatch, wpIn_bind]
  refine wpIn_mono ?_ (fun _ _ _ _ he => he.elim) (h w started)
  rintro started ⟨_, ended⟩ g w hended
  cases ended with
  | ok a =>
    obtain ⟨hfailed, hsent⟩ := hended
    refine wpIn_yieldSse _ (wp_send _ fun w => ?_)
    show Shows (g ++ [.done]) em
    have hsent : g.map SseEvent.bare = em.chunks.map .chunk := hsent
    simp [Shows, hfailed, hsent, SseEvent.bare]
  | error e =>
    cases e with
    | cancelled => exact hended.elim
    | generatorExit => exact hended.elim
    | exception e =>
      obtain ⟨hfailed, hsent⟩ := hended
      show ((do call (.yieldSse (.error e.text)); call (.yieldSse .done)) : ChatProg Unit).wpIn _ _ _ _ _ _ _ _
      rw [wpIn_bind]
      refine wpIn_yieldSse _ (wp_send _ fun w => wpIn_yieldSse _ (wp_send _ fun w => ?_))
      show Shows (g ++ [.error e.text] ++ [.done]) em
      have hsent : g.map SseEvent.bare = em.chunks.map .chunk := hsent
      simp [Shows, hfailed, hsent, SseEvent.bare]

variable (d : DispatchParams)

theorem wpIn_streamingAttempt (provider : String) {started : Bool} :
    (streamingAttempt d provider).wpIn clientConsumer (failoverRuns env P) .alone
      (fun _ _ g _ => Shows g (P.emits d.model provider)) (fun _ _ _ _ => False) started [] w := by
  unfold streamingAttempt toInternalRequest newHandler
  rw [wpIn_bind, wpIn_bind]
  refine wpIn_call (s := .task .toInternalRequest) trivial (wp_silent (s := .task .toInternalRequest) trivial fun _ w _ => ?_)
  rw [Prog.pure_eq, wpIn_ret, wpIn_bind, wpIn_bind]
  refine wpIn_call (s := .newRequestId) trivial (wp_silent (s := .newRequestId) trivial fun requestId w _ => ?_)
  rw [Prog.pure_eq, wpIn_ret]
  refine wpIn_fromInternalStream ?_
  exact pipes_processStream _ ⟨d.messages, d.model, true, d.maxTokens, some provider⟩ provider rfl

/-- What the loop sends: nothing for no provider, and else the emission of the first attempt, which is the last. -/
def SendsFirst (P : Providers) (model : String) : List String → List SseEvent → Prop
  | [], sent => sent = []
  | head :: _, sent => Shows sent (P.emits model head)

theorem wp_authStreamAttempts (chain : List String) :
    (authStreamAttempts d chain none).wp (failoverRuns env P) .alone (fun _ g _ => SendsFirst P d.model chain g)
      (fun _ _ _ => False) [] w := by
  cases chain with
  | nil => rfl
  | cons head rest =>
    rw [authStreamAttempts, wp_bind]
    refine wp_mono ?_ (fun _ _ _ he => he) (wpIn_streamingAttempt d head)
    rintro ⟨started, ended⟩ g w hended
    cases ended with
    | ok a => exact hended
    | error e => exact hended.elim

theorem wp_authStreamWithFailover (chain : List String) (checked : Bool) :
    (authStreamWithFailover d chain checked).wp (failoverRuns env P) .alone
      (fun _ g _ => SendsFirst P d.model chain g) (fun _ _ _ => False) [] w := by
  unfold authStreamWithFailover
  rw [wp_andFinally]
  refine wp_mono (fun _ g w h => ?_) (fun _ _ _ he => he.elim) (wp_authStreamAttempts d chain)
  refine wp_onlyIf (fun _ => h) fun _ => wp_quietly ?_
  exact wp_silent (s := .releaseConcurrency d.apiKey) trivial fun _ _ _ => h

end Loop

/-! ## Which emission has been sent -/

theorem takeWhile_chunks (chunks : List InternalStreamChunk) {e : SseEvent} (he : e.isChunk = false)
    (rest : List SseEvent) : (chunks.map SseEvent.chunk ++ e :: rest).takeWhile SseEvent.isChunk = chunks.map .chunk := by
  induction chunks with
  | nil => simp [he]
  | cons c cs ih => rw [List.map_cons, List.cons_append, List.takeWhile_cons_of_pos rfl, ih]

variable {sent : List SseEvent}

theorem Shows.chunks (h : Shows sent em) :
    (sent.map SseEvent.bare).takeWhile SseEvent.isChunk = em.chunks.map .chunk := by
  unfold Shows at h
  split at h
  · obtain ⟨message, hsent⟩ := h
    rw [hsent]
    exact takeWhile_chunks em.chunks rfl _
  · rw [h]
    exact takeWhile_chunks em.chunks rfl _

theorem map_chunk_injective : Function.Injective (List.map SseEvent.chunk) :=
  List.map_injective_iff.mpr fun _ _ h => by injection h

theorem Shows.unique {em em' : Emission} (h : Shows sent em) (h' : Shows sent em') : em = em' := by
  have hchunks : em.chunks = em'.chunks := map_chunk_injective (by rw [← h.chunks, ← h'.chunks])
  have hfailed : em.failed = em'.failed := by
    unfold Shows at h h'
    cases hf : em.failed with
    | true =>
      cases hf' : em'.failed with
      | true => rfl
      | false =>
        rw [hf, if_pos rfl] at h
        rw [hf', if_neg Bool.false_ne_true] at h'
        obtain ⟨message, h⟩ := h
        rw [h, hchunks] at h'
        simp at h'
    | false =>
      cases hf' : em'.failed with
      | false => rfl
      | true =>
        rw [hf, if_neg Bool.false_ne_true] at h
        rw [hf', if_pos rfl] at h'
        obtain ⟨message, h'⟩ := h'
        rw [h, hchunks] at h'
        simp at h'
  cases em
  cases em'
  cases hchunks
  cases hfailed
  rfl

theorem Shows.noChunk_iff (h : Shows sent em) : (∀ e ∈ sent, e.isChunk = false) ↔ em.chunks = [] := by
  have hbare : ∀ e : SseEvent, e.bare.isChunk = e.isChunk := fun e => by cases e <;> rfl
  constructor
  · intro hno
    have hnil : (sent.map SseEvent.bare).takeWhile SseEvent.isChunk = [] := by
      cases sent with
      | nil => rfl
      | cons e rest =>
        rw [List.map_cons, List.takeWhile_cons_of_neg]
        rw [hbare, hno e (List.mem_cons_self ..)]
        exact Bool.false_ne_true
    rw [h.chunks] at hnil
    exact List.map_eq_nil_iff.mp hnil
  · intro hnil e he
    have hmem : e.bare ∈ sent.map SseEvent.bare := List.mem_map_of_mem he
    rw [← hbare e]
    unfold Shows at h
    split at h
    · obtain ⟨message, hsent⟩ := h
      rw [hsent, hnil] at hmem
      rcases (by simpa using hmem : e.bare = .error message ∨ e.bare = .done) with he | he
      · rw [he]; rfl
      · rw [he]; rfl
    · rw [h, hnil] at hmem
      have he : e.bare = .done := by simpa using hmem
      rw [he]
      rfl

theorem failoverWorks_iff {model : String} {behaves : String → Except Exc ProviderStream}
    {chain : List String} (h : Shows sent em) : FailoverWorks model behaves chain sent ↔
      match chain.find? fun p => !(emission model (behaves p)).early with
      | some p => em = emission model (behaves p)
      | none => em.chunks = [] := by
  cases hfind : chain.find? fun p => !(emission model (behaves p)).early with
  | some p =>
    have hmem : p ∈ chain := List.mem_of_find?_eq_some hfind
    have hlate : (emission model (behaves p)).early = false := by simpa using List.find?_some hfind
    refine ⟨fun hw => h.unique (hw.chosen p hfind), fun heq => ⟨fun q hq => ?_, fun hall => ?_⟩⟩
    · obtain rfl : p = q := Option.some.inj (hfind.symm.trans hq)
      rw [← heq]
      exact h
    · rw [hall p hmem] at hlate
      cases hlate
  | none =>
    have hall : ∀ p ∈ chain, (emission model (behaves p)).early = true := by simpa using hfind
    refine ⟨fun hw => h.noChunk_iff.mp (hw.noneLeft hall), fun hnil => ⟨fun q hq => ?_, fun _ => h.noChunk_iff.mpr hnil⟩⟩
    rw [hfind] at hq
    cases hq

theorem noFailoverNeeded_iff (P : Providers) (model head : String) (rest : List String) :
    NoFailoverNeeded P model (head :: rest) ↔
      match (head :: rest).find? fun p => !(emission model (P.behaves p)).early with
      | some p => P.emits model head = emission model (P.behaves p)
      | none => (P.emits model head).chunks = [] := by
  rw [NoFailoverNeeded]
  by_cases hopened : P.opened head = some head
  · have hemits : P.emits model head = emission model (P.behaves head) := by rw [Providers.emits, hopened]
    rw [if_pos hopened, hemits, List.find?_cons]
    cases hearly : (emission model (P.behaves head)).early with
    | false => simp
    | true =>
      have hparts : (emission model (P.behaves head)).chunks = [] := by
        have := (Bool.and_eq_true_iff.mp hearly).1
        exact List.isEmpty_iff.mp this
      simp only [Bool.not_true, reduceCtorEq, false_or]
      cases hfind : rest.find? fun p => !(emission model (P.behaves p)).early with
      | none =>
        have hall : ∀ p ∈ rest, (emission model (P.behaves p)).early = true := by simpa using hfind
        exact ⟨fun _ => hparts, fun _ => hall⟩
      | some p =>
        have hmem : p ∈ rest := List.mem_of_find?_eq_some hfind
        have hlate : (emission model (P.behaves p)).early = false := by simpa using List.find?_some hfind
        refine ⟨fun hall => ?_, fun heq => ?_⟩
        · rw [hall p hmem] at hlate
          cases hlate
        · rw [heq, hlate] at hearly
          cases hearly
  · rw [if_neg hopened]

def askParams : DispatchParams :=
  { config := {}, apiKey := "k", model := "claude", messages := ⟨40, 10⟩, maxTokens := some 1000 }

def shortStream : ProviderStream := ⟨[⟨some (some { content := some "hi" }, some "stop"), some thousands⟩], none⟩

/-- `fireworks` does not answer in time, the others stream. -/
def fireworksDown : Providers where
  behaves p := if p = "fireworks" then .error (.timeout "Request timed out.") else .ok shortStream

def providersEnv (P : Providers) : ChatEnv :=
  { calmEnv [] with
    answers := fun moment s =>
      match s with
      | .openStream p _ _ => P.behaves p
      | s => (calmEnv []).answers moment s }

end Gatewayz
