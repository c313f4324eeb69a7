import Gatewayz.Billing.Rules
import Gatewayz.Chat.Parts

/-!
# `Correctness.RefusedNotCharged` — a request that is refused, and its price

`chatCompletions` charges a request in the middle, inside the dispatch. After that the route checks the plan limits and the
rate limits once more, now with the tokens that were really used, and can still refuse: the client gets a 429 for an answer
he has paid for and does not see.

`refused_not_charged` is the law for the runs in which nothing is refused and nothing raises once the columns have moved
.
-/

namespace Gatewayz

open Exec

/-! ## The runs -/

def movesColumns (u : Int) (w w' : ChatWorld) : Bool := w'.db.columns u ≠ w.db.columns u

def chargedSoFar (u : Int) (g : Bool) (s : ChatStmt) (_ : Except ChatErr (ChatRes s)) (w w' : ChatWorld) : Bool :=
  g || movesColumns u w w'

/-- Steps whose exceptions the code around them drops. -/
def ChatStmt.dropped : ChatStmt → Bool
  | .task .trackTrialUsage => true
  | .task .logTrialTransaction => true
  | .task .updateRateLimitUsage => true
  | .task .incrementApiKeyUsage => true
  | .task .inferenceMetricsAndHealth => true
  | .task .logActivity => true
  | .task .persistConversationTurn => true
  | .task .saveFailedRequest => true
  | .releaseConcurrency _ => true
  | .recordShadowSettlement _ => true
  | .isAdminKey _ => true
  | .concurrencyAvailable _ => true
  | .burstAvailable _ _ => true
  | .windowRefusal _ _ _ => true
  | _ => false

/-- An answer that turns the request away: a refusal, or an exception that goes further. -/
def turnsAway : (s : ChatStmt) → Except ChatErr (ChatRes s) → Bool
  | .enforcePlanLimits _ _ _, .ok plan => !plan.allowed
  | .concurrencyAvailable _, .ok free => !free
  | .burstAvailable _ _, .ok free => !free
  | .windowRefusal _ _ _, .ok refusal => refusal.isSome
  | .getModelPricing _, .error (.exception e) => !e.isValueError
  | s, .error (.exception _) => !s.dropped
  | _, _ => false

/-- Nothing turns the request away once the columns have moved, be it by the very step. -/
def answersThePaying (env : ChatEnv) (u : Int) (g : Bool) (s : ChatStmt) (o : Outcome ChatErr) (w : ChatWorld) : Prop :=
  (g || movesColumns u w (answer (chatExec env) s o w).2) = true → turnsAway s (answer (chatExec env) s o w).1 = false

instance decidableAnswersThePaying (env : ChatEnv) (u : Int) (g : Bool) (s : ChatStmt) (o : Outcome ChatErr) (w : ChatWorld) :
    Decidable (answersThePaying env u g s o w) := by
  unfold answersThePaying
  infer_instance

abbrev payingRuns (env : ChatEnv) (u : Int) : Setting ChatErr ChatStmt ChatRes Bool ChatWorld :=
  chatRuns env (chargedSoFar u) (answersThePaying env u)

def refused {α : Type} : Except ChatErr α → Bool
  | .error (.exception _) => true
  | _ => false

/-! ## Charged or not -/

/-- If nothing has been charged the columns are `c`. -/
def Tallied (u : Int) (c : ℚ × ℚ) (g : Bool) (w : ChatWorld) : Prop := g = false → w.db.columns u = c

/-- Nothing has been charged, and the columns are `c`. -/
structure Uncharged (u : Int) (c : ℚ × ℚ) (g : Bool) (w : ChatWorld) : Prop where
  none : g = false
  columns : w.db.columns u = c

/-- An `Exception` has nothing behind it. -/
def Even (u : Int) (c : ℚ × ℚ) (e : ChatErr) (g : Bool) (w : ChatWorld) : Prop :=
  ∀ x, e = .exception x → Uncharged u c g w

theorem Uncharged.tallied {u : Int} {c : ℚ × ℚ} {g : Bool} {w : ChatWorld} (h : Uncharged u c g w) : Tallied u c g w :=
  fun _ => h.columns

theorem Uncharged.even {u : Int} {c : ℚ × ℚ} {g : Bool} {w : ChatWorld} (h : Uncharged u c g w) (e : ChatErr) :
    Even u c e g w :=
  fun _ _ => h

section Steps

variable {env : ChatEnv} {u : Int} {c : ℚ × ℚ} {g : Bool} {w : ChatWorld}

theorem movesColumns_eq_false {w w' : ChatWorld} : movesColumns u w w' = false ↔ w'.db.columns u = w.db.columns u := by
  simp [movesColumns]

theorem tallied_step {w' : ChatWorld} (h : Tallied u c g w) : Tallied u c (g || movesColumns u w w') w' := by
  intro hno
  obtain ⟨hg, hstays⟩ := Bool.or_eq_false_iff.mp hno
  rw [movesColumns_eq_false.mp hstays]
  exact h hg

theorem keeps_tallied : StepsKeep (payingRuns env u) (fun _ => True) (Tallied u c) where
  step := fun _ _ _ _ _ _ h => tallied_step h

theorem keeps_uncharged : StepsKeep (payingRuns env u) ChatStmt.MovesNothing (Uncharged u c) where
  step := fun s hs g o w _ h => by
    have hdb : (answer (chatExec env) s o w).2.db = w.db := db_of_movesNothing hs o w
    refine ⟨?_, by rw [hdb]; exact h.columns⟩
    show (g || movesColumns u w _) = false
    rw [h.none, Bool.false_or, movesColumns_eq_false, hdb]

/-- One step: what turns the request away has nothing behind it. -/
theorem wp_tallied {s : ChatStmt} (h : Tallied u c g w) : (call s).wp (payingRuns env u) .alone
      (fun a g w => Tallied u c g w ∧ (turnsAway s (.ok a) = true → Uncharged u c g w))
      (fun e g w => Tallied u c g w ∧ (turnsAway s (.error e) = true → Uncharged u c g w)) g w := by
  refine wp_alone_stmt (C := payingRuns env u) fun o ho => ?_
  have htally : Tallied u c (g || movesColumns u w (answer (chatExec env) s o w).2) (answer (chatExec env) s o w).2 :=
    tallied_step h
  have haway : turnsAway s (answer (chatExec env) s o w).1 = true →
      Uncharged u c (g || movesColumns u w (answer (chatExec env) s o w).2) (answer (chatExec env) s o w).2 := by
    intro haway
    have hno : (g || movesColumns u w (answer (chatExec env) s o w).2) = false := by
      by_contra hyes
      rw [Bool.not_eq_false] at hyes
      have hstays := ho hyes
      rw [haway] at hstays
      cases hstays
    exact ⟨hno, htally hno⟩
  cases hr : (answer (chatExec env) s o w).1 with
  | ok a => rw [hr] at haway; exact ⟨htally, haway⟩
  | error e => rw [hr] at haway; exact ⟨htally, haway⟩

theorem wp_firm {s : ChatStmt} (hs : ∀ e, turnsAway s (.error (.exception e)) = true) (h : Tallied u c g w) :
    (call s).wp (payingRuns env u) .alone (fun _ => Tallied u c) (Even u c) g w := by
  refine wp_mono (fun _ _ _ h => h.1) (fun e g w he => ?_) (wp_tallied h)
  rintro x rfl
  exact he.2 (hs x)

theorem wp_uncharged {α : Type} {p : ChatProg α} (hp : p.Stays ChatStmt.MovesNothing fun _ => True)
    (h : Uncharged u c g w) : p.wp (payingRuns env u) .alone (fun _ => Uncharged u c) (fun _ => Uncharged u c) g w :=
  keeps_uncharged.wp hp h

theorem wp_quietly_tallied (p : ChatProg Unit) (h : Tallied u c g w) :
    (quietly p).wp (payingRuns env u) .alone (fun _ => Tallied u c) (Even u c) g w := by
  refine wp_quietly (wp_mono (fun _ _ _ h => h) (fun e g w h => ?_) (keeps_tallied.wp ((only_true p).stays) h))
  cases e with
  | exception e => exact h
  | cancelled => exact nofun
  | generatorExit => exact nofun

end Steps

/-! ## The dispatch -/

variable (s : ChatStmt)

theorem movesNothing_beforeCharge (hs : s.beforeCharge) : s.MovesNothing := by
  unfold ChatStmt.MovesNothing
  split
  · cases hs
  · trivial

theorem movesNothing_ofGates (hs : s.ofGates) : s.MovesNothing := by
  unfold ChatStmt.MovesNothing
  split
  · cases hs
  · trivial

theorem movesNothing_ofLimiter (hs : s.ofLimiter) : s.MovesNothing := by
  unfold ChatStmt.MovesNothing
  split
  · cases hs
  · trivial

section Dispatch

variable {env : ChatEnv} {u : Int} {c : ℚ × ℚ} {g : Bool} {w : ChatWorld}

variable (h : ChatHandler)

theorem wp_chargeUser (user : ChatUser) (cost : ℚ) (model : String) (t : TokenCounts) (hun : Uncharged u c g w) :
    (h.chargeUser user cost model t).wp (payingRuns env u) .alone (fun _ => Tallied u c) (Even u c) g w := by
  unfold ChatHandler.chargeUser
  refine wp_seq (wp_firm (fun _ => rfl) hun.tallied) fun _ g w h => ?_
  rw [wp_bind]
  exact wp_firm (fun _ => rfl) h

theorem wp_save (row : RequestRow) (h : Tallied u c g w) :
    (ChatHandler.save row).wp (payingRuns env u) .alone (fun _ => Tallied u c) (Even u c) g w := by
  unfold ChatHandler.save
  rw [wp_bind]
  exact wp_firm (fun _ => rfl) h

theorem wp_settle_even (user : ChatUser) (r : InternalChatRequest) (s : Served) (hun : Uncharged u c g w) :
    (h.settle user r s).wp (payingRuns env u) .alone (fun _ => Tallied u c) (Even u c) g w := by
  unfold ChatHandler.settle
  split
  · exact hun.even _
  · rw [wp_bind]
    refine wp_mono (fun cost g w hun => ?_) (fun e _ _ h => h.even e)
      (wp_uncharged (stays_bill trivial) hun)
    refine wp_seq (wp_chargeUser h user cost.total r.model _ hun) fun _ g w htally => ?_
    refine wp_seq (wp_save _ htally) fun _ g w htally => ?_
    rw [wp_bind]
    exact wp_firm (fun _ => rfl) htally

/-- The `except` clause of `process` comes with nothing charged. -/
theorem wp_orSaveFailed_even {α : Type} (user : Option ChatUser) (model provider : String)
    (t : TokenCounts) {Q : α → Bool → ChatWorld → Prop} {part : ChatProg α}
    (hpart : part.wp (payingRuns env u) .alone Q (Even u c) g w) :
    (h.orSaveFailed user model provider t part).wp (payingRuns env u) .alone Q (Even u c) g w := by
  unfold ChatHandler.orSaveFailed
  rw [wp_exceptException]
  refine wp_mono (fun _ _ _ h => h) (fun e g w he => ?_) hpart
  cases e with
  | cancelled => exact he
  | generatorExit => exact he
  | exception e =>
    rw [caught_exception, wp_bind]
    refine wp_mono (fun _ g w hun => ?_) (fun e _ _ h => h.even e) (wp_uncharged (stays_save trivial) (he e rfl))
    exact hun.even _

theorem wp_process_even (r : InternalChatRequest) (hun : Uncharged u c g w) :
    (h.process r).wp (payingRuns env u) .alone (fun _ => Tallied u c) (Even u c) g w := by
  have huser : h.initializeUserContext.Stays ChatStmt.MovesNothing fun _ => True := stays_initializeUserContext trivial
  unfold ChatHandler.process
  refine wp_seq (wp_orSaveFailed_even h none r.model "unknown" noTokens
    (wp_mono (fun _ _ _ h => h) (fun e _ _ h => h.even e) (wp_uncharged huser hun))) fun user g w hun => ?_
  refine wp_orSaveFailed_even h (some user) r.model "unknown" noTokens ?_
  rw [wp_bind]
  refine wp_mono (fun maxTokens g w hun => ?_) (fun e _ _ h => h.even e) (wp_uncharged (stays_call trivial) hun)
  rw [wp_bind]
  refine wp_mono (fun served g w hun => ?_) (fun e _ _ h => h.even e)
    (wp_uncharged (stays_upstream movesNothing_beforeCharge h user r maxTokens) hun)
  exact wp_settle_even h user r served hun

variable (d : DispatchParams)

theorem wp_attempt_even (provider : String) (hun : Uncharged u c g w) :
    (nonStreamingAttempt d provider).wp (payingRuns env u) .alone (fun _ => Tallied u c) (Even u c) g w := by
  unfold nonStreamingAttempt
  rw [wp_bind]
  refine wp_mono (fun r g w hun => ?_) (fun e _ _ h => h.even e)
    (wp_uncharged (stays_toInternalRequest movesNothing_beforeCharge d false provider) hun)
  rw [wp_bind]
  refine wp_mono (fun h g w hun => ?_) (fun e _ _ h => h.even e)
    (wp_uncharged (stays_newHandler trivial) hun)
  refine wp_seq (wp_process_even h r hun) fun response g w htally => ?_
  -- conversion, trace, metrics
  refine wp_seq (wp_firm (fun _ => rfl) htally) fun _ g w htally => ?_
  refine wp_seq (wp_firm (fun _ => rfl) htally) fun _ g w htally => ?_
  rw [wp_bind]
  exact wp_firm (fun _ => rfl) htally

theorem wp_attempts_even (chain : List String) (hun : Uncharged u c g w) :
    (nonStreamingAttempts d chain).wp (payingRuns env u) .alone (fun _ => Tallied u c) (Even u c) g w := by
  induction chain generalizing g w with
  | nil => exact hun.even _
  | cons provider rest ih =>
    rw [nonStreamingAttempts, wp_exceptException]
    refine wp_mono (fun _ _ _ h => h) (fun e g w he => ?_) (wp_attempt_even d provider hun)
    cases e with
    | cancelled => exact he
    | generatorExit => exact he
    | exception e =>
      rw [caught_exception, wp_bind]
      refine wp_mono (fun _ g w hun => ?_) (fun e _ _ h => h.even e)
        (wp_uncharged (stays_call trivial) (he e rfl))
      dsimp only
      split
      · exact ih hun
      · exact hun.even _

theorem wp_dispatchNonStreaming_even (chain : List String) (hun : Uncharged u c g w) :
    (dispatchNonStreaming d chain).wp (payingRuns env u) .alone (fun _ => Tallied u c) (Even u c) g w := by
  unfold dispatchNonStreaming
  split
  · exact hun.even _
  · exact wp_attempts_even d chain hun

end Dispatch

/-! ## The route -/

section Route

variable {env : ChatEnv} {u : Int} {c : ℚ × ℚ} {g : Bool} {w : ChatWorld}

theorem wp_requirePlanLimits (user : ChatUser) (tokens : Nat) (h : Tallied u c g w) :
    (requirePlanLimits user tokens).wp (payingRuns env u) .alone (fun _ => Tallied u c) (Even u c) g w := by
  unfold requirePlanLimits
  rw [wp_bind]
  refine wp_mono (fun plan g w hplan => ?_) (fun e g w he => ?_) (wp_tallied h)
  · cases hallowed : plan.allowed with
    | true => exact hplan.1
    | false =>
      have haway : turnsAway (.enforcePlanLimits user.id tokens user.environmentTag) (.ok plan) = true := by
        simp [turnsAway, hallowed]
      exact (hplan.2 haway).even _
  · rintro x rfl
    exact he.2 rfl

def Limited (u : Int) (c : ℚ × ℚ) (limit : RateLimitResult) (g : Bool) (w : ChatWorld) : Prop :=
  Tallied u c g w ∧ (limit.allowed = false → Uncharged u c g w)

variable (apiKey : String)

theorem wp_slidingWindowCheck (tokensUsed : Nat) (acquire countRequest : Bool) (h : Tallied u c g w) :
    (slidingWindowCheck apiKey tokensUsed acquire countRequest).wp (payingRuns env u) .alone (Limited u c)
      (Even u c) g w := by
  have hopen : ∀ (e : ChatErr) g w, Tallied u c g w →
      Caught (fun e => Prog.wp (payingRuns env u) .alone (Limited u c) (Even u c)
        (pure ⟨true, some "Rate limit check failed, allowing request"⟩)) (Even u c) e g w := by
    intro e g w h
    cases e with
    | exception e => exact ⟨h, nofun⟩
    | cancelled => exact nofun
    | generatorExit => exact nofun
  unfold slidingWindowCheck
  rw [wp_exceptException, wp_bind]
  refine wp_mono (fun free g w hfree => ?_) (fun e g w he => hopen e g w he.1) (wp_tallied h)
  cases hf : free with
  | false => exact ⟨hfree.1, fun _ => hfree.2 (by rw [hf]; rfl)⟩
  | true =>
    rw [Bool.not_true, if_neg Bool.false_ne_true, wp_bind]
    refine wp_mono (fun burst g w hburst => ?_) (fun e g w he => hopen e g w he.1) (wp_tallied hfree.1)
    cases hb : burst with
    | false => exact ⟨hburst.1, fun _ => hburst.2 (by rw [hb]; rfl)⟩
    | true =>
      rw [Bool.not_true, if_neg Bool.false_ne_true, wp_bind]
      refine wp_mono (fun refusal g w hrefusal => ?_) (fun e g w he => hopen e g w he.1) (wp_tallied hburst.1)
      cases hr : refusal with
      | some reason => exact ⟨hrefusal.1, fun _ => hrefusal.2 (by rw [hr]; rfl)⟩
      | none =>
        dsimp only
        rw [wp_bind]
        refine wp_onlyIf (fun _ => ⟨hrefusal.1, nofun⟩) fun _ => ?_
        exact wp_mono (fun _ _ _ h => ⟨h, nofun⟩) (fun e g w h => hopen e g w h)
          (keeps_tallied.call trivial hrefusal.1)

theorem wp_checkRateLimit (tokensUsed : Nat) (h : Tallied u c g w) :
    (checkRateLimit apiKey tokensUsed false false).wp (payingRuns env u) .alone (Limited u c) (Even u c) g w := by
  have hafter : ∀ (admin : Bool) g w, Tallied u c g w →
      (if admin then (Prog.ret ⟨true, some "Admin tier - unlimited access"⟩ : ChatProg RateLimitResult)
        else slidingWindowCheck apiKey tokensUsed false false).wp (payingRuns env u) .alone (Limited u c)
          (Even u c) g w := by
    intro admin g w h
    cases admin with
    | true => exact ⟨h, nofun⟩
    | false => exact wp_slidingWindowCheck apiKey tokensUsed false false h
  show (uncachedRateLimit apiKey tokensUsed false false).wp _ _ _ _ _ _
  unfold uncachedRateLimit
  rw [wp_bind, wp_exceptException]
  refine wp_mono (fun admin g w h => hafter admin g w h.1) (fun e g w h => ?_) (wp_tallied h)
  cases e with
  | exception e => exact hafter false g w h.1
  | cancelled => exact nofun
  | generatorExit => exact nofun

theorem wp_requireRateLimit (tokensUsed : Nat) (h : Tallied u c g w) :
    (requireRateLimit apiKey tokensUsed false false).wp (payingRuns env u) .alone (fun _ => Tallied u c)
      (Even u c) g w := by
  unfold requireRateLimit
  refine wp_seq (wp_checkRateLimit apiKey tokensUsed h) fun limit g w hlimit => ?_
  cases hallowed : limit.allowed with
  | true => exact hlimit.1
  | false =>
    rw [if_neg Bool.false_ne_true, wp_bind]
    refine wp_mono (fun _ g w hun => ?_) (fun e _ _ h => h.even e)
      (wp_uncharged (stays_call trivial) (hlimit.2 hallowed))
    exact hun.even _

variable (config : ChatConfig)

theorem wp_handleCreditsAndUsage (user : ChatUser) (model : String) (trial : TrialStatus)
    (usage : InternalUsage) (requestId : String) (h : Tallied u c g w) :
    (handleCreditsAndUsage config user model trial usage requestId).wp (payingRuns env u) .alone
      (fun _ => Tallied u c) (Even u c) g w := by
  unfold handleCreditsAndUsage
  refine wp_seq (wp_firm (fun _ => rfl) h) fun cost g w h => ?_
  split
  · rw [wp_bind]
    exact wp_quietly_tallied _ h
  · refine wp_seq (wp_quietly_tallied _ h) fun _ g w h => ?_
    rw [wp_bind]
    exact wp_onlyIf (fun _ => h) fun _ => wp_quietly_tallied _ h

theorem wp_analyticsCosts (model : String) (usage : InternalUsage) (h : Tallied u c g w) :
    (analyticsCosts model usage).wp (payingRuns env u) .alone (fun _ => Tallied u c) (Even u c) g w := by
  unfold analyticsCosts
  rw [wp_exceptException, wp_bind]
  refine wp_mono (fun pricing g w h => h.1) (fun e g w h => ?_) (wp_tallied h)
  cases e with
  | cancelled => exact nofun
  | generatorExit => exact nofun
  | exception e =>
    rw [caught_exception]
    by_cases hvalue : e.isValueError = true
    · rw [if_pos hvalue]
      exact h.1
    · rw [if_neg hvalue]
      have haway : turnsAway (.getModelPricing model) (.error (.exception e)) = true := by
        simp [turnsAway, hvalue]
      exact (h.2 haway).even _

theorem wp_finish (apiKey : String) (a : Admission) (requestId : String)
    (processed : InternalChatResponse) (sessionId : Option Int) (h : Tallied u c g w) :
    (finish config apiKey a requestId processed sessionId).wp (payingRuns env u) .alone (fun _ => Tallied u c)
      (Even u c) g w := by
  unfold finish
  refine wp_seq (wp_onlyIf (fun _ => h) fun _ => wp_requireRateLimit apiKey _ h) fun _ g w h => ?_
  refine wp_seq (wp_handleCreditsAndUsage config a.user _ a.trial _ _ h) fun cost g w h => ?_
  -- what is only logged
  refine wp_seq (wp_quietly_tallied _ h) fun _ g w h => ?_
  refine wp_seq (wp_quietly_tallied _ h) fun _ g w h => ?_
  refine wp_seq (wp_quietly_tallied _ h) fun _ g w h => ?_
  refine wp_seq (wp_onlyIf (fun _ => h) fun _ => wp_quietly_tallied _ h) fun _ g w h => ?_
  -- costs and record
  refine wp_seq (wp_analyticsCosts _ _ h) fun costs g w h => ?_
  rw [wp_bind]
  exact wp_firm (fun _ => rfl) h

theorem wp_dispatch (req : ChatRequest) (apiKey : String) (a : Admission) (model : String) (hun : Uncharged u c g w) :
    (dispatch config req apiKey a model).wp (payingRuns env u) .alone (fun _ => Tallied u c) (Even u c) g w := by
  unfold dispatch
  rw [wp_bind]
  refine wp_mono (fun ⟨plan, messages, sessionId⟩ g w hun => ?_) (fun e _ _ h => h.even e)
    (wp_uncharged (stays_prepare movesNothing_ofGates req a model) hun)
  dsimp only
  split
  · exact hun.tallied
  · refine wp_seq (wp_dispatchNonStreaming_even _ _ hun) fun processed g w h => ?_
    refine wp_seq (wp_requirePlanLimits a.user _ h) fun _ g w h => ?_
    refine wp_seq (wp_onlyIf (fun _ => h) fun _ => wp_quietly_tallied _ h) fun _ g w h => ?_
    rw [wp_bind]
    exact wp_onlyIf (fun _ => h) fun _ => wp_quietly_tallied _ h

/-- The `except` clauses of the route come with nothing charged. -/
theorem wp_underRouteHandlers {α : Type} (slotHeld : Bool) {Q : α → Bool → ChatWorld → Prop}
    {part : ChatProg α} (hpart : part.wp (payingRuns env u) .alone Q (Even u c) g w) :
    (underRouteHandlers apiKey slotHeld part).wp (payingRuns env u) .alone Q (Even u c) g w := by
  unfold underRouteHandlers
  rw [wp_exceptException]
  refine wp_mono (fun _ _ _ h => h) (fun e g w he => ?_) hpart
  cases e with
  | cancelled => exact he
  | generatorExit => exact he
  | exception e =>
    rw [caught_exception, wp_bind]
    refine wp_mono (fun _ g w hun => ?_) (fun e _ _ h => h.even e)
      (wp_uncharged (stays_onlyIf (stays_quietly (stays_call trivial))) (he e rfl))
    rw [wp_bind]
    refine wp_mono (fun _ g w hun => ?_) (fun e _ _ h => h.even e)
      (wp_uncharged (stays_quietly (stays_call trivial)) hun)
    split
    · exact hun.even _
    · exact hun.even _

theorem wp_chatCompletions (req : ChatRequest) (apiKey : String) (hun : Uncharged u c g w) :
    (chatCompletions config req apiKey).wp (payingRuns env u) .alone (fun _ => Tallied u c) (Even u c) g w := by
  unfold chatCompletions
  rw [wp_bind]
  refine wp_mono (fun requestId g w hun => ?_) (fun e _ _ h => h.even e) (wp_uncharged (stays_call trivial) hun)
  rw [wp_bind]
  refine wp_mono (fun model g w hun => ?_) (fun e _ _ h => h.even e) (wp_uncharged (stays_call trivial) hun)
  rw [wp_bind]
  refine wp_mono (fun _ g w hun => ?_) (fun e _ _ h => h.even e) (wp_uncharged (stays_call trivial) hun)
  refine wp_seq (wp_underRouteHandlers apiKey false
    (wp_mono (fun _ _ _ h => h) (fun e _ _ h => h.even e)
      (wp_uncharged (stays_admission movesNothing_ofGates movesNothing_ofLimiter config apiKey model trivial) hun))) fun a g w hun => ?_
  refine wp_seq (wp_underRouteHandlers apiKey a.checked (wp_dispatch config req apiKey a model hun)) fun dispatched g w h => ?_
  cases dispatched with
  | stream body => exact h
  | response processed sessionId =>
    dsimp only
    rw [wp_bind]
    exact wp_underRouteHandlers apiKey false (wp_finish config apiKey a requestId processed sessionId h)

end Route

/-- **A refused request is not charged**, if nothing refuses it and nothing raises once the columns have moved. -/
theorem refused_not_charged (env : ChatEnv) (u : Int) (req : ChatRequest) (apiKey : String)
    (os : List (Outcome ChatErr)) (w : ChatWorld)
    (ha : (chatCompletions env.config req apiKey).Admits (payingRuns env u) os false w)
    (hrefused : refused ((chatCompletions env.config req apiKey).run (chatExec env) os w).1) :
    ((chatCompletions env.config req apiKey).run (chatExec env) os w).2.2.db.columns u = w.db.columns u := by
  have hend := wp_noted (wp_chatCompletions env.config req apiKey ⟨rfl, rfl⟩) ha
  change Answered _ _ ((chatCompletions env.config req apiKey).run (chatExec env) os w).1 at hend
  cases hr : ((chatCompletions env.config req apiKey).run (chatExec env) os w).1 with
  | ok response => rw [hr] at hrefused; cases hrefused
  | error e =>
    rw [hr] at hrefused hend
    cases e with
    | exception e => exact (hend e rfl).columns
    | cancelled => cases hrefused
    | generatorExit => cases hrefused

def askThousand : ChatRequest := { model := "claude", messages := ⟨40, 10⟩, maxTokens := some 1000 }

/-- The tokens that are left of the plan's daily limit. -/
def planLeaves (left : Nat) : ChatEnv :=
  { calmEnv ["openrouter"] with
    answers := fun moment s =>
      match s with
      | .enforcePlanLimits _ tokens _ =>
        { allowed := tokens ≤ left, reason := "Daily token limit exceeded (25000) for live environment" }
      | s => (calmEnv ["openrouter"]).answers moment s }

/-- Five hundred tokens are left: the estimate is refused. -/
theorem refused_not_charged_estimate :
    ((chatCompletions {} askThousand "k").run (chatExec (planLeaves 500)) [] calmWorld).2.2.db.columns 1 =
      calmWorld.db.columns 1 :=
  refused_not_charged (planLeaves 500) 1 askThousand "k" [] calmWorld (by decide +kernel) (by decide +kernel)

/-- Fifteen hundred are left: the estimate passes, the provider counts two thousand, and the refusal comes after the
    charge. -/
theorem refused_and_charged :
    refused ((chatCompletions {} askThousand "k").run (chatExec (planLeaves 1500)) [] calmWorld).1 ∧
      ((chatCompletions {} askThousand "k").run (chatExec (planLeaves 1500)) [] calmWorld).2.2.db.columns 1 =
        (0, 5 - 9 / 400) ∧
      calmWorld.db.columns 1 = (0, 5) := by
  decide +kernel

end Gatewayz
