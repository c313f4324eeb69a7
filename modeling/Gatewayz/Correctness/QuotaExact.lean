import Gatewayz.Chat.Parts
import Gatewayz.Keys.Quota
import Gatewayz.Keys.Rules
import Mathlib.Data.Fintype.Basic

/-!
# `Correctness.QuotaExact` — the count of a key

A request is let in if the count it reads is below the limit, and counted after it has been answered, with another read and a
write. Nothing holds a place for it in between, and a streamed request is not counted at all. So the quota is exact where the
requests come one after the other, want their answers in one piece, and are not broken off between their count and their answer
(`Orderly`); overlapping requests are all let in by one count, and their counts overwrite each other.
-/

namespace Gatewayz.Keys

open Exec

/-! ## The route -/

/-- After the count, nothing that ends the request: what is only logged may fail, and a model may have no price. -/
def harmless (s : ChatStmt) : Except ChatErr (ChatRes s) → Bool
  | .ok _ => true
  | .error (.exception e) =>
    match s with
    | .task _ => true
    | .getModelPricing _ => e.isValueError
    | _ => false
  | .error _ => false

@[reducible] def countRuns (env : ChatEnv) : Setting ChatErr ChatStmt ChatRes Nat ChatWorld :=
  chatRuns env (fun g s _ _ _ => if s = .task .incrementApiKeyUsage then g + 1 else g)
    (fun g s o w => (s = .task .incrementApiKeyUsage → o = .served) ∧ (0 < g → harmless s (answer (chatExec env) s o w).1))

section Route

variable {env : ChatEnv} {w : ChatWorld} {α : Type}

def NotCounting (s : ChatStmt) : Prop := s ≠ .task .incrementApiKeyUsage

variable (s : ChatStmt)

theorem notCounting_ofAttempt (hs : s.ofAttempt) : NotCounting s := by
  rintro rfl
  cases hs

theorem notCounting_ofGates (hs : s.ofGates) : NotCounting s := by
  rintro rfl
  cases hs

theorem notCounting_ofLimiter (hs : s.ofLimiter) : NotCounting s := by
  rintro rfl
  cases hs

theorem notCounting_ofUsage (hs : s.ofUsage) : NotCounting s := by
  rintro rfl
  cases hs

theorem keeps_count (n : Nat) : StepsKeep (countRuns env) NotCounting (fun g _ => g = n) where
  step s hs g o st _ hg := by
    show (if s = .task .incrementApiKeyUsage then g + 1 else g) = n
    rw [if_neg hs]
    exact hg

theorem wp_uncounted {p : ChatProg α} (hp : p.Stays NotCounting fun _ => True) :
    p.wp (countRuns env) .alone (fun _ g _ => g = 0) (fun _ g _ => g = 0) 0 w := (keeps_count 0).wp hp rfl

theorem wp_counted {s : ChatStmt} (hs : NotCounting s) {Q : ChatRes s → Nat → ChatWorld → Prop}
    {E : ChatErr → Nat → ChatWorld → Prop} (hQ : ∀ a w, Q a 1 w) (hE : ∀ e w, harmless s (.error e) → E e 1 w) :
    (call s).wp (countRuns env) .alone Q E 1 w := by
  refine wp_alone_stmt (C := countRuns env) fun o ho => ?_
  have hharmless := ho.2 Nat.one_pos
  revert hharmless
  show harmless s (answer (chatExec env) s o w).1 = true → Answered _ _ (answer (chatExec env) s o w).1
  have hnote : (if s = .task .incrementApiKeyUsage then 1 + 1 else 1) = 1 := if_neg hs
  generalize (answer (chatExec env) s o w).1 = r
  intro hharmless
  cases r with
  | ok a =>
    show Q a (if s = .task .incrementApiKeyUsage then 1 + 1 else 1) _
    rw [hnote]
    exact hQ a _
  | error e =>
    show E e (if s = .task .incrementApiKeyUsage then 1 + 1 else 1) _
    rw [hnote]
    exact hE e _ hharmless

theorem wp_logged {t : ChatTask} (ht : NotCounting (.task t)) {Q : Unit → Nat → ChatWorld → Prop}
    {E : ChatErr → Nat → ChatWorld → Prop} (hQ : ∀ w, Q () 1 w) :
    (quietly (call (.task t))).wp (countRuns env) .alone Q E 1 w := by
  refine wp_quietly (wp_counted ht (fun _ w => hQ w) fun e w he => ?_)
  cases e with
  | exception e => exact hQ w
  | cancelled => cases he
  | generatorExit => cases he

theorem wp_record_counted (a : Admission) (requestId : String) (processed : InternalChatResponse) (cost : ℚ) : (do
      let (input, output) ← analyticsCosts processed.model processed.usage
      let _ ← call (.saveRequest (routeRow a requestId processed cost input output))
      pure cost : ChatProg ℚ).wp (countRuns env) .alone (fun _ g _ => g = 1) (fun _ g _ => g = 0) 1 w := by
  have hcosts : (analyticsCosts processed.model processed.usage).wp (countRuns env) .alone (fun _ g _ => g = 1)
      (fun _ g _ => g = 0) 1 w := by
    unfold analyticsCosts
    rw [wp_exceptException, wp_bind]
    refine wp_counted (s := .getModelPricing processed.model) nofun (fun _ _ => rfl) fun e w he => ?_
    cases e with
    | exception e =>
      have hvalue : e.isValueError = true := he
      rw [caught_exception, if_pos hvalue]
      exact rfl
    | cancelled => cases he
    | generatorExit => cases he
  refine wp_seq hcosts fun costs g w h => ?_
  obtain rfl : g = 1 := h
  rw [wp_bind]
  refine wp_counted (s := .saveRequest _) nofun (fun _ _ => rfl) fun e w he => ?_
  cases e with
  | exception e => cases he
  | cancelled => cases he
  | generatorExit => cases he

variable (config : ChatConfig)

theorem wp_finish_counts (apiKey : String) (a : Admission) (requestId : String)
    (processed : InternalChatResponse) (sessionId : Option Int) :
    (finish config apiKey a requestId processed sessionId).wp (countRuns env) .alone (fun _ g _ => g = 1) (fun _ g _ => g = 0)
      0 w := by
  unfold finish
  have hnone : false = true → NotCounting (.incrementConcurrentRequests apiKey) := nofun
  refine wp_seq (wp_uncounted (stays_onlyIf (stays_requireRateLimit notCounting_ofLimiter hnone nofun _ _))) fun _ g w h => ?_
  obtain rfl : g = 0 := h
  refine wp_seq (wp_uncounted (stays_handleCreditsAndUsage notCounting_ofUsage config a.user _ _ _ _)) fun cost g w h => ?_
  obtain rfl : g = 0 := h
  rw [wp_bind]
  -- the count
  have hcount : (quietly (call (.task .incrementApiKeyUsage))).wp (countRuns env) .alone (fun _ g _ => g = 1)
      (fun _ g _ => g = 0) 0 w := by
    refine wp_quietly (wp_alone_stmt (C := countRuns env) fun o ho => ?_)
    obtain rfl : o = .served := ho.1 rfl
    exact rfl
  refine wp_post (fun _ g w h => ?_) hcount
  obtain rfl : g = 1 := h
  rw [wp_bind]
  refine wp_logged (t := .inferenceMetricsAndHealth) nofun fun w => ?_
  rw [wp_bind]
  refine wp_logged (t := .logActivity) nofun fun w => ?_
  rw [wp_bind]
  exact wp_onlyIf (fun _ => wp_record_counted a requestId processed cost)
    (fun _ => wp_logged (t := .persistConversationTurn) nofun fun _ => wp_record_counted a requestId processed cost)

/-- The `except` clauses of the route count nothing. -/
theorem wp_underRouteHandlers_counts (apiKey : String) (slotHeld : Bool) {part : ChatProg α}
    {Q : α → Nat → ChatWorld → Prop} (hpart : part.wp (countRuns env) .alone Q (fun _ g _ => g = 0) 0 w) :
    (underRouteHandlers apiKey slotHeld part).wp (countRuns env) .alone Q (fun _ g _ => g = 0) 0 w := by
  unfold underRouteHandlers
  rw [wp_exceptException]
  refine wp_mono (fun _ _ _ h => h) (fun e g w h => ?_) hpart
  obtain rfl : g = 0 := h
  cases e with
  | cancelled => exact rfl
  | generatorExit => exact rfl
  | exception e =>
    rw [caught_exception, wp_bind]
    refine wp_post (fun _ g w h => ?_) (wp_uncounted (stays_onlyIf (stays_quietly (stays_call nofun))))
    obtain rfl : g = 0 := h
    refine wp_seq (wp_uncounted (stays_quietly (stays_call nofun))) fun _ g w h => ?_
    split
    · exact h
    · exact h

theorem wp_dispatch_counts {req : ChatRequest} (hwhole : req.stream = false) (apiKey : String)
    (a : Admission) (model : String) : (dispatch config req apiKey a model).wp (countRuns env) .alone
      (fun d g _ => g = 0 ∧ ∃ processed sessionId, d = .response processed sessionId) (fun _ g _ => g = 0) 0 w := by
  unfold dispatch
  refine wp_seq (wp_uncounted (stays_prepare notCounting_ofGates req a model)) fun ⟨plan, messages, sessionId⟩ g w h => ?_
  obtain rfl : g = 0 := h
  dsimp only
  rw [hwhole, if_neg Bool.false_ne_true, wp_bind]
  refine wp_post (fun processed g w h => ?_)
    (wp_uncounted (stays_dispatchNonStreaming notCounting_ofAttempt _ _))
  obtain rfl : g = 0 := h
  have hrest : Prog.Stays NotCounting (fun _ => True) (do
      requirePlanLimits a.user processed.usage.totalTokens
      onlyIf (a.trial.isTrial && !a.trial.isExpired) (quietly (call (.task .trackTrialUsage)))
      onlyIf a.checked (quietly (call (.releaseConcurrency apiKey))) : ChatProg Unit) :=
    stays_bind (stays_requirePlanLimits notCounting_ofGates a.user _) fun _ =>
      stays_bind (stays_onlyIf (stays_quietly (stays_call nofun))) fun _ => stays_onlyIf (stays_quietly (stays_call nofun))
  have hwp := @wp_uncounted env w _ _ hrest
  rw [wp_bind] at hwp
  refine wp_seq hwp fun _ g w h => ?_
  rw [wp_bind] at h
  refine wp_seq h fun _ g w h => ?_
  exact wp_seq h fun _ _ _ h => ⟨h, processed, sessionId, rfl⟩

/-- The route counts a request once before it answers it, and not at all if it raises. -/
theorem wp_serve_counts {req : ChatRequest} (hwhole : req.stream = false) (apiKey : String) :
    (serve config req apiKey).wp (countRuns env) .alone (fun a g _ => g = 1 ∧ ∀ sent, isCompletion sent a = true)
      (fun _ g _ => g = 0) 0 w := by
  unfold serve chatCompletions
  have hstep {s : ChatStmt} (hs : NotCounting s) {w : ChatWorld} :
      (call s).wp (countRuns env) .alone (fun _ g _ => g = 0) (fun _ g _ => g = 0) 0 w :=
    wp_uncounted (stays_call hs)
  rw [wp_bind, wp_bind]
  refine wp_post (fun requestId g w h => ?_) (hstep (s := .newRequestId) nofun)
  obtain rfl : g = 0 := h
  refine wp_seq (hstep (s := .resolveAutoRoutedModel _) nofun) fun model g w h => ?_
  obtain rfl : g = 0 := h
  refine wp_seq (hstep (s := .task .modelPricingGate) nofun) fun _ g w h => ?_
  obtain rfl : g = 0 := h
  refine wp_seq (wp_underRouteHandlers_counts apiKey false
    (wp_uncounted (stays_admission notCounting_ofGates notCounting_ofLimiter config apiKey model nofun))) fun a g w h => ?_
  obtain rfl : g = 0 := h
  refine wp_seq (wp_underRouteHandlers_counts apiKey a.checked (wp_dispatch_counts config hwhole apiKey a model)) fun d g w h => ?_
  obtain ⟨h, processed, sessionId, rfl⟩ := h
  obtain rfl : g = 0 := h
  dsimp only
  exact wp_seq (wp_underRouteHandlers_counts apiKey false
    (wp_finish_counts config apiKey a requestId processed sessionId)) fun _ _ _ h => ⟨h, fun _ => rfl⟩

end Route

/-! ## The requests together -/

section Machine

variable {ι : Type} [DecidableEq ι] {env : ChatEnv} {crypto : Crypto} {net : Net} {apiKey : String}
variable {requests : ι → QuotaRequest} {m n : Int} {keys : KeyWorld} {chat : ChatWorld}

/-- One after the other, in one piece, and to the end: nobody else's request is in progress, the request wants its answer in
one piece, the key table answers, and after its count nothing ends the request before its answer. -/
structure Orderly (env : ChatEnv) (requests : ι → QuotaRequest) (s : QuotaState ι) (e : QuotaEvent ι) : Prop where
  alone : ∀ j, j ≠ e.who → ¬ (s.stage j).InProgress
  whole : (requests e.who).body.stream = false
  served : e.keyLink = .served
  finishes : ∀ counts sent q k, s.stage e.who = .chatting (counts + 1) sent (.ask q k) →
    harmless q (answer (chatExec env) q e.chatLink s.chat).1

def finishesWell (env : ChatEnv) (chat : ChatWorld) (link : Outcome ChatErr) : Stage → Bool
  | .chatting (_ + 1) _ (.ask q _) => harmless q (answer (chatExec env) q link chat).1
  | _ => true

theorem finishesWell_iff {chat : ChatWorld} {link : Outcome ChatErr} {stage : Stage} :
    finishesWell env chat link stage = true ↔ ∀ counts sent q k, stage = .chatting (counts + 1) sent (.ask q k) →
      harmless q (answer (chatExec env) q link chat).1 := by
  constructor
  · rintro h counts sent q k rfl
    exact h
  · intro h
    unfold finishesWell
    split
    · exact h _ _ _ _ rfl
    · rfl

instance [Fintype ι] (s : QuotaState ι) (e : QuotaEvent ι) : Decidable (Orderly env requests s e) :=
  decidable_of_iff
    ((∀ j, j ≠ e.who → ¬ (s.stage j).InProgress) ∧ (requests e.who).body.stream = false ∧ e.keyLink = .served ∧
      finishesWell env s.chat e.chatLink (s.stage e.who) = true)
    ⟨fun ⟨ha, hw, hs, hf⟩ => ⟨ha, hw, hs, finishesWell_iff.mp hf⟩,
      fun h => ⟨h.alone, h.whole, h.served, finishesWell_iff.mpr h.finishes⟩⟩

def QuotaState.Idle (s : QuotaState ι) : Prop := ∀ i, ¬ (s.stage i).InProgress

def OnItsWay (env : ChatEnv) (counts : Nat) (chat : ChatWorld) (p : ChatProg ClientAnswer) : Prop :=
  p.wp (countRuns env) .alone (fun a g _ => g = 1 ∧ ∀ sent, isCompletion sent a = true) (fun _ g _ => g = 0) counts chat

/-- What is known of a request in progress, when `used` requests have been counted and answered. -/
def Known (env : ChatEnv) (crypto : Crypto) (apiKey : String) (m used : Int) (keys : KeyWorld) (chat : ChatWorld) :
    Stage → Prop
  | .accepting p =>
    p.wp keyRuns .alone
      (fun r _ w => w.keys.HasQuota crypto.sha256KeyHash apiKey m used ∧ (r.isSome → used < m))
      (fun _ _ w => w.keys.HasQuota crypto.sha256KeyHash apiKey m used) () keys
  | .chatting counts _ p =>
    keys.keys.HasQuota crypto.sha256KeyHash apiKey m (used + counts) ∧ used < m ∧ OnItsWay env counts chat p
  | .counting counts _ p k =>
    p.wp keyRuns .alone (fun _ _ w => w.keys.HasQuota crypto.sha256KeyHash apiKey m (used + counts + 1)) (fun _ _ _ => False)
      () keys ∧ used < m ∧ OnItsWay env (counts + 1) chat (k (.ok ()))
  | _ => True

/-- The invariant: the count is right between requests, and what is in progress is known. -/
structure QuotaInv (env : ChatEnv) (crypto : Crypto) (apiKey : String) (m n : Int) (s : QuotaState ι) : Prop where
  bounded : n + s.served.length ≤ max m n
  counted : s.Idle → s.keys.keys.HasQuota crypto.sha256KeyHash apiKey m (n + s.served.length)
  known : ∀ i, (s.stage i).InProgress → Known env crypto apiKey m (n + s.served.length) s.keys s.chat (s.stage i)

theorem QuotaInv.put {s s' : QuotaState ι} {i : ι} (stage : Stage) (hs : ∀ j, j ≠ i → ¬ (s.stage j).InProgress)
    (hstage : s'.stage = Function.update s.stage i stage) (hbounded : n + s'.served.length ≤ max m n)
    (hcounted : ¬ stage.InProgress → s'.keys.keys.HasQuota crypto.sha256KeyHash apiKey m (n + s'.served.length))
    (hknown : stage.InProgress → Known env crypto apiKey m (n + s'.served.length) s'.keys s'.chat stage) :
    QuotaInv env crypto apiKey m n s' where
  bounded := hbounded
  counted hidle := by
    refine hcounted ?_
    have h := hidle i
    rwa [hstage, Function.update_self] at h
  known j hj := by
    rw [hstage] at hj ⊢
    by_cases heq : j = i
    · subst heq
      rw [Function.update_self] at hj ⊢
      exact hknown hj
    · rw [Function.update_of_ne heq] at hj
      exact absurd hj (hs j heq)

theorem wp_step {α : Type} {Q : α → Unit → KeyWorld → Prop} {E : PyErr → Unit → KeyWorld → Prop} {q : KeyStmt}
    {k : Except PyErr (KeyRes q) → KeyProg α} (h : (Prog.ask q k : KeyProg α).wp keyRuns .alone Q E () keys) :
    (k (answer KeyWorld.exec q .served keys).1).wp keyRuns .alone Q E () (answer KeyWorld.exec q .served keys).2 :=
  (h keys rfl trivial .served rfl).2.2

/-- A move in the route keeps the invariant. -/
theorem inv_chatMove {s : QuotaState ι} {e : QuotaEvent ι} {counts : Nat} {sent : List SseEvent} {p : ChatProg ClientAnswer}
    (hinv : QuotaInv env crypto apiKey m n s) (hok : Orderly env requests s e) (hstage : s.stage e.who = .chatting counts sent p) :
    QuotaInv env crypto apiKey m n (chatMove env apiKey requests s e.who e.chatLink counts sent p) := by
  have hknown := hinv.known e.who (by rw [hstage]; trivial)
  rw [hstage] at hknown
  obtain ⟨hquota, hlt, hway⟩ := hknown
  cases p with
  | ret a =>
    obtain ⟨hcounts, hcompletion⟩ : counts = 1 ∧ ∀ sent, isCompletion sent a = true := hway
    subst hcounts
    have hserved : (chatMove env apiKey requests s e.who e.chatLink 1 sent (.ret a)).served = s.served ++ [e.who] := by
      rw [chatMove, if_pos (hcompletion sent)]
    have hlength : n + ((s.served ++ [e.who]).length : Int) = n + s.served.length + 1 := by
      rw [List.length_append, List.length_singleton]
      omega
    refine QuotaInv.put (.ended sent (.ok a)) hok.alone rfl ?_ (fun _ => ?_) (fun h => h.elim)
    · rw [hserved, hlength]
      omega
    · rw [hserved, hlength]
      exact hquota
  | fail x =>
    obtain rfl : counts = 0 := hway
    have hquota : s.keys.keys.HasQuota crypto.sha256KeyHash apiKey m (n + s.served.length) := by simpa using hquota
    exact QuotaInv.put (.ended sent (.error x)) hok.alone rfl hinv.bounded (fun _ => hquota) (fun h => h.elim)
  | ask q k =>
    by_cases hq : q = .task .incrementApiKeyUsage
    · subst hq
      refine QuotaInv.put (.counting counts sent _ k) hok.alone rfl hinv.bounded (fun h => absurd trivial h)
        (fun _ => ⟨wp_incrementApiKeyUsage hquota, hlt, ?_⟩)
      exact (hway s.chat rfl trivial .served ⟨fun _ => rfl, fun _ => rfl⟩).2.2
    · have hmove : chatMove env apiKey requests s e.who e.chatLink counts sent (.ask q k) =
          { s.put e.who (.chatting counts (sent ++ sentBy q) (k (answer (chatExec env) q e.chatLink s.chat).1)) with
            chat := (answer (chatExec env) q e.chatLink s.chat).2 } := by
        unfold chatMove
        split
        · cases ‹Prog.ask q k = _›
        · cases ‹Prog.ask q k = _›
        · rename_i heq
          injection heq with hq' _
          exact absurd hq' hq
        · rename_i heq
          cases heq
          rfl
      rw [hmove]
      have hallow : (q = .task .incrementApiKeyUsage → e.chatLink = .served) ∧
          (0 < counts → harmless q (answer (chatExec env) q e.chatLink s.chat).1) := by
        refine ⟨fun h => absurd h hq, fun hpos => ?_⟩
        obtain ⟨c, rfl⟩ : ∃ c, counts = c + 1 := ⟨counts - 1, by omega⟩
        exact hok.finishes c sent q k hstage
      have hnext := (hway s.chat rfl trivial e.chatLink hallow).2.2
      have hnote : (if q = .task .incrementApiKeyUsage then counts + 1 else counts) = counts := if_neg hq
      refine QuotaInv.put (.chatting counts _ _) hok.alone rfl hinv.bounded (fun h => absurd trivial h)
        (fun _ => ⟨hquota, hlt, ?_⟩)
      unfold OnItsWay
      rw [← hnote]
      exact hnext

/-- Every orderly move keeps the invariant: one case for each stage of the request that moves. -/
theorem inv_move {s s' : QuotaState ι} {e : QuotaEvent ι} (hinv : QuotaInv env crypto apiKey m n s)
    (hok : Orderly env requests s e) (hmove : quotaMove env crypto net apiKey requests s e = some s') :
    QuotaInv env crypto apiKey m n s' := by
  have hknown := hinv.known e.who
  unfold quotaMove at hmove
  cases hstage : s.stage e.who with
  | new =>
    rw [hstage] at hmove
    cases hmove
    have hidle : s.Idle := by
      intro j
      by_cases hj : j = e.who
      · rw [hj, hstage]
        exact id
      · exact hok.alone j hj
    exact QuotaInv.put _ hok.alone rfl hinv.bounded (fun h => absurd trivial h)
      (fun _ => wp_getOptionalApiKey (hinv.counted hidle))
  | anonymous =>
    rw [hstage] at hmove
    cases hmove
  | ended sent result =>
    rw [hstage] at hmove
    cases hmove
  | chatting counts sent p =>
    rw [hstage] at hmove
    cases hmove
    exact inv_chatMove hinv hok hstage
  | accepting p =>
    rw [hstage] at hmove hknown
    have hwp := hknown trivial
    cases p with
    | ret r =>
      obtain ⟨hquota, hlt⟩ : s.keys.keys.HasQuota crypto.sha256KeyHash apiKey m (n + s.served.length) ∧
          (r.isSome → n + s.served.length < m) := hwp
      cases r with
      | none =>
        cases hmove
        exact QuotaInv.put (.anonymous) hok.alone rfl hinv.bounded (fun _ => hquota) (fun h => h.elim)
      | some key =>
        cases hmove
        refine QuotaInv.put (.chatting 0 [] _) hok.alone rfl hinv.bounded (fun h => absurd trivial h) (fun _ => ?_)
        refine ⟨?_, hlt rfl, wp_serve_counts env.config hok.whole apiKey⟩
        show s.keys.keys.HasQuota _ apiKey m (n + s.served.length + ((0 : Nat) : Int))
        rwa [Nat.cast_zero, add_zero]
    | fail x =>
      cases hmove
      exact QuotaInv.put (.ended [] _) hok.alone rfl hinv.bounded (fun _ => hwp) (fun h => h.elim)
    | ask q k =>
      cases hmove
      rw [hok.served]
      exact QuotaInv.put (.accepting _) hok.alone rfl hinv.bounded (fun h => absurd trivial h)
        (fun _ => wp_step hwp)
  | counting counts sent p k =>
    rw [hstage] at hmove hknown
    obtain ⟨hwp, hlt, hway⟩ := hknown trivial
    cases p with
    | ret u =>
      cases hmove
      refine QuotaInv.put (.chatting (counts + 1) sent _) hok.alone rfl hinv.bounded (fun h => absurd trivial h)
        (fun _ => ⟨?_, hlt, hway⟩)
      have hquota : s.keys.keys.HasQuota crypto.sha256KeyHash apiKey m (n + s.served.length + counts + 1) := hwp
      rwa [Nat.cast_add, Nat.cast_one, ← add_assoc]
    | fail x => exact hwp.elim
    | ask q k' =>
      cases hmove
      rw [hok.served]
      exact QuotaInv.put (.counting counts sent _ k) hok.alone rfl hinv.bounded (fun h => absurd trivial h)
        (fun _ => ⟨wp_step hwp, hlt, hway⟩)

/-- **The quota of a key is exact along every orderly run**, from any table and any chat state, for any number of requests: in
every state reached no more requests have been served than the limit leaves, and whenever none is in progress, the count has
risen by one for each that was served. -/
theorem quota_exact {s : QuotaState ι} (hkey : keys.keys.HasQuota crypto.sha256KeyHash apiKey m n)
    (h : (quotaMachine env crypto net apiKey requests keys chat).Reach (Orderly env requests) s) :
    n + s.served.length ≤ max m n ∧
      (s.Idle → s.keys.keys.HasQuota crypto.sha256KeyHash apiKey m (n + s.served.length)) := by
  have hinit : QuotaInv env crypto apiKey m n (quotaMachine env crypto net apiKey requests keys chat).init :=
    { bounded := by
        show n + ((0 : Nat) : Int) ≤ max m n
        omega
      counted := fun _ => by
        show keys.keys.HasQuota crypto.sha256KeyHash apiKey m (n + ((0 : Nat) : Int))
        rwa [Nat.cast_zero, add_zero]
      known := fun i hi => hi.elim }
  have hinv : QuotaInv env crypto apiKey m n s := by
    refine Machine.reach_invariant hinit (fun s e s' o hs hok hstep => ?_) h
    obtain ⟨s₁, hmove, heq⟩ := Option.map_eq_some_iff.mp hstep
    cases heq
    exact inv_move hs hok hmove
  exact ⟨hinv.bounded, hinv.counted⟩

end Machine

section Example

def keyForOne : KeyWorld where
  keys :=
    { rows := [{ id := 1, userId := 1, apiKey := "k", keyName := "server", maxRequests := some 1 }]
      unique := by decide }
  users := [{ id := 1 }]

def noNet : Net := ⟨fun _ _ => .ok false, fun _ => .ok none⟩

def twoRequests : Machine (QuotaState (Fin 2)) (QuotaEvent (Fin 2)) Unit :=
  quotaMachine (calmEnv ["openrouter"]) plainCrypto noNet "k"
    (fun _ => { body := { model := "claude", messages := ⟨40, 10⟩, maxTokens := some 1000 } }) keyForOne calmWorld

@[reducible] def OrderlyTwo : QuotaState (Fin 2) → QuotaEvent (Fin 2) → Prop :=
  Orderly (calmEnv ["openrouter"]) fun _ => { body := { model := "claude", messages := ⟨40, 10⟩, maxTokens := some 1000 } }

def moves (i : Fin 2) (count : Nat) : List (QuotaEvent (Fin 2)) := List.replicate count { who := i }

/-- The second request comes when the first has ended … -/
def inTurn : List (QuotaEvent (Fin 2)) := moves 0 65 ++ moves 1 4

/-- … or it comes to its count when the first has read the count and not yet written it. -/
def overlapping : List (QuotaEvent (Fin 2)) := moves 0 58 ++ moves 1 58 ++ moves 0 7 ++ moves 1 7

theorem keyForOne_hasQuota : keyForOne.keys.HasQuota plainCrypto.sha256KeyHash "k" 1 0 :=
  ⟨{ id := 1, userId := 1, apiKey := "k", keyName := "server", maxRequests := some 1 }, by decide, by decide, rfl, rfl⟩

def after (events : List (QuotaEvent (Fin 2))) : QuotaState (Fin 2) :=
  ((twoRequests.run twoRequests.init events).map Prod.fst).getD twoRequests.init

theorem reach_after {ok : QuotaState (Fin 2) → QuotaEvent (Fin 2) → Prop} {events : List (QuotaEvent (Fin 2))}
    (hok : twoRequests.Within ok twoRequests.init events) (hrun : (twoRequests.run twoRequests.init events).isSome) :
    twoRequests.Reach ok (after events) := by
  obtain ⟨⟨s, os⟩, h⟩ := Option.isSome_iff_exists.mp hrun
  refine Machine.reach_of_run .init events os hok ?_
  rw [after, h]
  rfl

/-- In turn the first request is served and counted, and the second one refused. -/
theorem quota_exact_inTurn :
    (after inTurn).served = [0] ∧ (after inTurn).keys.keys.HasQuota plainCrypto.sha256KeyHash "k" 1 (0 + ([0].length : Nat)) := by
  have hserved : (after inTurn).served = [0] := by decide +kernel
  refine ⟨hserved, ?_⟩
  have hreach : twoRequests.Reach OrderlyTwo (after inTurn) := reach_after (by decide +kernel) (by decide +kernel)
  have hexact := (quota_exact keyForOne_hasQuota hreach).2
  have hquota := hexact (by unfold QuotaState.Idle; decide +kernel)
  rwa [hserved] at hquota

/-- Overlapping, both are served with a key for one request, and the count ends at one. -/
theorem both_served :
    twoRequests.Reach (fun _ _ => True) (after overlapping) ∧ (after overlapping).Idle ∧ (after overlapping).served = [0, 1] ∧
      (after overlapping).keys.keys.rows.map KeyRow.requestsUsed = [some 1] := by
  refine ⟨reach_after (by decide +kernel) (by decide +kernel), ?_, by decide +kernel, by decide +kernel⟩
  unfold QuotaState.Idle
  decide +kernel

end Example

end Gatewayz.Keys
