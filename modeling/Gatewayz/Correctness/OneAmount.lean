import Gatewayz.Billing.Served
import Gatewayz.Chat.Streams

/-!
# `Correctness.OneAmount` — one charge, one amount in every book

A request that is billed leaves its amount in five places: the row of `chat_completion_requests`, twice (its cost, and what
input and output have in it), the usage record, the ledger and, when the shadow ledger is on, its settlement.

A response in one piece is recorded by the handler and once more by the route, so there are two completed rows, whatever
they say. A streamed response is recorded by the handler only, and never settled in the shadow ledger.
-/

namespace Gatewayz

open Exec

/-! ## The books -/

/-- What a bill is computed from: the prices of the moment, the request that was served, and with which key. -/
structure Quote where
  prices : PriceBook
  requested : String
  served : String
  tokens : TokenCounts
  provider : String
  byok : Bool

def Quote.bill (config : ChatConfig) (q : Quote) : Except PyErr CostSplit := do
  let split ← lossProofCostSplit config.pricing q.prices q.requested (some q.served) q.tokens (some q.provider)
  pure { split with total := if q.byok then byokRoutingFee config split.total else split.total }

/-- The bill goes through rounding: it is in whole micro-dollars, and so are input and output, which make it up. -/
def Quote.Exact (config : ChatConfig) (q : Quote) : Prop :=
  ∃ cost, q.bill config = .ok cost ∧ round6 cost.total = cost.total ∧ round6 cost.input + round6 cost.output = cost.total

/-- What a request leaves behind. -/
structure Books where
  /-- Was the last provider called with the customer's own key? -/
  byok : Bool := false
  quote : Option Quote := none
  billed : List ℚ := []
  /-- The rows of `chat_completion_requests` with the status `completed`. -/
  completed : List RequestRow := []
  used : List ℚ := []
  ledger : List ℚ := []
  settled : List ℚ := []

/-- The `api_usage` rows that a step has written. -/
def usageRows (w w' : ChatWorld) : List ℚ :=
  ((written w.db w'.db).filter fun t => t.transactionType = .apiUsage).map fun t => -t.amount

/-- What is entered after a step. -/
def Books.enter (env : ChatEnv) (b : Books) (s : ChatStmt) (r : Except ChatErr (ChatRes s)) (w w' : ChatWorld) : Books :=
  match s, r with
  | .bindByok _, .ok byok => { b with byok := byok }
  | .bindByok _, .error _ => { b with byok := false }
  | .lossProofCostSplit requested served tokens provider, _ =>
    { b with quote := some ⟨env.prices w.moment, requested, served, tokens, provider, b.byok⟩ }
  | .deductCredits _ cost _, _ => { b with billed := b.billed ++ [cost], ledger := b.ledger ++ usageRows w w' }
  | .recordUsage row, .ok true => { b with used := b.used ++ [row.cost] }
  | .saveRequest row, .ok true =>
    if row.status = "completed" then { b with completed := b.completed ++ [row.stored] } else b
  | .recordShadowSettlement s, .ok true => { b with settled := b.settled ++ [s.cost] }
  | _, _ => b

/-- All writes succeed: the deduction does and the database carries out its statements, and the records are written. -/
def writesSucceed (env : ChatEnv) (_ : Books) (s : ChatStmt) (o : Outcome ChatErr) (w : ChatWorld) : Prop :=
  match s with
  | .deductCredits apiKey cost metadata =>
    o = .served ∧ (env.deduct apiKey cost metadata w).1 = .ok () ∧
      (deductCredits (env.clock w.moment) apiKey cost (some metadata) none).Admits (setting noNote callSucceeds)
        (env.link w.moment) () w.db
  | .recordUsage row => (answer (chatExec env) (.recordUsage row) o w).1 = .ok true
  | .saveRequest row => (answer (chatExec env) (.saveRequest row) o w).1 = .ok true
  | .recordShadowSettlement s => (answer (chatExec env) (.recordShadowSettlement s) o w).1 = .ok true
  | _ => True

instance decidableWritesSucceed (env : ChatEnv) (b : Books) (s : ChatStmt) (o : Outcome ChatErr) (w : ChatWorld) :
    Decidable (writesSucceed env b s o w) := by
  unfold writesSucceed
  split <;> infer_instance

abbrev bookRuns (env : ChatEnv) : Setting ChatErr ChatStmt ChatRes Books ChatWorld :=
  chatRuns env (Books.enter env) (writesSucceed env)

def Books.Billed (b : Books) : Prop := ∃ cost ∈ b.billed, 1 / 1000000 ≤ cost

/-- One amount in every book. -/
structure OneAmount (shadow : Bool) (b : Books) (row : RequestRow) (amount : ℚ) : Prop where
  completed : b.completed = [row]
  cost : row.costUsd = amount
  parts : row.inputCostUsd + row.outputCostUsd = amount
  used : b.used = [amount]
  ledger : b.ledger = [amount]
  settled : shadow = true → b.settled = [amount]

def ChatStmt.EntersNothing : ChatStmt → Prop
  | .deductCredits _ _ _ => False
  | .recordUsage _ => False
  | .saveRequest row => row.status ≠ "completed"
  | .recordShadowSettlement _ => False
  | _ => True

/-- Nothing has been entered, and the database is as it was. -/
structure Blank (db : World) (b : Books) (w : ChatWorld) : Prop where
  billed : b.billed = []
  completed : b.completed = []
  used : b.used = []
  ledger : b.ledger = []
  settled : b.settled = []
  db : w.db = db

/-- A bill has been entered. -/
structure Entered (config : ChatConfig) (db : World) (apiKey : String) (b : Books) (q : Quote) (cost : CostSplit)
    (row : RequestRow) : Prop where
  quote : b.quote = some q
  bill : q.bill config = .ok cost
  billed : b.billed = [cost.total]
  completed : b.completed = [row]
  total : row.costUsd = round6 cost.total
  input : row.inputCostUsd = round6 cost.input
  output : row.outputCostUsd = round6 cost.output
  used : b.used = [cost.total]
  ledger : b.ledger = if cost.total < 1 / 1000000 ∨ db.ownedByAdmin apiKey then [] else [cost.total]
  settled : b.settled = []

def Recorded (config : ChatConfig) (db : World) (apiKey : String) (b : Books) (w : ChatWorld) : Prop :=
  Blank db b w ∨ ∃ q cost row, Entered config db apiKey b q cost row

/-! ## A response in one piece: two rows -/

variable {α : Type} {row : RequestRow} {E : ChatErr → Books → ChatWorld → Prop}

variable (h : ChatHandler) (d : DispatchParams)

section OnePiece

variable {env : ChatEnv} {b : Books} {w : ChatWorld} {n : Nat}

theorem completed_le_enter (b : Books) (s : ChatStmt) (r : Except ChatErr (ChatRes s)) (w w' : ChatWorld) :
    b.completed.length ≤ (b.enter env s r w w').completed.length := by
  unfold Books.enter
  split
  any_goals exact le_refl _
  split
  · simp
  · exact le_refl _

/-- At least `n` rows are there. -/
def AtLeast (n : Nat) (b : Books) (_ : ChatWorld) : Prop := n ≤ b.completed.length

theorem keeps_atLeast : StepsKeep (bookRuns env) (fun _ => True) (AtLeast n) where
  step := fun _ _ _ _ _ _ h => le_trans h (completed_le_enter _ _ _ _ _)

theorem wp_atLeast (p : ChatProg α) (h : AtLeast n b w) :
    p.wp (bookRuns env) .alone (fun _ => AtLeast n) (fun _ _ _ => True) b w :=
  wp_mono (fun _ _ _ h => h) (fun _ _ _ _ => trivial) (keeps_atLeast.wp ((only_true p).stays) h)

theorem wp_atLeast_bind {α β : Type} {p : ChatProg α} {f : α → ChatProg β} (h : AtLeast n b w)
    (hf : ∀ a b w, AtLeast n b w → (f a).wp (bookRuns env) .alone (fun _ => AtLeast (n + 1)) (fun _ _ _ => True) b w) :
    (p >>= f).wp (bookRuns env) .alone (fun _ => AtLeast (n + 1)) (fun _ _ _ => True) b w := by
  exact wp_seq (wp_atLeast p h) fun a b w h => hf a b w h

theorem wp_saveRequest (hrow : row.status = "completed") {Q : Bool → Books → ChatWorld → Prop}
    (h : ∀ w', Q true { b with completed := b.completed ++ [row.stored] } w') :
    (call (.saveRequest row)).wp (bookRuns env) .alone Q E b w := by
  refine wp_alone_stmt (C := bookRuns env) fun o ho => ?_
  have hr : (answer (chatExec env) (.saveRequest row) o w).1 = .ok true := ho
  have hend : ∀ w', Q true (b.enter env (.saveRequest row) (.ok true) w w') w' := by
    intro w'
    show Q true (if row.status = "completed" then _ else b) w'
    rw [if_pos hrow]
    exact h w'
  rw [hr]
  exact hend _

theorem wp_saveRequest_atLeast (hrow : row.status = "completed") (h : AtLeast n b w) :
    (call (.saveRequest row)).wp (bookRuns env) .alone (fun _ => AtLeast (n + 1)) (fun _ _ _ => True) b w := by
  refine wp_saveRequest hrow fun _ => ?_
  show n + 1 ≤ (b.completed ++ [row.stored]).length
  rw [List.length_append]
  exact Nat.add_le_add_right h 1

theorem wp_settle_atLeast (user : ChatUser) (r : InternalChatRequest) (s : Served) (hn : AtLeast n b w) :
    (h.settle user r s).wp (bookRuns env) .alone (fun _ => AtLeast (n + 1)) (fun _ _ _ => True) b w := by
  unfold ChatHandler.settle
  split
  · trivial
  · refine wp_atLeast_bind hn fun cost b w hn => wp_atLeast_bind hn fun _ b w hn => ?_
    unfold ChatHandler.save
    rw [wp_bind, wp_bind]
    refine wp_post (fun _ b w hn => ?_) (wp_saveRequest_atLeast rfl hn)
    show ((call (.task .buildResponse)) >>= _ : ChatProg InternalChatResponse).wp _ _ _ _ _ _
    rw [wp_bind]
    exact wp_atLeast _ hn

theorem wp_process_atLeast (r : InternalChatRequest) (hn : AtLeast n b w) :
    (h.process r).wp (bookRuns env) .alone (fun _ => AtLeast (n + 1)) (fun _ _ _ => True) b w := by
  refine wp_atLeast_bind hn fun user b w hn => wp_orSaveFailed_any h (some user) r.model "unknown" noTokens ?_
  refine wp_atLeast_bind hn fun maxTokens b w hn => wp_atLeast_bind hn fun served b w hn => ?_
  exact wp_settle_atLeast h user r served hn

theorem wp_nonStreamingAttempt_atLeast (provider : String) (hn : AtLeast n b w) :
    (nonStreamingAttempt d provider).wp (bookRuns env) .alone (fun _ => AtLeast (n + 1)) (fun _ _ _ => True) b w := by
  refine wp_atLeast_bind hn fun r b w hn => wp_atLeast_bind hn fun h b w hn => ?_
  exact wp_seq (wp_process_atLeast h r hn) fun _ _ _ hn => wp_atLeast _ hn

theorem wp_nonStreamingAttempts_atLeast (chain : List String) (b : Books) (w : ChatWorld) :
    (nonStreamingAttempts d chain).wp (bookRuns env) .alone (fun _ => AtLeast 1) (fun _ _ _ => True) b w := by
  induction chain generalizing b w with
  | nil => trivial
  | cons provider rest ih =>
    rw [nonStreamingAttempts, wp_exceptException]
    refine wp_mono (fun _ _ _ h => h) (fun e b w _ => ?_)
      (wp_nonStreamingAttempt_atLeast d provider (Nat.zero_le _ : AtLeast 0 b w))
    cases e with
    | cancelled => trivial
    | generatorExit => trivial
    | exception e =>
      rw [caught_exception, wp_bind]
      refine wp_post (fun _ b w _ => ?_) (wp_alone_anything _ b w)
      dsimp only
      split
      · exact ih b w
      · trivial

/-- The dispatch of a response in one piece leaves a completed row. -/
theorem wp_dispatch_atLeast (config : ChatConfig) (req : ChatRequest) (apiKey : String) (a : Admission) (model : String)
    (hstream : req.stream = false) (b : Books) (w : ChatWorld) :
    (dispatch config req apiKey a model).wp (bookRuns env) .alone
      (fun dispatched b w => (∃ processed sessionId, dispatched = .response processed sessionId) ∧ AtLeast 1 b w)
      (fun _ _ _ => True) b w := by
  refine wp_seq (wp_alone_anything _ b w) fun prepared b w _ => ?_
  obtain ⟨plan, messages, sessionId⟩ := prepared
  dsimp only
  rw [hstream, if_neg Bool.false_ne_true, wp_bind]
  have hattempts : (dispatchNonStreaming ⟨config, apiKey, model, messages, plan.maxTokens⟩ plan.providerChain).wp
      (bookRuns env) .alone (fun _ => AtLeast 1) (fun _ _ _ => True) b w := by
    unfold dispatchNonStreaming
    split
    · trivial
    · exact wp_nonStreamingAttempts_atLeast _ plan.providerChain b w
  refine wp_post (fun processed b w hn => ?_) hattempts
  refine wp_seq (wp_atLeast _ hn) fun _ b w hn => ?_
  refine wp_seq (wp_atLeast _ hn) fun _ b w hn => ?_
  exact wp_seq (wp_atLeast _ hn) fun _ b w hn => ⟨⟨processed, sessionId, rfl⟩, hn⟩

theorem wp_finish_atLeast (config : ChatConfig) (apiKey : String) (a : Admission) (requestId : String)
    (processed : InternalChatResponse) (sessionId : Option Int) (hn : AtLeast n b w) :
    (finish config apiKey a requestId processed sessionId).wp (bookRuns env) .alone (fun _ => AtLeast (n + 1))
      (fun _ _ _ => True) b w := by
  refine wp_atLeast_bind hn fun _ b w hn => wp_atLeast_bind hn fun cost b w hn => ?_
  -- counters, metrics, the conversation
  refine wp_atLeast_bind hn fun _ b w hn => wp_atLeast_bind hn fun _ b w hn => ?_
  refine wp_atLeast_bind hn fun _ b w hn => wp_atLeast_bind hn fun _ b w hn => ?_
  refine wp_atLeast_bind hn fun parts b w hn => ?_
  obtain ⟨input, output⟩ := parts
  exact wp_seq (wp_saveRequest_atLeast rfl hn) fun _ _ _ hn => hn

/-- Two rows for one request. -/
theorem wp_serve_onePiece (config : ChatConfig) (req : ChatRequest) (apiKey : String) (hstream : req.stream = false)
    (b : Books) (w : ChatWorld) :
    (serve config req apiKey).wp (bookRuns env) .alone (fun _ => AtLeast 2) (fun _ _ _ => True) b w := by
  unfold serve chatCompletions
  rw [wp_bind, wp_bind]
  refine wp_post (fun requestId b w _ => ?_) (wp_alone_anything _ b w)
  refine wp_seq (wp_alone_anything _ b w) fun model b w _ => ?_
  refine wp_seq (wp_alone_anything _ b w) fun _ b w _ => ?_
  refine wp_seq (wp_alone_anything _ b w) fun a b w _ => ?_
  rw [wp_bind]
  refine wp_post (fun dispatched b w hn => ?_)
    (wp_underRouteHandlers_any apiKey a.checked (wp_dispatch_atLeast config req apiKey a model hstream b w))
  obtain ⟨⟨processed, sessionId, rfl⟩, hn⟩ := hn
  rw [wp_bind]
  exact wp_post (fun _ _ _ hn => hn)
    (wp_underRouteHandlers_any apiKey false (wp_finish_atLeast config apiKey a requestId processed sessionId hn))

end OnePiece

/-! ## A stream: one bill -/

variable {config : ChatConfig} {apiKey : String}

section Stream

variable {env : ChatEnv} {db : World} {b : Books} {w : ChatWorld}

theorem ChatStmt.EntersNothing.movesNothing {s : ChatStmt} (hs : s.EntersNothing) : s.MovesNothing := by
  unfold MovesNothing
  split
  · exact hs
  · trivial

theorem Blank.enter {s : ChatStmt} {r : Except ChatErr (ChatRes s)} {w' : ChatWorld} (hs : s.EntersNothing)
    (h : Blank db b w) (hdb : w'.db = db) : Blank db (b.enter env s r w w') w' := by
  unfold Books.enter
  split
  · exact ⟨h.billed, h.completed, h.used, h.ledger, h.settled, hdb⟩
  · exact ⟨h.billed, h.completed, h.used, h.ledger, h.settled, hdb⟩
  · exact ⟨h.billed, h.completed, h.used, h.ledger, h.settled, hdb⟩
  · exact hs.elim
  · exact hs.elim
  · rw [if_neg hs]
    exact ⟨h.billed, h.completed, h.used, h.ledger, h.settled, hdb⟩
  · exact hs.elim
  · exact ⟨h.billed, h.completed, h.used, h.ledger, h.settled, hdb⟩

theorem keeps_blank : StepsKeep (bookRuns env) ChatStmt.EntersNothing (Blank db) where
  step := fun _ hs _ o w _ h => h.enter hs (by rw [db_of_movesNothing hs.movesNothing o w, h.db])

theorem wp_blank_bind {α β : Type} {p : ChatProg α} {f : α → ChatProg β} {Q : β → Books → ChatWorld → Prop}
    (hp : p.Stays ChatStmt.EntersNothing fun _ => True) (h : Blank db b w)
    (hf : ∀ a b w, Blank db b w → (f a).wp (bookRuns env) .alone Q (fun _ _ _ => True) b w) :
    (p >>= f).wp (bookRuns env) .alone Q (fun _ _ _ => True) b w := by
  rw [wp_bind]
  exact wp_mono hf (fun _ _ _ _ => trivial) (keeps_blank.wp hp h)

def BlankWith (db : World) (byok : Bool) (b : Books) (w : ChatWorld) : Prop := Blank db b w ∧ b.byok = byok

def ChatStmt.KeepsKey (s : ChatStmt) : Prop := s.EntersNothing ∧ ∀ provider, s ≠ .bindByok provider

variable {byok : Bool}

theorem keeps_blankWith : StepsKeep (bookRuns env) ChatStmt.KeepsKey (BlankWith db byok) where
  step := fun s hs b o w ha h => by
    refine ⟨keeps_blank.step s hs.1 b o w ha h.1, ?_⟩
    have hkey : ∀ r w', (b.enter env s r w w').byok = b.byok := by
      intro r w'
      unfold Books.enter
      split
      any_goals rfl
      · exact absurd rfl (hs.2 _)
      · exact absurd rfl (hs.2 _)
      · split <;> rfl
    rw [← h.2]
    exact hkey _ _

variable (provider : String)

theorem wp_bindByok (h : Blank db b w) :
    (call (.bindByok provider)).wp (bookRuns env) .alone (fun byok => BlankWith db byok) (fun _ => BlankWith db false)
      b w := by
  refine wp_alone_stmt (C := bookRuns env) fun o ho => ?_
  have hblank : Blank db _ _ := keeps_blank.step (.bindByok provider) trivial b o w ho h
  cases hr : (answer (chatExec env) (.bindByok provider) o w).1 with
  | ok byok => rw [hr] at hblank; exact ⟨hblank, rfl⟩
  | error e => rw [hr] at hblank; exact ⟨hblank, rfl⟩

theorem piped_bindByok (h : Blank db b w) :
    Piped (bookRuns env) (BlankWith db) (fun _ => Blank db) (bindByok provider) b w := by
  refine piped_exceptException (piped_call (s := .bindByok provider) trivial ?_)
  refine wp_mono (fun byok b w h => h) (fun e b w h => ?_) (wp_bindByok provider h)
  cases e with
  | exception e => exact piped_ret h
  | cancelled => exact h.1
  | generatorExit => exact h.1

theorem piped_callProviderStream (provider modelId : String) (maxTokens : Option Nat) (h : Blank db b w) :
    Piped (bookRuns env) (fun r => BlankWith db r.2) (fun _ => Blank db) (callProviderStream provider modelId maxTokens)
      b w := by
  refine piped_bind ((piped_bindByok provider h).mono (fun byok b w h => ?_) fun _ _ _ h => h)
  have hcall : (call (.openStream provider modelId maxTokens)).wp (bookRuns env) .alone
      (fun _ => BlankWith db byok) (fun _ => BlankWith db byok) b w :=
    keeps_blankWith.call ⟨trivial, nofun⟩ h
  refine piped_exceptException (piped_bind (piped_call (s := .openStream provider modelId maxTokens) trivial ?_))
  refine wp_mono (fun opened b w h => ?_) (fun e b w h => ?_) hcall
  · cases opened with
    | ok stream => exact piped_ret h
    | error e =>
      refine piped_raise ?_
      show Piped _ _ _ _ _ _
      split <;> exact piped_raise h.1
  · cases e with
    | exception e =>
      show Piped _ _ _ _ _ _
      split <;> exact piped_raise h.1
    | cancelled => exact h.1
    | generatorExit => exact h.1

theorem piped_consumeStream (r : InternalChatRequest) (provider modelId : String)
    (maxTokens : Option Nat) (hb : Blank db b w) :
    Piped (bookRuns env) (fun res => BlankWith db res.1) (fun _ => Blank db) (h.consumeStream r provider modelId maxTokens)
      b w := by
  have hclose : ∀ {J : Books → ChatWorld → Prop}, StepsKeep (bookRuns env) ChatStmt.KeepsKey J → ∀ b w, J b w →
      Piped (bookRuns env) (fun _ => J) (fun _ => J) (quietly (call (.task .closeStream))) b w := by
    intro J hk b w hJ
    refine hk.piped (fun _ => ⟨trivial, nofun⟩) (stays_quietly (stays_call ?_)) hJ
    exact ⟨trivial, nofun⟩
  have hblank : StepsKeep (bookRuns env) ChatStmt.KeepsKey (Blank db) := ⟨fun s hs => keeps_blank.step s hs.1⟩
  refine piped_andFinally (Piped.mono (fun res b w hb => ?_) (fun _ b w hb => ?_)
    (Q := fun res => BlankWith db res.1) (X := fun _ => Blank db) ?_)
  · exact (hclose keeps_blankWith b w hb).mono (fun _ _ _ h => h) fun _ _ _ h => h.1
  · exact hclose hblank b w hb
  · refine piped_bind ((piped_callProviderStream provider modelId maxTokens hb).mono ?_ fun _ _ _ h => h)
    rintro ⟨stream, byok⟩ b w hb
    have hloop : ∀ s : ChatStmt, s.ofStream → s.KeepsKey := by
      intro s hs
      unfold ChatStmt.ofStream at hs
      split at hs <;> first | exact ⟨trivial, nofun⟩ | cases hs
    refine piped_bind ((keeps_blankWith.piped (fun _ => ⟨trivial, nofun⟩)
      (stays_streamChunks hloop h r.model stream.failure {} stream.chunks) hb).mono ?_ fun _ _ _ h => h.1)
    rintro ⟨st, ended⟩ b w hb
    exact piped_ret hb

/-! ### The charge -/

structure Quoted (config : ChatConfig) (db : World) (b : Books) (w : ChatWorld) (q : Quote) (cost : CostSplit) :
    Prop where
  blank : Blank db b w
  quote : b.quote = some q
  bill : q.bill config = .ok cost

theorem wp_bill (hconfig : h.config = env.config) (r : InternalChatRequest)
    (provider modelId : String) (t : TokenCounts) (hb : BlankWith db byok b w) :
    (call (.lossProofCostSplit r.model modelId t provider)).wp (bookRuns env) .alone
      (fun split b w => ∃ q, Quoted h.config db b w q { split with total := h.applyByokFee byok split.total })
      (fun _ => Blank db) b w := by
  refine wp_alone_stmt (C := bookRuns env) fun o ho => ?_
  have hblank := keeps_blank.step (.lossProofCostSplit r.model modelId t provider) trivial b o w ho hb.1
  cases o with
  | dropped e => exact hblank
  | lost e => exact hblank
  | served =>
    have hanswer : (answer (chatExec env) (.lossProofCostSplit r.model modelId t provider) .served w).1 =
        raised (lossProofCostSplit env.config.pricing (env.prices w.moment) r.model (some modelId) t (some provider)) :=
      rfl
    cases hsplit : lossProofCostSplit env.config.pricing (env.prices w.moment) r.model (some modelId) t (some provider) with
    | error e =>
      rw [hsplit] at hanswer
      rw [hanswer] at hblank ⊢
      exact hblank
    | ok split =>
      rw [hsplit] at hanswer
      rw [hanswer] at hblank ⊢
      refine ⟨⟨env.prices w.moment, r.model, modelId, t, provider, b.byok⟩, hblank, rfl, ?_⟩
      unfold Quote.bill
      rw [hconfig]
      simp only [hsplit]
      rw [hb.2]
      show Except.ok _ = Except.ok _
      unfold ChatHandler.applyByokFee
      rw [hconfig]

/-- The charge: the ledger says what was billed, but for an admin. -/
theorem wp_deductCredits_books (apiKey : String) (cost : ℚ) (metadata : Dict) (hb : Blank db b w)
    {Q : Unit → Books → ChatWorld → Prop} (h : ∀ w', Q () { b with

          billed := [cost], ledger := if cost < 1 / 1000000 ∨ db.ownedByAdmin apiKey then [] else [cost] } w') :
    (call (.deductCredits apiKey cost metadata)).wp (bookRuns env) .alone Q E b w := by
  refine wp_alone_stmt (C := bookRuns env) fun o ho => ?_
  obtain ⟨rfl, hok, hadmissions⟩ := ho
  have hrun := wp_run_alone (wp_deductCredits_served (env.clock w.moment) apiKey cost (some metadata) w.db) hadmissions
  obtain ⟨_, hdone⟩ := hrun
  change Answered _ _ (env.deduct apiKey cost metadata w).1 at hdone
  rw [hok] at hdone
  have hdone : Deducted apiKey cost w.db (env.deduct apiKey cost metadata w).2.2 := hdone
  have hledger : usageRows w { w.tick with db := (env.deduct apiKey cost metadata w).2.2 } =
      if cost < 1 / 1000000 ∨ db.ownedByAdmin apiKey then [] else [cost] := by
    unfold usageRows
    unfold Deducted at hdone
    rw [hb.db] at hdone ⊢
    split
    · rename_i hnone
      rw [if_pos hnone] at hdone
      show ((written db (env.deduct apiKey cost metadata w).2.2).filter _).map _ = _
      rw [hdone]
      simp [written]
    · rename_i hsome
      rw [if_neg hsome] at hdone
      obtain ⟨u, row, row', t, hcharge⟩ := hdone
      show ((written db (env.deduct apiKey cost metadata w).2.2).filter _).map _ = _
      rw [hcharge.written_eq]
      simp [World.storedTransaction, hcharge.kind, hcharge.amount]
  show Answered _ _ (raised (env.deduct apiKey cost metadata w).1)
  rw [hok]
  show Q () { b with billed := b.billed ++ [cost], ledger := b.ledger ++ usageRows w _ } _
  rw [hb.billed, hb.ledger, List.nil_append, List.nil_append]
  change Q () { b with billed := [cost], ledger := usageRows w { w.tick with db := _ } } _
  rw [hledger]
  exact h _

theorem wp_recordUsage (row : UsageRow) {Q : Bool → Books → ChatWorld → Prop}
    (h : ∀ w', Q true { b with used := b.used ++ [row.cost] } w') :
    (call (.recordUsage row)).wp (bookRuns env) .alone Q E b w := by
  refine wp_alone_stmt (C := bookRuns env) fun o ho => ?_
  have hr : (answer (chatExec env) (.recordUsage row) o w).1 = .ok true := ho
  have hend : ∀ w', Q true (b.enter env (.recordUsage row) (.ok true) w w') w' := h
  rw [hr]
  exact hend _

/-- From the bill to the row: nothing comes between. -/
theorem piped_settleStream (hconfig : h.config = env.config) (user : ChatUser)
    (r : InternalChatRequest) (provider modelId : String) (st : ChatHandler.StreamState) (hb : BlankWith db byok b w) :
    Piped (bookRuns env) (fun _ b _ => ∃ q cost row, Entered h.config db h.apiKey b q cost row) (fun _ => Blank db)
      (h.settleStream user r provider modelId byok st) b w := by
  refine piped_bind (piped_bind (piped_call (s := .lossProofCostSplit _ _ _ _) trivial ?_))
  refine wp_mono (fun split b w hq => piped_ret ?_) (fun _ _ _ hb => hb) (wp_bill h hconfig r provider modelId _ hb)
  obtain ⟨q, hq⟩ := hq
  refine piped_bind (piped_bind (piped_call (s := .deductCredits _ _ _) trivial ?_))
  refine wp_deductCredits_books h.apiKey _ _ hq.blank fun w => ?_
  refine piped_bind (piped_call (s := .recordUsage _) trivial (wp_recordUsage _ fun w => piped_ret ?_))
  refine piped_bind (piped_call (s := .saveRequest _) trivial (wp_saveRequest rfl fun w => piped_ret ?_))
  have hcompleted : b.completed = [] := hq.blank.completed
  let tokens := st.counts.orEstimated r.messages.chars st.contentChars
  let cost : CostSplit := { split with total := h.applyByokFee byok split.total }
  refine ⟨q, cost, (h.completedRow user r provider tokens cost).stored, ?_⟩
  constructor
  · exact hq.quote
  · exact hq.bill
  · rfl
  · show b.completed ++ [_] = [_]
    rw [hcompleted]
    rfl
  · rfl
  · rfl
  · rfl
  · show b.used ++ [_] = [_]
    rw [hq.blank.used]
    rfl
  · rfl
  · exact hq.blank.settled

/-! ### The attempt -/

theorem piped_orSaveFailed_blank (user : Option ChatUser) (model provider : String)
    (t : TokenCounts) {Q : α → Books → ChatWorld → Prop} {part : ChatProg α}
    (hpart : Piped (bookRuns env) Q (fun _ => Blank db) part b w) :
    Piped (bookRuns env) Q (fun _ => Blank db) (h.orSaveFailed user model provider t part) b w := by
  refine piped_orSaveFailed h user model provider t (hpart.mono (fun _ _ _ hq => hq) fun e b w hb => ?_)
  cases e with
  | exception e => exact keeps_blank.call (by decide : "failed" ≠ "completed") hb
  | cancelled => exact hb
  | generatorExit => exact hb

theorem piped_streamFrom (hconfig : h.config = env.config) (user : ChatUser)
    (r : InternalChatRequest) (provider modelId : String) (maxTokens : Option Nat) (hb : Blank db b w) :
    Piped (bookRuns env) (fun _ b _ => ∃ q cost row, Entered h.config db h.apiKey b q cost row) (fun _ => Blank db)
      (h.streamFrom user r provider modelId maxTokens) b w := by
  refine piped_bind (piped_orSaveFailed_blank h (some user) r.model provider noTokens
    ((piped_consumeStream h r provider modelId maxTokens hb).mono ?_ fun _ _ _ hb => hb))
  rintro ⟨byok, st, ended⟩ b w hb
  refine piped_orSaveFailed_blank h (some user) r.model provider st.counts ?_
  cases ended with
  | ok a => exact piped_settleStream h hconfig user r provider modelId st hb
  | error e => exact piped_throw hb.1

/-- A stream of the handler's ends with a bill, or raises with nothing entered. -/
theorem piped_processStream (hconfig : h.config = env.config) (r : InternalChatRequest) (hb : Blank db b w) :
    Piped (bookRuns env) (fun _ b _ => ∃ q cost row, Entered h.config db h.apiKey b q cost row) (fun _ => Blank db)
      (h.processStream r) b w := by
  refine piped_bind (piped_orSaveFailed_blank h none r.model "unknown" noTokens
    ((keeps_blank.piped (fun _ => trivial) (stays_initializeUserContext trivial) hb).mono ?_ fun _ _ _ hb => hb))
  intro user b w hb
  refine piped_bind (piped_orSaveFailed_blank h (some user) r.model "unknown" noTokens
    ((keeps_blank.piped (fun _ => trivial) (stays_selectForStream (fun _ _ => trivial) trivial trivial) hb).mono ?_
      fun _ _ _ hb => hb))
  rintro ⟨maxTokens, provider, registered⟩ b w hb
  refine piped_bind ?_
  cases registered with
  | some modelId => exact piped_ret (piped_streamFrom h hconfig user r provider modelId maxTokens hb)
  | none =>
    refine piped_orSaveFailed_blank h (some user) r.model provider noTokens ?_
    have hcall : ChatStmt.EntersNothing (.transformModelId r.model provider) := trivial
    refine (keeps_blank.piped (fun _ => trivial) (stays_call hcall) hb).mono ?_ fun _ _ _ hb => hb
    intro modelId b w hb
    exact piped_streamFrom h hconfig user r provider modelId maxTokens hb

def ChatStmt.OfBody : ChatStmt → Prop
  | .send _ => True
  | .releaseConcurrency _ => True
  | _ => False

theorem keeps_recorded : StepsKeep (bookRuns env) ChatStmt.OfBody (Recorded config db apiKey) where
  step := fun s hs b o w ha h => by
    rcases h with hblank | hentered
    · refine .inl (keeps_blank.step s ?_ b o w ha hblank)
      cases s <;> first | exact hs.elim | trivial
    · refine .inr ?_
      have hsame : ∀ r w', b.enter env s r w w' = b := by
        intro r w'
        cases s <;> first | exact hs.elim | rfl
      show ∃ q cost row, Entered config db apiKey (b.enter env s _ w _) q cost row
      rw [hsame]
      exact hentered

def NoSecond (db : World) (started : Bool) (e : ChatErr) (b : Books) (w : ChatWorld) : Prop :=
  ∀ x, e = .exception x → started = true ∨ Blank db b w

theorem noSecond_started {e : ChatErr} : NoSecond db true e b w := fun _ _ => .inl rfl

variable {started : Bool}

theorem noSecond_blank {e : ChatErr} (h : Blank db b w) : NoSecond db started e b w := fun _ _ => .inr h

theorem wpIn_yieldSse_recorded (e : SseEvent) {Q : Bool → Unit → Books → ChatWorld → Prop}
    {X : Bool → ChatErr → Books → ChatWorld → Prop} (hQ : ∀ b w, Recorded config db apiKey b w → Q true () b w)
    (hX : ∀ x b w, Recorded config db apiKey b w → X true x b w) (h : Recorded config db apiKey b w) :
    (call (.yieldSse e)).wpIn clientConsumer (bookRuns env) .alone Q X started b w :=
  wpIn_yieldSse e (wp_mono (fun _ => hQ) hX (keeps_recorded.call trivial h))

theorem wpIn_fromInternalStream_recorded {stream : ChatProg Unit}
    (h : Piped (bookRuns env) (fun _ b _ => ∃ q cost row, Entered config db apiKey b q cost row) (fun _ => Blank db)
      stream b w) :
    (fromInternalStream stream).wpIn clientConsumer (bookRuns env) .alone
      (fun _ _ => Recorded config db apiKey) (NoSecond db) started b w := by
  have happology : ∀ (x : Exc) started b w, Recorded config db apiKey b w →
      ((do call (.yieldSse (.error x.text)); call (.yieldSse .done)) : ChatProg Unit).wpIn clientConsumer (bookRuns env)
        .alone (fun _ _ => Recorded config db apiKey) (NoSecond db) started b w := by
    intro x started b w hb
    rw [wpIn_bind]
    refine wpIn_yieldSse_recorded _ (fun b w hb => ?_) (fun _ _ _ _ => noSecond_started) hb
    exact wpIn_yieldSse_recorded _ (fun _ _ hb => hb) (fun _ _ _ _ => noSecond_started) hb
  unfold fromInternalStream exceptException
  rw [wpIn_tryCatch, wpIn_bind]
  refine wpIn_mono ?_ (fun _ _ _ _ he => he.elim) (h started)
  rintro started ⟨_, ended⟩ b w hended
  cases ended with
  | ok a =>
    refine wpIn_yieldSse_recorded _ (fun _ _ hb => hb) (fun e b w hb => ?_) (.inr hended)
    cases e with
    | exception x => exact happology x true b w hb
    | cancelled => exact fun x hx => by cases hx
    | generatorExit => exact fun x hx => by cases hx
  | error e =>
    cases e with
    | exception x => exact happology x started b w (.inl hended)
    | cancelled => exact fun x hx => by cases hx
    | generatorExit => exact fun x hx => by cases hx

theorem wpIn_streamingAttempt_recorded (hconfig : d.config = env.config) (provider : String) (hb : Blank db b w) :
    (streamingAttempt d provider).wpIn clientConsumer (bookRuns env) .alone
      (fun _ _ => Recorded d.config db d.apiKey) (NoSecond db) started b w := by
  unfold streamingAttempt toInternalRequest newHandler
  rw [wpIn_bind, wpIn_bind]
  refine wpIn_call (s := .task .toInternalRequest) trivial ?_
  refine wp_mono (fun _ b w hb => ?_) (fun _ _ _ hb => noSecond_blank hb) (keeps_blank.call trivial hb)
  rw [Prog.pure_eq, wpIn_ret, wpIn_bind, wpIn_bind]
  refine wpIn_call (s := .newRequestId) trivial ?_
  refine wp_mono (fun requestId b w hb => ?_) (fun _ _ _ hb => noSecond_blank hb) (keeps_blank.call trivial hb)
  rw [Prog.pure_eq, wpIn_ret]
  exact wpIn_fromInternalStream_recorded (piped_processStream ⟨d.config, d.apiKey, requestId⟩ hconfig _ hb)

theorem wp_authStreamAttempts_recorded (hconfig : d.config = env.config) (chain : List String)
    (lastExc : Option Exc) (hb : Blank db b w) :
    (authStreamAttempts d chain lastExc).wp (bookRuns env) .alone (fun _ => Recorded d.config db d.apiKey)
      (fun _ _ _ => True) b w := by
  induction chain generalizing lastExc b w with
  | nil =>
    cases lastExc with
    | none => exact .inl hb
    | some e => trivial
  | cons provider rest ih =>
    rw [authStreamAttempts, wp_bind]
    refine wp_mono ?_ (fun _ _ _ he => he.elim) (wpIn_streamingAttempt_recorded d hconfig provider hb)
    rintro ⟨started, ended⟩ b w hended
    cases ended with
    | ok a => exact hended
    | error e =>
      cases e with
      | cancelled => trivial
      | generatorExit => trivial
      | exception e =>
        have hblank : ¬ started = true → Blank db b w := (hended e rfl).resolve_left
        dsimp only
        split
        · split
          · rename_i hnext
            exact ih (some e) (hblank hnext.1)
          · trivial
        · split
          · rename_i hnext
            exact ih _ (hblank hnext.1)
          · trivial

theorem wp_authStreamWithFailover_recorded (hconfig : d.config = env.config) (chain : List String)
    (checked : Bool) (hb : Blank db b w) :
    (authStreamWithFailover d chain checked).wp (bookRuns env) .alone (fun _ => Recorded d.config db d.apiKey)
      (fun _ _ _ => True) b w := by
  unfold authStreamWithFailover
  rw [wp_andFinally]
  refine wp_mono (fun _ b w hb => ?_) (fun _ b w _ => ?_) (wp_authStreamAttempts_recorded d hconfig chain none hb)
  · have hrelease : ChatStmt.OfBody (.releaseConcurrency d.apiKey) := trivial
    exact wp_mono (fun _ _ _ hb => hb) (fun _ _ _ _ => trivial)
      (keeps_recorded.wp (stays_onlyIf (stays_quietly (stays_call hrelease))) hb)
  · exact wp_alone_anything _ b w

/-! ### The route -/

theorem entersNothing_ofGates (s : ChatStmt) (hs : s.ofGates) : s.EntersNothing := by
  cases s <;> trivial

theorem entersNothing_ofLimiter (s : ChatStmt) (hs : s.ofLimiter) : s.EntersNothing := by
  cases s <;> trivial

/-- A streamed request is served with nothing entered, or with a bill. -/
theorem wp_serve_stream (req : ChatRequest) (apiKey : String) (hstream : req.stream = true) (hb : Blank db b w) :
    (serve env.config req apiKey).wp (bookRuns env) .alone (fun _ => Recorded env.config db apiKey) (fun _ _ _ => True)
      b w := by
  have hchat : (chatCompletions env.config req apiKey).wp (bookRuns env) .alone
      (fun response b w => Blank db b w ∧ ∃ model messages maxTokens chain checked,
        response = .stream (authStreamWithFailover ⟨env.config, apiKey, model, messages, maxTokens⟩ chain checked))
      (fun _ _ _ => True) b w := by
    refine wp_blank_bind (stays_call trivial) hb fun requestId b w hb => ?_
    refine wp_blank_bind (stays_call trivial) hb fun model b w hb => ?_
    refine wp_blank_bind (stays_call trivial) hb fun _ b w hb => ?_
    rw [wp_bind]
    refine wp_post (fun a b w hb => ?_) (wp_underRouteHandlers_any apiKey false
      (wp_mono (fun _ _ _ hb => hb) (fun _ _ _ _ => trivial)
        (keeps_blank.wp (stays_admission entersNothing_ofGates entersNothing_ofLimiter env.config apiKey model trivial) hb)))
    rw [wp_bind]
    refine wp_post (fun dispatched b w hd => ?_) (wp_underRouteHandlers_any apiKey a.checked
      (Q := fun dispatched b w => Blank db b w ∧ ∃ model messages maxTokens chain checked,
        dispatched =
          .stream (authStreamWithFailover ⟨env.config, apiKey, model, messages, maxTokens⟩ chain checked)) ?_)
    · obtain ⟨hb, model, messages, maxTokens, chain, checked, rfl⟩ := hd
      exact ⟨hb, model, messages, maxTokens, chain, checked, rfl⟩
    · unfold dispatch
      refine wp_blank_bind (stays_prepare entersNothing_ofGates req a model) hb fun prepared b w hb => ?_
      obtain ⟨plan, messages, sessionId⟩ := prepared
      dsimp only
      rw [hstream, if_pos rfl]
      exact ⟨hb, model, messages, plan.maxTokens, plan.providerChain, a.checked, rfl⟩
  refine wp_seq hchat fun response b w hresponse => ?_
  obtain ⟨hb, model, messages, maxTokens, chain, checked, rfl⟩ := hresponse
  refine wp_blank_bind (stays_call trivial) hb fun _ b w hb => ?_
  exact wp_seq (wp_authStreamWithFailover_recorded ⟨env.config, apiKey, model, messages, maxTokens⟩ rfl chain checked hb) fun _ _ _ hb => hb

end Stream

/-! ## When the amounts agree -/

theorem Entered.oneAmount_iff {db : World} {b : Books} {q : Quote} {cost : CostSplit}
    (h : Entered config db apiKey b q cost row) (hmin : 1 / 1000000 ≤ cost.total) (shadow : Bool) :
    (∃ row amount, OneAmount shadow b row amount) ↔
      shadow = false ∧ db.ownedByAdmin apiKey = false ∧ ∃ q, b.quote = some q ∧ q.Exact config := by
  have hmin : ¬ cost.total < 1 / 1000000 := not_lt_of_ge hmin
  constructor
  · rintro ⟨row', amount, hone⟩
    obtain rfl : row' = row := by
      have heq := hone.completed.symm.trans h.completed
      injection heq
    obtain rfl : amount = cost.total := by
      have heq := hone.used.symm.trans h.used
      injection heq
    refine ⟨?_, ?_, q, h.quote, cost, h.bill, ?_, ?_⟩
    · by_contra hshadow
      have hsettled := hone.settled (by simpa using hshadow)
      rw [h.settled] at hsettled
      cases hsettled
    · by_contra hadmin
      have hledger := hone.ledger
      rw [h.ledger, if_pos (.inr (by simpa using hadmin))] at hledger
      cases hledger
    · rw [← h.total, hone.cost]
    · rw [← h.input, ← h.output, hone.parts]
  · rintro ⟨hshadow, hadmin, q', hq', cost', hbill', htotal, hparts⟩
    obtain rfl : q' = q := Option.some.inj (hq'.symm.trans h.quote)
    obtain rfl : cost' = cost := by
      have heq := hbill'.symm.trans h.bill
      injection heq
    refine ⟨row, cost'.total, h.completed, ?_, ?_, h.used, ?_, ?_⟩
    · rw [h.total, htotal]
    · rw [h.input, h.output, hparts]
    · rw [h.ledger, if_neg]
      rw [hadmin]
      simpa using hmin
    · rw [hshadow]
      nofun

instance decidableBilled (b : Books) : Decidable b.Billed := inferInstanceAs (Decidable (∃ cost ∈ b.billed, _))

def askOnce (stream : Bool) : ChatRequest :=
  { model := "claude", messages := ⟨40, 10⟩, stream := stream, maxTokens := some 1000 }

end Gatewayz
