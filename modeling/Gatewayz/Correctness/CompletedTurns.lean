import Gatewayz.Chat.AgentLoop

/-!
# `Correctness.CompletedTurns` — what the agent loop keeps of its turns

However its callees answer, the loop makes no more calls than it may, each conversation it sends
answers all tool calls of the model, and what it returns has the tokens and the cost of every call
that was answered. But it does not always return: an answer that cannot be read, a tool call that is
no dictionary, arguments on which `json.loads` raises another exception than its own, a tool that is
cancelled, a token count that is no number, and an inference call that fails after others were
answered, all end the loop with an exception, and nothing is left of the turns before.
-/

namespace Gatewayz.AgentLoop

open StoredPrices (Json)

/-! ## Reading values -/

def IsDict (value : Json) : Prop := ∃ fields, value = .dict fields

def field (value : Json) (key : String) (default : Json := .null) : Json :=
  match value with
  | .dict fields => StoredPrices.get fields key default
  | _ => default

variable {value : Json}

theorem get_eq_ok {key : String} {default x : Json} :
    get value key default = .ok x ↔ IsDict value ∧ field value key default = x := by
  cases value with
  | scalar v => exact ⟨nofun, fun ⟨⟨_, h⟩, _⟩ => nomatch h⟩
  | list xs => exact ⟨nofun, fun ⟨⟨_, h⟩, _⟩ => nomatch h⟩
  | dict fields => simp [get, field, IsDict]

def choiceOf (response : Json) : Json :=
  match first (orElse (field response "choices") (.list [.dict []])) with
  | .ok choice => choice
  | .error _ => .null

def messageOf (response : Json) : Json := orElse (field (choiceOf response) "message") (.dict [])

def usageOf (response : Json) : Json := orElse (field response "usage") (.dict [])

def gatewayUsageOf (response : Json) : Json := orElse (field response "gateway_usage") (.dict [])

def rawCost (response : Json) : Json := orElse (field (gatewayUsageOf response) "cost_usd" (.scalar (.float 0))) (.scalar (.float 0))

def costOf (response : Json) : PyFloat := (toFloat (rawCost response)).toOption.getD 0

/-- The loop can read the answer: where it looks for dictionaries there are dictionaries, and the cost is a number. -/
structure Readable (response : Json) : Prop where
  dict : IsDict response
  choice : IsDict (choiceOf response)
  message : IsDict (messageOf response)
  usage : IsDict (usageOf response)
  gatewayUsage : IsDict (gatewayUsageOf response)
  cost : ∃ x, toFloat (rawCost response) = .ok x

/-- The turn of an answer, before any tool has run. -/
def turnOf (index : Nat) (response : Json) : LoopTurn where
  index := index
  content := field (messageOf response) "content"
  toolCalls := orElse (field (messageOf response) "tool_calls") (.list [])
  promptTokens := orElse (field (usageOf response) "prompt_tokens" zero) zero
  completionTokens := orElse (field (usageOf response) "completion_tokens" zero) zero
  costUsd := costOf response

variable {index : Nat}

theorem readTurn_eq_ok {response : Json} {turn : LoopTurn} :
    readTurn index response = .ok turn ↔ Readable response ∧ turn = turnOf index response := by
  simp only [readTurn, bind_eq_ok, get_eq_ok]
  constructor
  · rintro ⟨_, ⟨hresponse, rfl⟩, choice, hfirst, _, ⟨hchoice, rfl⟩, _, ⟨hmessage, rfl⟩, _, ⟨_, rfl⟩, _, ⟨_, rfl⟩, _, ⟨_, rfl⟩, _,
      ⟨husage, rfl⟩, _, ⟨_, rfl⟩, _, ⟨hgateway, rfl⟩, cost, hcost, hturn⟩
    have heq : choiceOf response = choice := by rw [choiceOf, hfirst]
    subst heq
    have hcostOf : costOf response = cost := by
      rw [costOf, rawCost, gatewayUsageOf, hcost]
      rfl
    refine ⟨⟨hresponse, hchoice, hmessage, husage, hgateway, cost, hcost⟩, ?_⟩
    cases hturn
    rw [turnOf, hcostOf]
    rfl
  · rintro ⟨⟨hresponse, hchoice, hmessage, husage, hgateway, cost, hcost⟩, rfl⟩
    have hfirst : first (orElse (field response "choices") (.list [.dict []])) = .ok (choiceOf response) := by
      obtain ⟨fields, hfields⟩ := hchoice
      cases h : first (orElse (field response "choices") (.list [.dict []])) with
      | ok choice => rw [choiceOf, h]
      | error e =>
        rw [choiceOf, h] at hfields
        cases hfields
    have hcostOf : costOf response = cost := by
      rw [costOf, hcost]
      rfl
    refine ⟨_, ⟨hresponse, rfl⟩, _, hfirst, _, ⟨hchoice, rfl⟩, _, ⟨hmessage, rfl⟩, _, ⟨hmessage, rfl⟩, _, ⟨hresponse, rfl⟩, _,
      ⟨hresponse, rfl⟩, _, ⟨husage, rfl⟩, _, ⟨husage, rfl⟩, _, ⟨hgateway, rfl⟩, cost, hcost, ?_⟩
    rw [turnOf, hcostOf]
    rfl

/-! ## Tool calls -/

def functionOf (toolCall : Json) : Json := orElse (field toolCall "function") (.dict [])

def rawArgumentsOf (toolCall : Json) : Json := orElse (field (functionOf toolCall) "arguments") (.text "\x7b\x7d")

/-- The tool call comes to a result: it is a dictionary, with one for its function, its arguments can be read or are no JSON, and the tool is
    not cancelled. -/
structure Settles (w : Callees) (turn place : Nat) (toolCall : Json) : Prop where
  dict : IsDict toolCall
  function : IsDict (functionOf toolCall)
  arguments : ∀ e, parseArguments w (rawArgumentsOf toolCall) = .error e → e.family = .decodeError
  tool : ∀ args e, parseArguments w (rawArgumentsOf toolCall) = .ok args →
    (w.executor turn place (field (functionOf toolCall) "name" (.text "")) args >>= truncateResult) = .error e →
    e.family ≠ .baseException

def Answers (toolCall reply : Json) : Prop :=
  field reply "role" = .text "tool" ∧ field reply "tool_call_id" = field toolCall "id" (.text "")

theorem answers_toolMessage (toolCall : Json) (content : String) :
    Answers toolCall (toolMessage (field toolCall "id" (.text "")) content) := ⟨rfl, rfl⟩

theorem rawArguments_eq_ok {fn rawArgs : Json} :
    rawArguments fn = .ok rawArgs ↔ IsDict fn ∧ orElse (field fn "arguments") (.text "\x7b\x7d") = rawArgs := by
  simp only [rawArguments, bind_eq_ok, get_eq_ok]
  exact ⟨fun ⟨_, ⟨hfn, hx⟩, hraw⟩ => ⟨hfn, by cases hx; cases hraw; rfl⟩, fun ⟨hfn, hraw⟩ => ⟨_, ⟨hfn, rfl⟩, congrArg _ hraw⟩⟩

theorem executeOne_answers {w : Callees} {turn place : Nat} {toolCall reply : Json}
    (h : executeOne w turn place toolCall = .ok reply) : Answers toolCall reply ∧ Settles w turn place toolCall := by
  simp only [executeOne, bind_eq_ok, get_eq_ok, rawArguments_eq_ok] at h
  obtain ⟨_, ⟨hcall, rfl⟩, _, ⟨_, rfl⟩, _, ⟨hfn, rfl⟩, _, ⟨_, rfl⟩, hrest⟩ := h
  split at hrest
  · next e hparse =>
    by_cases hfamily : e.family = .decodeError
    · rw [if_pos hfamily] at hrest
      cases hrest
      refine ⟨answers_toolMessage .., hcall, hfn, fun e' he' => ?_, fun args e' hargs => ?_⟩
      · cases hparse.symm.trans he'
        exact hfamily
      · cases hparse.symm.trans hargs
    · rw [if_neg hfamily] at hrest
      cases hrest
  · next args hparse =>
    have harguments : ∀ e, parseArguments w (rawArgumentsOf toolCall) = .error e → e.family = .decodeError := by
      intro e he
      cases hparse.symm.trans he
    split at hrest
    · next content htool =>
      cases hrest
      refine ⟨answers_toolMessage .., hcall, hfn, harguments, fun args' e hargs he => ?_⟩
      cases hparse.symm.trans hargs
      cases htool.symm.trans he
    · next e htool =>
      by_cases hfamily : e.family = .baseException
      · rw [if_pos hfamily] at hrest
        cases hrest
      · rw [if_neg hfamily] at hrest
        cases hrest
        refine ⟨answers_toolMessage .., hcall, hfn, harguments, fun args' e' hargs he => ?_⟩
        cases hparse.symm.trans hargs
        cases htool.symm.trans he
        exact hfamily

/-- Which calls come to a result. -/
theorem executeOne_isOk_iff {w : Callees} {turn place : Nat} {toolCall : Json} :
    (∃ reply, executeOne w turn place toolCall = .ok reply) ↔ Settles w turn place toolCall := by
  refine ⟨fun ⟨_, h⟩ => (executeOne_answers h).2, fun ⟨hcall, hfn, harguments, htool⟩ => ?_⟩
  have hget : ∀ key default, get toolCall key default = .ok (field toolCall key default) :=
    fun _ _ => get_eq_ok.mpr ⟨hcall, rfl⟩
  have hgetFn : ∀ key default, get (orElse (field toolCall "function") (.dict [])) key default = .ok (field (functionOf toolCall) key default) :=
    fun _ _ => get_eq_ok.mpr ⟨hfn, rfl⟩
  have hraw : rawArguments (orElse (field toolCall "function") (.dict [])) = .ok (rawArgumentsOf toolCall) :=
    rawArguments_eq_ok.mpr ⟨hfn, rfl⟩
  simp only [executeOne, hget, hgetFn, hraw, bind, Except.bind] at htool ⊢
  cases hparse : parseArguments w (rawArgumentsOf toolCall) with
  | error e => exact ⟨_, if_pos (harguments e hparse)⟩
  | ok args =>
    have hkept := htool args
    dsimp only
    split
    · exact ⟨_, rfl⟩
    · next e he => exact ⟨_, if_neg (hkept e hparse he)⟩

theorem gather_answers {w : Callees} {turn place : Nat} {calls replies : List Json} (h : gather w turn place calls = .ok replies) :
    List.Forall₂ Answers calls replies := by
  induction calls generalizing place replies with
  | nil =>
    cases h
    exact .nil
  | cons call calls ih =>
    simp only [gather, bind_eq_ok] at h
    obtain ⟨reply, hreply, replies', hreplies, hall⟩ := h
    cases hall
    exact .cons (executeOne_answers hreply).1 (ih hreplies)

/-- Which turns come to results: those whose calls all do. -/
theorem gather_isOk_iff {w : Callees} {turn place : Nat} {calls : List Json} :
    (∃ replies, gather w turn place calls = .ok replies) ↔
      ∀ k call, calls[k]? = some call → Settles w turn (place + k) call := by
  induction calls generalizing place with
  | nil => exact ⟨fun _ _ _ h => (nomatch h), fun _ => ⟨[], rfl⟩⟩
  | cons call calls ih =>
    simp only [gather, bind_eq_ok]
    constructor
    · rintro ⟨_, reply, hreply, replies, hreplies, -⟩ k c hk
      cases k with
      | zero =>
        cases hk
        exact (executeOne_answers hreply).2
      | succ k =>
        have hrest := ih.mp ⟨replies, hreplies⟩ k c hk
        rwa [Nat.add_right_comm] at hrest
    · intro hall
      obtain ⟨reply, hreply⟩ := executeOne_isOk_iff.mpr (hall 0 call rfl)
      obtain ⟨replies, hreplies⟩ := ih.mpr fun k c hk => by
        have hk' := hall (k + 1) c hk
        rwa [← Nat.add_assoc, Nat.add_right_comm] at hk'
      exact ⟨_, reply, hreply, replies, hreplies, rfl⟩

/-! ## Conversations -/

def toolCallsOf (message : Json) : List Json :=
  match field message "tool_calls" with
  | .list calls => calls
  | _ => []

/-- A well-formed conversation: behind each message stand the answers to its tool calls, one for each and in their order, and no other
    message has the role of a tool. -/
inductive WellFormed : List Json → Prop where
  | nil : WellFormed []
  | cons {message : Json} {replies rest : List Json} (hrole : field message "role" ≠ .text "tool")
      (hreplies : List.Forall₂ Answers (toolCallsOf message) replies) (hrest : WellFormed rest) : WellFormed (message :: (replies ++ rest))

theorem WellFormed.append {as bs : List Json} (ha : WellFormed as) (hb : WellFormed bs) : WellFormed (as ++ bs) := by
  induction ha with
  | nil => exact hb
  | cons hrole hreplies _ ih =>
    rw [List.cons_append, List.append_assoc]
    exact .cons hrole hreplies ih

theorem wellFormed_turn {message : Json} {replies : List Json} (hrole : field message "role" ≠ .text "tool")
    (hreplies : List.Forall₂ Answers (toolCallsOf message) replies) : WellFormed (message :: replies) := by
  have h := WellFormed.cons hrole hreplies .nil
  rwa [List.append_nil] at h

theorem role_assistantMessage (turn : LoopTurn) : field (assistantMessage turn) "role" ≠ .text "tool" := by
  have hrole : field (assistantMessage turn) "role" = .text "assistant" := rfl
  rw [hrole]
  simp [Json.text]

theorem toolCallsOf_assistantMessage {turn : LoopTurn} {calls : List Json} (h : turn.toolCalls = .list calls) :
    toolCallsOf (assistantMessage turn) = calls := by
  cases calls with
  | nil =>
    rw [assistantMessage, h]
    rfl
  | cons call calls =>
    rw [assistantMessage, h]
    rfl

theorem toolCallsOf_assistantMessage_of_none {turn : LoopTurn} (h : turn.toolCalls.truthy = false) :
    toolCallsOf (assistantMessage turn) = [] := by
  rw [assistantMessage, h]
  rfl

theorem eq_list_of_items {calls : List Json} (h : items value = .ok calls)
    (htrue : value.truthy = true) (hdicts : ∀ call ∈ calls, IsDict call) : value = .list calls := by
  cases value with
  | list xs =>
    cases h
    rfl
  | dict fields =>
    cases h
    cases fields with
    | nil => cases htrue
    | cons entry fields =>
      obtain ⟨_, hentry⟩ := hdicts (.text entry.1) (by simp)
      cases hentry
  | scalar v =>
    cases v with
    | str s =>
      cases h
      cases hs : s.toList with
      | nil =>
        rw [String.toList_eq_nil_iff] at hs
        subst hs
        cases htrue
      | cons c cs =>
        obtain ⟨_, hc⟩ := hdicts (.text c.toString) (by simp [hs])
        cases hc
    | _ => cases h

/-! ## One turn -/

def Finishes (response : Json) : Prop := (turnOf 0 response).toolCalls.truthy = false

/-- What a turn does, if it does not raise: the answer was read, its message stands behind the conversation with the answers to its tool
    calls, and its turn behind the turns. -/
structure TurnTaken (w : Callees) (index : Nat) (s : LoopState) (response : Json) (s' : LoopState) (finished : Bool) : Prop where
  readable : Readable response
  turns : ∃ results, s'.turns = s.turns ++ [{ turnOf index response with toolResults := results }]
  conversation : ∃ added, s'.conversation = s.conversation ++ added ∧ WellFormed added
  finished : finished = true ↔ Finishes response

theorem takeTurn_taken {w : Callees} {s s' : LoopState} {response : Json} {finished : Bool}
    (h : takeTurn w index s response = .ok (s', finished)) : TurnTaken w index s response s' finished := by
  simp only [takeTurn, bind_eq_ok, readTurn_eq_ok] at h
  obtain ⟨_, ⟨hreadable, rfl⟩, hrest⟩ := h
  by_cases htrue : (turnOf index response).toolCalls.truthy = true
  · rw [if_pos htrue] at hrest
    simp only [bind_eq_ok] at hrest
    obtain ⟨calls, hitems, results, hresults, hstate⟩ := hrest
    cases hstate
    have hsettle := gather_isOk_iff.mp ⟨results, hresults⟩
    have hlist := eq_list_of_items hitems htrue fun call hcall => by
      obtain ⟨k, hk⟩ := List.mem_iff_getElem?.mp hcall
      exact (hsettle k call hk).dict
    refine ⟨hreadable, ⟨results, rfl⟩, ⟨_, List.append_assoc .., ?_⟩, fun hf => (nomatch hf), fun hf => ?_⟩
    · refine wellFormed_turn (role_assistantMessage _) ?_
      rw [toolCallsOf_assistantMessage hlist]
      exact gather_answers hresults
    · exact absurd (hf.symm.trans htrue) nofun
  · rw [if_neg htrue] at hrest
    have hfalse := Bool.eq_false_of_not_eq_true htrue
    cases hrest
    refine ⟨hreadable, ⟨[], rfl⟩, ⟨_, rfl, ?_⟩, fun _ => hfalse, fun _ => rfl⟩
    refine wellFormed_turn (role_assistantMessage _) ?_
    rw [toolCallsOf_assistantMessage_of_none hfalse]
    exact .nil

/-- Every tool call of the answer comes to a result: there is none, or they are a list of such calls. -/
def CallsSettle (w : Callees) (index : Nat) (response : Json) : Prop :=
  Finishes response ∨ ∃ calls, (turnOf index response).toolCalls = .list calls ∧ ∀ k call, calls[k]? = some call → Settles w index k call

/-- Which answers end in a turn, whatever came before them. -/
theorem takeTurn_isOk_iff {w : Callees} {index : Nat} {s : LoopState} {response : Json} :
    (∃ r, takeTurn w index s response = .ok r) ↔ Readable response ∧ CallsSettle w index response := by
  simp only [takeTurn, bind_eq_ok, readTurn_eq_ok]
  constructor
  · rintro ⟨_, _, ⟨hreadable, rfl⟩, hrest⟩
    refine ⟨hreadable, ?_⟩
    by_cases htrue : (turnOf index response).toolCalls.truthy = true
    · rw [if_pos htrue] at hrest
      simp only [bind_eq_ok] at hrest
      obtain ⟨calls, hitems, results, hresults, -⟩ := hrest
      have hsettle := gather_isOk_iff.mp ⟨results, hresults⟩
      refine .inr ⟨calls, eq_list_of_items hitems htrue fun call hcall => ?_, fun k call hk => ?_⟩
      · obtain ⟨k, hk⟩ := List.mem_iff_getElem?.mp hcall
        exact (hsettle k call hk).dict
      · have hk' := hsettle k call hk
        rwa [Nat.zero_add] at hk'
    · exact .inl (Bool.eq_false_of_not_eq_true htrue)
  · rintro ⟨hreadable, hcalls⟩
    by_cases htrue : (turnOf index response).toolCalls.truthy = true
    · obtain hnone | ⟨calls, hlist, hsettle⟩ := hcalls
      · exact absurd (hnone.symm.trans htrue) nofun
      · obtain ⟨results, hresults⟩ := (@gather_isOk_iff w index 0 calls).mpr fun k call hk => by
          rw [Nat.zero_add]
          exact hsettle k call hk
        have hitems : items (turnOf index response).toolCalls = .ok calls := by
          rw [hlist]
          rfl
        refine exists_comm.mp ⟨turnOf index response, ?_⟩
        rw [if_pos htrue]
        simp only [bind_eq_ok]
        exact ⟨_, ⟨hreadable, trivial⟩, calls, hitems, results, hresults, rfl⟩
    · refine exists_comm.mp ⟨turnOf index response, ?_⟩
      rw [if_neg htrue]
      exact ⟨_, ⟨hreadable, rfl⟩, rfl⟩

/-! ## Sums -/

def amountOf (value : Json) : ℚ := ((number? value).map Number.amount).getD 0

def tokensOf (key : String) (response : Json) : ℚ := amountOf (field (field response "usage") key)

theorem amountOf_orElse_zero (value : Json) : amountOf (orElse value zero) = amountOf value := by
  rw [orElse]
  split
  · rfl
  · next hfalse =>
    cases value with
    | list xs => rfl
    | dict fields => rfl
    | scalar v => cases v <;> simp_all [amountOf, number?, zero, Json.truthy, PyValue.truthy, Number.amount]

theorem amountOf_usage (response : Json) (key : String) :
    amountOf (orElse (field (usageOf response) key zero) zero) = tokensOf key response := by
  rw [amountOf_orElse_zero, tokensOf, usageOf, orElse]
  split
  · cases field response "usage" with
    | dict fields =>
      rw [field, field, StoredPrices.get, StoredPrices.get]
      cases fields.lookup key <;> rfl
    | scalar v => rfl
    | list xs => rfl
  · next hfalse =>
    cases hu : field response "usage" with
    | dict fields =>
      rw [hu] at hfalse
      cases fields with
      | nil => rfl
      | cons entry fields => exact absurd rfl hfalse
    | scalar v => rfl
    | list xs => rfl

theorem plus_eq_ok {total n : Number} : plus total value = .ok n ↔ ∃ m, number? value = some m ∧ n = total.add m := by
  rw [plus]
  cases number? value with
  | none => exact ⟨nofun, fun ⟨_, h, _⟩ => nomatch h⟩
  | some m => exact ⟨fun h => ⟨m, rfl, (Except.ok.inj h).symm⟩, fun ⟨_, hm, hn⟩ => by cases hm; rw [hn]⟩

variable {values : List Json}

theorem amount_foldlM_plus {total n : Number} (h : values.foldlM plus total = .ok n) :
    n.amount = total.amount + (values.map amountOf).sum := by
  induction values generalizing total with
  | nil =>
    cases h
    simp
  | cons value values ih =>
    rw [List.foldlM_cons, bind_eq_ok] at h
    obtain ⟨total', hplus, hrest⟩ := h
    obtain ⟨m, hm, rfl⟩ := plus_eq_ok.mp hplus
    rw [ih hrest, Number.amount_add, List.map_cons, List.sum_cons, amountOf, hm, ← add_assoc]
    rfl

theorem amount_sumNumbers {n : Number} (h : sumNumbers values = .ok n) : n.amount = (values.map amountOf).sum := by
  rw [amount_foldlM_plus h]
  simp [Number.amount]

variable {total : Number}

theorem foldlM_plus_isOk_iff : (∃ n, values.foldlM plus total = .ok n) ↔ ∀ value ∈ values, (number? value).isSome := by
  induction values generalizing total with
  | nil => exact ⟨fun _ _ h => (nomatch h), fun _ => ⟨total, rfl⟩⟩
  | cons value values ih =>
    simp only [List.foldlM_cons, bind_eq_ok, plus_eq_ok, List.forall_mem_cons]
    constructor
    · rintro ⟨n, _, ⟨m, hm, rfl⟩, hrest⟩
      exact ⟨by rw [hm]; rfl, ih.mp ⟨n, hrest⟩⟩
    · rintro ⟨hvalue, hvalues⟩
      obtain ⟨m, hm⟩ := Option.isSome_iff_exists.mp hvalue
      obtain ⟨n, hn⟩ := (@ih (total.add m)).mpr hvalues
      exact ⟨n, _, ⟨m, hm, rfl⟩, hn⟩

/-! ## The whole loop -/

def completedCalls (calls : List InferenceCall) : List Json := calls.filterMap fun call => call.answer.toOption

def IsTurnOf (response : Json) (turn : LoopTurn) : Prop :=
  ∃ index results, turn = { turnOf index response with toolResults := results }

/-- What the loop has done when it ends: its calls, and the turns it has put behind those it began with. -/
structure LoopEnded (left : Nat) (s : LoopState) (calls : List InferenceCall) (ended : Except Exn (StopReason × LoopState)) : Prop where
  bounded : calls.length ≤ left
  wellFormed : ∀ call ∈ calls, ∃ added, call.sent = s.conversation ++ added ∧ WellFormed added
  last : ∀ k call e, calls[k]? = some call → call.answer = .error e → calls.length = k + 1
  turns : ∀ stop s', ended = .ok (stop, s') → ∃ new, s'.turns = s.turns ++ new ∧
    List.Forall₂ IsTurnOf (completedCalls calls) new ∧
    (stop = .completed ↔ ∃ response, (completedCalls calls).getLast? = some response ∧ Finishes response)

theorem LoopEnded.none {left : Nat} {s : LoopState} {stop : StopReason} (h : stop ≠ .completed) :
    LoopEnded left s [] (.ok (stop, s)) where
  bounded := Nat.zero_le left
  wellFormed := nofun
  last := fun _ _ _ hk => (nomatch hk)
  turns := by
    rintro _ _ ⟨⟩
    exact ⟨[], by simp, .nil, fun hstop => absurd hstop h, fun ⟨_, hlast, _⟩ => (nomatch hlast)⟩

theorem LoopEnded.single {left : Nat} {s : LoopState} {answer : Except Exn Json} {ended : Except Exn (StopReason × LoopState)}
    (h : ∀ stop s', ended = .ok (stop, s') → stop = .completed ∧ ∃ response turn, answer = .ok response ∧ Finishes response ∧
      IsTurnOf response turn ∧ s'.turns = s.turns ++ [turn]) : LoopEnded (left + 1) s [⟨s.conversation, answer⟩] ended where
  bounded := Nat.le_add_left 1 left
  wellFormed := by
    intro call hcall
    rw [List.mem_singleton.mp hcall]
    exact ⟨[], (List.append_nil _).symm, .nil⟩
  last := by
    intro k call e hk _
    cases k with
    | zero => rfl
    | succ k => cases hk
  turns := by
    intro stop s' hended
    obtain ⟨rfl, response, turn, rfl, hfinishes, hturn, hturns⟩ := h stop s' hended
    exact ⟨[turn], hturns, .cons hturn .nil, fun _ => ⟨response, rfl, hfinishes⟩, fun _ => rfl⟩

theorem LoopEnded.next {w : Callees} {index left : Nat} {s s' : LoopState} {response : Json} {calls : List InferenceCall}
    {ended : Except Exn (StopReason × LoopState)} (hturn : TurnTaken w index s response s' false)
    (hrest : LoopEnded left s' calls ended) : LoopEnded (left + 1) s (⟨s.conversation, .ok response⟩ :: calls) ended where
  bounded := Nat.succ_le_succ hrest.bounded
  wellFormed := by
    intro call hcall
    obtain ⟨first, hfirst, hwell⟩ := hturn.conversation
    rcases List.mem_cons.mp hcall with rfl | hcall
    · exact ⟨[], (List.append_nil _).symm, .nil⟩
    · obtain ⟨added, hsent, hadded⟩ := hrest.wellFormed call hcall
      exact ⟨first ++ added, by rw [hsent, hfirst, List.append_assoc], hwell.append hadded⟩
  last := by
    intro k call e hk he
    cases k with
    | zero =>
      cases hk
      cases he
    | succ k => rw [List.length_cons, hrest.last k call e hk he]
  turns := by
    intro stop s'' hended
    obtain ⟨new, hnew, hturns, hstop⟩ := hrest.turns stop s'' hended
    obtain ⟨results, hresults⟩ := hturn.turns
    have hgoes : ¬ Finishes response := fun h => Bool.noConfusion (hturn.finished.mpr h)
    refine ⟨_ :: new, by rw [hnew, hresults, List.append_assoc, List.singleton_append], .cons ⟨index, results, rfl⟩ hturns, ?_⟩
    rw [hstop]
    -- the last answer is one of the rest, or the loop has ended without another call
    change _ ↔ ∃ r, (response :: completedCalls calls).getLast? = some r ∧ Finishes r
    cases hcompleted : completedCalls calls with
    | nil =>
      refine iff_of_false (fun ⟨_, h, _⟩ => (nomatch h)) fun ⟨r, h, hr⟩ => ?_
      cases h
      exact hgoes hr
    | cons r rs => rw [List.getLast?_cons_cons]

theorem loop_ended (w : Callees) (timeoutSeconds : PyFloat) (left index : Nat) (s : LoopState) :
    LoopEnded left s (loop w timeoutSeconds left index s).1 (loop w timeoutSeconds left index s).2 := by
  fun_induction loop w timeoutSeconds left index s with
  | case1 index s => exact .none nofun
  | case2 left index s h => exact .none nofun
  | case3 left index s h answer call e he => exact .single nofun
  | case4 left index s h answer call s' he =>
    refine .single fun stop s'' hended => ?_
    cases hended
    obtain ⟨response, hanswer, htaken⟩ := bind_eq_ok.mp he
    have hturn := takeTurn_taken htaken
    obtain ⟨results, hresults⟩ := hturn.turns
    exact ⟨rfl, response, _, hanswer, hturn.finished.mp rfl, ⟨index, results, rfl⟩, hresults⟩
  | case5 left index s h answer call s' he rest ih =>
    obtain ⟨response, hanswer, htaken⟩ := bind_eq_ok.mp he
    have hnext := LoopEnded.next (takeTurn_taken htaken) ih
    rwa [← hanswer] at hnext

/-- When the loop comes to its end: every call was answered, every answer could be read, and every tool call came to a result. -/
theorem loop_isOk_iff (w : Callees) (timeoutSeconds : PyFloat) (left index : Nat) (s : LoopState) :
    (∃ r, (loop w timeoutSeconds left index s).2 = .ok r) ↔
      ∀ k call, (loop w timeoutSeconds left index s).1[k]? = some call →
        ∃ response, call.answer = .ok response ∧ Readable response ∧ CallsSettle w (index + k) response := by
  fun_induction loop w timeoutSeconds left index s with
  | case1 index s => exact ⟨fun _ _ _ h => (nomatch h), fun _ => ⟨_, rfl⟩⟩
  | case2 left index s h => exact ⟨fun _ _ _ h => (nomatch h), fun _ => ⟨_, rfl⟩⟩
  | case3 left index s h answer call e he =>
    refine iff_of_false (fun ⟨_, h⟩ => (nomatch h)) fun hall => ?_
    obtain ⟨response, hanswer, hharmless⟩ := hall 0 call rfl
    obtain ⟨r, hr⟩ := takeTurn_isOk_iff.mpr hharmless
    cases he.symm.trans (bind_eq_ok.mpr ⟨response, hanswer, hr⟩)
  | case4 left index s h answer call s' he =>
    obtain ⟨response, hanswer, htaken⟩ := bind_eq_ok.mp he
    refine iff_of_true ⟨_, rfl⟩ fun k c hk => ?_
    cases k with
    | zero =>
      cases hk
      exact ⟨response, hanswer, takeTurn_isOk_iff.mp ⟨_, htaken⟩⟩
    | succ k => cases hk
  | case5 left index s h answer call s' he rest ih =>
    obtain ⟨response, hanswer, htaken⟩ := bind_eq_ok.mp he
    rw [ih]
    constructor
    · intro hrest k c hk
      cases k with
      | zero =>
        cases hk
        exact ⟨response, hanswer, takeTurn_isOk_iff.mp ⟨_, htaken⟩⟩
      | succ k =>
        obtain ⟨r, hr, hsettle⟩ := hrest k c hk
        rw [Nat.add_right_comm] at hsettle
        exact ⟨r, hr, hsettle⟩
    · intro hall k c hk
      obtain ⟨r, hr, hsettle⟩ := hall (k + 1) c hk
      rw [← Nat.add_assoc, Nat.add_right_comm] at hsettle
      exact ⟨r, hr, hsettle⟩

/-! ## The whole run -/

def Countable (response : Json) : Prop :=
  (number? (turnOf 0 response).promptTokens).isSome ∧ (number? (turnOf 0 response).completionTokens).isSome

/-- The answer ends in a turn that counts. -/
structure Harmless (w : Callees) (index : Nat) (response : Json) : Prop where
  readable : Readable response
  settles : CallsSettle w index response
  countable : Countable response

/-- Nothing that the turns after it depend on goes wrong in the call at a place: it may only fail to be answered if it is the first. -/
def CallHarmless (w : Callees) (index : Nat) (call : InferenceCall) : Prop :=
  match call.answer with
  | .ok response => Harmless w index response
  | .error _ => index = 0

/-- The run is bounded, well formed and fully accounted. -/
structure Accounted (messages : List Json) (limits : Limits) (run : Run) : Prop where
  bounded : run.calls.length ≤ limits.maxIterations.toNat
  wellFormed : ∀ call ∈ run.calls, ∃ added, call.sent = messages ++ added ∧ WellFormed added
  promptTokens : ∀ r, run.outcome = .ok r → r.totalPromptTokens.amount = ((completedCalls run.calls).map (tokensOf "prompt_tokens")).sum
  completionTokens : ∀ r, run.outcome = .ok r →
    r.totalCompletionTokens.amount = ((completedCalls run.calls).map (tokensOf "completion_tokens")).sum
  cost : ∀ r, run.outcome = .ok r → r.totalCostUsd = ((completedCalls run.calls).map costOf).sum
  stop : ∀ r, run.outcome = .ok r →
    (r.stopReason = .completed ↔ ∃ turn, r.turns.getLast? = some turn ∧ turn.toolCalls.truthy = false)
  kept : completedCalls run.calls ≠ [] → ∃ r, run.outcome = .ok r

variable {responses : List Json}

theorem map_of_turns {β : Type} {f : Json → β} {g : LoopTurn → β}
    (h : ∀ response turn, IsTurnOf response turn → g turn = f response) {turns : List LoopTurn}
    (hturns : List.Forall₂ IsTurnOf responses turns) : turns.map g = responses.map f := by
  induction hturns with
  | nil => rfl
  | cons hturn _ ih => rw [List.map_cons, List.map_cons, h _ _ hturn, ih]

theorem getLast?_turns {turns : List LoopTurn} (hturns : List.Forall₂ IsTurnOf responses turns) :
    (∃ turn, turns.getLast? = some turn ∧ turn.toolCalls.truthy = false) ↔
      ∃ response, responses.getLast? = some response ∧ Finishes response := by
  have hmap : turns.map (·.toolCalls.truthy) = responses.map fun response => (turnOf 0 response).toolCalls.truthy :=
    map_of_turns (fun response turn ⟨_, _, hturn⟩ => by rw [hturn]; rfl) hturns
  have hlast := congrArg List.getLast? hmap
  rw [List.getLast?_map, List.getLast?_map] at hlast
  constructor
  · rintro ⟨turn, hturn, hnone⟩
    rw [hturn, Option.map_some, hnone] at hlast
    exact Option.map_eq_some_iff.mp hlast.symm
  · rintro ⟨response, hresponse, hnone⟩
    rw [hresponse, Option.map_some, hnone] at hlast
    exact Option.map_eq_some_iff.mp hlast

theorem loopResult_eq_ok {stop : StopReason} {s : LoopState} {r : LoopResult} (h : loopResult stop s = .ok r) :
    r.stopReason = stop ∧ r.turns = s.turns ∧ r.totalPromptTokens.amount = (s.turns.map fun turn => amountOf turn.promptTokens).sum ∧
      r.totalCompletionTokens.amount = (s.turns.map fun turn => amountOf turn.completionTokens).sum ∧
      r.totalCostUsd = (s.turns.map (·.costUsd)).sum := by
  simp only [loopResult, bind_eq_ok] at h
  obtain ⟨promptTokens, hprompt, completionTokens, hcompletion, hr⟩ := h
  cases hr
  refine ⟨rfl, rfl, ?_, ?_, List.sum_eq_foldl.symm⟩
  · rw [amount_sumNumbers hprompt, List.map_map]
    rfl
  · rw [amount_sumNumbers hcompletion, List.map_map]
    rfl

theorem loopResult_isOk_iff {stop : StopReason} {s : LoopState} : (∃ r, loopResult stop s = .ok r) ↔
    ∀ turn ∈ s.turns, (number? turn.promptTokens).isSome ∧ (number? turn.completionTokens).isSome := by
  simp only [loopResult, bind_eq_ok]
  have hsum : ∀ f : LoopTurn → Json, (∃ n, sumNumbers (s.turns.map f) = .ok n) ↔ ∀ turn ∈ s.turns, (number? (f turn)).isSome := fun f => by
    rw [sumNumbers, foldlM_plus_isOk_iff, List.forall_mem_map]
  constructor
  · rintro ⟨_, promptTokens, hprompt, completionTokens, hcompletion, -⟩ turn hturn
    exact ⟨(hsum _).mp ⟨_, hprompt⟩ turn hturn, (hsum _).mp ⟨_, hcompletion⟩ turn hturn⟩
  · intro hall
    obtain ⟨promptTokens, hprompt⟩ := (hsum _).mpr fun turn hturn => (hall turn hturn).1
    obtain ⟨completionTokens, hcompletion⟩ := (hsum _).mpr fun turn hturn => (hall turn hturn).2
    exact ⟨_, promptTokens, hprompt, completionTokens, hcompletion, rfl⟩

theorem accounted_of_no_calls (messages : List Json) (limits : Limits) (e : Exn) : Accounted messages limits ⟨[], .error e⟩ where
  bounded := Nat.zero_le _
  wellFormed := nofun
  promptTokens := nofun
  completionTokens := nofun
  cost := nofun
  stop := nofun
  kept := fun h => absurd rfl h

section Run

variable {w : Callees} {messages : List Json} {limits : Limits}

/-- Whatever becomes of the turns: the run is bounded and well formed, and what it returns counts every answer. -/
theorem accounted_of_kept {left : Nat} {calls : List InferenceCall} {ended : Except Exn (StopReason × LoopState)}
    (hended : LoopEnded left { conversation := messages } calls ended) (hleft : left = limits.maxIterations.toNat)
    (hkept : completedCalls calls ≠ [] → ∃ r, (ended >>= fun (stop, s) => loopResult stop s) = .ok r) :
    Accounted messages limits ⟨calls, ended >>= fun (stop, s) => loopResult stop s⟩ := by
  have hreturned : ∀ r, (ended >>= fun (stop, s) => loopResult stop s) = .ok r → ∃ stop s new, ended = .ok (stop, s) ∧
      loopResult stop s = .ok r ∧ s.turns = new ∧ List.Forall₂ IsTurnOf (completedCalls calls) new ∧
      (stop = .completed ↔ ∃ response, (completedCalls calls).getLast? = some response ∧ Finishes response) := by
    intro r hr
    obtain ⟨⟨stop, s⟩, hs, hresult⟩ := bind_eq_ok.mp hr
    obtain ⟨new, hnew, hturns, hstop⟩ := hended.turns stop s hs
    exact ⟨stop, s, new, hs, hresult, hnew, hturns, hstop⟩
  refine ⟨hleft ▸ hended.bounded, hended.wellFormed, fun r hr => ?_, fun r hr => ?_, fun r hr => ?_, fun r hr => ?_, hkept⟩
  all_goals
    obtain ⟨stop, s, new, -, hresult, hnew, hturns, hstop⟩ := hreturned r hr
    obtain ⟨hreason, hturnsEq, hprompt, hcompletion, hcost⟩ := loopResult_eq_ok hresult
  · rw [hprompt, hnew]
    exact congrArg List.sum (map_of_turns (fun response turn ⟨_, _, h⟩ => by rw [h]; exact amountOf_usage response _) hturns)
  · rw [hcompletion, hnew]
    exact congrArg List.sum (map_of_turns (fun response turn ⟨_, _, h⟩ => by rw [h]; exact amountOf_usage response _) hturns)
  · rw [hcost, hnew]
    exact congrArg List.sum (map_of_turns (fun response turn ⟨_, _, h⟩ => by rw [h]; rfl) hturns)
  · rw [hreason, hstop, hturnsEq, hnew]
    exact (getLast?_turns hturns).symm

theorem forall_countable {turns : List LoopTurn} (hturns : List.Forall₂ IsTurnOf responses turns) :
    (∀ turn ∈ turns, (number? turn.promptTokens).isSome ∧ (number? turn.completionTokens).isSome) ↔
      ∀ response ∈ responses, Countable response := by
  induction hturns with
  | nil => exact ⟨fun _ _ h => (nomatch h), fun _ _ h => (nomatch h)⟩
  | cons hturn _ ih =>
    obtain ⟨index, results, rfl⟩ := hturn
    rw [List.forall_mem_cons, List.forall_mem_cons, ih]
    rfl

theorem mem_completedCalls {calls : List InferenceCall} {response : Json} :
    response ∈ completedCalls calls ↔ ∃ (k : Nat) (call : InferenceCall), calls[k]? = some call ∧ call.answer = .ok response := by
  rw [completedCalls, List.mem_filterMap]
  constructor
  · rintro ⟨call, hcall, hresponse⟩
    obtain ⟨k, hk⟩ := List.mem_iff_getElem?.mp hcall
    refine ⟨k, call, hk, ?_⟩
    cases hanswer : call.answer with
    | ok r =>
      rw [hanswer] at hresponse
      cases hresponse
      rfl
    | error e =>
      rw [hanswer] at hresponse
      cases hresponse
  · rintro ⟨k, call, hk, hanswer⟩
    exact ⟨call, List.mem_of_getElem? hk, by rw [hanswer]; rfl⟩

/-- Which calls leave the turns in place. -/
theorem turns_kept_iff (s : LoopState) (hs : s.turns = []) (timeoutSeconds : PyFloat) (left : Nat) :
    (completedCalls (loop w timeoutSeconds left 0 s).1 ≠ [] →
        ∃ r, ((loop w timeoutSeconds left 0 s).2 >>= fun (stop, s) => loopResult stop s) = .ok r) ↔
      ∀ k call, (loop w timeoutSeconds left 0 s).1[k]? = some call → CallHarmless w k call := by
  have hended := loop_ended w timeoutSeconds left 0 s
  have hok := loop_isOk_iff w timeoutSeconds left 0 s
  revert hended hok
  generalize (loop w timeoutSeconds left 0 s).1 = calls
  generalize (loop w timeoutSeconds left 0 s).2 = ended
  intro hended hok
  simp only [Nat.zero_add] at hok
  constructor
  · intro hkept k call hk
    -- once an answer has come, the run returns, and every call has been answered
    have hreturned : ∀ (j : Nat) (other : InferenceCall) response, calls[j]? = some other → other.answer = .ok response →
        ∃ stop s', ended = .ok (stop, s') ∧ ∃ r, loopResult stop s' = .ok r := by
      intro j other response hj hother
      have hne : completedCalls calls ≠ [] := List.ne_nil_of_mem (mem_completedCalls.mpr ⟨j, other, hj, hother⟩)
      obtain ⟨r, hr⟩ := hkept hne
      obtain ⟨⟨stop, s'⟩, hstop, hresult⟩ := bind_eq_ok.mp hr
      exact ⟨stop, s', hstop, r, hresult⟩
    rw [CallHarmless]
    cases hanswer : call.answer with
    | ok response =>
      obtain ⟨stop, s', hstop, hresult⟩ := hreturned k call response hk hanswer
      obtain ⟨response', hanswer', hreadable, hsettles⟩ := hok.mp ⟨_, hstop⟩ k call hk
      cases hanswer.symm.trans hanswer'
      obtain ⟨new, hnew, hturns, -⟩ := hended.turns stop s' hstop
      rw [loopResult_isOk_iff, hnew, hs, List.nil_append, forall_countable hturns] at hresult
      exact ⟨hreadable, hsettles, hresult response (mem_completedCalls.mpr ⟨k, call, hk, hanswer⟩)⟩
    | error e =>
      by_contra hne
      have hlength := (List.getElem?_eq_some_iff.mp hk).1
      have hfirst : calls[0]? = some calls[0] := List.getElem?_eq_getElem _
      cases hanswer0 : calls[0].answer with
      | error e' =>
        have hlast := hended.last 0 calls[0] e' hfirst hanswer0
        omega
      | ok response =>
        obtain ⟨stop, s', hstop, -⟩ := hreturned 0 calls[0] response hfirst hanswer0
        obtain ⟨response', hanswer', -⟩ := hok.mp ⟨_, hstop⟩ k call hk
        cases hanswer.symm.trans hanswer'
  · intro hall hcompleted
    have hanswered : ∀ (k : Nat) (call : InferenceCall), calls[k]? = some call → ∃ response, call.answer = .ok response ∧ Harmless w k response := by
      intro k call hk
      have hcall := hall k call hk
      rw [CallHarmless] at hcall
      cases hanswer : call.answer with
      | ok response =>
        rw [hanswer] at hcall
        exact ⟨response, rfl, hcall⟩
      | error e =>
        rw [hanswer] at hcall
        obtain rfl : k = 0 := hcall
        -- nothing came before the first call, and nothing comes behind a call that fails
        have hlast := hended.last 0 call e hk hanswer
        obtain ⟨response, hresponse⟩ := List.exists_mem_of_ne_nil _ hcompleted
        obtain ⟨j, other, hj, hother⟩ := mem_completedCalls.mp hresponse
        have hlength := (List.getElem?_eq_some_iff.mp hj).1
        obtain rfl : j = 0 := by omega
        cases hj.symm.trans hk
        cases hother.symm.trans hanswer
    obtain ⟨⟨stop, s'⟩, hstop⟩ := hok.mpr fun k call hk => by
      obtain ⟨response, hanswer, hharmless⟩ := hanswered k call hk
      exact ⟨response, hanswer, hharmless.readable, hharmless.settles⟩
    obtain ⟨new, hnew, hturns, -⟩ := hended.turns stop s' hstop
    have hcountable : ∀ turn ∈ s'.turns, (number? turn.promptTokens).isSome ∧ (number? turn.completionTokens).isSome := by
      rw [hnew, hs, List.nil_append, forall_countable hturns]
      intro response hresponse
      obtain ⟨k, call, hk, hanswer⟩ := mem_completedCalls.mp hresponse
      obtain ⟨response', hanswer', hharmless⟩ := hanswered k call hk
      cases hanswer.symm.trans hanswer'
      exact hharmless.countable
    obtain ⟨r, hr⟩ := (@loopResult_isOk_iff stop s').mpr hcountable
    exact ⟨r, bind_eq_ok.mpr ⟨_, hstop, hr⟩⟩

end Run

/-! ## A run that loses a turn -/

/-- A model that calls a tool, for 110 tokens and one dollar, and cannot be reached any more afterwards. -/
def unreachableLater : Callees where
  inference index _ :=
    if index = 0 then
      .ok (.dict
        [("choices", .list [.dict [("message", .dict
            [("tool_calls", .list [.dict [("id", .text "call_1"), ("function", .dict [("name", .text "read_file"), ("arguments", .text "")])]])])]]),
          ("usage", .dict [("prompt_tokens", .scalar (.int 100)), ("completion_tokens", .scalar (.int 10))]),
          ("gateway_usage", .dict [("cost_usd", .scalar (.float 1))])])
    else .error ⟨.exception, "ConnectError", "All connection attempts failed"⟩
  executor _ _ _ _ := .ok { text := some "done", dumps := .ok "\"done\"", str := .ok "done" }
  elapsed _ := 0
  loads _ := .ok (.dict [])

end Gatewayz.AgentLoop
