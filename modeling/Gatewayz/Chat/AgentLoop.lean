import Gatewayz.Catalog.StoredPrices

/-!
# `Chat.AgentLoop` — the loop that runs tools for its caller

`services/agent_loop.py`. A model is asked, the tools it calls are run, what they say is put behind its message, and it is asked again: until
it calls no tool, its turns are used up or the time is over.

Inference and tools are the caller's, and what they answer is untyped: a value of any shape may stand where the loop reads a dictionary. What
reading it raises leaves the loop, unless a handler of `_execute_one` stands around it.
-/

namespace Gatewayz.AgentLoop

open StoredPrices (Json)

/-! ## Exceptions and values -/

/-- The exceptions that some `except` of the loop tells apart. -/
inductive Family where
  /-- `json.JSONDecodeError` -/
  | decodeError
  /-- Another `TypeError` or `ValueError`. -/
  | typeOrValueError
  | exception
  /-- No `Exception`: a cancellation, an interrupt or an exit. -/
  | baseException
  deriving DecidableEq

/-- An exception, with the name of its class and its `str`. -/
structure Exn where
  family : Family
  name : String
  text : String

/-- `type(value).__name__` -/
def typeName : Json → String
  | .scalar .none => "NoneType"
  | .scalar (.bool _) => "bool"
  | .scalar (.int _) => "int"
  | .scalar (.float _) => "float"
  | .scalar (.str _) => "str"
  | .list _ => "list"
  | .dict _ => "dict"

def typeError (text : String) : Exn := ⟨.typeOrValueError, "TypeError", text⟩

/-- `value.get(key, default)` -/
def get (value : Json) (key : String) (default : Json := .null) : Except Exn Json :=
  match value with
  | .dict fields => .ok (StoredPrices.get fields key default)
  | _ => .error ⟨.exception, "AttributeError", "'" ++ typeName value ++ "' object has no attribute 'get'"⟩

/-- `value or default` -/
def orElse (value default : Json) : Json := if value.truthy then value else default

/-- `value[0]` -/
def first : Json → Except Exn Json
  | .list (x :: _) => .ok x
  | .list [] => .error ⟨.exception, "IndexError", "list index out of range"⟩
  | .dict _ => .error ⟨.exception, "KeyError", "0"⟩
  | .scalar (.str s) =>
    match s.toList with
    | c :: _ => .ok (.text c.toString)
    | [] => .error ⟨.exception, "IndexError", "string index out of range"⟩
  | value => .error (typeError ("'" ++ typeName value ++ "' object is not subscriptable"))

/-- `iter(value)`: the keys of a dictionary, the characters of a text. -/
def items : Json → Except Exn (List Json)
  | .list xs => .ok xs
  | .dict fields => .ok (fields.map fun field => .text field.1)
  | .scalar (.str s) => .ok (s.toList.map fun c => .text c.toString)
  | value => .error (typeError ("'" ++ typeName value ++ "' object is not iterable"))

/-- What `float` raises, with the name of its class. -/
def ofPyErr (e : PyErr) : Exn :=
  match e.kind with
  | .typeError => ⟨.typeOrValueError, "TypeError", e.text⟩
  | .valueError => ⟨.typeOrValueError, "ValueError", e.text⟩
  | _ => ⟨.exception, "OverflowError", e.text⟩

/-- `float(value)` -/
def toFloat : Json → Except Exn PyFloat
  | .scalar v => (StoredPrices.toFloat v).mapError ofPyErr
  | value => .error (typeError ("float() argument must be a string or a real number, not '" ++ typeName value ++ "'"))

/-! ## Sums -/

inductive Number where
  | int (n : Int)
  | float (q : ℚ)

namespace Number

def amount : Number → ℚ
  | int n => n
  | float q => q

/-- `a + b` -/
def add : Number → Number → Number
  | int a, int b => int (a + b)
  | a, b => float (a.amount + b.amount)

def typeName : Number → String
  | int _ => "int"
  | float _ => "float"

@[simp] theorem amount_add (a b : Number) : (a.add b).amount = a.amount + b.amount := by
  cases a <;> cases b <;> simp [add, amount]

end Number

/-- The number that a value is, if it is one. -/
def number? : Json → Option Number
  | .scalar (.bool b) => some (.int (if b then 1 else 0))
  | .scalar (.int n) => some (.int n)
  | .scalar (.float q) => some (.float q)
  | _ => none

/-- One addition of a `sum`. -/
def plus (total : Number) (value : Json) : Except Exn Number :=
  match number? value with
  | some n => .ok (total.add n)
  | none => .error (typeError ("unsupported operand type(s) for +: '" ++ total.typeName ++ "' and '" ++ typeName value ++ "'"))

/-- `sum(values)` -/
def sumNumbers (values : List Json) : Except Exn Number := values.foldlM plus (.int 0)

/-- `a + b` of two floats. -/
def addFloat : PyFloat → PyFloat → PyFloat
  | .finite p, .finite q => .finite (p + q)
  | .nan, _ => .nan
  | _, .nan => .nan
  | .infinite a, .infinite b => if a = b then .infinite a else .nan
  | .infinite a, .finite _ => .infinite a
  | .finite _, .infinite b => .infinite b

instance : Add PyFloat := ⟨addFloat⟩

instance : Zero PyFloat := ⟨.finite 0⟩

instance : Std.Associative (α := PyFloat) (· + ·) where
  assoc x y z := by
    rcases x with p | (_ | _) | _ <;> rcases y with q | (_ | _) | _ <;> rcases z with r | (_ | _) | _ <;>
      first
      | rfl
      | exact congrArg PyFloat.finite (add_assoc p q r)

instance : Std.LawfulIdentity (α := PyFloat) (· + ·) 0 where
  left_id x := by
    cases x with
    | finite q => exact congrArg PyFloat.finite (zero_add q)
    | infinite negative => rfl
    | nan => rfl
  right_id x := by
    cases x with
    | finite q => exact congrArg PyFloat.finite (add_zero q)
    | infinite negative => rfl
    | nan => rfl

/-- `elapsed > limit` -/
def exceeds (elapsed : ℚ) : PyFloat → Bool
  | .finite limit => limit < elapsed
  | .infinite negative => negative
  | .nan => false

/-! ## Callees -/

/-- What a tool returns, as far as the loop looks at it: its text if it is one, `json.dumps` of it and `str` of it. -/
structure ToolValue where
  text : Option String := none
  dumps : Except Exn String
  str : Except Exn String

/-- The callees in one run, by the turn they are called in, and a tool also by the place of its call among those that run side by side:
    what they answer may depend on what they were told and on anything that has happened before. `elapsed` is the clock since the
    start, and `loads` is `json.loads`. -/
structure Callees where
  inference : Nat → List Json → Except Exn Json
  executor : Nat → Nat → Json → Json → Except Exn ToolValue
  elapsed : Nat → ℚ
  loads : String → Except Exn Json

/-! ## One tool call -/

def maxToolResultChars : Nat := 20000

/-- `_truncate_result`. What is raised but no `TypeError` or `ValueError` is left to `_execute_one`. -/
def truncateResult (value : ToolValue) : Except Exn String := do
  let text ←
    match value.text, value.dumps with
    | some text, _ => pure text
    | none, .ok text => pure text
    | none, .error e => if e.family = .decodeError ∨ e.family = .typeOrValueError then value.str else .error e
  if text.length ≤ maxToolResultChars then pure text
  else
    pure (String.ofList (text.toList.take maxToolResultChars) ++ "\n\n[truncated: " ++ toString (text.length - maxToolResultChars) ++
      " more characters not shown]")

/-- A message of the role `tool`. -/
def toolMessage (callId : Json) (content : String) : Json :=
  .dict [("role", .text "tool"), ("tool_call_id", callId), ("content", .text content)]

/-- The arguments of a call: a text is parsed, and any other value is taken as it is. -/
def parseArguments (w : Callees) : Json → Except Exn Json
  | .scalar (.str s) => w.loads s
  | rawArgs => .ok rawArgs

/-- `fn.get("arguments") or "{}"` -/
def rawArguments (fn : Json) : Except Exn Json := do
  let arguments ← get fn "arguments"
  pure (orElse arguments (.text "\x7b\x7d"))

/-- The text of a raw value that could not be parsed; only texts are parsed. -/
def shownArguments : Json → String
  | .scalar (.str s) => String.ofList (s.toList.take 200)
  | _ => ""

/-- `_execute_one`: the call at a place of a turn. -/
def executeOne (w : Callees) (turn place : Nat) (toolCall : Json) : Except Exn Json := do
  let callId ← get toolCall "id" (.text "")
  let function ← get toolCall "function"
  let fn := orElse function (.dict [])
  let name ← get fn "name" (.text "")
  let rawArgs ← rawArguments fn
  match parseArguments w rawArgs with
  | .error e =>
    if e.family = .decodeError then
      pure (toolMessage callId ("Error: could not parse arguments as JSON (" ++ e.text ++ "). Received: " ++ shownArguments rawArgs))
    else throw e
  | .ok args =>
    match w.executor turn place name args >>= truncateResult with
    | .ok content => pure (toolMessage callId content)
    | .error e =>
      if e.family = .baseException then throw e else pure (toolMessage callId ("Error: " ++ e.name ++ ": " ++ e.text))

/-- `asyncio.gather`: the results in the order of the calls. Where several raise, the exception is that of one of them. -/
def gather (w : Callees) (turn : Nat) : Nat → List Json → Except Exn (List Json)
  | _, [] => pure []
  | place, call :: calls => do
    let result ← executeOne w turn place call
    let results ← gather w turn (place + 1) calls
    pure (result :: results)

/-! ## One turn -/

structure LoopTurn where
  index : Nat
  content : Json
  toolCalls : Json
  toolResults : List Json := []
  promptTokens : Json
  completionTokens : Json
  costUsd : PyFloat

def zero : Json := .scalar (.int 0)

/-- What the loop reads of an answer. -/
def readTurn (index : Nat) (response : Json) : Except Exn LoopTurn := do
  let choices ← get response "choices"
  let choice ← first (orElse choices (.list [.dict []]))
  let message ← get choice "message"
  let message := orElse message (.dict [])
  let content ← get message "content"
  let toolCalls ← get message "tool_calls"
  let usage ← get response "usage"
  let usage := orElse usage (.dict [])
  let gatewayUsage ← get response "gateway_usage"
  let gatewayUsage := orElse gatewayUsage (.dict [])
  let promptTokens ← get usage "prompt_tokens" zero
  let completionTokens ← get usage "completion_tokens" zero
  let costUsd ← get gatewayUsage "cost_usd" (.scalar (.float 0))
  let cost ← toFloat (orElse costUsd (.scalar (.float 0)))
  pure
    { index := index
      content := content
      toolCalls := orElse toolCalls (.list [])
      promptTokens := orElse promptTokens zero
      completionTokens := orElse completionTokens zero
      costUsd := cost }

/-- The message that is put behind the conversation for a turn. -/
def assistantMessage (turn : LoopTurn) : Json :=
  .dict ([("role", .text "assistant"), ("content", turn.content)] ++
    if turn.toolCalls.truthy then [("tool_calls", turn.toolCalls)] else [])

structure LoopState where
  conversation : List Json
  turns : List LoopTurn := []
  finalContent : Json := .text ""

/-- The body of the loop behind the inference call: the state after it, and whether the model has finished. -/
def takeTurn (w : Callees) (index : Nat) (s : LoopState) (response : Json) : Except Exn (LoopState × Bool) := do
  let turn ← readTurn index response
  let conversation := s.conversation ++ [assistantMessage turn]
  if turn.toolCalls.truthy then
    let calls ← items turn.toolCalls
    let results ← gather w index 0 calls
    pure
      ({ conversation := conversation ++ results
         turns := s.turns ++ [{ turn with toolResults := results }]
         finalContent := orElse turn.content s.finalContent }, false)
  else
    pure ({ conversation := conversation, turns := s.turns ++ [turn], finalContent := orElse turn.content (.text "") }, true)

/-! ## The loop -/

inductive StopReason where
  | completed
  | maxIterations
  | timeout

/-- An inference call: the conversation that was sent, and the answer. -/
structure InferenceCall where
  sent : List Json
  answer : Except Exn Json

/-- The loop, with so many turns left: its inference calls, and how it ended. -/
def loop (w : Callees) (timeoutSeconds : PyFloat) : Nat → Nat → LoopState → List InferenceCall × Except Exn (StopReason × LoopState)
  | 0, _, s => ([], .ok (.maxIterations, s))
  | left + 1, index, s =>
    if exceeds (w.elapsed index) timeoutSeconds then ([], .ok (.timeout, s))
    else
      let answer := w.inference index s.conversation
      let call : InferenceCall := ⟨s.conversation, answer⟩
      match answer >>= takeTurn w index s with
      | .error e => ([call], .error e)
      | .ok (s', true) => ([call], .ok (.completed, s'))
      | .ok (s', false) =>
        let rest := loop w timeoutSeconds left (index + 1) s'
        (call :: rest.1, rest.2)

structure LoopResult where
  content : Json
  turns : List LoopTurn
  stopReason : StopReason
  totalPromptTokens : Number
  totalCompletionTokens : Number
  totalCostUsd : PyFloat

/-- What is returned after the loop. -/
def loopResult (stopReason : StopReason) (s : LoopState) : Except Exn LoopResult := do
  let promptTokens ← sumNumbers (s.turns.map (·.promptTokens))
  let completionTokens ← sumNumbers (s.turns.map (·.completionTokens))
  pure ⟨s.finalContent, s.turns, stopReason, promptTokens, completionTokens, (s.turns.map (·.costUsd)).foldl (· + ·) 0⟩

def defaultMaxIterations : Int := 10

def maxIterationsCeiling : Int := 25

def defaultTimeoutSeconds : PyFloat := .finite 300

structure Limits where
  maxIterations : Int := defaultMaxIterations
  timeoutSeconds : PyFloat := defaultTimeoutSeconds

/-- A run: its inference calls, and what it returns or raises. -/
structure Run where
  calls : List InferenceCall
  outcome : Except Exn LoopResult

def agentLoopError (text : String) : Exn := ⟨.exception, "AgentLoopError", text⟩

/-- `run_agent_loop`. The model, the tools and what else inference is told are the same at every call, and are left out. -/
def runAgentLoop (w : Callees) (messages : List Json) (limits : Limits) : Run :=
  if limits.maxIterations < 1 then ⟨[], .error (agentLoopError "max_iterations must be at least 1")⟩
  else if maxIterationsCeiling < limits.maxIterations then
    ⟨[], .error (agentLoopError ("max_iterations " ++ toString limits.maxIterations ++ " exceeds the ceiling of " ++
      toString maxIterationsCeiling ++ ". An unbounded server-side loop turns one request into an open-ended bill."))⟩
  else
    let ended := loop w limits.timeoutSeconds limits.maxIterations.toNat 0 { conversation := messages }
    ⟨ended.1, ended.2 >>= fun (stopReason, s) => loopResult stopReason s⟩

end Gatewayz.AgentLoop
