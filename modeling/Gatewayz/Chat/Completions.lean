import Gatewayz.Chat.Answer
import Gatewayz.Chat.Parameters
import Gatewayz.Chat.Rules

/-!
# `Chat.Completions` — `routes/completions.py`: the completions endpoint on top of the chat endpoint

`create_completion` makes a chat request of its own request, calls `chat_completions` as a function, and makes a completion of what that
returns, provided it is a `dict`. But a route returns what the server is to send, a `JSONResponse` or a `StreamingResponse`; no path of
`chat_completions` returns a `dict`.
-/

namespace Gatewayz.Completions

open Exec Forwarding

/-- `CompletionsRequest`; `extra` are the fields that it does not name. -/
structure CompletionsRequest (J : Type) where
  model : String
  prompt : String ⊕ List String
  maxTokens : Option {i : Int // 1 ≤ i} := none
  temperature : Option (Between 0 2) := none
  topP : Option (Between 0 1) := none
  n : Option {i : Int // 1 ≤ i} := none
  stream : Option Bool := some false
  stop : Option (String ⊕ List String) := none
  presencePenalty : Option ℚ := none
  frequencyPenalty : Option ℚ := none
  seed : Option Int := none
  user : Option String := none
  suffix : Option String := none
  echo : Option Bool := none
  logprobs : Option Int := none
  bestOf : Option Int := none
  extra : List (String × J) := []

variable {J : Type}

/-! ## The request -/

/-- `normalize_prompt`: the first prompt, with a warning if there are others. -/
def normalizePrompt : String ⊕ List String → ChatProg (String × List String)
  | .inl prompt => pure (prompt, [])
  | .inr [] => raise (.httpException 400 "prompt must not be empty")
  | .inr [prompt] => pure (prompt, [])
  | .inr (prompt :: rest) =>
    pure (prompt, [toString (rest.length + 1) ++ " prompts supplied; only the first was used. Batched prompts are not supported via " ++
      "the chat pipeline — send separate requests."])

def unsupportedParams (req : CompletionsRequest J) : List String :=
  (if req.suffix.isSome then ["suffix"] else []) ++ (if req.echo = some true then ["echo"] else []) ++
    (if req.logprobs.isSome then ["logprobs (integer form)"] else []) ++ if req.bestOf.any (1 < ·) then ["best_of"] else []

def droppedWarning (req : CompletionsRequest J) : List String :=
  if unsupportedParams req = [] then []
  else ["Parameters with no chat-completions equivalent were ignored: " ++ ", ".intercalate (unsupportedParams req)]

/-- A number that a field of `ProxyRequest` accepts. -/
def between? (lo hi q : ℚ) : Option (Between lo hi) := if h : lo ≤ q ∧ q ≤ hi then some ⟨q, h⟩ else none

/-- `ProxyRequest(…)`, if its validators accept it. -/
def toProxyRequest (req : CompletionsRequest J) (promptText : String) : Option (ProxyRequest J) := do
  let presence ← req.presencePenalty.mapM (between? (-2) 2)
  let frequency ← req.frequencyPenalty.mapM (between? (-2) 2)
  if strip promptText.toList = [] ∨ (req.stop.bind Sum.getRight?).any fun texts => 4 < texts.length then none
  else
    some
      { model := req.model, messages := [{ role := .user, content := some (.text promptText) }],
        maxTokens := req.maxTokens.map Subtype.val, temperature := req.temperature, topP := req.topP, stop := req.stop,
        seed := req.seed, user := req.user, stream := some false, presencePenalty := presence, frequencyPenalty := frequency }

/-! ## The response -/

/-- A choice of a chat response, with what a `dict` may lack. -/
structure ChatChoice where
  index : Option Nat
  content : Option String
  finishReason : Option (Option String)

structure ChatDict where
  model : Option String
  choices : Option (List ChatChoice)
  usage : Option OpenAiUsage

inductive Returned where
  | dict (response : ChatDict)
  | jsonResponse (content : OpenAiResponse)
  | streamingResponse

/-- What `chat_completions` returns. -/
def returned : ChatResponse → Returned
  | .json response _ => .jsonResponse (fromInternalResponse response)
  | .stream _ => .streamingResponse

structure CompletionChoice where
  index : Nat
  text : String
  finishReason : Option String

structure Completion where
  id : String
  model : String
  choices : List CompletionChoice
  usage : Option OpenAiUsage
  warnings : List String := []

def chatResponseToCompletion (response : ChatDict) (model completionId : String) : Completion where
  id := completionId
  model := response.model.getD model
  choices := (response.choices.getD []).map fun choice =>
    ⟨choice.index.getD 0, choice.content.getD "", choice.finishReason.getD (some "stop")⟩
  usage := response.usage

/-! ## The endpoint -/

section Endpoint

variable (chat : ProxyRequest J → ChatProg ChatResponse) (completionId : String) (req : CompletionsRequest J)

/-- What the endpoint makes of what it is returned. -/
def toCompletion (warnings : List String) : Returned → ChatProg Completion
  | .streamingResponse => raise (.httpException 500 "unexpected streaming response")
  | .jsonResponse _ => raise (.httpException 500 "unexpected upstream response shape")
  | .dict response => pure { chatResponseToCompletion response req.model completionId with warnings := warnings }

/-- `create_completion`, on any chat endpoint. -/
def createCompletion : ChatProg Completion := do
  let (promptText, warnings) ← normalizePrompt req.prompt
  if req.stream.getD false then raise (.httpException 400 "streaming_not_supported")
  else
    match toProxyRequest req promptText with
    | none => raise (.valueError "validation error for ProxyRequest")
    | some proxyRequest => do
      let result ← chat proxyRequest
      toCompletion completionId req (warnings ++ droppedWarning req) (returned result)

end Endpoint

/-- `chat_completions`, of a signed-in user; `measure` counts characters and tokens. -/
def chatOfUser (config : ChatConfig) (measure : List (Message J) → ChatMessages) (apiKey : String) (proxy : ProxyRequest J) :
    ChatProg ChatResponse :=
  chatCompletions config
    { model := proxy.model, messages := measure proxy.messages, stream := proxy.streamed, maxTokens := proxy.maxTokens.map Int.toNat }
    apiKey

end Gatewayz.Completions
