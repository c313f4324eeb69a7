import Gatewayz.Chat.Steps

/-!
# `Chat.Answer` — whole answers of providers, and `adapters/chat/openai.py`

The handler reads the first choice of a response or chunk, and of it the fields that `ProviderResponse` and `ProviderChunk`
have. Here are the answers as providers send them: any number of choices, each with its index, and reasoning. `seen` is the
part of an answer that the handler sees.
-/

namespace Gatewayz

/-! ## What a provider sends -/

structure AnswerChoice where
  index : Nat
  content : Option String := none
  reasoning : Option String := none
  toolCalls : Option String := none
  finishReason : Option String := some "stop"

structure WholeAnswer where
  choices : List AnswerChoice
  usage : Option ProviderUsage := none

structure DeltaChoice where
  index : Nat
  role : Option String := none
  content : Option String := none
  reasoning : Option String := none
  toolCalls : Option String := none
  finishReason : Option String := none

structure AnswerChunk where
  choices : List DeltaChoice
  distinct : (choices.map DeltaChoice.index).Nodup
  usage : Option ProviderUsage := none

/-! ## What the handler sees -/

def WholeAnswer.seen (a : WholeAnswer) : ProviderResponse where
  usage := a.usage
  choices := a.choices.head?.map fun c => some ⟨c.content, c.finishReason, c.toolCalls⟩

def AnswerChunk.seen (c : AnswerChunk) : ProviderChunk where
  choice := c.choices.head?.map fun d => (some ⟨d.content, d.role, d.toolCalls⟩, d.finishReason)
  usage := c.usage

/-! ## What the client gets -/

/-- A `usage` of the OpenAI API. Cache counts are there if one of them is not zero. -/
structure OpenAiUsage where
  promptTokens : Nat
  completionTokens : Nat
  totalTokens : Nat
  cacheReadInputTokens : Option Nat := none
  cacheCreationInputTokens : Option Nat := none

structure OpenAiChoice where
  index : Nat
  role : String
  content : String
  toolCalls : Option String
  finishReason : String

structure GatewayUsage where
  provider : String
  costUsd : ℚ
  inputCostUsd : ℚ
  outputCostUsd : ℚ

structure OpenAiResponse where
  id : String
  model : String
  choices : List OpenAiChoice
  usage : OpenAiUsage
  gatewayUsage : GatewayUsage

structure OpenAiDelta where
  index : Nat
  role : Option String
  content : Option String
  toolCalls : Option String
  finishReason : Option String

structure OpenAiChunk where
  id : String
  created : Time
  model : String
  choices : List OpenAiDelta
  usage : Option OpenAiUsage

/-! ## `OpenAIChatAdapter` -/

def openAiUsage (u : InternalUsage) : OpenAiUsage where
  promptTokens := u.counts.prompt
  completionTokens := u.counts.completion
  totalTokens := u.totalTokens
  cacheReadInputTokens := if u.counts.cacheRead = 0 ∧ u.counts.cacheWrite = 0 then none else some u.counts.cacheRead
  cacheCreationInputTokens := if u.counts.cacheRead = 0 ∧ u.counts.cacheWrite = 0 then none else some u.counts.cacheWrite

/-- `text or default`. -/
def textOr (text : Option String) (default : String) : String := (text.filter (· ≠ "")).getD default

def fromInternalResponse (r : InternalChatResponse) : OpenAiResponse where
  id := r.id
  model := r.model
  choices := [⟨0, "assistant", r.content, r.toolCalls, textOr r.finishReason "stop"⟩]
  usage := openAiUsage r.usage
  gatewayUsage := ⟨r.providerUsed, round6 r.cost.total, round6 r.cost.input, round6 r.cost.output⟩

/-- A chunk of `from_internal_stream`. -/
def fromInternalChunk (c : InternalStreamChunk) : OpenAiChunk where
  id := c.id
  created := c.created
  model := c.model
  choices := [⟨0, c.role.filter (· ≠ ""), c.content, c.toolCalls, c.finishReason⟩]
  usage := c.usage.map openAiUsage

end Gatewayz
