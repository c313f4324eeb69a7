import Gatewayz.Chat.Handler

/-!
# `Chat.Dispatch` — `OpenAIChatAdapter` and `routes/chat_dispatch.py`, for signed-in users

* `dispatchNonStreaming` takes every exception of an attempt as the provider's, whatever the attempt had done by then, and
  goes on if the status allows it;
* `authStreamWithFailover` reads the handler's stream through the adapter, which answers an exception with an error event
  of its own.
-/

namespace Gatewayz

open Exec

/-! ## The adapter -/

structure DispatchParams where
  config : ChatConfig
  apiKey : String
  model : String
  messages : ChatMessages
  maxTokens : Option Nat

/-- `to_internal_request`, and the provider of the attempt. -/
def toInternalRequest (d : DispatchParams) (stream : Bool) (provider : String) : ChatProg InternalChatRequest := do
  call (.task .toInternalRequest)
  pure ⟨d.messages, d.model, stream, d.maxTokens, some provider⟩

/-- `ChatInferenceHandler(api_key, …)`: the request id is new. -/
def newHandler (d : DispatchParams) : ChatProg ChatHandler := do
  let requestId ← call .newRequestId
  pure ⟨d.config, d.apiKey, requestId⟩

/-- The adapter reads the handler's stream: a chunk becomes an event. -/
def sseConsumer : Consumer Unit ChatErr ChatStmt ChatRes
  | _, .yieldChunk c => some ((), call (.yieldSse (.chunk c)))
  | _, _ => none

/-- `from_internal_stream`. An exception of the stream ends it with an error event. -/
def fromInternalStream (stream : ChatProg Unit) : ChatProg Unit :=
  exceptException
    (do
      let ((), ended) ← stream.within sseConsumer ()
      match ended with
      | .ok () => call (.yieldSse .done)
      | .error e => throw e)
    fun e => do
      call (.yieldSse (.error e.text))
      call (.yieldSse .done)

/-! ## One piece -/

section Dispatch

variable (d : DispatchParams)

/-- One attempt: the handler's answer, converted, traced and counted. -/
def nonStreamingAttempt (provider : String) : ChatProg InternalChatResponse := do
  let r ← toInternalRequest d false provider
  let h ← newHandler d
  let response ← h.process r
  call (.task .fromInternalResponse)
  call (.task .traceInference)
  call (.task .inferenceMetrics)
  pure response

/-- The failover loop. -/
def nonStreamingAttempts : List String → ChatProg InternalChatResponse
  | [] => raise (.httpException 502 "Upstream error")
  | provider :: rest =>
    exceptException (nonStreamingAttempt d provider) fun e => do
      call (.task .errorMetric)
      let httpExc := mapProviderError provider d.model e
      if rest ≠ [] ∧ shouldFailover httpExc then nonStreamingAttempts rest else raise httpExc

def dispatchNonStreaming (providerChain : List String) : ChatProg InternalChatResponse :=
  if providerChain = [] then raise (.httpException 502 ("No providers available for model " ++ d.model))
  else nonStreamingAttempts d providerChain

/-! ## A stream -/

/-- The loop reads the adapter's stream: an event goes to the client, and content has started. -/
def clientConsumer : Consumer Bool ChatErr ChatStmt ChatRes
  | _, .yieldSse e => some (true, call (.send e))
  | _, _ => none

/-- One attempt's stream, as the adapter yields it. -/
def streamingAttempt (provider : String) : ChatProg Unit := do
  let r ← toInternalRequest d true provider
  let h ← newHandler d
  fromInternalStream (h.processStream r)

/-- `_auth_stream_attempts`, with the last exception so far. The next provider is tried only before content has started. -/
def authStreamAttempts : List String → Option Exc → ChatProg Unit
  | [], none => pure ()
  | [], some lastExc => raise lastExc
  | provider :: rest, _ => do
    let (contentStarted, ended) ← (streamingAttempt d provider).within clientConsumer false
    match ended with
    | .ok () => pure ()
    | .error (.exception e) =>
      if e.httpStatus?.isSome then
        if ¬ contentStarted ∧ rest ≠ [] ∧ shouldFailover e then authStreamAttempts rest (some e) else raise e
      else if ¬ contentStarted ∧ rest ≠ [] then authStreamAttempts rest (some (mapProviderError provider d.model e))
      else raise (mapProviderError provider d.model e)
    | .error e => throw e

/-- `_auth_stream_with_failover`: the body of the response. It gives the slot of the rate limiter back, if there was a check. -/
def authStreamWithFailover (providerChain : List String) (checked : Bool) : ChatProg Unit :=
  Prog.andFinally (authStreamAttempts d providerChain none)
    (onlyIf checked (quietly (call (.releaseConcurrency d.apiKey))))

end Dispatch

end Gatewayz
