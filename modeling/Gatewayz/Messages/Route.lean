import Gatewayz.Chat.Rules
import Gatewayz.Messages.Stream

/-!
# `Messages.Route` — `routes/messages.py`: `create_message`

The endpoint hands a translated request to `chat_completions` and translates what comes back. The chat route returns one of two
response objects (`Chat.Route`): a `JSONResponse` around the completion, whose `body` is its encoded text, or a
`StreamingResponse` with the lines as its iterator; or it raises.
-/

namespace Gatewayz

open Exec

/-- What a Python caller of `chat_completions` can get. -/
inductive ChatReturn where
  | dict (d : Completion)
  /-- Its `body` is bytes: the encoded `content`. -/
  | jsonResponse (content : Completion)
  | streamingResponse (bodyIterator : List String)
  | httpException (status : Nat) (detail : String)

/-- The end of `chat_completions` for a request that is served: `return JSONResponse(content=processed, …)`, or the result of
    `dispatch_streaming`. -/
def chatReturn (stream : Bool) (processed : Completion) (lines : List String) : ChatReturn :=
  if stream then .streamingResponse lines else .jsonResponse processed

/-- What `/v1/messages` answers. -/
inductive MessagesAnswer (J : Type) where
  | message (m : AnthropicMessage J)
  | eventStream (events : List AnthropicEvent)
  /-- `_anthropic_error`. -/
  | error (status : Nat) (errorType message : String)

/-- The error type of a status. -/
def errorTypeOf (status : Nat) : String :=
  match status with
  | 400 => "invalid_request_error"
  | 401 => "authentication_error"
  | 403 => "permission_error"
  | 404 => "not_found_error"
  | 429 => "rate_limit_error"
  | _ => "api_error"

/-! ## The chat route returns a stream exactly if it was asked for one -/

section Shape

variable {γ : Type} {C : Setting ChatErr ChatStmt ChatRes γ ChatWorld}

def ChatResponse.isStream : ChatResponse → Bool
  | .json _ _ => false
  | .stream _ => true

def Dispatched.isStream : Dispatched → Bool
  | .stream _ => true
  | .response _ _ => false

end Shape

section Route

variable {J : Type} (loadsChunk : String → Option WireChunk) (loads : String → Option J) (emptyObject : J)
  (newToolId : Int → String)

/-- `create_message`, given what `chat_completions` returns or raises, and the id of the message. -/
def createMessage (req : MessagesRequest J) (result : ChatReturn) (messageId : String) : MessagesAnswer J :=
  if req.messages.isEmpty then .error 400 "invalid_request_error" "messages must not be empty"
  else
    match result with
    | .httpException status detail => .error status (errorTypeOf status) detail
    | result =>
      if req.streamed then
        match result with
        | .streamingResponse lines =>
          .eventStream (streamAnthropicEvents newToolId loadsChunk lines req.model messageId)
        | _ => .error 500 "api_error" "upstream did not return a stream for a streaming request"
      else
        match result with
        | .dict d => .message { transformOpenaiToAnthropic loads emptyObject d req.stopSequences with id := messageId }
        -- neither the bytes of a JSON response nor a response without `body` is a dictionary
        | _ => .error 500 "api_error" "unexpected upstream response shape"

end Route

end Gatewayz
