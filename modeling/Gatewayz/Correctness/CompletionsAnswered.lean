import Gatewayz.Chat.Completions

/-!
# `Correctness.CompletionsAnswered` — a completion is what the chat produced, or is it

Who asks for a completion should get what the chat endpoint has answered, choice by choice. But no chat endpoint returns what
`create_completion` waits for. A request that has been served, and paid for, ends in an error, always (`completions_never_answered`).
-/

namespace Gatewayz.Completions

open Exec Forwarding

variable {J : Type}

section Law

variable (chat : ProxyRequest J → ChatProg ChatResponse) (completionId : String) (req : CompletionsRequest J) (env : ChatEnv)
  (os : List (Outcome ChatErr)) (w : ChatWorld)

/-- The chat endpoint serves the request, and what is served. -/
def Served (proxy : ProxyRequest J) (response : InternalChatResponse) : Prop :=
  ∃ promptText warnings, normalizePrompt req.prompt = .ret (promptText, warnings) ∧ req.stream.getD false = false ∧
    toProxyRequest req promptText = some proxy ∧ ∃ cost, ((chat proxy).run (chatExec env) os w).1 = .ok (.json response cost)

def Named (warnings : List String) (field : String) : Prop := ∃ text ∈ warnings, textContains field text

/-- Every field that the client has set reaches the chat request, or is named. -/
structure FieldsKept (proxy : ProxyRequest J) (warnings : List String) : Prop where
  sent : proxy.model = req.model ∧ proxy.temperature = req.temperature ∧ proxy.topP = req.topP ∧ proxy.stop = req.stop ∧
    proxy.seed = req.seed ∧ proxy.user = req.user ∧ proxy.maxTokens = req.maxTokens.map Subtype.val ∧
    proxy.presencePenalty.map Subtype.val = req.presencePenalty ∧ proxy.frequencyPenalty.map Subtype.val = req.frequencyPenalty
  n : req.n.isSome → proxy.n = req.n ∨ Named warnings "n"
  unsupported : ∀ field ∈ unsupportedParams req, Named warnings field
  extra : ∀ field ∈ req.extra, Named warnings field.1

/-- The client is answered what the chat produced: the choices by index, the usage, and the fields of the request. -/
def Answered (proxy : ProxyRequest J) (response : InternalChatResponse) : Prop :=
  ∃ completion, ((createCompletion chat completionId req).run (chatExec env) os w).1 = .ok completion ∧
    (completion.choices.map fun c => (c.index, c.text, c.finishReason)) =
      ((fromInternalResponse response).choices.map fun c => (c.index, c.content, some c.finishReason)) ∧
    completion.usage = some (fromInternalResponse response).usage ∧ FieldsKept req proxy completion.warnings

variable {chat completionId req env os w}

/-- Whatever the chat endpoint returns, it is no `dict`. -/
theorem toCompletion_returned (warnings : List String) (result : ChatResponse) :
    ∃ e, toCompletion completionId req warnings (returned result) = raise e := by
  cases result with
  | json response cost => exact ⟨_, rfl⟩
  | stream body => exact ⟨_, rfl⟩

/-- No completion is ever returned. -/
theorem createCompletion_ne_ok (completion : Completion) :
    ((createCompletion chat completionId req).run (chatExec env) os w).1 ≠ .ok completion := by
  unfold createCompletion
  rw [Prog.run_bind]
  split
  · next prompt os' w' _ =>
    obtain ⟨promptText, warnings⟩ := prompt
    dsimp only
    split
    · exact nofun
    · split
      · exact nofun
      · rw [Prog.run_bind]
        split
        · next result os'' w'' _ =>
          obtain ⟨e, he⟩ : ∃ e, toCompletion completionId req (warnings ++ droppedWarning req) (returned result) = raise e :=
            toCompletion_returned _ result
          rw [he]
          exact nofun
        · exact nofun
  · exact nofun

/-- **The completions endpoint never answers what the chat produced**, whatever chat endpoint it is on. -/
theorem completions_never_answered {proxy : ProxyRequest J} {response : InternalChatResponse}
    (_ : Served chat req env os w proxy response) : ¬ Answered chat completionId req env os w proxy response :=
  fun ⟨completion, hok, _⟩ => createCompletion_ne_ok completion hok

end Law

/-! ## A question -/

def question : CompletionsRequest Unit := { model := "anthropic/claude-sonnet-4", prompt := .inl "write a haiku" }

def calmChat : ProxyRequest Unit → ChatProg ChatResponse := chatOfUser {} (fun _ => ⟨13, 4⟩) "k"

def chatQuestion : ProxyRequest Unit where
  model := "anthropic/claude-sonnet-4"
  messages := [{ role := .user, content := some (.text "write a haiku") }]
  maxTokens := none
  n := some oneAnswer

def inOnePiece : Except ChatErr ChatResponse → Bool
  | .ok (.json _ _) => true
  | _ => false

theorem question_served : ∃ response, Served calmChat question (calmEnv ["openrouter"]) [] calmWorld chatQuestion response := by
  have hserved : inOnePiece ((calmChat chatQuestion).run (chatExec (calmEnv ["openrouter"])) [] calmWorld).1 = true := by
    decide +kernel
  unfold inOnePiece at hserved
  split at hserved
  · next response cost hrun => exact ⟨response, _, _, rfl, rfl, rfl, cost, hrun⟩
  · cases hserved

/-- **The question is served and paid for, and answered with an error.** -/
theorem question_unanswered :
    (∃ response, Served calmChat question (calmEnv ["openrouter"]) [] calmWorld chatQuestion response ∧
      ¬ Answered calmChat "cmpl-1" question (calmEnv ["openrouter"]) [] calmWorld chatQuestion response) ∧
      (((createCompletion calmChat "cmpl-1" question).run (chatExec (calmEnv ["openrouter"])) [] calmWorld).2.2.db.balance 1 < 5) := by
  obtain ⟨response, hserved⟩ := question_served
  refine ⟨⟨response, hserved, fun ⟨completion, hok, _⟩ => createCompletion_ne_ok completion hok⟩, ?_⟩
  decide +kernel

theorem completions_never_answered_question :
    ∃ response, ¬ Answered calmChat "cmpl-1" question (calmEnv ["openrouter"]) [] calmWorld chatQuestion response := by
  obtain ⟨response, hserved⟩ := question_served
  exact ⟨response, completions_never_answered hserved⟩

end Gatewayz.Completions
