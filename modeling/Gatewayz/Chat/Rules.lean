import Gatewayz.Billing.Effects
import Gatewayz.Chat.Route

/-!
# `Chat.Rules` — how the chat code is judged

A chat request runs alone in its environment; the link decides at every step whether it is carried out and whether its
answer comes back. `chatRuns` is the setting for that, with a note and a condition on the steps.

The rules follow the combinators of the chat code (`wp_exceptException`, `wp_quietly`). A program whose steps all keep a
condition keeps it (`StepsKeep.wp`).
-/

namespace Gatewayz

open Exec

/-- The steps in an environment, under a note and a condition. -/
@[reducible] def chatRuns {γ : Type} (env : ChatEnv)
    (note : γ → (s : ChatStmt) → Except ChatErr (ChatRes s) → ChatWorld → ChatWorld → γ)
    (allow : γ → ChatStmt → Outcome ChatErr → ChatWorld → Prop) : Setting ChatErr ChatStmt ChatRes γ ChatWorld where
  exec := chatExec env
  note := note
  allow := allow

variable {γ α : Type} {C : Setting ChatErr ChatStmt ChatRes γ ChatWorld} {K : Contract ChatStmt ChatWorld}
variable {Q : α → γ → ChatWorld → Prop} {E : ChatErr → γ → ChatWorld → Prop} {g : γ} {st : ChatWorld}

/-! ## Combinators -/

/-- What is to hold of an exception: `H` if `except Exception` catches it, else `E`. -/
def Caught (H : Exc → γ → ChatWorld → Prop) (E : ChatErr → γ → ChatWorld → Prop) : ChatErr → γ → ChatWorld → Prop
  | .exception e => H e
  | e => E e

variable (H : Exc → γ → ChatWorld → Prop)

@[simp] theorem caught_exception (E : ChatErr → γ → ChatWorld → Prop) (e : Exc) : Caught H E (.exception e) = H e := rfl
@[simp] theorem caught_cancelled (E : ChatErr → γ → ChatWorld → Prop) : Caught H E .cancelled = E .cancelled := rfl
@[simp] theorem caught_generatorExit (E : ChatErr → γ → ChatWorld → Prop) :
    Caught H E .generatorExit = E .generatorExit := rfl

theorem wp_exceptException (p : ChatProg α) (handler : Exc → ChatProg α) :
    Prog.wp C K Q E (exceptException p handler) g st =
      Prog.wp C K Q (Caught (fun e => Prog.wp C K Q E (handler e)) E) p g st := by
  unfold exceptException
  rw [wp_tryCatch]
  congr 1
  funext e
  cases e <;> rfl

variable {p : ChatProg Unit}

theorem wp_quietly {Q : Unit → γ → ChatWorld → Prop}
    (h : Prog.wp C K Q (Caught (fun _ => Q ()) E) p g st) : Prog.wp C K Q E (quietly p) g st := by
  unfold quietly
  rw [wp_exceptException]
  exact h

theorem wp_onlyIf {b : Bool} {Q : Unit → γ → ChatWorld → Prop} (hno : b = false → Q () g st)
    (hyes : b = true → Prog.wp C K Q E p g st) : Prog.wp C K Q E (onlyIf b p) g st := by
  cases b with
  | false => exact hno rfl
  | true => exact hyes rfl

/-- Kinds of errors with every `Exception` among them. -/
class HasExceptions (F : ChatErr → Prop) : Prop where
  exception : ∀ e, F (.exception e)

instance anyError : HasExceptions fun _ => True := ⟨fun _ => trivial⟩

/-- An `Exception`, not a cancellation or a closed generator. -/
def ChatErr.IsException : ChatErr → Prop
  | .exception _ => True
  | _ => False

instance anyException : HasExceptions ChatErr.IsException := ⟨fun _ => trivial⟩

variable {s : ChatStmt}

section Stays

variable {P : ChatStmt → Prop} {F : ChatErr → Prop}

theorem stays_call (h : P s) : (call s).Stays P F := stays_stmt h

theorem stays_raise [hF : HasExceptions F] (e : Exc) : (raise e : ChatProg α).Stays P F := hF.exception e

theorem stays_exceptException {p : ChatProg α} {handler : Exc → ChatProg α} (hp : p.Stays P F)
    (hh : ∀ e, (handler e).Stays P F) : (exceptException p handler).Stays P F := by
  refine stays_tryCatch hp fun e he => ?_
  cases e with
  | exception e => exact hh e
  | cancelled => exact he
  | generatorExit => exact he

theorem stays_onlyIf {b : Bool} (hp : p.Stays P F) : (onlyIf b p).Stays P F := by
  cases b with
  | false => trivial
  | true => exact hp

theorem stays_quietly (hp : p.Stays P F) : (quietly p).Stays P F :=
  stays_exceptException hp fun _ => trivial

end Stays

/-! ## Harmless steps -/

/-- Steps of the kind `P` keep `J`, whether they are answered or raise. -/
structure StepsKeep (C : Setting ChatErr ChatStmt ChatRes γ ChatWorld) (P : ChatStmt → Prop) (J : γ → ChatWorld → Prop) :
    Prop where
  step : ∀ s, P s → ∀ g o st, C.allow g s o st → J g st →
    J (C.note g s (answer C.exec s o st).1 st (answer C.exec s o st).2) (answer C.exec s o st).2

section StepsKeep

variable {P : ChatStmt → Prop} {J : γ → ChatWorld → Prop}

theorem StepsKeep.wp (hk : StepsKeep C P J) {p : ChatProg α} (hp : p.Stays P fun _ => True) (hJ : J g st) :
    Prog.wp C .alone (fun _ => J) (fun _ => J) p g st :=
  wp_of_only (fun _ _ _ hr h => hr ▸ h) (fun s hs g o st _ ha h => ⟨trivial, trivial, hk.step s hs g o st ha h⟩)
    hp.only hJ

theorem StepsKeep.call (hk : StepsKeep C P J) (hs : P s) (hJ : J g st) :
    Prog.wp C .alone (fun _ => J) (fun _ => J) (call s) g st :=
  hk.wp (stays_call hs) hJ

end StepsKeep

/-! ## What is promised of answers only -/

section Answers

variable {β : Type}

theorem wp_then {Q : β → γ → ChatWorld → Prop} (p : ChatProg α) {f : α → ChatProg β}
    (h : ∀ a g st, Prog.wp C .alone Q (fun _ _ _ => True) (f a) g st) :
    Prog.wp C .alone Q (fun _ _ _ => True) (p >>= f) g st := by
  exact wp_seq (wp_alone_anything p g st) fun a g st _ => h a g st

/-- Under an `except` clause that raises again, only the part itself counts. -/
theorem wp_orSaveFailed_any (h : ChatHandler) (user : Option ChatUser) (model provider : String) (t : TokenCounts)
    {part : ChatProg α} (hpart : Prog.wp C .alone Q (fun _ _ _ => True) part g st) :
    Prog.wp C .alone Q (fun _ _ _ => True) (h.orSaveFailed user model provider t part) g st := by
  unfold ChatHandler.orSaveFailed
  rw [wp_exceptException]
  refine wp_mono (fun _ _ _ h => h) (fun e g st _ => ?_) hpart
  cases e with
  | exception e => exact wp_then _ fun _ _ _ => trivial
  | cancelled => trivial
  | generatorExit => trivial

theorem wp_underRouteHandlers_any (apiKey : String) (slotHeld : Bool) {part : ChatProg α}
    (hpart : Prog.wp C .alone Q (fun _ _ _ => True) part g st) :
    Prog.wp C .alone Q (fun _ _ _ => True) (underRouteHandlers apiKey slotHeld part) g st := by
  unfold underRouteHandlers
  rw [wp_exceptException]
  refine wp_mono (fun _ _ _ h => h) (fun e g st _ => ?_) hpart
  cases e with
  | exception e =>
    refine wp_then _ fun _ g st => wp_then _ fun _ g st => ?_
    split <;> trivial
  | cancelled => trivial
  | generatorExit => trivial

end Answers

def ChatStmt.MovesNothing : ChatStmt → Prop
  | .deductCredits _ _ _ => False
  | _ => True

theorem db_of_movesNothing {env : ChatEnv} (hs : s.MovesNothing) (o : Outcome ChatErr) (w : ChatWorld) :
    (answer (chatExec env) s o w).2.db = w.db := by
  have hexec : (chatExec env s w).2.db = w.db := by
    unfold chatExec
    split
    · rfl
    · rfl
    · rfl
    · rfl
    · rfl
    · exact hs.elim
    · rfl
  cases o with
  | served => exact hexec
  | dropped e => rfl
  | lost e => exact hexec

/-! ## A calm environment -/

/-- Every service at its best: the user is known and nobody is limited, the model is not in the registry, and every
    provider answers alike. -/
def calmAnswers (user : ChatUser) (chain : List String) (response : ProviderResponse) (stream : ProviderStream) :
    (s : ChatStmt) → ChatRes s
  | .task _ => ()
  | .newRequestId => "r"
  | .now => 0
  | .resolveAutoRoutedModel model => model
  | .getUser _ => some user
  | .getApiKeyId _ => user.keyId
  | .validateTrialAccess _ => { isValid := true }
  | .isFreeModel _ => false
  | .enforcePlanLimits _ _ _ => { allowed := true }
  | .cachedRateLimit _ _ => none
  | .isAdminKey _ => false
  | .concurrencyAvailable _ => true
  | .burstAvailable _ _ => true
  | .windowRefusal _ _ _ => none
  | .incrementConcurrentRequests _ => ()
  | .releaseConcurrency _ => ()
  | .estimateAndCheckCredits _ _ => .sufficient 0
  | .checkCreditSufficiency r _ => r.maxTokens
  | .getModelPricing _ => { prompt := 0, completion := 0 }
  | .lossProofCostSplit _ _ _ _ => ⟨0, 0, 0⟩
  | .calculateCostAsync _ _ _ => 0
  | .deductCredits _ _ _ => ()
  | .injectConversationHistory sessionId messages => (messages, sessionId)
  | .webSearch messages => messages
  | .prepareUpstreamRequest r => ⟨r.model, chain.headD "", chain, r.maxTokens⟩
  | .enabledProviders _ => none
  | .isAvailable _ _ => true
  | .detectProvider _ => none
  | .transformModelId model _ => model
  | .bindByok _ => false
  | .callProvider _ _ _ => response
  | .openStream _ _ _ => .ok stream
  | .isDisconnected => false
  | .pastDeadline => false
  | .recordUsage _ => true
  | .saveRequest _ => true
  | .recordShadowSettlement _ => true
  | .yieldChunk _ => ()
  | .yieldSse _ => ()
  | .send _ => ()

def payingUser : ChatUser :=
  ⟨1, { subscriptionAllowance := some 0, purchasedCredits := some 5, tier := some "pro" }, some 1, "live"⟩

def thousands : ProviderUsage := { promptTokens := 1000, completionTokens := 1000 }

/-- All is calm, and the providers of the chain answer with a thousand tokens. -/
def calmEnv (chain : List String) : ChatEnv where
  answers := fun _ =>
    calmAnswers payingUser chain ⟨some thousands, some (some { content := some "hi" })⟩
      ⟨[⟨some (some { content := some "hi" }, some "stop"), some thousands⟩], none⟩
  prices := fun _ _ => .ok sonnetPrice

def calmWorld : ChatWorld := { db := oneUser 0 5 }

end Gatewayz
