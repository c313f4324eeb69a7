import Gatewayz.Chat.Parts

/-!
# `Chat.Streams` — how a streamed attempt is judged

Three generators read one another: the loop over the chain reads the adapter, the adapter reads the handler, the handler
reads the provider. A program of the handler's is judged where it runs, inside the two consumers: `Piped C Q X p` is its
weakest precondition there, with one rule for each combinator.
-/

namespace Gatewayz

open Exec

/-- Steps that hand nothing on. -/
def ChatStmt.Silent : ChatStmt → Prop
  | .yieldChunk _ => False
  | .yieldSse _ => False
  | .send _ => False
  | _ => True

/-- A program of the handler's, read by the adapter, read by the loop. -/
def Piped {γ α : Type} (C : Setting ChatErr ChatStmt ChatRes γ ChatWorld) (Q : α → γ → ChatWorld → Prop)
    (X : ChatErr → γ → ChatWorld → Prop) (p : ChatProg α) (g : γ) (w : ChatWorld) : Prop :=
  ∀ started, p.wpIn₂ sseConsumer clientConsumer C .alone (fun _ _ a g w => Q a g w) (fun _ _ e g w => X e g w) ()
    started g w

variable {γ α β : Type} {C : Setting ChatErr ChatStmt ChatRes γ ChatWorld} {g : γ} {w : ChatWorld}
variable {Q : α → γ → ChatWorld → Prop} {X : ChatErr → γ → ChatWorld → Prop}

/-! ## Combinators -/

variable {p : ChatProg α}

theorem Piped.mono {Q' : α → γ → ChatWorld → Prop} {X' : ChatErr → γ → ChatWorld → Prop}
    (hQ : ∀ a g w, Q a g w → Q' a g w) (hX : ∀ e g w, X e g w → X' e g w) (h : Piped C Q X p g w) :
    Piped C Q' X' p g w :=
  fun started => wpIn₂_mono (fun _ _ => hQ) (fun _ _ => hX) (h started)

theorem piped_ret {a : α} (h : Q a g w) : Piped C Q X (pure a) g w := fun _ => h

theorem piped_throw {e : ChatErr} (h : X e g w) : Piped C Q X (throw e) g w := fun _ => h

theorem piped_raise {e : Exc} (h : X (.exception e) g w) : Piped C Q X (raise e) g w := fun _ => h

theorem piped_bind {f : α → ChatProg β} {Q : β → γ → ChatWorld → Prop}
    (h : Piped C (fun a => Piped C Q X (f a)) X p g w) : Piped C Q X (p >>= f) g w := by
  intro started
  rw [wpIn₂_bind]
  exact wpIn₂_mono (fun _ started _ _ _ hf => hf started) (fun _ _ _ _ _ he => he) (h started)

theorem piped_attempt {Q : Except ChatErr α → γ → ChatWorld → Prop}
    (h : Piped C (fun a => Q (.ok a)) (fun e => Q (.error e)) p g w) : Piped C Q X p.attempt g w := by
  intro started
  rw [wpIn₂_attempt]
  exact h started

theorem piped_exceptException {handler : Exc → ChatProg α}
    (h : Piped C Q (Caught (fun e => Piped C Q X (handler e)) X) p g w) :
    Piped C Q X (exceptException p handler) g w := by
  intro started
  unfold exceptException
  rw [wpIn₂_tryCatch]
  refine wpIn₂_mono (fun _ _ _ _ _ hq => hq) (fun _ started e g w he => ?_) (h started)
  cases e with
  | exception e => exact he started
  | cancelled => exact he
  | generatorExit => exact he

theorem piped_andFinally {f : ChatProg Unit}
    (h : Piped C (fun a => Piped C (fun _ => Q a) X f) (fun e => Piped C (fun _ => X e) X f) p g w) :
    Piped C Q X (p.andFinally f) g w := by
  refine piped_bind (piped_attempt (h.mono (fun a g w hf => ?_) fun e g w hf => ?_))
  · exact piped_bind (hf.mono (fun _ _ _ hq => piped_ret hq) fun _ _ _ he => he)
  · exact piped_bind (hf.mono (fun _ _ _ hx => piped_throw hx) fun _ _ _ he => he)

/-! ## Steps -/

theorem piped_call {s : ChatStmt} (hs : s.Silent) {Q : ChatRes s → γ → ChatWorld → Prop}
    (h : (call s).wp C .alone Q X g w) : Piped C Q X (call s) g w := by
  intro started
  have hadapter : sseConsumer () s = none := by cases s <;> first | rfl | exact hs.elim
  have hloop : clientConsumer started s = none := by cases s <;> first | rfl | exact hs.elim
  exact wpIn₂_stmt hadapter hloop h

theorem wpIn_yieldSse (e : SseEvent) {started : Bool} {Q : Bool → Unit → γ → ChatWorld → Prop}
    {X : Bool → ChatErr → γ → ChatWorld → Prop} (h : (call (.send e)).wp C .alone (Q true) (X true) g w) :
    (call (.yieldSse e)).wpIn clientConsumer C .alone Q X started g w := by
  have hbody : clientConsumer started (.yieldSse e) = some (true, call (.send e)) := rfl
  exact wpIn_replaced hbody h

theorem wpIn_call {s : ChatStmt} (hs : s.Silent) {started : Bool} {Q : Bool → ChatRes s → γ → ChatWorld → Prop}
    {X : Bool → ChatErr → γ → ChatWorld → Prop} (h : (call s).wp C .alone (Q started) (X started) g w) :
    (call s).wpIn clientConsumer C .alone Q X started g w := by
  have hloop : clientConsumer started s = none := by cases s <;> first | rfl | exact hs.elim
  exact wpIn_stmt hloop h

theorem piped_of_wp (hp : p.Only ChatStmt.Silent) (h : p.wp C .alone Q X g w) : Piped C Q X p g w := by
  induction p generalizing g w with
  | ret a => exact piped_ret h
  | fail e => exact piped_throw h
  | ask s k ih =>
    rw [Prog.ask_eq, wp_bind, wp_attempt] at h
    rw [Prog.ask_eq]
    refine piped_bind (piped_attempt (piped_call hp.1 ?_))
    exact wp_mono (fun _ _ _ hk => ih _ (hp.2 _) hk) (fun _ _ _ hk => ih _ (hp.2 _) hk) h

theorem piped_yieldChunk {c : InternalStreamChunk} {Q : Unit → γ → ChatWorld → Prop}
    (h : (call (.send (.chunk c))).wp C .alone Q X g w) : Piped C Q X (call (.yieldChunk c)) g w := by
  intro started
  have hbody : sseConsumer () (.yieldChunk c) = some ((), call (.yieldSse (.chunk c))) := rfl
  exact wpIn₂_replaced hbody (wpIn_yieldSse _ h)

/-- A condition that the program's steps keep, and the sending of events. -/
theorem StepsKeep.piped {P : ChatStmt → Prop} {J : γ → ChatWorld → Prop} (hk : StepsKeep C P J)
    (hsend : ∀ e, P (.send e)) (hp : p.Stays P fun _ => True) (hJ : J g w) :
    Piped C (fun _ => J) (fun _ => J) p g w := by
  intro started
  refine wpIn₂_of_only (fun s hs _ started g w hJ => ?_) hp.only hJ
  cases s with
  | yieldChunk c =>
    have hbody : sseConsumer () (.yieldChunk c) = some ((), Gatewayz.call (.yieldSse (.chunk c))) := rfl
    exact wpIn₂_replaced hbody (wpIn_yieldSse _ (hk.call (hsend _) hJ))
  | yieldSse e =>
    have hbody : clientConsumer started (.yieldSse e) = some (true, Gatewayz.call (.send e)) := rfl
    exact wpIn₂_replaced_outside rfl hbody (hk.call (hsend _) hJ)
  | _ => exact wpIn₂_stmt rfl rfl (hk.call hs hJ)

/-- What follows the `except` clause of `process_stream`: an `Exception` passes it when the failed request is saved. -/
theorem piped_orSaveFailed (h : ChatHandler) (user : Option ChatUser) (model provider : String) (t : TokenCounts)
    {part : ChatProg α} (hpart : Piped C Q
      (Caught (fun e => (call (.saveRequest (h.failedRow user model provider t e.text))).wp C .alone
        (fun _ => X (.exception e)) X) X) part g w) :
    Piped C Q X (h.orSaveFailed user model provider t part) g w := by
  refine piped_exceptException (hpart.mono (fun _ _ _ hq => hq) fun e g w he => ?_)
  cases e with
  | exception e =>
    refine piped_bind (piped_bind (piped_call (s := .saveRequest _) trivial ?_))
    exact wp_mono (fun _ _ _ hx => piped_ret (piped_raise hx)) (fun _ _ _ hx => hx) he
  | cancelled => exact he
  | generatorExit => exact he

end Gatewayz
