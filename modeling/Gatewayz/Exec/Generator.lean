import Gatewayz.Exec.Wp

/-!
# `Exec.Generator` — programs inside other programs

A generator is a program some of whose statements hand a value to its consumer. To consume it is to run it with those
statements **replaced**: `Prog.within h t p` is `p` with every statement that `h` knows carried out by a program of the
consumer's instead, and the answer, or the exception, given back to `p`.

`within` goes through sequences, handlers and `attempt`, so a consumed program is judged along its own structure
(`wpIn_bind`, `wpIn_tryCatch`, …), and so is one whose consumer is consumed in turn (`wpIn₂_bind`, …).
-/

namespace Exec

variable {ξ S : Type} {R : S → Type} {α β γ σ τ : Type}

/-- What a consumer does with a statement of the program it consumes: its next state, and its own program for the
    statement; nothing if the statement is none of its business. -/
abbrev Consumer (τ ξ S : Type) (R : S → Type) : Type := τ → (s : S) → Option (τ × Prog ξ S R (R s))

variable {s : S} {body : Prog ξ S R (R s)}

namespace Prog

/-- A program with some of its statements replaced. -/
def within (h : Consumer τ ξ S R) : τ → Prog ξ S R α → Prog ξ S R (τ × Except ξ α)
  | t, .ret a => .ret (t, .ok a)
  | t, .fail e => .ret (t, .error e)
  | t, .ask s k =>
    match h t s with
    | none => .ask s fun r => within h t (k r)
    | some (t', body) => body.attempt >>= fun r => within h t' (k r)

theorem ask_eq (s : S) (k : Except ξ (R s) → Prog ξ S R α) : Prog.ask s k = (Prog.stmt s).attempt >>= k := by
  refine congrArg (Prog.ask s) (funext fun r => ?_)
  cases r <;> rfl

def goOn (f : τ → α → Prog ξ S R (τ × Except ξ β)) : τ × Except ξ α → Prog ξ S R (τ × Except ξ β)
  | (t, .ok a) => f t a
  | (t, .error e) => .ret (t, .error e)

def goOnRaised (f : τ → ξ → Prog ξ S R (τ × Except ξ α)) : τ × Except ξ α → Prog ξ S R (τ × Except ξ α)
  | (t, .ok a) => .ret (t, .ok a)
  | (t, .error e) => f t e

theorem bind_assoc_prog (p : Prog ξ S R α) (f : α → Prog ξ S R β) {δ : Type} (k : β → Prog ξ S R δ) :
    (p >>= f) >>= k = p >>= fun a => f a >>= k := by
  induction p with
  | ret a => rfl
  | fail e => rfl
  | ask s q ih => exact congrArg (Prog.ask s) (funext fun r => ih r)

theorem bind_ret_unit (p : Prog ξ S R Unit) : (p >>= fun _ => .ret ()) = p := by
  induction p with
  | ret a => rfl
  | fail e => rfl
  | ask s q ih => exact congrArg (Prog.ask s) (funext fun r => ih r)

theorem tryCatch_bind_ret (p : Prog ξ S R α) (h : ξ → Prog ξ S R α) (f : α → β) :
    ((tryCatch p h : Prog ξ S R α) >>= fun a => .ret (f a)) =
      tryCatch (p >>= fun a => .ret (f a)) fun e => h e >>= fun a => .ret (f a) := by
  change (Prog.instMonadExcept.go h p >>= _) = Prog.instMonadExcept.go _ _
  induction p with
  | ret a => rfl
  | fail e => rfl
  | ask s q ih => exact congrArg (Prog.ask s) (funext fun r => ih r)

variable {h : Consumer τ ξ S R}

theorem within_ask_none {t : τ} (hs : h t s = none) (k : Except ξ (R s) → Prog ξ S R α) :
    within h t (.ask s k) = .ask s fun r => within h t (k r) := by
  rw [within, hs]

theorem within_ask_some {t t' : τ} (hs : h t s = some (t', body)) (k : Except ξ (R s) → Prog ξ S R α) :
    within h t (.ask s k) = body.attempt >>= fun r => within h t' (k r) := by
  rw [within, hs]

theorem within_bind (p : Prog ξ S R α) (f : α → Prog ξ S R β) (t : τ) :
    within h t (p >>= f) = within h t p >>= goOn fun t' a => within h t' (f a) := by
  induction p generalizing t with
  | ret a => rfl
  | fail e => rfl
  | ask s k ih =>
    rw [ask_bind]
    cases hs : h t s with
    | none =>
      rw [within_ask_none hs, within_ask_none hs, ask_bind]
      exact congrArg (Prog.ask s) (funext fun r => ih r t)
    | some b =>
      rw [within_ask_some hs, within_ask_some hs, bind_assoc_prog]
      exact congrArg _ (funext fun r => ih r b.1)

theorem within_attempt (p : Prog ξ S R α) (t : τ) :
    within h t p.attempt = within h t p >>= fun q => .ret (q.1, .ok q.2) := by
  induction p generalizing t with
  | ret a => rfl
  | fail e => rfl
  | ask s k ih =>
    rw [attempt]
    cases hs : h t s with
    | none =>
      rw [within_ask_none hs, within_ask_none hs, ask_bind]
      exact congrArg (Prog.ask s) (funext fun r => ih r t)
    | some b =>
      rw [within_ask_some hs, within_ask_some hs, bind_assoc_prog]
      exact congrArg _ (funext fun r => ih r b.1)

theorem within_tryCatch (p : Prog ξ S R α) (f : ξ → Prog ξ S R α) (t : τ) :
    within h t (tryCatch p f : Prog ξ S R α) = within h t p >>= goOnRaised fun t' e => within h t' (f e) := by
  change within h t (instMonadExcept.go f p) = _
  induction p generalizing t with
  | ret a => rfl
  | fail e => rfl
  | ask s k ih =>
    rw [instMonadExcept.go]
    cases hs : h t s with
    | none =>
      rw [within_ask_none hs, within_ask_none hs, ask_bind]
      exact congrArg (Prog.ask s) (funext fun r => ih r t)
    | some b =>
      rw [within_ask_some hs, within_ask_some hs, bind_assoc_prog]
      exact congrArg _ (funext fun r => ih r b.1)

end Prog

/-! ## Judging a consumed program -/

variable {p : Prog ξ S R α}

section Rules

variable {C : Setting ξ S R γ σ} {K : Contract S σ} {E : ξ → γ → σ → Prop} {h : Consumer τ ξ S R}
variable {t t' : τ} {g : γ} {st : σ}

/-- What is to hold of a consumed program's end: `Q` of its result and `X` of its exception. -/
def Ended (Q : τ → α → γ → σ → Prop) (X : τ → ξ → γ → σ → Prop) : τ × Except ξ α → γ → σ → Prop
  | (t, .ok a) => Q t a
  | (t, .error e) => X t e

@[simp] theorem ended_ok (Q : τ → α → γ → σ → Prop) (X : τ → ξ → γ → σ → Prop) (t : τ) (a : α) :
    Ended Q X (t, .ok a) = Q t a := rfl
@[simp] theorem ended_error (Q : τ → α → γ → σ → Prop) (X : τ → ξ → γ → σ → Prop) (t : τ) (e : ξ) :
    Ended Q X (t, .error e) = X t e := rfl

/-- Weakest precondition of a consumed program: its result, its exception, and an exception of the consumer's. -/
def Prog.wpIn (h : Consumer τ ξ S R) (C : Setting ξ S R γ σ) (K : Contract S σ) (Q : τ → α → γ → σ → Prop)
    (X : τ → ξ → γ → σ → Prop) (t : τ) (p : Prog ξ S R α) (g : γ) (st : σ) : Prop :=
  Prog.wp C K (Ended Q X) (fun _ _ _ => False) (p.within h t) g st

variable {Q : τ → α → γ → σ → Prop} {X : τ → ξ → γ → σ → Prop}

@[simp] theorem wpIn_ret (a : α) : (Prog.ret a : Prog ξ S R α).wpIn h C K Q X t g st = Q t a g st := rfl
@[simp] theorem wpIn_fail (e : ξ) : (Prog.fail e : Prog ξ S R α).wpIn h C K Q X t g st = X t e g st := rfl

theorem wpIn_bind (p : Prog ξ S R α) (f : α → Prog ξ S R β) {Q : τ → β → γ → σ → Prop} :
    (p >>= f).wpIn h C K Q X t g st = p.wpIn h C K (fun t' a => (f a).wpIn h C K Q X t') X t g st := by
  unfold Prog.wpIn
  rw [Prog.within_bind, wp_bind]
  congr 1
  funext ⟨t', r⟩
  cases r <;> rfl

theorem wpIn_attempt (p : Prog ξ S R α) {Q : τ → Except ξ α → γ → σ → Prop} :
    p.attempt.wpIn h C K Q X t g st = p.wpIn h C K (fun t' a => Q t' (.ok a)) (fun t' e => Q t' (.error e)) t g st := by
  unfold Prog.wpIn
  rw [Prog.within_attempt, wp_bind]
  congr 1
  funext ⟨t', r⟩
  cases r <;> rfl

theorem wpIn_tryCatch (p : Prog ξ S R α) (f : ξ → Prog ξ S R α) : (tryCatch p f : Prog ξ S R α).wpIn h C K Q X t g st =
      p.wpIn h C K Q (fun t' e => (f e).wpIn h C K Q X t') t g st := by
  unfold Prog.wpIn
  rw [Prog.within_tryCatch, wp_bind]
  congr 1
  funext ⟨t', r⟩
  cases r <;> rfl

theorem wpIn_mono {Q' : τ → α → γ → σ → Prop} {X' : τ → ξ → γ → σ → Prop}
    (hQ : ∀ t a g st, Q t a g st → Q' t a g st) (hX : ∀ t e g st, X t e g st → X' t e g st)
    (hp : p.wpIn h C K Q X t g st) : p.wpIn h C K Q' X' t g st := by
  refine wp_mono ?_ (fun _ _ _ he => he) hp
  rintro ⟨t', r⟩ g' st' hr
  cases r with
  | ok a => exact hQ t' a g' st' hr
  | error e => exact hX t' e g' st' hr

/-- A statement of the consumed program that the consumer does not replace. -/
theorem wpIn_stmt (hs : h t s = none) {Q : τ → R s → γ → σ → Prop}
    (hstmt : Prog.wp C K (fun a => Q t a) (fun e => X t e) (.stmt s) g st) :
    (Prog.stmt s : Prog ξ S R (R s)).wpIn h C K Q X t g st := by
  unfold Prog.wpIn
  rw [Prog.stmt, Prog.within_ask_none hs]
  intro st₁ hr hi o ho
  obtain ⟨hi', hg, hk⟩ := hstmt st₁ hr hi o ho
  refine ⟨hi', hg, ?_⟩
  revert hk
  generalize (answer C.exec s o st₁).1 = r
  cases r with
  | ok a => exact id
  | error e => exact id

theorem wpIn_replaced (hs : h t s = some (t', body)) {Q : τ → R s → γ → σ → Prop}
    (hbody : Prog.wp C K (fun a => Q t' a) (fun e => X t' e) body g st) :
    (Prog.stmt s : Prog ξ S R (R s)).wpIn h C K Q X t g st := by
  unfold Prog.wpIn
  rw [Prog.stmt, Prog.within_ask_some hs, wp_bind, wp_attempt]
  exact hbody

theorem only_within {P P' : S → Prop} (hP : ∀ t s, P s → h t s = none → P' s)
    (hbody : ∀ t s t' body, h t s = some (t', body) → body.Only P') (hp : p.Only P) (t : τ) :
    (p.within h t).Only P' := by
  induction p generalizing t with
  | ret a => trivial
  | fail e => trivial
  | ask s k ih =>
    cases hs : h t s with
    | none =>
      rw [Prog.within_ask_none hs]
      exact ⟨hP t s hp.1 hs, fun r => ih r (hp.2 r) t⟩
    | some b =>
      rw [Prog.within_ask_some hs]
      exact only_bind (only_attempt (hbody t s b.1 b.2 hs)) fun r => ih r (hp.2 r) b.1

theorem stays_within {P P' : S → Prop} (hP : ∀ t s, P s → h t s = none → P' s)
    (hbody : ∀ t s t' body, h t s = some (t', body) → body.Stays P' fun _ => True)
    (hp : p.Stays P fun _ => True) (t : τ) : (p.within h t).Stays P' fun _ => True :=
  (only_within hP (fun t s t' body hs => (hbody t s t' body hs).only) hp.only t).stays

end Rules

/-! ## A consumer that is consumed itself -/

section Nested

variable {C : Setting ξ S R γ σ} {K : Contract S σ} {τ₁ τ₂ : Type} {h₁ : Consumer τ₁ ξ S R} {h₂ : Consumer τ₂ ξ S R}
variable {t₁ t₁' : τ₁} {t₂ : τ₂} {g : γ} {st : σ}

/-- Weakest precondition of a program consumed twice: `h₁` reads the program, `h₂` what `h₁` makes of it. -/
def Prog.wpIn₂ (h₁ : Consumer τ₁ ξ S R) (h₂ : Consumer τ₂ ξ S R) (C : Setting ξ S R γ σ) (K : Contract S σ)
    (Q : τ₁ → τ₂ → α → γ → σ → Prop) (X : τ₁ → τ₂ → ξ → γ → σ → Prop) (t₁ : τ₁) (t₂ : τ₂) (p : Prog ξ S R α) (g : γ)
    (st : σ) : Prop :=
  (p.within h₁ t₁).wpIn h₂ C K (fun t₂ => Ended (fun t₁ => Q t₁ t₂) (fun t₁ => X t₁ t₂)) (fun _ _ _ _ => False) t₂ g st

variable {Q : τ₁ → τ₂ → α → γ → σ → Prop} {X : τ₁ → τ₂ → ξ → γ → σ → Prop}

@[simp] theorem wpIn₂_ret (a : α) : (Prog.ret a : Prog ξ S R α).wpIn₂ h₁ h₂ C K Q X t₁ t₂ g st = Q t₁ t₂ a g st := rfl
@[simp] theorem wpIn₂_fail (e : ξ) : (Prog.fail e : Prog ξ S R α).wpIn₂ h₁ h₂ C K Q X t₁ t₂ g st = X t₁ t₂ e g st := rfl

theorem wpIn₂_bind (p : Prog ξ S R α) (f : α → Prog ξ S R β) {Q : τ₁ → τ₂ → β → γ → σ → Prop} :
    (p >>= f).wpIn₂ h₁ h₂ C K Q X t₁ t₂ g st =
      p.wpIn₂ h₁ h₂ C K (fun t₁ t₂ a => (f a).wpIn₂ h₁ h₂ C K Q X t₁ t₂) X t₁ t₂ g st := by
  unfold Prog.wpIn₂
  rw [Prog.within_bind, wpIn_bind]
  congr 1
  funext t₂ ⟨t₁, r⟩
  cases r <;> rfl

theorem wpIn₂_attempt (p : Prog ξ S R α) {Q : τ₁ → τ₂ → Except ξ α → γ → σ → Prop} :
    p.attempt.wpIn₂ h₁ h₂ C K Q X t₁ t₂ g st =
      p.wpIn₂ h₁ h₂ C K (fun t₁ t₂ a => Q t₁ t₂ (.ok a)) (fun t₁ t₂ e => Q t₁ t₂ (.error e)) t₁ t₂ g st := by
  unfold Prog.wpIn₂
  rw [Prog.within_attempt, wpIn_bind]
  congr 1
  funext t₂ ⟨t₁, r⟩
  cases r <;> rfl

theorem wpIn₂_tryCatch (p : Prog ξ S R α) (f : ξ → Prog ξ S R α) :
    (tryCatch p f : Prog ξ S R α).wpIn₂ h₁ h₂ C K Q X t₁ t₂ g st =
      p.wpIn₂ h₁ h₂ C K Q (fun t₁ t₂ e => (f e).wpIn₂ h₁ h₂ C K Q X t₁ t₂) t₁ t₂ g st := by
  unfold Prog.wpIn₂
  rw [Prog.within_tryCatch, wpIn_bind]
  congr 1
  funext t₂ ⟨t₁, r⟩
  cases r <;> rfl

theorem wpIn₂_mono {Q' : τ₁ → τ₂ → α → γ → σ → Prop} {X' : τ₁ → τ₂ → ξ → γ → σ → Prop}
    (hQ : ∀ t₁ t₂ a g st, Q t₁ t₂ a g st → Q' t₁ t₂ a g st) (hX : ∀ t₁ t₂ e g st, X t₁ t₂ e g st → X' t₁ t₂ e g st)
    (hp : p.wpIn₂ h₁ h₂ C K Q X t₁ t₂ g st) : p.wpIn₂ h₁ h₂ C K Q' X' t₁ t₂ g st := by
  refine wpIn_mono ?_ (fun _ _ _ _ he => he) hp
  rintro t₂ ⟨t₁, r⟩ g st hr
  cases r with
  | ok a => exact hQ t₁ t₂ a g st hr
  | error e => exact hX t₁ t₂ e g st hr

theorem wpIn₂_stmt (hs₁ : h₁ t₁ s = none) (hs₂ : h₂ t₂ s = none) {Q : τ₁ → τ₂ → R s → γ → σ → Prop}
    (hstmt : Prog.wp C K (fun a => Q t₁ t₂ a) (fun e => X t₁ t₂ e) (.stmt s) g st) :
    (Prog.stmt s : Prog ξ S R (R s)).wpIn₂ h₁ h₂ C K Q X t₁ t₂ g st := by
  unfold Prog.wpIn₂ Prog.wpIn
  rw [Prog.stmt, Prog.within_ask_none hs₁, Prog.within_ask_none hs₂]
  intro st₁ hr hi o ho
  obtain ⟨hi', hg, hk⟩ := hstmt st₁ hr hi o ho
  refine ⟨hi', hg, ?_⟩
  revert hk
  generalize (answer C.exec s o st₁).1 = r
  cases r with
  | ok a => exact id
  | error e => exact id

theorem wpIn₂_replaced (hs : h₁ t₁ s = some (t₁', body)) {Q : τ₁ → τ₂ → R s → γ → σ → Prop}
    (hbody : body.wpIn h₂ C K (fun t₂ => Q t₁' t₂) (fun t₂ => X t₁' t₂) t₂ g st) :
    (Prog.stmt s : Prog ξ S R (R s)).wpIn₂ h₁ h₂ C K Q X t₁ t₂ g st := by
  unfold Prog.wpIn₂
  rw [Prog.stmt, Prog.within_ask_some hs, wpIn_bind, wpIn_attempt]
  exact hbody

theorem wpIn₂_replaced_outside {t₂' : τ₂} (hs₁ : h₁ t₁ s = none) (hs₂ : h₂ t₂ s = some (t₂', body))
    {Q : τ₁ → τ₂ → R s → γ → σ → Prop} (hbody : Prog.wp C K (fun a => Q t₁ t₂' a) (fun e => X t₁ t₂' e) body g st) :
    (Prog.stmt s : Prog ξ S R (R s)).wpIn₂ h₁ h₂ C K Q X t₁ t₂ g st := by
  unfold Prog.wpIn₂ Prog.wpIn
  rw [Prog.stmt, Prog.within_ask_none hs₁, Prog.within_ask_some hs₂, wp_bind, wp_attempt]
  exact hbody

variable {P : S → Prop}

/-- What every statement keeps, the program keeps. -/
theorem wpIn₂_of_only {J : γ → σ → Prop} (hstep : ∀ s, P s → ∀ t₁ t₂ g st, J g st →
      (Prog.stmt s : Prog ξ S R (R s)).wpIn₂ h₁ h₂ C K (fun _ _ _ => J) (fun _ _ _ => J) t₁ t₂ g st)
    (hp : p.Only P) (hJ : J g st) :
    p.wpIn₂ h₁ h₂ C K (fun _ _ _ => J) (fun _ _ _ => J) t₁ t₂ g st := by
  induction p generalizing t₁ t₂ g st with
  | ret a => exact hJ
  | fail e => exact hJ
  | ask s k ih =>
    rw [Prog.ask_eq, wpIn₂_bind, wpIn₂_attempt]
    exact wpIn₂_mono (fun _ _ _ _ _ h => ih _ (hp.2 _) h) (fun _ _ _ _ _ h => ih _ (hp.2 _) h)
      (hstep s hp.1 t₁ t₂ g st hJ)

end Nested

end Exec
