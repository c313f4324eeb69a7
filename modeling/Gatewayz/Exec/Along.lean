import Gatewayz.Exec.Generator

/-!
# `Exec.Along` — what a program does if its statements are answered so

`Only` and `Stays` judge a program for all answers there might be. `Along` judges it for those that `may` be given: its
statements are of the kind `P` on every path with such answers, and its result is `Q`.

`wp_of_along` is the way back to runs: where the statements are answered so, what each of them keeps, the program keeps.
-/

namespace Exec

variable {ξ S : Type} {R : S → Type} {α β γ σ τ : Type}

/-- Along all paths with answers of the kind `may`. -/
def Prog.Along (may : (s : S) → Except ξ (R s) → Prop) (P : S → Prop) (Q : α → Prop) : Prog ξ S R α → Prop
  | .ret a => Q a
  | .fail _ => True
  | .ask s k => P s ∧ ∀ r, may s r → Prog.Along may P Q (k r)

section Rules

variable {may : (s : S) → Except ξ (R s) → Prop} {P P' : S → Prop} {Q Q' : α → Prop}

@[simp] theorem along_ret (a : α) : (Prog.ret a : Prog ξ S R α).Along may P Q ↔ Q a := Iff.rfl

theorem along_stmt {s : S} {Q : R s → Prop} (hs : P s) (hQ : ∀ a, may s (.ok a) → Q a) :
    (Prog.stmt s : Prog ξ S R (R s)).Along may P Q := by
  refine ⟨hs, fun r hr => ?_⟩
  cases r with
  | ok a => exact hQ a hr
  | error e => trivial

variable {p : Prog ξ S R α}

theorem along_mono (hQ : ∀ a, Q a → Q' a) (hp : p.Along may P Q) : p.Along may P Q' := by
  induction p with
  | ret a => exact hQ a hp
  | fail e => trivial
  | ask s k ih => exact ⟨hp.1, fun r hr => ih r (hp.2 r hr)⟩

theorem along_bind {f : α → Prog ξ S R β} {Q : β → Prop}
    (hp : p.Along may P fun a => (f a).Along may P Q) : (p >>= f).Along may P Q := by
  induction p with
  | ret a => exact hp
  | fail e => trivial
  | ask s k ih => exact ⟨hp.1, fun r hr => ih r (hp.2 r hr)⟩

theorem along_attempt {Q : Except ξ α → Prop} (hp : p.Along may P fun a => Q (.ok a))
    (he : ∀ e, Q (.error e)) : p.attempt.Along may P Q := by
  induction p with
  | ret a => exact hp
  | fail e => exact he e
  | ask s k ih => exact ⟨hp.1, fun r hr => ih r (hp.2 r hr)⟩

theorem along_tryCatch {h : ξ → Prog ξ S R α} (hp : p.Along may P Q) (hh : ∀ e, (h e).Along may P Q) :
    (tryCatch p h : Prog ξ S R α).Along may P Q := by
  change (Prog.instMonadExcept.go h p).Along may P Q
  induction p with
  | ret a => exact hp
  | fail e => exact hh e
  | ask s k ih => exact ⟨hp.1, fun r hr => ih r (hp.2 r hr)⟩

theorem along_of_only (hp : p.Only P) : p.Along may P fun _ => True := by
  induction p with
  | ret a => trivial
  | fail e => trivial
  | ask s k ih => exact ⟨hp.1, fun r _ => ih r (hp.2 r)⟩

/-- The consumed program's statements, and the consumer's. -/
theorem along_within {h : Consumer τ ξ S R} (hP : ∀ t s, P s → h t s = none → P' s)
    (hbody : ∀ t s t' body, h t s = some (t', body) → body.Along may P' (fun _ => True) ∧ ∀ r, may s r)
    (hp : p.Along may P Q) (t : τ) : (p.within h t).Along may P' fun _ => True := by
  induction p generalizing t with
  | ret a => trivial
  | fail e => trivial
  | ask s k ih =>
    cases hs : h t s with
    | none =>
      rw [Prog.within_ask_none hs]
      exact ⟨hP t s hp.1 hs, fun r hr => ih r (hp.2 r hr) t⟩
    | some b =>
      obtain ⟨hbody, hany⟩ := hbody t s b.1 b.2 hs
      rw [Prog.within_ask_some hs]
      refine along_bind (along_attempt (along_mono (fun a _ => ?_) hbody) fun e => ?_)
      · exact ih _ (hp.2 _ (hany _)) b.1
      · exact ih _ (hp.2 _ (hany _)) b.1

/-- Where statements are answered so, the program keeps what each of its statements keeps. -/
theorem wp_of_along {C : Setting ξ S R γ σ} {K : Contract S σ} {J : γ → σ → Prop}
    (hrely : ∀ g st st', K.rely st st' → J g st → J g st')
    (hstep : ∀ s, P s → ∀ g o st, K.inv st → C.allow g s o st → J g st →
      K.inv (answer C.exec s o st).2 ∧ K.guar s st (answer C.exec s o st).2 ∧
      J (C.note g s (answer C.exec s o st).1 st (answer C.exec s o st).2) (answer C.exec s o st).2)
    (hmay : ∀ s o st, may s (answer C.exec s o st).1) (hp : p.Along may P Q) {g : γ} {st : σ}
    (hJ : J g st) : Prog.wp C K (fun a g st => J g st ∧ Q a) (fun _ => J) p g st := by
  induction p generalizing g st with
  | ret a => exact ⟨hJ, hp⟩
  | fail e => exact hJ
  | ask s k ih =>
    intro st₁ hr hi o ho
    obtain ⟨hi', hg, hJ'⟩ := hstep s hp.1 g o st₁ hi ho (hrely g st st₁ hr hJ)
    exact ⟨hi', hg, ih _ (hp.2 _ (hmay s o st₁)) hJ'⟩

end Rules

end Exec
