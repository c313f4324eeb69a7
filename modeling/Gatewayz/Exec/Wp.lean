import Gatewayz.Exec.Prog

/-!
# `Exec.Wp` — what a program does among others

A program is judged **one statement at a time**. Before each of its statements the other users of the store
may have moved it, as the *rely* relation allows; the statement itself must keep the store's *invariant* and
must be a move that the *guarantee* relation allows. `Prog.wp` folds these obligations over the tree of a
program and ends in two postconditions, one for results and one for exceptions.

A `Setting` says how statements act (`exec`), what the program's observer writes down about its answers
(`note`), and which link behaviour a run may show (`allow`, over the note, the statement, the outcome and the
store). A `Contract` holds the three relations of the proof.

* `wp_run` is the soundness of `wp` for a program alone on the store (`Prog.run`); for several programs at once
  it is in `Exec.Pool`.
-/

namespace Exec

/-- How statements act and what a run may show. -/
structure Setting (ξ S : Type) (R : S → Type) (γ σ : Type) where
  exec : (s : S) → σ → Except ξ (R s) × σ
  /-- The note after `s` got its answer, with the store before and after it. -/
  note : γ → (s : S) → Except ξ (R s) → σ → σ → γ
  /-- May the link do this with `s`, in this store? -/
  allow : γ → S → Outcome ξ → σ → Prop

/-- What one party relies on and guarantees, and the invariant all parties share. -/
structure Contract (S σ : Type) where
  inv : σ → Prop
  rely : σ → σ → Prop
  guar : S → σ → σ → Prop

variable {ξ S : Type} {R : S → Type} {γ σ α β : Type}

namespace Prog

/-- Weakest precondition of a program among others: every statement, issued in any store the rely leads
    to, keeps the invariant and the guarantee, and the rest of the program is right for its answer. -/
def wp (C : Setting ξ S R γ σ) (K : Contract S σ) (Q : α → γ → σ → Prop) (E : ξ → γ → σ → Prop) :
    Prog ξ S R α → γ → σ → Prop
  | .ret a, g, st => Q a g st
  | .fail e, g, st => E e g st
  | .ask s k, g, st =>
    ∀ st₁, K.rely st st₁ → K.inv st₁ → ∀ o, C.allow g s o st₁ →
      K.inv (answer C.exec s o st₁).2 ∧ K.guar s st₁ (answer C.exec s o st₁).2 ∧
      wp C K Q E (k (answer C.exec s o st₁).1)
        (C.note g s (answer C.exec s o st₁).1 st₁ (answer C.exec s o st₁).2)
        (answer C.exec s o st₁).2

/-- A program whose every statement satisfies `P`, whatever the answers. -/
def Only (P : S → Prop) : Prog ξ S R α → Prop
  | .ret _ => True
  | .fail _ => True
  | .ask s k => P s ∧ ∀ r, Only P (k r)

/-- A run of a program alone on the store stays within what the setting allows. -/
def Admits (C : Setting ξ S R γ σ) : List (Outcome ξ) → Prog ξ S R α → γ → σ → Prop
  | _, .ret _, _, _ => True
  | _, .fail _, _, _ => True
  | os, .ask s k, g, st =>
    C.allow g s (os.headD .served) st ∧
    Admits C os.tail (k (answer C.exec s (os.headD .served) st).1)
      (C.note g s (answer C.exec s (os.headD .served) st).1 st
        (answer C.exec s (os.headD .served) st).2)
      (answer C.exec s (os.headD .served) st).2

/-- The note at the end of a run. -/
def noted (C : Setting ξ S R γ σ) : List (Outcome ξ) → Prog ξ S R α → γ → σ → γ
  | _, .ret _, g, _ => g
  | _, .fail _, g, _ => g
  | os, .ask s k, g, st =>
    noted C os.tail (k (answer C.exec s (os.headD .served) st).1)
      (C.note g s (answer C.exec s (os.headD .served) st).1 st (answer C.exec s (os.headD .served) st).2)
      (answer C.exec s (os.headD .served) st).2

theorem admits_of_allow {C : Setting ξ S R γ σ} (h : ∀ g s o st, C.allow g s o st) (os : List (Outcome ξ))
    (p : Prog ξ S R α) (g : γ) (st : σ) : p.Admits C os g st := by
  induction p generalizing os g st with
  | ret a => trivial
  | fail e => trivial
  | ask s k ih => exact ⟨h g s _ st, ih _ _ _ _⟩

/-- Whether a concrete run stays within a decidable setting can be computed. -/
instance decidableAdmits (C : Setting ξ S R γ σ) [∀ g s o st, Decidable (C.allow g s o st)] :
    ∀ (os : List (Outcome ξ)) (p : Prog ξ S R α) (g : γ) (st : σ), Decidable (p.Admits C os g st)
  | _, .ret _, _, _ => .isTrue trivial
  | _, .fail _, _, _ => .isTrue trivial
  | os, .ask s k, g, st =>
    have := decidableAdmits C os.tail (k (answer C.exec s (os.headD .served) st).1)
      (C.note g s (answer C.exec s (os.headD .served) st).1 st
        (answer C.exec s (os.headD .served) st).2)
      (answer C.exec s (os.headD .served) st).2
    inferInstanceAs (Decidable (_ ∧ _))

end Prog

/-- What is to hold of an answer: `Q` of a value, `E` of an exception. -/
def Answered (Q : α → Prop) (E : ξ → Prop) : Except ξ α → Prop
  | .ok a => Q a
  | .error e => E e

@[simp] theorem answered_ok (Q : α → Prop) (E : ξ → Prop) (a : α) : Answered Q E (.ok a) = Q a := rfl
@[simp] theorem answered_error (Q : α → Prop) (E : ξ → Prop) (e : ξ) : Answered Q E (.error e) = E e := rfl

/-! ## Taking programs apart -/

variable {g : γ} {st : σ} {p : Prog ξ S R α} {f : α → Prog ξ S R β}

section Rules

variable {C : Setting ξ S R γ σ} {K : Contract S σ}
variable {Q Q' : α → γ → σ → Prop} {E E' : ξ → γ → σ → Prop}

@[simp] theorem wp_ret (a : α) (g : γ) (st : σ) : Prog.wp C K Q E (.ret a : Prog ξ S R α) g st = Q a g st := rfl
@[simp] theorem wp_fail (e : ξ) (g : γ) (st : σ) : Prog.wp C K Q E (.fail e : Prog ξ S R α) g st = E e g st := rfl

theorem wp_bind (p : Prog ξ S R α) (f : α → Prog ξ S R β) {Q : β → γ → σ → Prop} (g : γ) (st : σ) :
    Prog.wp C K Q E (p >>= f) g st = Prog.wp C K (fun a => Prog.wp C K Q E (f a)) E p g st := by
  induction p generalizing g st with
  | ret a => rfl
  | fail e => rfl
  | ask s k ih =>
    simp only [Prog.ask_bind, Prog.wp, ih]

theorem wp_attempt (p : Prog ξ S R α) {Q : Except ξ α → γ → σ → Prop} (g : γ) (st : σ) :
    Prog.wp C K Q E p.attempt g st =
      Prog.wp C K (fun a => Q (.ok a)) (fun e => Q (.error e)) p g st := by
  induction p generalizing g st with
  | ret a => rfl
  | fail e => rfl
  | ask s k ih => simp only [Prog.attempt, Prog.wp, ih]

theorem wp_andFinally (p : Prog ξ S R α) (f : Prog ξ S R Unit) (g : γ) (st : σ) :
    Prog.wp C K Q E (p.andFinally f) g st =
      Prog.wp C K (fun a => Prog.wp C K (fun _ => Q a) E f) (fun e => Prog.wp C K (fun _ => E e) E f) p g st := by
  have hok (a : α) : Prog.wp C K Q E (f >>= fun _ => .ret a) = Prog.wp C K (fun _ => Q a) E f :=
    funext fun g => funext fun st => wp_bind f _ g st
  have herr (e : ξ) : Prog.wp C K Q E (f >>= fun _ => (.fail e : Prog ξ S R α)) = Prog.wp C K (fun _ => E e) E f :=
    funext fun g => funext fun st => wp_bind f _ g st
  rw [Prog.andFinally, wp_bind, wp_attempt]
  simp only [hok, herr]

theorem wp_tryCatch (p : Prog ξ S R α) (h : ξ → Prog ξ S R α) (g : γ) (st : σ) : Prog.wp C K Q E (tryCatch p h) g st =
      Prog.wp C K Q (fun e => Prog.wp C K Q E (h e)) p g st := by
  change Prog.wp C K Q E (Prog.instMonadExcept.go h p) g st = _
  induction p generalizing g st with
  | ret a => rfl
  | fail e => rfl
  | ask s k ih => simp only [Prog.instMonadExcept.go, Prog.wp, ih]

theorem wp_stmt {s : S} {Q : R s → γ → σ → Prop} (h : ∀ st₁, K.rely st st₁ → K.inv st₁ → ∀ o, C.allow g s o st₁ →
      K.inv (answer C.exec s o st₁).2 ∧ K.guar s st₁ (answer C.exec s o st₁).2 ∧
      Answered (fun a => Q a (C.note g s (.ok a) st₁ (answer C.exec s o st₁).2) (answer C.exec s o st₁).2)
        (fun e => E e (C.note g s (.error e) st₁ (answer C.exec s o st₁).2) (answer C.exec s o st₁).2)
        (answer C.exec s o st₁).1) :
    Prog.wp C K Q E (.stmt s : Prog ξ S R (R s)) g st := by
  intro st₁ hr hi o ho
  obtain ⟨hi', hg, hq⟩ := h st₁ hr hi o ho
  refine ⟨hi', hg, ?_⟩
  revert hq
  generalize (answer C.exec s o st₁).1 = r
  cases r with
  | ok a => exact id
  | error e => exact id

theorem wp_mono (hQ : ∀ a g st, Q a g st → Q' a g st) (hE : ∀ e g st, E e g st → E' e g st)
    (h : Prog.wp C K Q E p g st) : Prog.wp C K Q' E' p g st := by
  induction p generalizing g st with
  | ret a => exact hQ a g st h
  | fail e => exact hE e g st h
  | ask s k ih =>
    intro st₁ hr hi o ho
    obtain ⟨hi', hg, hk⟩ := h st₁ hr hi o ho
    exact ⟨hi', hg, ih _ hk⟩

theorem wp_post (hQ : ∀ a g st, Q a g st → Q' a g st) (h : Prog.wp C K Q E p g st) : Prog.wp C K Q' E p g st :=
  wp_mono hQ (fun _ _ _ h => h) h

theorem wp_seq {Q' : β → γ → σ → Prop} (h : Prog.wp C K Q E p g st)
    (hf : ∀ a g st, Q a g st → Prog.wp C K Q' E (f a) g st) : Prog.wp C K Q' E (p >>= f) g st := by
  rw [wp_bind]
  exact wp_post hf h

theorem wp_rely (htrans : ∀ a b c, K.rely a b → K.rely b c → K.rely a c)
    (hQ : ∀ a g st st', K.rely st st' → Q a g st → Q a g st')
    (hE : ∀ e g st st', K.rely st st' → E e g st → E e g st') {st st' : σ} (hr : K.rely st st')
    (h : Prog.wp C K Q E p g st) : Prog.wp C K Q E p g st' := by
  cases p with
  | ret a => exact hQ a g st st' hr h
  | fail e => exact hE e g st st' hr h
  | ask s k => exact fun st₁ hr₁ => h st₁ (htrans _ _ _ hr hr₁)

end Rules

/-! ## Programs of harmless statements -/

section Only

variable {P P' : S → Prop}

@[simp] theorem only_ret (a : α) : Prog.Only P (.ret a : Prog ξ S R α) := trivial
@[simp] theorem only_fail (e : ξ) : Prog.Only P (.fail e : Prog ξ S R α) := trivial
@[simp] theorem only_stmt (s : S) : Prog.Only P (.stmt s : Prog ξ S R (R s)) ↔ P s := by
  refine ⟨fun h => h.1, fun h => ⟨h, fun r => ?_⟩⟩
  cases r with
  | ok a => trivial
  | error e => trivial

theorem only_bind (hp : p.Only P) (hf : ∀ a, (f a).Only P) : (p >>= f).Only P := by
  induction p with
  | ret a => exact hf a
  | fail e => trivial
  | ask s k ih => exact ⟨hp.1, fun r => ih r (hp.2 r)⟩

theorem only_attempt (hp : p.Only P) : p.attempt.Only P := by
  induction p with
  | ret a => trivial
  | fail e => trivial
  | ask s k ih => exact ⟨hp.1, fun r => ih r (hp.2 r)⟩

theorem only_tryCatch {h : ξ → Prog ξ S R α} (hp : p.Only P) (hh : ∀ e, (h e).Only P) :
    (tryCatch p h : Prog ξ S R α).Only P := by
  change (Prog.instMonadExcept.go h p).Only P
  induction p with
  | ret a => trivial
  | fail e => exact hh e
  | ask s k ih => exact ⟨hp.1, fun r => ih r (hp.2 r)⟩

theorem only_true (p : Prog ξ S R α) : p.Only fun _ => True := by
  induction p with
  | ret a => trivial
  | fail e => trivial
  | ask s k ih => exact ⟨trivial, ih⟩

theorem only_mono (h : ∀ s, P s → P' s) (hp : p.Only P) : p.Only P' := by
  induction p with
  | ret a => trivial
  | fail e => trivial
  | ask s k ih => exact ⟨h s hp.1, fun r => ih r (hp.2 r)⟩

/-- A program of harmless statements keeps what each of them keeps. -/
theorem wp_of_only {C : Setting ξ S R γ σ} {K : Contract S σ} {J : γ → σ → Prop}
    (hrely : ∀ g st st', K.rely st st' → J g st → J g st')
    (hstep : ∀ s, P s → ∀ g o st, K.inv st → C.allow g s o st → J g st →
      K.inv (answer C.exec s o st).2 ∧ K.guar s st (answer C.exec s o st).2 ∧
      J (C.note g s (answer C.exec s o st).1 st (answer C.exec s o st).2) (answer C.exec s o st).2)
    (hp : p.Only P) (hJ : J g st) :
    Prog.wp C K (fun _ => J) (fun _ => J) p g st := by
  induction p generalizing g st with
  | ret a => exact hJ
  | fail e => exact hJ
  | ask s k ih =>
    intro st₁ hr hi o ho
    obtain ⟨hi', hg, hJ'⟩ := hstep s hp.1 g o st₁ hi ho (hrely g st st₁ hr hJ)
    exact ⟨hi', hg, ih _ (hp.2 _) hJ'⟩

theorem wp_anything {C : Setting ξ S R γ σ} {K : Contract S σ} (hinv : ∀ st, K.inv st)
    (hguar : ∀ s st st', K.guar s st st') (p : Prog ξ S R α) (g : γ) (st : σ) :
    Prog.wp C K (fun _ _ _ => True) (fun _ _ _ => True) p g st := by
  induction p generalizing g st with
  | ret a => trivial
  | fail e => trivial
  | ask s k ih => exact fun _ _ _ _ _ => ⟨hinv _, hguar _ _ _, ih _ _ _⟩

end Only

/-! ## Programs of harmless statements and exceptions -/

section Stays

variable {P : S → Prop} {F : ξ → Prop}

/-- The program issues statements of the kind `P`, and raises exceptions of the kind `F` as long as they do. -/
def Prog.Stays (P : S → Prop) (F : ξ → Prop) : Prog ξ S R α → Prop
  | .ret _ => True
  | .fail e => F e
  | .ask s k => P s ∧ ∀ r, (∀ e, r = .error e → F e) → Prog.Stays P F (k r)

theorem Prog.Only.stays (hp : p.Only P) : p.Stays P fun _ => True := by
  induction p with
  | ret a => trivial
  | fail e => trivial
  | ask s k ih => exact ⟨hp.1, fun r _ => ih r (hp.2 r)⟩

theorem Prog.Stays.only (hp : p.Stays P fun _ => True) : p.Only P := by
  induction p with
  | ret a => trivial
  | fail e => trivial
  | ask s k ih => exact ⟨hp.1, fun r => ih r (hp.2 r fun _ _ => trivial)⟩

theorem stays_stmt {s : S} (hs : P s) : (Prog.stmt s : Prog ξ S R (R s)).Stays P F := by
  refine ⟨hs, fun r hr => ?_⟩
  cases r with
  | ok a => trivial
  | error e => exact hr e rfl

theorem stays_bind (hp : p.Stays P F) (hf : ∀ a, (f a).Stays P F) : (p >>= f).Stays P F := by
  induction p with
  | ret a => exact hf a
  | fail e => exact hp
  | ask s k ih => exact ⟨hp.1, fun r hr => ih r (hp.2 r hr)⟩

theorem stays_tryCatch {h : ξ → Prog ξ S R α} (hp : p.Stays P F) (hh : ∀ e, F e → (h e).Stays P F) :
    (tryCatch p h : Prog ξ S R α).Stays P F := by
  change (Prog.instMonadExcept.go h p).Stays P F
  induction p with
  | ret a => trivial
  | fail e => exact hh e hp
  | ask s k ih => exact ⟨hp.1, fun r hr => ih r (hp.2 r hr)⟩

theorem stays_attempt (hp : p.Stays P F) : p.attempt.Stays P F := by
  induction p with
  | ret a => trivial
  | fail e => trivial
  | ask s k ih => exact ⟨hp.1, fun r hr => ih r (hp.2 r hr)⟩

theorem stays_andFinally {f : Prog ξ S R Unit} (hp : p.Stays P F) (hf : f.Stays P F) : (p.andFinally f).Stays P F := by
  induction p with
  | ret a =>
    show (f >>= fun _ => (.ret a : Prog ξ S R α)).Stays P F
    exact stays_bind hf fun _ => trivial
  | fail e =>
    show (f >>= fun _ => (.fail e : Prog ξ S R α)).Stays P F
    exact stays_bind hf fun _ => hp
  | ask s k ih => exact ⟨hp.1, fun r hr => ih r (hp.2 r hr)⟩

/-- Such a program keeps what each of its statements keeps, and raises what they may raise. -/
theorem wp_of_stays {C : Setting ξ S R γ σ} {K : Contract S σ} {J : γ → σ → Prop}
    (hrely : ∀ g st st', K.rely st st' → J g st → J g st')
    (hstep : ∀ s, P s → ∀ g o st, K.inv st → C.allow g s o st → J g st →
      K.inv (answer C.exec s o st).2 ∧ K.guar s st (answer C.exec s o st).2 ∧
      J (C.note g s (answer C.exec s o st).1 st (answer C.exec s o st).2) (answer C.exec s o st).2 ∧
      ∀ e, (answer C.exec s o st).1 = .error e → F e) (hp : p.Stays P F) (hJ : J g st) :
    Prog.wp C K (fun _ => J) (fun e g st => J g st ∧ F e) p g st := by
  induction p generalizing g st with
  | ret a => exact hJ
  | fail e => exact ⟨hJ, hp⟩
  | ask s k ih =>
    intro st₁ hr hi o ho
    obtain ⟨hi', hg, hJ', hF⟩ := hstep s hp.1 g o st₁ hi ho (hrely g st st₁ hr hJ)
    exact ⟨hi', hg, ih _ (hp.2 _ hF) hJ'⟩

end Stays

/-! ## A program alone on the store -/

/-- The contract of a program that has the store to itself. -/
def Contract.alone : Contract S σ := ⟨fun _ => True, Eq, fun _ _ _ => True⟩

section Alone

variable {C : Setting ξ S R γ σ} {K : Contract S σ}
variable {Q : α → γ → σ → Prop} {E : ξ → γ → σ → Prop}

variable {os : List (Outcome ξ)}

/-- Soundness for a program alone on the store. -/
theorem wp_run (hrefl : ∀ st, K.rely st st) (hi : K.inv st) (h : Prog.wp C K Q E p g st) (ha : p.Admits C os g st) :
    K.inv (p.run C.exec os st).2.2 ∧
      ∃ g', Answered (fun a => Q a g' (p.run C.exec os st).2.2) (fun e => E e g' (p.run C.exec os st).2.2)
      (p.run C.exec os st).1 := by
  induction p generalizing os g st with
  | ret a => exact ⟨hi, g, h⟩
  | fail e => exact ⟨hi, g, h⟩
  | ask s k ih =>
    obtain ⟨hi', -, hk⟩ := h st (hrefl st) hi _ ha.1
    exact ih _ hi' hk ha.2

theorem wp_run_alone (h : Prog.wp C .alone Q E p g st) (ha : p.Admits C os g st) :
    ∃ g', Answered (fun a => Q a g' (p.run C.exec os st).2.2) (fun e => E e g' (p.run C.exec os st).2.2)
      (p.run C.exec os st).1 :=
  (wp_run (fun _ => rfl) trivial h ha).2

theorem wp_noted (h : Prog.wp C .alone Q E p g st) (ha : p.Admits C os g st) :
    Answered (fun a => Q a (p.noted C os g st) (p.run C.exec os st).2.2)
      (fun e => E e (p.noted C os g st) (p.run C.exec os st).2.2) (p.run C.exec os st).1 := by
  induction p generalizing os g st with
  | ret a => exact h
  | fail e => exact h
  | ask s k ih =>
    obtain ⟨-, -, hk⟩ := h st rfl trivial _ ha.1
    exact ih _ hk ha.2

theorem wp_alone_anything (p : Prog ξ S R α) (g : γ) (st : σ) :
    Prog.wp C .alone (fun _ _ _ => True) (fun _ _ _ => True) p g st :=
  wp_anything (fun _ => trivial) (fun _ _ _ => trivial) p g st

/-- Completeness for a program alone on the store: what holds of the end of all its runs is what `wp` says. -/
theorem wp_of_runs (h : ∀ os, p.Admits C os g st → Answered (fun a => Q a (p.noted C os g st) (p.run C.exec os st).2.2)
      (fun e => E e (p.noted C os g st) (p.run C.exec os st).2.2) (p.run C.exec os st).1) :
    Prog.wp C .alone Q E p g st := by
  induction p generalizing g st with
  | ret a => exact h [] trivial
  | fail e => exact h [] trivial
  | ask s k ih =>
    intro st₁ hr _ o ho
    cases hr
    exact ⟨trivial, trivial, ih _ fun os ha => h (o :: os) ⟨ho, ha⟩⟩

theorem wp_back {J : γ → Prop} (hallow : ∀ g s st, C.allow g s .served st)
    (hback : ∀ g s r st st', J (C.note g s r st st') → J g)
    (h : Prog.wp C .alone (fun _ g _ => J g) (fun _ g _ => J g) p g st) : J g := by
  induction p generalizing g st with
  | ret a => exact h
  | fail e => exact h
  | ask s k ih =>
    obtain ⟨-, -, hk⟩ := h st rfl trivial .served (hallow g s st)
    exact hback g s _ st _ (ih _ hk)

theorem wp_alone_stmt {s : S} {Q : R s → γ → σ → Prop} (h : ∀ o, C.allow g s o st →
      Answered (fun a => Q a (C.note g s (.ok a) st (answer C.exec s o st).2) (answer C.exec s o st).2)
        (fun e => E e (C.note g s (.error e) st (answer C.exec s o st).2) (answer C.exec s o st).2)
        (answer C.exec s o st).1) :
    Prog.wp C .alone Q E (.stmt s : Prog ξ S R (R s)) g st :=
  wp_stmt fun st₁ hr _ o ho => by
    cases hr
    exact ⟨trivial, trivial, h o ho⟩

end Alone

end Exec
