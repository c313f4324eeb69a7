import Mathlib.Logic.Function.Basic

/-!
# `Exec.Prog` — programs that talk to a store one statement at a time

A client program computes on its own and, from time to time, issues a **statement** to a store it shares
with other clients. The link to the store is unreliable. A statement can be *served*, it can be *dropped*
before the store sees it, or it can be carried out and its answer *lost* on the way back; the program
cannot tell the last two apart.

`Prog ξ S R α` is the tree of such a program: `S` are the statements, `R s` the answer to `s`, `ξ` the
exceptions (a failed statement raises one), `α` the result.
-/

namespace Exec

-- Under a name, so that the numerals of two clients are the same terms in every module.
instance two_clients : @NeZero Nat Zero.ofOfNat0 2 := ⟨Nat.succ_ne_zero 1⟩

/-- What the link does with one statement: the store serves it, never sees it, or serves it and the
    answer is lost. -/
inductive Outcome (ξ : Type) where
  | served
  | dropped (e : ξ)
  | lost (e : ξ)
  deriving DecidableEq

/-- A client program: a result, an exception, or a statement and what to do with its answer. -/
inductive Prog (ξ S : Type) (R : S → Type) (α : Type) where
  | ret (a : α)
  | fail (e : ξ)
  | ask (s : S) (k : Except ξ (R s) → Prog ξ S R α)

variable {ξ S : Type} {R : S → Type} {α β σ : Type}

namespace Prog

/-- Sequencing; an exception skips the rest. -/
def bind (p : Prog ξ S R α) (f : α → Prog ξ S R β) : Prog ξ S R β :=
  match p with
  | .ret a => f a
  | .fail e => .fail e
  | .ask s k => .ask s (fun r => (k r).bind f)

instance : Monad (Prog ξ S R) where
  pure := .ret
  bind := bind

instance : MonadExcept ξ (Prog ξ S R) where
  throw := .fail
  tryCatch p h := go h p
where
  /-- Run `p`; on an exception run the handler. -/
  go {α : Type} (h : ξ → Prog ξ S R α) : Prog ξ S R α → Prog ξ S R α
    | .ret a => .ret a
    | .fail e => h e
    | .ask s k => .ask s (fun r => go h (k r))

def stmt (s : S) : Prog ξ S R (R s) :=
  .ask s (fun r => match r with
    | .ok a => .ret a
    | .error e => .fail e)

/-- `try p`: the exception as a value. -/
def attempt : Prog ξ S R α → Prog ξ S R (Except ξ α)
  | .ret a => .ret (.ok a)
  | .fail e => .ret (.error e)
  | .ask s k => .ask s (fun r => (k r).attempt)

/-- `try p finally f`: `f` runs whatever becomes of `p`, and an exception of its own wins. -/
def andFinally (p : Prog ξ S R α) (f : Prog ξ S R Unit) : Prog ξ S R α := do
  let r ← p.attempt
  f
  match r with
  | .ok a => .ret a
  | .error e => .fail e

@[simp] theorem pure_eq (a : α) : (pure a : Prog ξ S R α) = .ret a := rfl
@[simp] theorem throw_eq (e : ξ) : (throw e : Prog ξ S R α) = .fail e := rfl
@[simp] theorem ret_bind (a : α) (f : α → Prog ξ S R β) : (Prog.ret a >>= f) = f a := rfl
@[simp] theorem fail_bind (e : ξ) (f : α → Prog ξ S R β) : ((Prog.fail e : Prog ξ S R α) >>= f) = .fail e := rfl
theorem ask_bind (s : S) (k : Except ξ (R s) → Prog ξ S R α) (f : α → Prog ξ S R β) :
    (Prog.ask s k >>= f) = .ask s (fun r => k r >>= f) := rfl

def result? : Prog ξ S R α → Option (Except ξ α)
  | .ret a => some (.ok a)
  | .fail e => some (.error e)
  | .ask _ _ => none

def Raised (p : Prog ξ S R α) : Prop := ∃ e, p = .fail e

instance : (p : Prog ξ S R α) → Decidable p.Raised
  | .ret _ => .isFalse nofun
  | .fail e => .isTrue ⟨e, rfl⟩
  | .ask _ _ => .isFalse nofun

def next? : Prog ξ S R α → Option S
  | .ask s _ => some s
  | _ => none

end Prog

/-! ## Answers and steps -/

/-- The answer to `s` and the store after it, under the link's `outcome`. -/
def answer (exec : (s : S) → σ → Except ξ (R s) × σ) (s : S) (o : Outcome ξ) (st : σ) :
    Except ξ (R s) × σ :=
  match o with
  | .served => exec s st
  | .dropped e => (.error e, st)
  | .lost e => (.error e, (exec s st).2)

section Answer

variable (exec : (s : S) → σ → Except ξ (R s) × σ)

@[simp] theorem answer_served (s : S) (st : σ) : answer exec s .served st = exec s st := rfl
@[simp] theorem answer_dropped (s : S) (e : ξ) (st : σ) : answer exec s (.dropped e) st = (.error e, st) := rfl
@[simp] theorem answer_lost (s : S) (e : ξ) (st : σ) : answer exec s (.lost e) st = (.error e, (exec s st).2) := rfl

/-- One turn: a finished program stays, any other takes its next statement. -/
def Prog.step (o : Outcome ξ) : Prog ξ S R α → σ → Prog ξ S R α × σ
  | .ret a, st => (.ret a, st)
  | .fail e, st => (.fail e, st)
  | .ask s k, st => (k (answer exec s o st).1, (answer exec s o st).2)

/-- A program alone on the store. The list says what the link does with each statement in turn; past its
    end every statement is served. Gives the result, the unused part of the list and the store. -/
def Prog.run : List (Outcome ξ) → Prog ξ S R α → σ → Except ξ α × List (Outcome ξ) × σ
  | os, .ret a, st => (.ok a, os, st)
  | os, .fail e, st => (.error e, os, st)
  | os, .ask s k, st =>
    Prog.run os.tail (k (answer exec s (os.headD .served) st).1)
      (answer exec s (os.headD .served) st).2

theorem Prog.run_keeps {P : σ → Prop} (h : ∀ s st, P st → P (exec s st).2) (p : Prog ξ S R α) (os : List (Outcome ξ))
    {st : σ} (hst : P st) : P (p.run exec os st).2.2 := by
  induction p generalizing os st with
  | ret a => exact hst
  | fail e => exact hst
  | ask s k ih =>
    refine ih _ _ ?_
    cases os.headD .served with
    | served => exact h s st hst
    | dropped e => exact hst
    | lost e => exact h s st hst

theorem Prog.run_bind (p : Prog ξ S R α) (f : α → Prog ξ S R β) (os : List (Outcome ξ)) (st : σ) :
    (p >>= f).run exec os st =
      match p.run exec os st with
      | (.ok a, os', st') => (f a).run exec os' st'
      | (.error e, os', st') => (.error e, os', st') := by
  induction p generalizing os st with
  | ret a => rfl
  | fail e => rfl
  | ask s k ih => exact ih _ _ _

theorem Prog.run_tryCatch (p : Prog ξ S R α) (h : ξ → Prog ξ S R α) (os : List (Outcome ξ)) (st : σ) :
    Prog.run exec os (tryCatch p h : Prog ξ S R α) st =
      match p.run exec os st with
      | (.ok a, os', st') => (.ok a, os', st')
      | (.error e, os', st') => (h e).run exec os' st' := by
  change Prog.run exec os (instMonadExcept.go h p) st = _
  induction p generalizing os st with
  | ret a => rfl
  | fail e => rfl
  | ask s k ih => exact ih _ _ _

end Answer

end Exec
