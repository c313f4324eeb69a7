import Gatewayz.Exec.Along
import Gatewayz.Exec.Batches

/-!
# `Exec.Served` — programs whose statements are served, and reads page by page

Where no statement fails a program is a function of the store it starts in: how many outcomes the link had in hand makes no
difference (`run_allServed`), so its run can be computed with the empty list.

`readPages` is the loop that asks for one page after the other until one is short.
-/

namespace Exec

variable {ξ S : Type} {R : S → Type} {α β σ : Type}

/-! ## Runs -/

section Runs

variable {exec : (s : S) → σ → Except ξ (R s) × σ}

theorem run_attempt (p : Prog ξ S R α) (os : List (Outcome ξ)) (st : σ) :
    p.attempt.run exec os st = (.ok (p.run exec os st).1, (p.run exec os st).2) := by
  induction p generalizing os st with
  | ret a => rfl
  | fail e => rfl
  | ask s k ih => exact ih _ _ _

/-- What each statement of a kind keeps, a program of such statements keeps. -/
theorem run_keeps_of_only {P : S → Prop} {I : σ → Prop} (hstep : ∀ s, P s → ∀ st, I st → I (exec s st).2)
    {p : Prog ξ S R α} (hp : p.Only P) (os : List (Outcome ξ)) {st : σ} (hst : I st) : I (p.run exec os st).2.2 := by
  induction p generalizing os st with
  | ret a => exact hst
  | fail e => exact hst
  | ask s k ih =>
    refine ih _ (hp.2 _) _ ?_
    cases os.headD .served with
    | served => exact hstep s hp.1 st hst
    | dropped e => exact hst
    | lost e => exact hstep s hp.1 st hst

def AllServed (os : List (Outcome ξ)) : Prop := ∀ o ∈ os, o = .served

theorem allServed_nil : AllServed ([] : List (Outcome ξ)) := fun _ h => absurd h List.not_mem_nil

variable {os : List (Outcome ξ)}

theorem AllServed.head (h : AllServed os) : os.headD .served = .served := by
  cases os with
  | nil => rfl
  | cons o os => exact h o List.mem_cons_self

theorem AllServed.tail (h : AllServed os) : AllServed os.tail :=
  fun o ho => h o (List.mem_of_mem_tail ho)

variable (exec) in
theorem run_allServed (h : AllServed os) (p : Prog ξ S R α) (st : σ) :
    (p.run exec os st).1 = (p.run exec [] st).1 ∧ (p.run exec os st).2.2 = (p.run exec [] st).2.2 := by
  induction p generalizing os st with
  | ret a => exact ⟨rfl, rfl⟩
  | fail e => exact ⟨rfl, rfl⟩
  | ask s k ih =>
    rw [Prog.run, Prog.run, h.head]
    exact ih _ h.tail _

variable (exec) in
theorem run_nil (p : Prog ξ S R α) (st : σ) : (p.run exec [] st).2.1 = [] := by
  induction p generalizing st with
  | ret a => rfl
  | fail e => rfl
  | ask s k ih => exact ih _ _

theorem run_bind_nil (p : Prog ξ S R α) (f : α → Prog ξ S R β) (st : σ) : (p >>= f).run exec [] st =
      match (p.run exec [] st).1 with
      | .ok a => (f a).run exec [] (p.run exec [] st).2.2
      | .error e => (.error e, [], (p.run exec [] st).2.2) := by
  have hnil := run_nil exec p st
  rw [Prog.run_bind]
  revert hnil
  rcases p.run exec [] st with ⟨r, os', st'⟩
  intro hnil
  obtain rfl : os' = [] := hnil
  cases r <;> rfl

end Runs

/-! ## Programs judged along all paths -/

section Along

variable {P : S → Prop} {Q : α → Prop} {p : Prog ξ S R α}

theorem run_of_along {exec : (s : S) → σ → Except ξ (R s) × σ} (hp : p.Along (fun _ _ => True) P Q) (os : List (Outcome ξ))
    (st : σ) {a : α} (h : (p.run exec os st).1 = .ok a) : Q a := by
  induction p generalizing os st with
  | ret b => exact Except.ok.inj h ▸ hp
  | fail e => cases h
  | ask s k ih => exact ih _ (hp.2 _ trivial) _ _ h

theorem only_of_along (hp : p.Along (fun _ _ => True) P Q) : p.Only P := by
  induction p with
  | ret a => trivial
  | fail e => trivial
  | ask s k ih => exact ⟨hp.1, fun r => ih r (hp.2 r trivial)⟩

theorem along_any (hp : p.Only P) (hQ : ∀ a, Q a) : p.Along (fun _ _ => True) P Q :=
  along_mono (fun a _ => hQ a) (along_of_only hp)

theorem only_forEach_of_mem {β A : Type} {s : β → S} {collect : (b : β) → R (s b) → A} {bs : List β}
    (h : ∀ b ∈ bs, P (s b)) : (forEach s collect bs : Prog ξ S R (List A)).Only P := by
  induction bs with
  | nil => trivial
  | cons b bs ih =>
    refine only_bind ((only_stmt _).mpr (h b List.mem_cons_self)) fun a => ?_
    exact only_bind (ih fun b' hb' => h b' (List.mem_cons_of_mem _ hb')) fun rest => trivial

end Along

/-! ## Reading page by page -/

/-- Pages of `n` rows until one is short. The loop of the source is not bounded; this one gives up when the fuel is out. -/
def readPages (query : Nat → Prog ξ S R (List α)) (n : Nat) (exhausted : ξ) : Nat → Nat → Prog ξ S R (List α)
  | 0, _ => .fail exhausted
  | fuel + 1, offset => do
    let batch ← query offset
    if batch.length < n then return batch
    else do
      let rest ← readPages query n exhausted fuel (offset + n)
      return batch ++ rest

section Pages

variable {exec : (s : S) → σ → Except ξ (R s) × σ} {query : Nat → Prog ξ S R (List α)} {n : Nat} {exhausted : ξ}
  (arrange : σ → List α) (I : σ → Prop) {total : Nat}

theorem only_readPages {P : S → Prop} (h : ∀ offset, (query offset).Only P) (fuel offset : Nat) :
    (readPages query n exhausted fuel offset).Only P := by
  induction fuel generalizing offset with
  | zero => trivial
  | succ fuel ih =>
    refine only_bind (h offset) fun batch => ?_
    split
    · trivial
    · exact only_bind (ih _) fun rest => trivial

/-- What the loop reads, given that the table stays the same and its pages are cut from some arrangement of it, and that
there is fuel for all of them. -/
theorem run_readPages (exhausted : ξ) (hquery : ∀ offset st, I st → ∃ st', I st' ∧
      (query offset).run exec [] st = (.ok (((arrange st).drop offset).take n), [], st'))
    (htotal : ∀ st, I st → (arrange st).length = total) (fuel offset : Nat) (hoffset : offset ≤ total)
    (hfuel : total < offset + fuel * n) (st : σ) (hst : I st) :
    ∃ rows st', I st' ∧ (readPages query n exhausted fuel offset).run exec [] st = (.ok rows, [], st') ∧
      (∀ x ∈ rows, ∃ st'', I st'' ∧ x ∈ arrange st'') ∧
      ((∀ st' st'', I st' → I st'' → arrange st' = arrange st'') ∨ total < offset + n → rows = (arrange st).drop offset) := by
  induction fuel generalizing offset st with
  | zero => omega
  | succ fuel ih =>
    obtain ⟨st', hst', hrun⟩ := hquery offset st hst
    have hlength : (((arrange st).drop offset).take n).length = min n (total - offset) := by
      rw [List.length_take, List.length_drop, htotal st hst]
    have hmem : ∀ x ∈ ((arrange st).drop offset).take n, ∃ st'', I st'' ∧ x ∈ arrange st'' :=
      fun x hx => ⟨st, hst, List.mem_of_mem_drop (List.mem_of_mem_take hx)⟩
    rw [readPages, run_bind_nil, hrun]
    dsimp only
    by_cases hshort : (((arrange st).drop offset).take n).length < n
    · -- the last page
      rw [if_pos hshort]
      refine ⟨_, st', hst', rfl, hmem, fun _ => List.take_of_length_le ?_⟩
      rw [List.length_drop, htotal st hst]
      omega
    · rw [if_neg hshort, Nat.succ_mul] at *
      obtain ⟨rest, st'', hst'', hrest, hrows, hall⟩ := ih (offset + n) (by omega) (by omega) st' hst'
      rw [run_bind_nil, hrest]
      refine ⟨_, st'', hst'', rfl, fun x hx => ?_, fun h => ?_⟩
      · rcases List.mem_append.mp hx with hx | hx
        · exact hmem x hx
        · exact hrows x hx
      · rcases h with hsame | hfew
        · rw [hall (.inl hsame), hsame st' st hst' hst, ← List.drop_drop, List.take_append_drop]
        · omega

end Pages

/-! ## How a program may end

`Prog.Ends exec p st r st'` says that some run of `p` on the store `st`, whatever the link did, ended with `r` and left `st'`. It is read
backwards: a sequence that succeeded went through its first part, a handled program succeeded or its handler did.
 -/

section Ends

/-- Some run of the program ends so. -/
def Prog.Ends (exec : (s : S) → σ → Except ξ (R s) × σ) (p : Prog ξ S R α) (st : σ) (r : Except ξ α) (st' : σ) : Prop :=
  ∃ os os', p.run exec os st = (r, os', st')

variable {exec : (s : S) → σ → Except ξ (R s) × σ} {st st' : σ}

variable {p : Prog ξ S R α} {r : Except ξ α}

theorem ends_of_run {os os' : List (Outcome ξ)} (h : p.run exec os st = (r, os', st')) :
    p.Ends exec st r st' := ⟨os, os', h⟩

@[simp] theorem ends_ret {a : α} : (Prog.ret a : Prog ξ S R α).Ends exec st r st' ↔ r = .ok a ∧ st' = st := by
  constructor
  · rintro ⟨os, os', h⟩
    cases h
    exact ⟨rfl, rfl⟩
  · rintro ⟨rfl, rfl⟩
    exact ⟨[], [], rfl⟩

@[simp] theorem ends_fail {e : ξ} : (Prog.fail e : Prog ξ S R α).Ends exec st r st' ↔ r = .error e ∧ st' = st := by
  constructor
  · rintro ⟨os, os', h⟩
    cases h
    exact ⟨rfl, rfl⟩
  · rintro ⟨rfl, rfl⟩
    exact ⟨[], [], rfl⟩

theorem ends_bind {f : α → Prog ξ S R β} {b : β} (h : (p >>= f).Ends exec st (.ok b) st') :
    ∃ a st₁, p.Ends exec st (.ok a) st₁ ∧ (f a).Ends exec st₁ (.ok b) st' := by
  obtain ⟨os, os', h⟩ := h
  rw [Prog.run_bind] at h
  rcases hp : p.run exec os st with ⟨r, os₁, st₁⟩
  rw [hp] at h
  cases r with
  | ok a => exact ⟨a, st₁, ⟨os, os₁, hp⟩, ⟨os₁, os', h⟩⟩
  | error e => cases h

theorem ends_stmt {s : S} {a : R s} (h : (Prog.stmt s : Prog ξ S R (R s)).Ends exec st (.ok a) st') :
    exec s st = (.ok a, st') := by
  obtain ⟨os, os', h⟩ := h
  rw [run_stmt] at h
  obtain ⟨hr, -, rfl⟩ : (answer exec s (os.headD .served) st).1 = .ok a ∧ os.tail = os' ∧
      (answer exec s (os.headD .served) st).2 = st' := by simpa [Prod.ext_iff] using h
  cases ho : os.headD .served with
  | served =>
    rw [ho] at hr
    exact Prod.ext hr rfl
  | dropped e =>
    rw [ho] at hr
    cases hr
  | lost e =>
    rw [ho] at hr
    cases hr

theorem ends_tryCatch {h : ξ → Prog ξ S R α} (hp : (tryCatch p h : Prog ξ S R α).Ends exec st r st') :
    (∃ a, r = .ok a ∧ p.Ends exec st (.ok a) st') ∨ ∃ e st₁, p.Ends exec st (.error e) st₁ ∧ (h e).Ends exec st₁ r st' := by
  obtain ⟨os, os', hp⟩ := hp
  rw [Prog.run_tryCatch] at hp
  rcases hrun : p.run exec os st with ⟨r', os₁, st₁⟩
  rw [hrun] at hp
  cases r' with
  | ok a =>
    cases hp
    exact .inl ⟨a, rfl, os, os', hrun⟩
  | error e => exact .inr ⟨e, st₁, ⟨os, os₁, hrun⟩, ⟨os₁, os', hp⟩⟩

theorem ends_rethrown {h : ξ → Prog ξ S R α} {a : α} (hh : ∀ e, ∃ e', h e = .fail e')
    (hp : (tryCatch p h : Prog ξ S R α).Ends exec st (.ok a) st') : p.Ends exec st (.ok a) st' := by
  rcases ends_tryCatch hp with ⟨a', heq, hend⟩ | ⟨e, st₁, -, hend⟩
  · cases heq
    exact hend
  · obtain ⟨e', he⟩ := hh e
    rw [he, ends_fail] at hend
    cases hend.1

theorem ends_keeps {P : S → Prop} {I : σ → Prop} (hstep : ∀ s, P s → ∀ st, I st → I (exec s st).2)
    (hp : p.Only P) (h : p.Ends exec st r st') (hst : I st) : I st' := by
  obtain ⟨os, os', h⟩ := h
  have hkeep := run_keeps_of_only hstep hp os hst
  rwa [h] at hkeep

end Ends

end Exec
