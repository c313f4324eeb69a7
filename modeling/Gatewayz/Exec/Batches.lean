import Gatewayz.Exec.Prog
import Mathlib.Data.List.Basic
import Mathlib.Data.List.TakeDrop

/-!
# `Exec.Batches` — one statement for every batch

A program that has many rows to send cuts them into batches (`chunks`) and issues one statement for each (`forEach`). The
first statement that fails ends it, so what is carried out is an initial part of the batches (`carried`): all of them when
every statement is served and none is refused by the store (`Complete`).
-/

namespace Exec

variable {α β : Type}

/-! ## Cutting a list -/

/-- `l[i : i + n] for i in range(0, len(l), n)`. -/
def chunks (n : Nat) (l : List α) : List (List α) :=
  (List.range ((l.length + (n - 1)) / n)).map (fun i => (l.drop (i * n)).take n)

theorem flatten_range_chunks (n k : Nat) (l : List α) :
    ((List.range k).map (fun i => (l.drop (i * n)).take n)).flatten = l.take (k * n) := by
  induction k with
  | zero => simp
  | succ k ih =>
    rw [List.range_succ, List.map_append, List.flatten_append, ih, Nat.succ_mul, List.take_add]
    simp

theorem flatten_chunks {n : Nat} (hn : 0 < n) (l : List α) : (chunks n l).flatten = l := by
  rw [chunks, flatten_range_chunks]
  refine List.take_of_length_le ?_
  have hdiv := Nat.div_add_mod (l.length + (n - 1)) n
  have hmod := Nat.mod_lt (l.length + (n - 1)) hn
  rw [Nat.mul_comm] at hdiv
  omega

theorem mem_of_mem_chunks {n : Nat} {l c : List α} (hc : c ∈ chunks n l) {a : α} (ha : a ∈ c) : a ∈ l := by
  obtain ⟨i, -, rfl⟩ := List.mem_map.mp hc
  exact List.mem_of_mem_drop (List.mem_of_mem_take ha)

theorem chunks_map (n : Nat) (f : α → β) (l : List α) : chunks n (l.map f) = (chunks n l).map (List.map f) := by
  simp [chunks, List.map_drop, List.map_take]

@[simp] theorem chunks_nil (n : Nat) (hn : 0 < n) : chunks n ([] : List α) = [] := by
  have hzero : (0 + (n - 1)) / n = 0 := Nat.div_eq_of_lt (by omega)
  rw [chunks, List.length_nil, hzero]
  rfl

/-! ## What the link lets through -/

section Carried

variable {ξ : Type} (valid : β → Bool)

/-- The items whose statements are carried out, one after the other until one fails. -/
def carried : List β → List (Outcome ξ) → List β
  | [], _ => []
  | b :: bs, os =>
    match os.headD .served with
    | .served => if valid b then b :: carried bs os.tail else []
    | .lost _ => if valid b then [b] else []
    | .dropped _ => []

/-- Every statement is served, and the store refuses none. -/
def Complete : List β → List (Outcome ξ) → Prop
  | [], _ => True
  | b :: bs, os => os.headD .served = .served ∧ valid b = true ∧ Complete bs os.tail

instance decidableComplete [DecidableEq ξ] : ∀ (bs : List β) (os : List (Outcome ξ)), Decidable (Complete valid bs os)
  | [], _ => .isTrue trivial
  | _ :: bs, os =>
    have := decidableComplete bs os.tail
    inferInstanceAs (Decidable (_ ∧ _ ∧ _))

variable {valid}

variable (valid) in
theorem carried_prefix (bs : List β) (os : List (Outcome ξ)) : carried valid bs os <+: bs := by
  induction bs generalizing os with
  | nil => exact List.nil_prefix
  | cons b bs ih =>
    rw [carried]
    cases os.headD .served with
    | served =>
      dsimp only
      split
      · exact (List.prefix_cons_inj b).mpr (ih os.tail)
      · exact List.nil_prefix
    | lost e =>
      dsimp only
      split
      · exact (List.prefix_cons_inj b).mpr List.nil_prefix
      · exact List.nil_prefix
    | dropped e => exact List.nil_prefix

theorem carried_of_complete {bs : List β} {os : List (Outcome ξ)} (h : Complete valid bs os) : carried valid bs os = bs := by
  induction bs generalizing os with
  | nil => rfl
  | cons b bs ih =>
    obtain ⟨hserved, hvalid, hrest⟩ := h
    rw [carried, hserved]
    simp only [hvalid, if_true, ih hrest]

variable (valid) in
theorem carried_map {γ : Type} {valid' : γ → Bool} (f : β → γ) (h : ∀ b, valid' (f b) = valid b) (bs : List β)
    (os : List (Outcome ξ)) : carried valid' (bs.map f) os = (carried valid bs os).map f := by
  induction bs generalizing os with
  | nil => rfl
  | cons b bs ih =>
    rw [List.map_cons, carried, carried, h b]
    cases os.headD .served with
    | served =>
      dsimp only
      split
      · rw [List.map_cons, ih]
      · rfl
    | lost e =>
      dsimp only
      split <;> rfl
    | dropped e => rfl

end Carried

/-! ## One statement for every item -/

variable {ξ S : Type} {R : S → Type} {A σ : Type}

/-- Issue a statement for each item and collect the answers; an exception ends it. -/
def forEach (s : β → S) (collect : (b : β) → R (s b) → A) : List β → Prog ξ S R (List A)
  | [] => .ret []
  | b :: bs => do
    let a ← Prog.stmt (s b)
    let rest ← forEach s collect bs
    return collect b a :: rest

section Run

variable {exec : (s : S) → σ → Except ξ (R s) × σ} {s : β → S} {collect : (b : β) → R (s b) → A} {valid : β → Bool}
  {eff : β → σ → σ} {ans : (b : β) → σ → R (s b)} {refusal : ξ}

/-- The answers, each from the store that the items before it have left. -/
def answers (collect : (b : β) → R (s b) → A) (eff : β → σ → σ) (ans : (b : β) → σ → R (s b)) : List β → σ → List A
  | [], _ => []
  | b :: bs, st => collect b (ans b st) :: answers collect eff ans bs (eff b st)

variable (hexec : ∀ b st, exec (s b) st = if valid b then (.ok (ans b st), eff b st) else (.error refusal, st))

theorem run_stmt (s : S) (os : List (Outcome ξ)) (st : σ) : (Prog.stmt s : Prog ξ S R (R s)).run exec os st =
      ((answer exec s (os.headD .served) st).1, os.tail, (answer exec s (os.headD .served) st).2) := by
  rw [Prog.stmt, Prog.run]
  cases (answer exec s (os.headD .served) st).1 with
  | ok a => rfl
  | error e => rfl

variable (p : Prog ξ S R α)

variable (exec) in
theorem run_swallowed (os : List (Outcome ξ)) (st : σ) :
    (tryCatch (p >>= fun _ => pure ()) fun _ => pure () : Prog ξ S R Unit).run exec os st =
      (.ok (), (p.run exec os st).2) := by
  rw [Prog.run_tryCatch, Prog.run_bind]
  rcases p.run exec os st with ⟨r, os', st'⟩
  cases r <;> rfl

theorem run_caught (a : α) (os : List (Outcome ξ)) (st : σ) :
    ((tryCatch p fun _ => pure a : Prog ξ S R α).run exec os st).2.2 = (p.run exec os st).2.2 := by
  rw [Prog.run_tryCatch]
  rcases p.run exec os st with ⟨r, os', st'⟩
  cases r <;> rfl

theorem run_discarded (os : List (Outcome ξ)) (st : σ) :
    ((p >>= fun _ => pure () : Prog ξ S R Unit).run exec os st).2.2 = (p.run exec os st).2.2 := by
  rw [Prog.run_bind]
  rcases p.run exec os st with ⟨r, os', st'⟩
  cases r <;> rfl

theorem run_forEach_cons (collect : (b : β) → R (s b) → A) (b : β) (bs : List β) (os : List (Outcome ξ)) (st : σ) :
    (forEach s collect (b :: bs)).run exec os st =
      match answer exec (s b) (os.headD .served) st with
      | (.ok a, st') =>
        match (forEach s collect bs).run exec os.tail st' with
        | (.ok rest, os', st'') => (.ok (collect b a :: rest), os', st'')
        | (.error e, os', st'') => (.error e, os', st'')
      | (.error e, st') => (.error e, os.tail, st') := by
  rw [forEach, Prog.run_bind, run_stmt]
  rcases answer exec (s b) (os.headD .served) st with ⟨r, st'⟩
  cases r with
  | ok a =>
    dsimp only
    rw [Prog.run_bind]
    rcases Prog.run exec os.tail (forEach s collect bs) st' with ⟨r, os', st''⟩
    cases r <;> rfl
  | error e => rfl

section Whole

variable (exec s collect)

include hexec

/-- The store after it. -/
theorem run_forEach (bs : List β) (os : List (Outcome ξ)) (st : σ) :
    ((forEach s collect bs).run exec os st).2.2 = (carried valid bs os).foldl (fun st b => eff b st) st := by
  induction bs generalizing os st with
  | nil => rfl
  | cons b bs ih =>
    rw [run_forEach_cons, carried]
    cases os.headD .served with
    | served =>
      rw [answer_served, hexec]
      cases valid b with
      | false => rfl
      | true =>
        simp only [if_true, List.foldl_cons]
        rw [← ih os.tail (eff b st)]
        rcases (forEach s collect bs).run exec os.tail (eff b st) with ⟨r, os', st'⟩
        cases r <;> rfl
    | lost e =>
      rw [answer_lost, hexec]
      cases valid b <;> rfl
    | dropped e => rfl

theorem run_forEach_complete {bs : List β} {os : List (Outcome ξ)} (h : Complete valid bs os) (st : σ) :
    (forEach s collect bs).run exec os st =
      (.ok (answers collect eff ans bs st), os.drop bs.length, bs.foldl (fun st b => eff b st) st) := by
  induction bs generalizing os st with
  | nil => rfl
  | cons b bs ih =>
    obtain ⟨hserved, hvalid, hrest⟩ := h
    rw [run_forEach_cons, hserved, answer_served, hexec, if_pos hvalid]
    simp only [ih hrest]
    rw [List.drop_tail]
    rfl

/-- Less than all of it. -/
theorem run_forEach_broken {bs : List β} {os : List (Outcome ξ)} (h : ¬ Complete valid bs os) (st : σ) :
    ∃ e, ((forEach s collect bs).run exec os st).1 = .error e := by
  induction bs generalizing os st with
  | nil => exact absurd trivial h
  | cons b bs ih =>
    rw [run_forEach_cons]
    cases hout : os.headD .served with
    | served =>
      rw [answer_served, hexec]
      cases hvalid : valid b with
      | false => exact ⟨refusal, rfl⟩
      | true =>
        simp only [if_true]
        obtain ⟨e, he⟩ := ih (fun hrest => h ⟨hout, hvalid, hrest⟩) (eff b st)
        revert he
        rcases (forEach s collect bs).run exec os.tail (eff b st) with ⟨r, os', st'⟩
        intro he
        cases r with
        | ok a => cases he
        | error e' => exact ⟨e', rfl⟩
    | lost e => exact ⟨e, rfl⟩
    | dropped e => exact ⟨e, rfl⟩

end Whole

end Run

end Exec
