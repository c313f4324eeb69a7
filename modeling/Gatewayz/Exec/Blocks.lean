import Mathlib.Data.List.Basic

/-!
# `Exec.Blocks` — streams of numbered blocks

A stream transmits a list of **blocks**, one after the other: `opened n` with the block's header, its items, `closed n`; the
numbers count up. `render` is the stream of a list of blocks. Two readers:

* `scan` — an automaton that accepts a stream exactly when it is a rendering (`scan_render`, `exists_render`);
* `assemble` — a client that keeps a list of blocks and puts every item where its number says. It does not ask for order, and
  gives back what was rendered (`assemble_render`).
-/

namespace Exec

inductive BlockEvent (α β : Type) where
  | opened (n : Int) (header : α)
  | item (n : Int) (x : β)
  | closed (n : Int)
  deriving DecidableEq

structure Block (α β : Type) where
  header : α
  items : List β := []

variable {α β : Type}

/-- The events of the block with number `n`. -/
def Block.events (n : Int) (b : Block α β) : List (BlockEvent α β) :=
  .opened n b.header :: b.items.map (.item n) ++ [.closed n]

/-- The stream of a list of blocks, numbered from `n`. -/
def render : Int → List (Block α β) → List (BlockEvent α β)
  | _, [] => []
  | n, b :: bs => b.events n ++ render (n + 1) bs

/-! ## The automaton -/

/-- Where a reader is: between two blocks, the next being `n`, or inside block `n`. -/
inductive Scan where
  | between (n : Int)
  | inside (n : Int)

def scanStep : Scan → BlockEvent α β → Option Scan
  | .between n, .opened m _ => if m = n then some (.inside n) else none
  | .inside n, .item m _ => if m = n then some (.inside n) else none
  | .inside n, .closed m => if m = n then some (.between (n + 1)) else none
  | _, _ => none

/-- A run of the automaton; `none` once an event was out of place. -/
def scan : Option Scan → List (BlockEvent α β) → Option Scan :=
  List.foldl fun s e => s.bind (scanStep · e)

variable (s : Option Scan)

@[simp] theorem scan_nil : scan (α := α) (β := β) s [] = s := rfl

@[simp] theorem scan_cons (e : BlockEvent α β) (es : List (BlockEvent α β)) :
    scan s (e :: es) = scan (s.bind (scanStep · e)) es := rfl

theorem scan_append (es fs : List (BlockEvent α β)) : scan s (es ++ fs) = scan (scan s es) fs :=
  List.foldl_append

@[simp] theorem scan_none (es : List (BlockEvent α β)) : scan none es = none := by
  induction es with
  | nil => rfl
  | cons e es ih => exact ih

theorem scan_items (n : Int) (xs : List β) :
    scan (α := α) (some (.inside n)) (xs.map (.item n)) = some (.inside n) := by
  induction xs with
  | nil => rfl
  | cons x xs ih => simpa [scanStep] using ih

theorem scan_block (n : Int) (b : Block α β) : scan (some (.between n)) (b.events n) = some (.between (n + 1)) := by
  simp [Block.events, scanStep, scan_append, scan_items]

theorem scan_render (bs : List (Block α β)) (n : Int) :
    scan (some (.between n)) (render n bs) = some (.between (n + bs.length)) := by
  induction bs generalizing n with
  | nil => simp [render]
  | cons b bs ih =>
    have hn : n + 1 + (bs.length : Int) = n + (bs.length + 1 : Nat) := by omega
    rw [render, scan_append, scan_block, ih, hn, List.length_cons]

/-- The rest of a stream that is accepted from inside block `n`: items of `n`, its end, and a rendering. -/
theorem inside_shape : ∀ (es : List (BlockEvent α β)) (n m : Int), (scan (some (.inside n)) es = some (.between m) →
      ∃ (xs : List β) (bs : List (Block α β)), es = xs.map (.item n) ++ .closed n :: render (n + 1) bs) ∧
    (scan (some (.between n)) es = some (.between m) → ∃ bs, es = render n bs) := by
  intro es
  induction es with
  | nil =>
    intro n m
    exact ⟨fun h => (by cases h), fun _ => ⟨[], rfl⟩⟩
  | cons e es ih =>
    intro n m
    refine ⟨fun h => ?_, fun h => ?_⟩
    · cases e with
      | opened k x => simp [scanStep] at h
      | item k x =>
        by_cases hk : k = n
        · subst hk
          obtain ⟨xs, bs, rfl⟩ := (ih k m).1 (by simpa [scanStep] using h)
          exact ⟨x :: xs, bs, rfl⟩
        · simp [scanStep, hk] at h
      | closed k =>
        by_cases hk : k = n
        · subst hk
          obtain ⟨bs, rfl⟩ := (ih (k + 1) m).2 (by simpa [scanStep] using h)
          exact ⟨[], bs, rfl⟩
        · simp [scanStep, hk] at h
    · cases e with
      | opened k x =>
        by_cases hk : k = n
        · subst hk
          obtain ⟨xs, bs, rfl⟩ := (ih k m).1 (by simpa [scanStep] using h)
          exact ⟨⟨x, xs⟩ :: bs, by simp [render, Block.events]⟩
        · simp [scanStep, hk] at h
      | item k x => simp [scanStep] at h
      | closed k => simp [scanStep] at h

theorem exists_render {es : List (BlockEvent α β)} {n m : Int} (h : scan (some (.between n)) es = some (.between m)) :
    ∃ bs, es = render n bs :=
  (inside_shape es n m).2 h

/-! ## The client -/

def Block.push (b : Block α β) (x : β) : Block α β := { b with items := b.items ++ [x] }

def assembleStep (bs : List (Block α β)) : BlockEvent α β → List (Block α β)
  | .opened _ h => bs ++ [⟨h, []⟩]
  | .item n x => bs.modify n.toNat (·.push x)
  | .closed _ => bs

/-- The blocks a client has after a stream. -/
def assemble (es : List (BlockEvent α β)) : List (Block α β) := es.foldl assembleStep []

@[simp] theorem assemble_concat (es : List (BlockEvent α β)) (e : BlockEvent α β) :
    assemble (es ++ [e]) = assembleStep (assemble es) e := by
  simp [assemble]

theorem push_last (bs : List (Block α β)) (b : Block α β) (x : β) :
    (bs ++ [b]).modify bs.length (·.push x) = bs ++ [b.push x] := by
  induction bs with
  | nil => rfl
  | cons c bs ih => simpa using ih

/-! ## Pieces -/

/-- Where no piece of one is longer, two lists are equal if their pieces are. -/
theorem flatMap_eq_iff {A B : Type} {f g : A → List B} {l : List A} (hle : ∀ a ∈ l, (f a).length ≤ (g a).length) :
    l.flatMap f = l.flatMap g ↔ ∀ a ∈ l, f a = g a := by
  have hlength : ∀ l : List A, (∀ a ∈ l, (f a).length ≤ (g a).length) → (l.flatMap f).length ≤ (l.flatMap g).length := by
    intro l hl
    induction l with
    | nil => exact Nat.le_refl 0
    | cons a l ih =>
      rw [List.flatMap_cons, List.flatMap_cons, List.length_append, List.length_append]
      exact Nat.add_le_add (hl a List.mem_cons_self) (ih fun b hb => hl b (List.mem_cons_of_mem a hb))
  constructor
  · induction l with
    | nil => exact fun _ a ha => absurd ha List.not_mem_nil
    | cons a l ih =>
      intro h
      have hrest : ∀ b ∈ l, (f b).length ≤ (g b).length := fun b hb => hle b (List.mem_cons_of_mem a hb)
      rw [List.flatMap_cons, List.flatMap_cons] at h
      have htotal := congrArg List.length h
      rw [List.length_append, List.length_append] at htotal
      have hhead := hle a List.mem_cons_self
      have htail := hlength l hrest
      obtain ⟨hfirst, hothers⟩ := List.append_inj h (by omega)
      intro b hb
      rcases List.mem_cons.mp hb with rfl | hb
      · exact hfirst
      · exact ih hrest hothers b hb
  · intro h
    exact List.flatMap_congr h

end Exec
