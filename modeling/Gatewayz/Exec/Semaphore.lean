import Mathlib.Data.List.Basic

/-!
# `Exec.Semaphore` — a counter with waiters in order

The semaphore of an event loop: a value, and the futures of those who wait, first come first served. Whoever gives a slot back
*hands it over*: the value goes down again and the first pending future is granted, though its owner goes on only later. In
between the slot belongs to nobody who runs. A waiter whose future is cancelled leaves when it goes on; one that was granted
a slot and is then made to leave hands the slot over.
-/

namespace Exec

inductive Future where
  | pending
  | granted
  | cancelled
  deriving DecidableEq

structure Waiter (α : Type) where
  who : α
  future : Future := .pending
  deriving DecidableEq

/-- A semaphore: its value, and its waiters in order. -/
structure Semaphore (α : Type) where
  value : Nat
  waiters : List (Waiter α) := []
  deriving DecidableEq

namespace Semaphore

variable {α : Type}

/-- A slot is granted, and its owner has not gone on yet. -/
def granted (w : Waiter α) : Bool := w.future = .granted

def pending (w : Waiter α) : Bool := w.future = .pending

def grant (w : Waiter α) : Option (Waiter α) := if pending w then some { w with future := .granted } else none

/-- `locked`: the value is 0, or somebody waits who has not been cancelled. -/
def locked (s : Semaphore α) : Bool := s.value = 0 || s.waiters.any fun w => w.future ≠ .cancelled

/-- `_wake_up_next`: the first pending waiter gets a slot of the value. -/
def wakeUpNext (s : Semaphore α) : Semaphore α :=
  if s.waiters.any pending then { value := s.value - 1, waiters := s.waiters.replaceF grant } else s

def release (s : Semaphore α) : Semaphore α := wakeUpNext { s with value := s.value + 1 }

def take (s : Semaphore α) : Semaphore α := { s with value := s.value - 1 }

def enqueue (s : Semaphore α) (w : Waiter α) : Semaphore α := { s with waiters := s.waiters ++ [w] }

/-- The first waiter of the kind goes on, without more ado. -/
def leave (s : Semaphore α) (p : Waiter α → Bool) : Semaphore α := { s with waiters := s.waiters.eraseP p }

/-- It goes on with its slot; another is woken if there is a slot left. -/
def acquired (s : Semaphore α) (p : Waiter α → Bool) : Semaphore α :=
  if 0 < s.value then (s.leave p).wakeUpNext else s.leave p

/-- It goes on with an exception, and hands over the slot it was granted. -/
def withdraw (s : Semaphore α) (w : Waiter α) (p : Waiter α → Bool) : Semaphore α :=
  if granted w then (s.leave p).release else s.leave p

def change (s : Semaphore α) (p : Waiter α → Bool) (f : Waiter α → Waiter α) : Semaphore α :=
  { s with waiters := s.waiters.replaceF fun w => if p w then some (f w) else none }

/-- Slots nobody holds: the value, and those on their way to a waiter. -/
def slots (s : Semaphore α) : Nat := s.value + s.waiters.countP granted

/-! ## Lists of waiters -/

section Lists

variable {β : Type} {l : List β} {f : β → Option β} {p q : β → Bool} {b : β}

theorem length_replaceF : (l.replaceF f).length = l.length := by
  induction l with
  | nil => rfl
  | cons a l ih =>
    rw [List.replaceF_cons]
    cases f a with
    | none => rw [List.length_cons, ih, List.length_cons]
    | some b => rfl

theorem countP_replaceF (h : ∀ a b, f a = some b → q a = q b) : (l.replaceF f).countP q = l.countP q := by
  induction l with
  | nil => rfl
  | cons a l ih =>
    rw [List.replaceF_cons]
    cases hf : f a with
    | none => rw [List.countP_cons, ih, List.countP_cons]
    | some b => rw [List.countP_cons, List.countP_cons, h a b hf]

theorem mem_replaceF (h : b ∈ l.replaceF f) : b ∈ l ∨ ∃ a ∈ l, f a = some b := by
  induction l with
  | nil => cases h
  | cons a l ih =>
    rw [List.replaceF_cons] at h
    cases hf : f a with
    | none =>
      rw [hf] at h
      rcases List.mem_cons.mp h with rfl | h
      · exact .inl List.mem_cons_self
      · rcases ih h with h | ⟨c, hc, hfc⟩
        · exact .inl (List.mem_cons_of_mem a h)
        · exact .inr ⟨c, List.mem_cons_of_mem a hc, hfc⟩
    | some c =>
      rw [hf] at h
      rcases List.mem_cons.mp h with rfl | h
      · exact .inr ⟨a, List.mem_cons_self, hf⟩
      · exact .inl (List.mem_cons_of_mem a h)

/-- What is found is what `eraseP` takes out. -/
theorem countP_eraseP_of_find (h : l.find? p = some b) : l.countP q = (l.eraseP p).countP q + if q b then 1 else 0 := by
  induction l with
  | nil => cases h
  | cons a l ih =>
    rw [List.find?_cons] at h
    cases hp : p a with
    | true =>
      rw [hp] at h
      cases h
      rw [List.eraseP_cons_of_pos hp, List.countP_cons]
    | false =>
      rw [hp] at h
      rw [List.eraseP_cons_of_neg (by rw [hp]; exact Bool.false_ne_true), List.countP_cons, List.countP_cons, ih h]
      omega

theorem length_eraseP_of_find (h : l.find? p = some b) : l.length = (l.eraseP p).length + 1 :=
  (List.length_eraseP_add_one (List.mem_of_find?_eq_some h) (List.find?_some h)).symm

end Lists

/-! ## What the operations do -/

section Laws

variable {s : Semaphore α} {w : Waiter α} {p : Waiter α → Bool} {f : Waiter α → Waiter α}

/-- With a pending waiter among them, one more has been granted a slot. -/
theorem countP_grant {l : List (Waiter α)} (h : l.any pending = true) :
    (l.replaceF grant).countP granted = l.countP granted + 1 := by
  induction l with
  | nil => cases h
  | cons a l ih =>
    rw [List.replaceF_cons]
    by_cases ha : pending a = true
    · have hnot : granted a = false := by
        simp only [pending, granted, decide_eq_true_eq, decide_eq_false_iff_not] at ha ⊢
        rw [ha]
        decide
      rw [show grant a = some { a with future := .granted } from if_pos ha, List.countP_cons, List.countP_cons, hnot]
      rfl
    · rw [List.any_cons, Bool.or_eq_true_iff] at h
      rw [show grant a = none from if_neg ha, List.countP_cons, List.countP_cons, ih (h.resolve_left ha)]
      omega

theorem slots_wakeUpNext (h : 0 < s.value) : s.wakeUpNext.slots = s.slots := by
  unfold wakeUpNext
  split
  · next hany =>
    show s.value - 1 + (s.waiters.replaceF grant).countP granted = s.slots
    rw [countP_grant hany, slots]
    omega
  · rfl

@[simp] theorem length_wakeUpNext : s.wakeUpNext.waiters.length = s.waiters.length := by
  unfold wakeUpNext
  split
  · exact length_replaceF
  · rfl

theorem mem_wakeUpNext (h : w ∈ s.wakeUpNext.waiters) : ∃ v ∈ s.waiters, w.who = v.who := by
  unfold wakeUpNext at h
  split at h
  · rcases mem_replaceF h with h | ⟨v, hv, hgrant⟩
    · exact ⟨w, h, rfl⟩
    · unfold grant at hgrant
      split at hgrant
      · cases hgrant
        exact ⟨v, hv, rfl⟩
      · cases hgrant
  · exact ⟨w, h, rfl⟩

theorem slots_release : s.release.slots = s.slots + 1 := by
  rw [release, slots_wakeUpNext (Nat.succ_pos _)]
  simp only [slots]
  omega

@[simp] theorem length_release : s.release.waiters.length = s.waiters.length := length_wakeUpNext

theorem mem_release (h : w ∈ s.release.waiters) : ∃ v ∈ s.waiters, w.who = v.who :=
  mem_wakeUpNext (s := { s with value := s.value + 1 }) h

theorem slots_take (h : s.locked = false) : s.take.slots + 1 = s.slots := by
  have hvalue : s.value ≠ 0 := by
    simp only [locked, Bool.or_eq_false_iff, decide_eq_false_iff_not] at h
    exact h.1
  simp only [take, slots]
  omega

theorem slots_enqueue : (s.enqueue w).slots = s.slots + if granted w then 1 else 0 := by
  simp only [slots, enqueue, List.countP_append, List.countP_cons, List.countP_nil]
  omega

@[simp] theorem length_enqueue : (s.enqueue w).waiters.length = s.waiters.length + 1 := List.length_append

theorem slots_leave (h : s.waiters.find? p = some w) : s.slots = (s.leave p).slots + if granted w then 1 else 0 := by
  simp only [slots, leave, countP_eraseP_of_find h]
  omega

theorem length_leave (h : s.waiters.find? p = some w) : s.waiters.length = (s.leave p).waiters.length + 1 :=
  length_eraseP_of_find h

variable {v : Waiter α}

theorem mem_leave (h : v ∈ (s.leave p).waiters) : v ∈ s.waiters := List.mem_of_mem_eraseP h

theorem slots_acquired (h : s.waiters.find? p = some w) (hw : granted w = true) : (s.acquired p).slots + 1 = s.slots := by
  have hleave := slots_leave h
  rw [if_pos hw] at hleave
  unfold acquired
  split
  · next hvalue => rw [slots_wakeUpNext (s := s.leave p) hvalue, hleave]
  · exact hleave.symm

theorem length_acquired (h : s.waiters.find? p = some w) : s.waiters.length = (s.acquired p).waiters.length + 1 := by
  unfold acquired
  split
  · rw [length_wakeUpNext]
    exact length_leave h
  · exact length_leave h

theorem mem_acquired (h : v ∈ (s.acquired p).waiters) : ∃ u ∈ s.waiters, v.who = u.who := by
  unfold acquired at h
  split at h
  · obtain ⟨u, hu, hwho⟩ := mem_wakeUpNext h
    exact ⟨u, mem_leave hu, hwho⟩
  · exact ⟨v, mem_leave h, rfl⟩

theorem slots_withdraw (h : s.waiters.find? p = some w) : (s.withdraw w p).slots = s.slots := by
  have hleave := slots_leave h
  unfold withdraw
  split
  · next hw => rw [slots_release, hleave, if_pos hw]
  · next hw => rw [hleave, if_neg hw, Nat.add_zero]

theorem length_withdraw (h : s.waiters.find? p = some w) : s.waiters.length = (s.withdraw w p).waiters.length + 1 := by
  unfold withdraw
  split
  · rw [length_release]
    exact length_leave h
  · exact length_leave h

theorem mem_withdraw (h : v ∈ (s.withdraw w p).waiters) : ∃ u ∈ s.waiters, v.who = u.who := by
  unfold withdraw at h
  split at h
  · obtain ⟨u, hu, hwho⟩ := mem_release h
    exact ⟨u, mem_leave hu, hwho⟩
  · exact ⟨v, mem_leave h, rfl⟩

theorem slots_change (hf : ∀ w, granted (f w) = granted w) : (s.change p f).slots = s.slots := by
  have hcount : (s.change p f).waiters.countP granted = s.waiters.countP granted := by
    refine countP_replaceF fun a b hab => ?_
    split at hab
    · cases hab
      exact (hf a).symm
    · cases hab
  simp only [slots, hcount]
  rfl

@[simp] theorem length_change : (s.change p f).waiters.length = s.waiters.length := length_replaceF

theorem mem_change (h : w ∈ (s.change p f).waiters) : w ∈ s.waiters ∨ ∃ v ∈ s.waiters, w = f v := by
  rcases mem_replaceF h with h | ⟨v, hv, heq⟩
  · exact .inl h
  · split at heq
    · cases heq
      exact .inr ⟨v, hv, rfl⟩
    · cases heq

end Laws

end Semaphore

end Exec
