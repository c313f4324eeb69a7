import Gatewayz.Billing.PaymentRules
import Gatewayz.Exec.Protocol
import Mathlib.Data.Fintype.Basic

/-!
# `Correctness.FirstTopupBonus` — the bonus for a first top-up is granted once

Any number of checkouts are settled at once. Each reads `has_made_first_purchase`, grants the bonus if the flag is
not set, and sets the flag: three statements.

Two things break the law. A handler reads the flag while another one of the user is between its own read and its
write; and a write of the flag does not reach the database after the bonus was granted, which the handler swallows.

`first_topup_bonus_once` is the law for the runs without these two. The invariant is between the ledger, the flag
and the phases of the handlers: **a bonus in the ledger has its flag, or some handler is about to set it**.
-/

namespace Gatewayz

open Exec

variable {ι : Type}

/-! ## The law -/

abbrev CheckoutPool (ι : Type) := Pool ι PyErr Stmt Res Unit Unit

def checkoutPool (config : PaymentConfig) (now : ι → Time) (session : ι → CheckoutSession) : CheckoutPool ι :=
  Pool.start () fun i => handleCheckoutCompleted config (now i) (session i)

def setFlag (u : Int) : Stmt := .updateUser u { hasMadeFirstPurchase := some true }

def Stmt.GrantsBonus (u : Int) : Stmt → Prop
  | .rpcAtomicAddCredits p => p.transactionType = .firstTopupBonus ∧ p.userId = u
  | _ => False

instance (u : Int) : DecidablePred (Stmt.GrantsBonus u) := fun s => by
  apply @Stmt.casesOn (fun s => Decidable (s.GrantsBonus u)) s <;> intros <;> unfold Stmt.GrantsBonus <;> infer_instance

/-- A bonus that is added to the user's balance. -/
def AddsBonus (u : Int) (x : Entry ι Stmt World) : Prop :=
  x.stmt.GrantsBonus u ∧ x.after.purchased u ≠ x.before.purchased u

instance (u : Int) : DecidablePred (AddsBonus (ι := ι) u) := fun _ => inferInstanceAs (Decidable (_ ∧ _))

def World.bonuses (w : World) (u : Int) : List Transaction :=
  w.creditTransactions.filter fun t => t.transactionType = .firstTopupBonus ∧ t.userId = u

def World.FlagSet (w : World) (u : Int) : Prop := ∀ row ∈ w.users u, row.hasMadeFirstPurchase = some true

instance (w : World) (u : Int) : Decidable (w.FlagSet u) := inferInstanceAs (Decidable (∀ row ∈ w.users u, _))

/-- What the tables say while no checkout of the user is being settled. -/
structure BonusAtRest (u : Int) (w : World) : Prop where
  once : (w.bonuses u).length ≤ 1
  flagged : w.bonuses u ≠ [] → w.FlagSet u

instance (u : Int) (w : World) : Decidable (BonusAtRest u w) :=
  decidable_of_iff (_ ∧ _) ⟨fun h => ⟨h.1, h.2⟩, fun h => ⟨h.1, h.2⟩⟩

/-- The procedure answers when it is called for a bonus; anything may happen to any other statement. -/
def BonusServed (s : Stmt) (o : Outcome PyErr) : Prop :=
  match s with
  | .rpcAtomicAddCredits p => p.transactionType = .firstTopupBonus → o = .served
  | _ => True

/-- The next statement of handler `i` grants the user's bonus. -/
def AboutToGrant (u : Int) (T : CheckoutPool ι) (i : ι) : Prop := ∃ s ∈ (T i).prog.next?, s.GrantsBonus u
/-- The next statement of handler `i` sets the user's flag. -/
def AboutToFlag (u : Int) (T : CheckoutPool ι) (i : ι) : Prop := (T i).prog.next? = some (setFlag u)

/-- The two defects are not met in this turn: a flag is written once the bonus is granted; and a handler decides
    for the bonus only while no other handler has decided for it, or has granted it and is about to set the flag. -/
structure GuardedTurn [DecidableEq ι] (u : Int) (T : CheckoutPool ι) (w : World) (i : ι) (o : Outcome PyErr) :
    Prop where
  flagged : AboutToFlag u T i → w.bonuses u ≠ [] → ∀ e, o ≠ .dropped e
  decided : AboutToGrant u (Pool.turn anyRun i o T w).1 i → ∀ j, j ≠ i →
    ¬ AboutToGrant u T j ∧ (AboutToFlag u T j → w.bonuses u = [])

structure SoundTurn [DecidableEq ι] (u : Int) (T : CheckoutPool ι) (w : World) (i : ι) (o : Outcome PyErr) :
    Prop where
  served : ∀ s ∈ (T i).prog.next?, BonusServed s o
  guarded : GuardedTurn u T w i o

section Decide

variable (u : Int) (T : CheckoutPool ι) (w : World) (i : ι) (o : Outcome PyErr)

instance (s : Stmt) : Decidable (BonusServed s o) := by
  apply @Stmt.casesOn (fun s => Decidable (BonusServed s o)) s <;> intros <;> unfold BonusServed <;> infer_instance
instance : Decidable (AboutToGrant u T i) := inferInstanceAs (Decidable (∃ s ∈ (T i).prog.next?, _))
instance : Decidable (AboutToFlag u T i) := inferInstanceAs (Decidable (_ = _))
instance : Decidable (∀ e, o ≠ .dropped e) :=
  match o with
  | .served => .isTrue nofun
  | .dropped e => .isFalse fun h => h e rfl
  | .lost _ => .isTrue nofun
instance [DecidableEq ι] [Fintype ι] : Decidable (GuardedTurn u T w i o) :=
  decidable_of_iff ((AboutToFlag u T i → w.bonuses u ≠ [] → ∀ e, o ≠ .dropped e) ∧
    (AboutToGrant u (Pool.turn anyRun i o T w).1 i → ∀ j, j ≠ i →
      ¬ AboutToGrant u T j ∧ (AboutToFlag u T j → w.bonuses u = []))) ⟨fun h => ⟨h.1, h.2⟩, fun h => ⟨h.1, h.2⟩⟩
instance [DecidableEq ι] [Fintype ι] : Decidable (SoundTurn u T w i o) :=
  decidable_of_iff ((∀ s ∈ (T i).prog.next?, BonusServed s o) ∧ GuardedTurn u T w i o)
    ⟨fun h => ⟨h.1, h.2⟩, fun h => ⟨h.1, h.2⟩⟩

end Decide

/-! ## The phases of a handler -/

structure AddCreditsParams.IsBonus (u : Int) (p : AddCreditsParams) : Prop where
  type : p.transactionType = .firstTopupBonus
  user : p.userId = u
  pos : 0 < p.credits
  payment : p.paymentId = none

def Stmt.SparesBonus : Stmt → Prop
  | .updateUser _ patch => patch.hasMadeFirstPurchase = none
  | .rpcAtomicAddCredits p => p.transactionType ≠ .firstTopupBonus
  | .insertTransaction t => t.transactionType ≠ .firstTopupBonus
  | .insertPayment _ | .updatePayment _ _ | .updateApiKeys _ _ => True
  | s => s.Reads

theorem sparesBonus_of_reads {s : Stmt} (h : s.Reads) : s.SparesBonus := by
  cases s <;> first | exact h | exact h.elim

inductive BonusPhase where
  | settling
  | granting (u : Int)
  | flagging (u : Int)
  /-- The procedure has failed: the legacy path, and whatever comes then. -/
  | aside
  | over

inductive BonusStep : BonusPhase → (s : Stmt) → Except PyErr (Res s) → BonusPhase → Prop where
  | settle {s} (h : s.SparesBonus) (r) : BonusStep .settling s r .settling
  | decide {u row} (h : row.hasMadeFirstPurchase ≠ some true) :
      BonusStep .settling (.selectUser u) (.ok (some row)) (.granting u)
  | decline {u row} (h : row.hasMadeFirstPurchase ≠ some true) :
      BonusStep .settling (.selectUser u) (.ok (some row)) (.flagging u)
  | grant {u p} (h : p.IsBonus u) (data : RpcResult) : data.success = true →
      BonusStep (.granting u) (.rpcAtomicAddCredits p) (.ok data) (.flagging u)
  | noUser {u p} (h : p.IsBonus u) (data : RpcResult) : data.success = false →
      BonusStep (.granting u) (.rpcAtomicAddCredits p) (.ok data) .over
  | refused {u p} (h : p.IsBonus u) (data : RpcResult) :
      data.success = false → data.error ≠ some "user_not_found" →
      BonusStep (.granting u) (.rpcAtomicAddCredits p) (.ok data) .aside
  | unheard {u p} (h : p.IsBonus u) (e) : BonusStep (.granting u) (.rpcAtomicAddCredits p) (.error e) .aside
  | flag {u} (r) : BonusStep (.flagging u) (setFlag u) r .over
  | goOn (s r) : BonusStep .aside s r .aside

def BonusPhase.may : BonusPhase → Stmt → Prop
  | .settling, s => s.SparesBonus
  | .granting u, s => s.GrantsBonus u
  | .flagging u, s => s = setFlag u
  | .aside, _ => True
  | .over, _ => False

def bonusProtocol : Protocol PyErr Stmt Res BonusPhase where
  may := BonusPhase.may
  next := BonusStep

def BonusPhase.rests : BonusPhase → Prop
  | .granting _ | .flagging _ => False
  | _ => True

theorem only_true {α : Type} (p : DbProg α) : p.Only fun _ => True := by
  induction p with
  | ret a => trivial
  | fail e => trivial
  | ask s k ih => exact ⟨trivial, ih⟩

theorem obeys_aside {α : Type} (p : DbProg α) :
    p.Obeys bonusProtocol (fun _ φ => φ = .aside) (fun _ φ => φ = .aside) .aside :=
  obeys_of_only (only_true p) (fun _ _ => ⟨trivial, fun r => .goOn _ r⟩) (fun _ => rfl) fun _ => rfl

theorem settling_obeys {α : Type} {p : DbProg α} (h : p.Only Stmt.SparesBonus) :
    p.Obeys bonusProtocol (fun _ φ => φ = .settling) (fun _ φ => φ = .settling) .settling :=
  obeys_of_only h (fun _ hs => ⟨hs, fun r => .settle hs r⟩) (fun _ => rfl) fun _ => rfl

theorem grantBonus_obeys (r : ResolvedCheckout) (now : Time) : (addCreditsToUser (r.bonus now)).Obeys bonusProtocol
      (fun _ φ => φ = .flagging r.userId ∨ φ = .aside) (fun _ φ => φ = .over ∨ φ = .aside) (.granting r.userId) := by
  have hbonus : (r.bonus now).forRpc.IsBonus r.userId := ⟨rfl, rfl, by simp [AddCreditsParams.forRpc, ResolvedCheckout.bonus], rfl⟩
  have haside : ∀ {α : Type} (p : DbProg α), p.Obeys bonusProtocol
      (fun _ φ => φ = .flagging r.userId ∨ φ = .aside) (fun _ φ => φ = .over ∨ φ = .aside) .aside := fun p =>
    obeys_mono (fun _ _ h => .inr h) (fun _ _ h => .inr h) (obeys_aside p)
  unfold addCreditsToUser
  rw [if_neg (by simp [ResolvedCheckout.bonus])]
  simp only [obeys_tryCatch, obeys_bind, atomicAddCreditsRpc, obeys_attempt]
  refine obeys_stmt ⟨rfl, rfl⟩ fun answer => ?_
  cases answer with
  | error e => exact ⟨.aside, .unheard hbonus e, haside _⟩
  | ok data =>
    cases hs : data.success with
    | true => exact ⟨_, .grant hbonus data hs, by simp [hs, Prog.Obeys]⟩
    | false =>
      by_cases hu : data.error = some "user_not_found"
      · exact ⟨.over, .noUser hbonus data hs, by simp [hs, hu, Prog.Obeys]⟩
      · refine ⟨.aside, .refused hbonus data hs hu, ?_⟩
        simp only [answered_ok, hs, Bool.false_eq_true, if_false, if_neg hu, Prog.pure_eq, Prog.Obeys]
        exact haside _

theorem setFlag_obeys (u : Int) : (do
      let _ ← query (setFlag u)
      pure () : DbProg Unit).Obeys bonusProtocol (fun _ φ => φ.rests) (fun _ φ => φ.rests) (.flagging u) := by
  rw [obeys_bind]
  refine obeys_stmt rfl fun answer => ⟨.over, .flag answer, ?_⟩
  cases answer with
  | ok _ => trivial
  | error e => trivial

theorem firstTopupBonus_obeys (r : ResolvedCheckout) (now : Time) :
    (r.firstTopupBonus now).Obeys bonusProtocol (fun _ φ => φ.rests) (fun _ φ => φ.rests) .settling := by
  have haside : ∀ {α : Type} (p : DbProg α), p.Obeys bonusProtocol (fun _ φ => φ.rests) (fun _ φ => φ.rests) .aside :=
    fun p => obeys_mono (fun _ _ h => by rw [h]; trivial) (fun _ _ h => by rw [h]; trivial) (obeys_aside p)
  unfold ResolvedCheckout.firstTopupBonus swallow
  rw [obeys_tryCatch, obeys_bind]
  refine obeys_stmt (sparesBonus_of_reads (s := .selectUser r.userId) trivial) fun answer => ?_
  have hstay := BonusStep.settle (s := .selectUser r.userId) (sparesBonus_of_reads trivial) answer
  cases answer with
  | error e => exact ⟨.settling, hstay, trivial⟩
  | ok found =>
    cases found with
    | none => exact ⟨.settling, hstay, trivial⟩
    | some row =>
      by_cases hset : row.hasMadeFirstPurchase.getD false = true
      · refine ⟨.settling, hstay, ?_⟩
        simp only [answered_ok, if_pos hset]
        trivial
      have hunset : row.hasMadeFirstPurchase ≠ some true := fun h => hset (by rw [h]; rfl)
      unfold ResolvedCheckout.grantBonus
      simp only [answered_ok, if_neg hset, obeys_bind]
      split
      · refine ⟨_, .decide hunset, obeys_mono ?_ ?_ (grantBonus_obeys r now)⟩
        · rintro _ φ (rfl | rfl)
          · exact setFlag_obeys r.userId
          · exact haside _
        · rintro _ φ (rfl | rfl)
          · trivial
          · trivial
      · exact ⟨_, .decline hunset, setFlag_obeys r.userId⟩

/-- A handler goes through the phases. -/
theorem handleCheckoutCompleted_obeys (config : PaymentConfig) (now : Time) (session : CheckoutSession) :
    (handleCheckoutCompleted config now session).Obeys bonusProtocol (fun _ φ => φ.rests) (fun _ φ => φ.rests)
      .settling := by
  have hthen : ∀ {α : Type} {p : DbProg α} {f : α → DbProg Unit}, p.Only Stmt.SparesBonus →
      (∀ a, (f a).Obeys bonusProtocol (fun _ φ => φ.rests) (fun _ φ => φ.rests) .settling) →
      (p >>= f).Obeys bonusProtocol (fun _ φ => φ.rests) (fun _ φ => φ.rests) .settling := by
    intro α p f hp hf
    rw [obeys_bind]
    refine obeys_mono ?_ ?_ (settling_obeys hp)
    · rintro a φ rfl
      exact hf a
    · rintro e φ rfl
      trivial
  unfold handleCheckoutCompleted
  refine hthen (resolveCheckout_only (fun _ h => sparesBonus_of_reads h) (fun _ _ => trivial) session) fun resolved => ?_
  cases resolved with
  | none => trivial
  | some r =>
    show (r.settle config now).Obeys _ _ _ _
    unfold ResolvedCheckout.settle
    refine hthen (getPayment_only trivial) fun existing => ?_
    split
    · trivial
    refine hthen (only_bind ?_ fun _ => only_bind (updatePaymentStatus_only trivial) fun _ => only_ret _) fun _ => ?_
    · exact addCreditsToUser_only_row nofun trivial (fun _ => rfl) fun t _ ht => by
        rw [Stmt.SparesBonus, ht.transactionType]
        nofun
    exact hthen (clearTrialStatus_only trivial rfl fun _ => trivial) fun _ => firstTopupBonus_obeys r now

/-! ## What the statements do to the bonus and its flag -/

theorem bonuses_append (w : World) (t : Transaction) (u : Int) : (w.appendTransaction t).bonuses u =
      w.bonuses u ++ if t.transactionType = .firstTopupBonus ∧ t.userId = u then [w.storedTransaction t] else [] := by
  unfold World.bonuses World.appendTransaction
  rw [List.filter_append]
  congr 1
  by_cases h : t.transactionType = .firstTopupBonus ∧ t.userId = u <;> simp [World.storedTransaction, h]

structure BonusStays (u : Int) (w w' : World) : Prop where
  ledger : w'.bonuses u = w.bonuses u
  flag : w.FlagSet u → w'.FlagSet u

theorem BonusStays.refl (u : Int) (w : World) : BonusStays u w w := ⟨rfl, id⟩

theorem FlagSet.setUser {w : World} {u v : Int} {row : User} (h : w.FlagSet u)
    (hrow : v = u → row.hasMadeFirstPurchase = some true) : (w.setUser v row).FlagSet u := by
  intro row' hrow'
  by_cases hv : u = v
  · subst hv
    simp only [World.setUser, Function.update_self, Option.mem_some_iff] at hrow'
    exact hrow' ▸ hrow rfl
  · simp only [World.setUser, Function.update_of_ne hv] at hrow'
    exact h row' hrow'

theorem atomicAddCredits_flag {p : AddCreditsParams} {w : World} {u : Int} (h : w.FlagSet u) :
    (atomicAddCredits p w).2.FlagSet u := by
  rcases atomicAddCredits_cases p w with ⟨he, -⟩ | ⟨row, hrow, -, -, he⟩
  · rw [he]; exact h
  · rw [he]
    show (w.setUser p.userId (p.granted row)).FlagSet u
    refine FlagSet.setUser h fun hu => ?_
    rw [hu] at hrow
    exact h row hrow

theorem atomicAddCredits_bonuses (p : AddCreditsParams) (w : World) (u : Int) : (atomicAddCredits p w).2 = w ∨
      ∃ rows, (atomicAddCredits p w).2.bonuses u = w.bonuses u ++ rows ∧
        rows.length = if p.transactionType = .firstTopupBonus ∧ p.userId = u then 1 else 0 := by
  rcases atomicAddCredits_cases p w with ⟨he, -⟩ | ⟨row, -, -, -, he⟩
  · exact .inl he
  · right
    rw [he]
    refine ⟨_, bonuses_append (w.setUser p.userId (p.granted row)) (p.ledgerRow row) u, ?_⟩
    by_cases h : p.transactionType = .firstTopupBonus ∧ p.userId = u
    · rw [if_pos h, if_pos (show (p.ledgerRow row).transactionType = _ ∧ (p.ledgerRow row).userId = u from h)]
      rfl
    · rw [if_neg h, if_neg (show ¬((p.ledgerRow row).transactionType = _ ∧ (p.ledgerRow row).userId = u) from h)]
      rfl

theorem atomicAddCredits_stays {p : AddCreditsParams} {w : World} {u : Int}
    (h : ¬(p.transactionType = .firstTopupBonus ∧ p.userId = u)) : BonusStays u w (atomicAddCredits p w).2 := by
  refine ⟨?_, atomicAddCredits_flag⟩
  rcases atomicAddCredits_bonuses p w u with he | ⟨rows, he, hlen⟩
  · rw [he]
  · rw [if_neg h] at hlen
    rw [he, List.eq_nil_of_length_eq_zero hlen, List.append_nil]

theorem updateUser_flag {u v : Int} {patch : UserPatch} {w : World} (h : w.FlagSet u)
    (hpatch : patch.hasMadeFirstPurchase ≠ some false) : (updateUserRow v patch w).2.FlagSet u := by
  rcases updateUserRow_cases v patch w with ⟨-, he⟩ | ⟨row, hrow, he⟩
  · rw [he]; exact h
  · rw [he]
    refine FlagSet.setUser h fun hv => ?_
    have hold := h row (hv ▸ hrow)
    cases hp : patch.hasMadeFirstPurchase with
    | none => simp [UserPatch.apply, hp, hold]
    | some b =>
      cases b with
      | true => simp [UserPatch.apply, hp]
      | false => exact absurd hp hpatch

theorem updateUser_ledger (v : Int) (patch : UserPatch) (w : World) :
    (updateUserRow v patch w).2.creditTransactions = w.creditTransactions := by
  rcases updateUserRow_cases v patch w with ⟨-, he⟩ | ⟨row, -, he⟩
  · rw [he]
  · rw [he]; rfl

theorem exec_sparesBonus {s : Stmt} (h : s.SparesBonus) (w : World) (u : Int) : BonusStays u w (exec s w).2 := by
  by_cases hreads : s.Reads
  · rw [exec_reads hreads]; exact .refl u w
  cases s with
  | updateUser v patch =>
    refine ⟨?_, fun hset => updateUser_flag hset (by rw [h]; nofun)⟩
    simp only [exec, World.bonuses, updateUser_ledger]
  | rpcAtomicAddCredits p => exact atomicAddCredits_stays fun ht => h ht.1
  | insertTransaction t =>
    simp only [exec]
    rcases insertTransactionRow_cases t w with ⟨e, he⟩ | ⟨-, he⟩
    · rw [he]; exact .refl u w
    · rw [he]
      refine ⟨?_, id⟩
      rw [bonuses_append, if_neg (fun ht => h ht.1), List.append_nil]
  | insertPayment p =>
    simp only [exec]
    rcases insertPaymentRow_cases p w with ⟨e, he⟩ | ⟨-, he⟩ <;> rw [he]
    · exact .refl u w
    · exact ⟨rfl, id⟩
  | updatePayment id patch => exact ⟨rfl, fun hset => hset⟩
  | updateApiKeys v patch => exact ⟨rfl, fun hset => hset⟩
  | _ => exact absurd h hreads

theorem BonusStays.answer {u : Int} {s : Stmt} {w : World} (h : BonusStays u w (exec s w).2) (o : Outcome PyErr) :
    BonusStays u w (answer exec s o w).2 := by
  cases o with
  | served => exact h
  | dropped e => exact .refl u w
  | lost e => exact h

/-! ## The invariant -/

section Invariant

/-- A bonus in the ledger has its flag, or some handler is about to set it; and a handler that grants is alone. -/
structure BonusInv (u : Int) (φ : ι → BonusPhase) (w : World) : Prop where
  once : (w.bonuses u).length ≤ 1
  flagged : w.bonuses u ≠ [] → w.FlagSet u ∨ ∃ j, φ j = .flagging u
  granting : ∀ i, φ i = .granting u → w.bonuses u = [] ∧ ∀ j, φ j = .granting u → j = i
  straight : ∀ i, φ i ≠ .aside

variable {u : Int} {φ : ι → BonusPhase} {T : CheckoutPool ι} {w w' : World} {i : ι}

abbrev Settling (φ : ι → BonusPhase) (T : CheckoutPool ι) : Prop :=
  Pool.Phased (fun _ => bonusProtocol) (fun _ _ φ => φ.rests) (fun _ _ φ => φ.rests) φ T

theorem aboutToGrant_of_phase (hT : Settling φ T) {j : ι} (h : φ j = .granting u) : AboutToGrant u T j := by
  have hobeys := hT j
  rw [h] at hobeys
  unfold AboutToGrant
  cases hp : (T j).prog with
  | ret a => rw [hp] at hobeys; exact hobeys.elim
  | fail e => rw [hp] at hobeys; exact hobeys.elim
  | ask s k => rw [hp] at hobeys; exact ⟨s, rfl, hobeys.1⟩

theorem aboutToFlag_of_phase (hT : Settling φ T) {j : ι} (h : φ j = .flagging u) : AboutToFlag u T j := by
  have hobeys := hT j
  rw [h] at hobeys
  unfold AboutToFlag
  cases hp : (T j).prog with
  | ret a => rw [hp] at hobeys; exact hobeys.elim
  | fail e => rw [hp] at hobeys; exact hobeys.elim
  | ask s k =>
    rw [hp] at hobeys
    exact congrArg some hobeys.1

variable [DecidableEq ι]

theorem BonusInv.move {φ' : BonusPhase} (h : BonusInv u φ w) (hstays : BonusStays u w w') (haside : φ' ≠ .aside)
    (hgrant : φ' ≠ .granting u) (hflag : φ i = .flagging u → w'.bonuses u ≠ [] → w'.FlagSet u) :
    BonusInv u (Function.update φ i φ') w' := by
  have hother : ∀ {k : ι} {ψ : BonusPhase}, φ' ≠ ψ → Function.update φ i φ' k = ψ → φ k = ψ ∧ k ≠ i := by
    intro k ψ hne hk
    by_cases hki : k = i
    · subst hki
      rw [Function.update_self] at hk
      exact absurd hk hne
    · rw [Function.update_of_ne hki] at hk
      exact ⟨hk, hki⟩
  constructor
  · rw [hstays.ledger]
    exact h.once
  · intro hbonus
    rcases h.flagged (by rwa [hstays.ledger] at hbonus) with hset | ⟨j, hj⟩
    · exact .inl (hstays.flag hset)
    · by_cases hji : j = i
      · subst hji
        exact .inl (hflag hj hbonus)
      · exact .inr ⟨j, by rw [Function.update_of_ne hji]; exact hj⟩
  · intro k hk
    obtain ⟨hk, hki⟩ := hother hgrant hk
    obtain ⟨hnone, halone⟩ := h.granting k hk
    refine ⟨by rw [hstays.ledger]; exact hnone, fun j hj => ?_⟩
    exact halone j (hother hgrant hj).1
  · intro k hk
    exact h.straight k (hother haside hk).1

theorem setFlag_stays (v : Int) (o : Outcome PyErr) (w : World) (u : Int) :
    BonusStays u w (answer exec (setFlag v) o w).2 := by
  have hexec : BonusStays u w (updateUserRow v { hasMadeFirstPurchase := some true } w).2 := by
    refine ⟨?_, fun hset => updateUser_flag hset (by simp)⟩
    simp only [World.bonuses, updateUser_ledger]
  exact BonusStays.answer (s := setFlag v) hexec o

theorem setFlag_sets {o : Outcome PyErr} (ho : ∀ e, o ≠ .dropped e) (w : World) (u : Int) :
    (answer exec (setFlag u) o w).2.FlagSet u := by
  have hset : (exec (setFlag u) w).2.FlagSet u := by
    simp only [setFlag, exec]
    rcases updateUserRow_cases u { hasMadeFirstPurchase := some true } w with ⟨hnone, he⟩ | ⟨row, -, he⟩
    · rw [he]
      intro row hrow
      rw [hnone] at hrow
      cases hrow
    · rw [he]
      intro row' hrow'
      simp only [World.setUser, Function.update_self, Option.mem_some_iff] at hrow'
      rw [← hrow']
      rfl
  cases o with
  | served => exact hset
  | dropped e => exact absurd rfl (ho e)
  | lost e => exact hset

theorem bonusInv_move {o : Outcome PyErr} {s : Stmt} {φ' : BonusPhase} (hT : Settling φ T) (h : BonusInv u φ w)
    (hturn : SoundTurn u T w i o)
    (hm : Pool.Move anyRun (fun _ => bonusProtocol) (fun _ _ φ => φ.rests) (fun _ _ φ => φ.rests) φ T w i o s φ') :
    BonusInv u (Function.update φ i φ') (Pool.turn anyRun i o T w).2 := by
  have hafter : Settling (Function.update φ i φ') (Pool.turn anyRun i o T w).1 := hm.phased hT
  rw [hm.store]
  have hnext := hm.next
  have hserved := hturn.served s hm.issued
  change BonusStep (φ i) s (answer exec s o w).1 φ' at hnext
  generalize hr : (answer exec s o w).1 = r at hnext
  generalize hφ : φ i = φi at hnext
  cases hnext with
  | settle hs r => exact h.move ((exec_sparesBonus hs w u).answer o) (fun h => by cases h) (fun h => by cases h) (by rw [hφ]; rintro ⟨⟩)
  | @decide v row hunset =>
    rw [answer_reads (s := .selectUser v) trivial]
    by_cases hv : v = u
    · subst hv
      -- the handler has read the flag, so it is not set, and the turn does not meet another handler
      have hdecided := hturn.guarded.decided
        (aboutToGrant_of_phase hafter (by rw [Function.update_self]))
      have hrow : w.users v = some row := by
        cases o with
        | served => simpa [exec] using hr
        | dropped e => cases hr
        | lost e => cases hr
      have hnone : w.bonuses v = [] := by
        by_contra hbonus
        rcases h.flagged hbonus with hset | ⟨j, hj⟩
        · exact hunset (hset row hrow)
        · have hji : j ≠ i := by
            rintro rfl
            rw [hφ] at hj
            cases hj
          exact hbonus ((hdecided j hji).2 (aboutToFlag_of_phase hT hj))
      have hothers : ∀ j, j ≠ i → φ j ≠ .granting v := fun j hji hj =>
        (hdecided j hji).1 (aboutToGrant_of_phase hT hj)
      refine ⟨h.once, fun hbonus => absurd hnone hbonus, fun k _ => ⟨hnone, fun j hj => ?_⟩, fun k hk => ?_⟩
      · have honly : ∀ j, Function.update φ i (.granting v) j = .granting v → j = i := fun j hj => by
          by_contra hji
          rw [Function.update_of_ne hji] at hj
          exact hothers j hji hj
        rename_i hk
        rw [honly j hj, honly k hk]
      · by_cases hki : k = i
        · subst hki
          rw [Function.update_self] at hk
          cases hk
        · rw [Function.update_of_ne hki] at hk
          exact h.straight k hk
    · exact h.move (.refl u w) (fun h => by cases h) (by simpa using hv) (by rw [hφ]; rintro ⟨⟩)
  | decline hunset =>
    rw [answer_reads (s := .selectUser _) trivial]
    exact h.move (.refl u w) (fun h => by cases h) (fun h => by cases h) (by rw [hφ]; rintro ⟨⟩)
  | @grant v p hp data hs =>
    by_cases hv : v = u
    · subst hv
      obtain ⟨hnone, halone⟩ := h.granting i hφ
      have hlen : ((answer exec (.rpcAtomicAddCredits p) o w).2.bonuses v).length ≤ 1 := by
        obtain rfl : o = .served := hserved hp.type
        show ((atomicAddCredits p w).2.bonuses v).length ≤ 1
        rcases atomicAddCredits_bonuses p w v with he | ⟨rows, he, hrows⟩
        · rw [he]; exact h.once
        · rw [if_pos ⟨hp.type, hp.user⟩] at hrows
          rw [he, hnone, List.nil_append, hrows]
      refine ⟨hlen, fun _ => .inr ⟨i, by rw [Function.update_self]⟩, fun k hk => ?_, fun k hk => ?_⟩
      · by_cases hki : k = i
        · subst hki
          rw [Function.update_self] at hk
          cases hk
        · rw [Function.update_of_ne hki] at hk
          exact absurd (halone k hk) hki
      · by_cases hki : k = i
        · subst hki
          rw [Function.update_self] at hk
          cases hk
        · rw [Function.update_of_ne hki] at hk
          exact h.straight k hk
    · have hstays : BonusStays u w (exec (.rpcAtomicAddCredits p) w).2 :=
        atomicAddCredits_stays fun ht => hv (hp.user.symm.trans ht.2)
      exact h.move (hstays.answer o) (fun h => by cases h) (fun h => by cases h) (by rw [hφ]; rintro ⟨⟩)
  | @noUser v p hp data hs =>
    obtain rfl : o = .served := hserved hp.type
    have hsame : (answer exec (.rpcAtomicAddCredits p) .served w).2 = w := by
      rcases atomicAddCredits_cases p w with ⟨he, -⟩ | ⟨row, -, -, -, he⟩
      · exact he
      · simp only [answer_served, exec, Except.ok.injEq] at hr
        rw [← hr, he] at hs
        cases hs
    rw [hsame]
    exact h.move (.refl u w) (fun h => by cases h) (fun h => by cases h) (by rw [hφ]; rintro ⟨⟩)
  | @refused v p hp data hs hu =>
    obtain rfl : o = .served := hserved hp.type
    simp only [answer_served, exec, Except.ok.injEq] at hr
    rcases atomicAddCredits_available (w := w) (not_le_of_gt hp.pos) (by rw [hp.payment]; intro q hq; cases hq) with hok | ⟨-, hmissing⟩
    · rw [hr, hs] at hok
      cases hok
    · rw [hr] at hmissing
      exact absurd (by rw [hmissing]; rfl) hu
  | @unheard v p hp e =>
    obtain rfl : o = .served := hserved hp.type
    cases hr
  | @flag v r =>
    refine h.move (setFlag_stays v o w u) (fun h => by cases h) (fun h => by cases h) fun hflag hbonus => ?_
    obtain rfl : v = u := by
      rw [hφ] at hflag
      cases hflag
      rfl
    rw [(setFlag_stays v o w v).ledger] at hbonus
    exact setFlag_sets (hturn.guarded.flagged hm.issued hbonus) w v
  | goOn s r => exact absurd hφ (h.straight i)

end Invariant

/-! ## Whole runs -/

theorem addsBonus_counts (u : Int) (i : ι) (s : Stmt) (o : Outcome PyErr) (w : World) :
    (w.bonuses u).length + (if AddsBonus u ⟨i, s, w, (answer exec s o w).2⟩ then 1 else 0) ≤
      ((answer exec s o w).2.bonuses u).length := by
  obtain ⟨rows, hrows⟩ := answer_wrote s o w
  have hgrow : (w.bonuses u).length ≤ ((answer exec s o w).2.bonuses u).length := by
    rw [World.bonuses, World.bonuses, hrows, List.filter_append, List.length_append]
    omega
  split
  · rename_i hadds
    obtain ⟨hgrants, hchange⟩ := hadds
    cases s with
    | rpcAtomicAddCredits p =>
      have hexec : (answer exec (.rpcAtomicAddCredits p) o w).2 = (atomicAddCredits p w).2 := by
        cases o with
        | served => rfl
        | dropped e => exact absurd rfl hchange
        | lost e => rfl
      simp only [hexec] at hchange ⊢
      change p.transactionType = .firstTopupBonus ∧ p.userId = u at hgrants
      rcases atomicAddCredits_bonuses p w u with he | ⟨rows, he, hlen⟩
      · rw [he] at hchange
        exact absurd rfl hchange
      · rw [if_pos hgrants] at hlen
        rw [he, List.length_append, hlen]
    | _ => exact hgrants.elim
  · exact hgrow

section Runs

variable [DecidableEq ι]

/-- **The bonus is granted at most once**, whatever order the statements of the handlers take and whatever the link
    does, in the runs that do not meet one of the two defects. -/
theorem first_topup_bonus_once (config : PaymentConfig) (now : ι → Time) (session : ι → CheckoutSession) (u : Int)
    (w : World) (hrest : BonusAtRest u w) (ts : Schedule ι PyErr)
    (hturns : Pool.Throughout anyRun (SoundTurn u) ts (checkoutPool config now session) w) :
    (w.bonuses u).length + (Pool.log anyRun ts (checkoutPool config now session) w).countP (AddsBonus u ·) ≤ 1 := by
  have hstart : Settling (fun _ => .settling) (checkoutPool config now session) := fun i =>
    handleCheckoutCompleted_obeys config (now i) (session i)
  have hinv : BonusInv u (fun _ : ι => .settling) w :=
    ⟨hrest.once, fun hbonus => .inl (hrest.flagged hbonus), nofun, nofun⟩
  obtain ⟨φ, -, hend⟩ := Pool.phased_run (J := BonusInv u) (P := SoundTurn u)
    (fun φ T w i o s φ' hT hJ hP hm => bonusInv_move hT hJ hP hm) ts hstart hinv hturns
  have hcount := Pool.log_count_le (C := anyRun) (m := fun w => (w.bonuses u).length) (b := AddsBonus u)
    (fun i s o w => addsBonus_counts u i s o w) ts (checkoutPool config now session) w
  exact le_trans hcount hend.once

/-- User 1 is about to pay 10 dollars twice, by the intents `pi_1` and `pi_2`. -/
def twoPayments : World :=
  { onePayment with
    payments := onePayment.payments ++
      [{ id := 2, userId := 1, amountUsd := 10, amountCents := 1000, creditsPurchased := 1000,
          stripePaymentIntentId := some "pi_2", stripeCheckoutSessionId := some "cs_2" }] }

/-- The sessions of the two payments, paid. -/
def twoSessions : Fin 2 → CheckoutSession
  | 0 => paidSession
  | 1 =>
    { paidSession with
      id := some "cs_2"
      metadata := [("user_id", .str "1"), ("payment_id", .str "2"), ("credits_cents", .str "1000")]
      paymentIntent := some "pi_2" }

/-- The handlers take turns until each has granted the purchase; the first then finishes before the second goes on. -/
def oneAfterAnother : Schedule (Fin 2) PyErr :=
  (List.replicate 3 [(0, .served), (1, .served)]).flatten ++ List.replicate 6 (0, .served) ++
    List.replicate 6 (1, .served)

theorem first_topup_bonus_once_oneAfterAnother :
    (twoPayments.bonuses 1).length +
      (Pool.log anyRun oneAfterAnother (checkoutPool {} (fun _ => 0) twoSessions) twoPayments).countP
        (AddsBonus 1 ·) ≤ 1 :=
  first_topup_bonus_once {} (fun _ => 0) twoSessions 1 twoPayments (by decide +kernel) oneAfterAnother
    (by decide +kernel)

/-- Two handlers read the flag before either writes it, and each grants the bonus; and a handler whose write of the
    flag fails leaves the next one to grant it again. -/
theorem bonus_granted_twice :
    BonusAtRest 1 twoPayments ∧
      (Pool.log anyRun (List.replicate 9 [((0 : Fin 2), .served), (1, .served)]).flatten
        (checkoutPool {} (fun _ => 0) twoSessions) twoPayments).countP (AddsBonus 1 ·) = 2 ∧
      (Pool.log anyRun
        (List.replicate 7 ((0 : Fin 2), .served) ++ [(0, .dropped ⟨.connectionError, "reset"⟩)] ++
          List.replicate 9 (1, .served))
        (checkoutPool {} (fun _ => 0) twoSessions) twoPayments).countP (AddsBonus 1 ·) = 2 := by
  decide +kernel

end Runs

end Gatewayz
