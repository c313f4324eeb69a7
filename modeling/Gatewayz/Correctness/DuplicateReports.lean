import Gatewayz.Billing.PaymentRules
import Gatewayz.Exec.Protocol
import Mathlib.Data.Fintype.Basic

/-!
# `Correctness.DuplicateReports` — who may be told that an event is a duplicate

Any number of deliveries run at once, each a claim, a handler and, if the handler raises, a release. A delivery
that answers "already processed (duplicate)" makes Stripe forget the event, so some delivery of the event should
have handled it by then, or be at it.

Three things break this. A claim insert can be carried out with its answer lost: the delivery that repeats it
finds its own row. A release can be given up while the row is still there. And a claim insert can arrive after
another delivery's handler has failed and before that delivery has released.

`no_false_duplicate` is the law for the runs without these three. The invariant is between the table and the
phases of the deliveries: **a row is there only while some delivery of the event owns it**.
-/

namespace Gatewayz

open Exec

variable {ι : Type}

/-! ## Deliveries -/

/-- A delivery: an event, and a handler that leaves the claims alone. -/
structure Delivery where
  event : Event
  handler : DbProg Unit
  claimFree : handler.Only Stmt.ClaimFree

namespace Delivery

def ofEvent (config : PaymentConfig) (now : Time) (event : Event) : Delivery :=
  ⟨event, event.data.handler config now, event.data.handler_claimFree config now⟩

def prog (d : Delivery) : DbProg WebhookProcessingResult := withClaim d.event d.handler

end Delivery

abbrev DeliveryPool (ι : Type) := Pool ι PyErr Stmt Res Unit WebhookProcessingResult

def deliveryPool (d : ι → Delivery) : DeliveryPool ι := Pool.start () fun i => (d i).prog

/-! ## The law -/

/-- Delivery `i` has answered that its event is a duplicate. -/
def Reported (d : ι → Delivery) (T : DeliveryPool ι) (i : ι) : Prop :=
  (T i).prog.result? = some (.ok (d i).event.duplicateResult)
/-- Delivery `i` has run its handler to completion. -/
def Handled (d : ι → Delivery) (T : DeliveryPool ι) (i : ι) : Prop :=
  (T i).prog.result? = some (.ok (d i).event.processedResult)
/-- The next statement of delivery `i` is one of its handler. -/
def Handling (T : DeliveryPool ι) (i : ι) : Prop := ∃ s ∈ (T i).prog.next?, s.ClaimFree
/-- The next statement of delivery `i` is its release. -/
def Releasing (T : DeliveryPool ι) (i : ι) (eventId : String) : Prop :=
  (T i).prog.next? = some (.deleteWebhookEvent eventId)

/-- A justified report: if the turn makes delivery `i` report a duplicate, some delivery of the event has
    handled it or is at it. -/
def JustifiedReport [DecidableEq ι] (d : ι → Delivery) (T : DeliveryPool ι) (w : World) (i : ι)
    (o : Outcome PyErr) : Prop :=
  ¬ Reported d T i → Reported d (Pool.turn anyRun i o T w).1 i →
    ∃ j, (d j).event.id = (d i).event.id ∧
      (Handled d (Pool.turn anyRun i o T w).1 j ∨ Handling (Pool.turn anyRun i o T w).1 j)

/-- The three defects are not met in this turn: a claim that is carried out is answered, and no error of the link
    reads like a unique violation; a claim does not meet the row of a delivery that is releasing; a release that
    does not reach the database is tried again. -/
def UnambiguousTurn [DecidableEq ι] (T : DeliveryPool ι) (w : World) (i : ι) (o : Outcome PyErr) : Prop :=
  match (T i).prog.next?, o with
  | some (.insertWebhookEvent e), .served => w.Claimed e.eventId → ∀ j, ¬ Releasing T j e.eventId
  | some (.insertWebhookEvent _), .dropped err => isDuplicateError err = false
  | some (.insertWebhookEvent e), .lost err =>
    isDuplicateError err = false ∧ (insertWebhookEventRow e w).1.isOk = false
  | some (.deleteWebhookEvent id), .dropped _ => Releasing (Pool.turn anyRun i o T w).1 i id
  | _, _ => True

section Decide

variable [DecidableEq ι] (d : ι → Delivery) (T : DeliveryPool ι) (w : World) (i : ι) (o : Outcome PyErr)

instance (eventId : String) : Decidable (Releasing T i eventId) := inferInstanceAs (Decidable (_ = _))
instance : Decidable (Reported d T i) := inferInstanceAs (Decidable (_ = _))
instance : Decidable (Handled d T i) := inferInstanceAs (Decidable (_ = _))
instance : Decidable (Handling T i) :=
  match h : (T i).prog.next? with
  | none => .isFalse fun ⟨_, hs, _⟩ => by rw [h] at hs; cases hs
  | some s => decidable_of_iff s.ClaimFree
      ⟨fun hs => ⟨s, h, hs⟩, fun ⟨_, hmem, hs⟩ => by rw [h] at hmem; cases hmem; exact hs⟩
instance [Fintype ι] : Decidable (JustifiedReport d T w i o) := inferInstanceAs (Decidable (_ → _ → _))
instance [Fintype ι] : Decidable (UnambiguousTurn T w i o) := by
  unfold UnambiguousTurn
  generalize (T i).prog.next? = next
  apply @Option.casesOn Stmt (fun next => Decidable (match next, o with
    | some (.insertWebhookEvent e), .served => w.Claimed e.eventId → ∀ j, ¬ Releasing T j e.eventId
    | some (.insertWebhookEvent _), .dropped err => isDuplicateError err = false
    | some (.insertWebhookEvent e), .lost err =>
      isDuplicateError err = false ∧ (insertWebhookEventRow e w).1.isOk = false
    | some (.deleteWebhookEvent id), .dropped _ => Releasing (Pool.turn anyRun i o T w).1 i id
    | _, _ => True)) next
  · infer_instance
  · intro s
    apply @Stmt.casesOn (fun s => Decidable _) s <;> intros <;>
      apply @Outcome.casesOn PyErr (fun o => Decidable _) o <;> intros <;> infer_instance

end Decide

/-! ## The phases of a delivery -/

inductive Phase where
  | claiming
  /-- It has the row, and is handling, has handled, or is releasing. -/
  | owner
  | reported
  /-- The table could not be reached: it handles without a row. -/
  | unclaimed
  | released

inductive PhaseStep (event : Event) : Phase → (s : Stmt) → Except PyErr (Res s) → Phase → Prop where
  | claim (a) : PhaseStep event .claiming (.insertWebhookEvent event.claimRow) (.ok a) .owner
  | claimAgain (e) : PhaseStep event .claiming (.insertWebhookEvent event.claimRow) (.error e) .claiming
  | report (e) (h : isDuplicateError e = true) :
      PhaseStep event .claiming (.insertWebhookEvent event.claimRow) (.error e) .reported
  | goWithout (e) : PhaseStep event .claiming (.insertWebhookEvent event.claimRow) (.error e) .unclaimed
  | handle {s} (h : s.ClaimFree) (r) : PhaseStep event .owner s r .owner
  | handleWithout {s} (h : s.ClaimFree) (r) : PhaseStep event .unclaimed s r .unclaimed
  | release (r) : PhaseStep event .owner (.deleteWebhookEvent event.id) r .released
  | releaseAgain (e) : PhaseStep event .owner (.deleteWebhookEvent event.id) (.error e) .owner

def Phase.may (event : Event) : Phase → Stmt → Prop
  | .claiming, s => s = .insertWebhookEvent event.claimRow
  | .owner, s => s.ClaimFree ∨ s = .deleteWebhookEvent event.id
  | .unclaimed, s => s.ClaimFree
  | .reported, _ => False
  | .released, _ => False

def claimProtocol (event : Event) : Protocol PyErr Stmt Res Phase where
  may := Phase.may event
  next := PhaseStep event

def Phase.ends (event : Event) (result : WebhookProcessingResult) : Phase → Prop
  | .owner | .unclaimed => result = event.processedResult
  | .reported => result = event.duplicateResult
  | _ => False

def Phase.raises : Phase → Prop
  | .unclaimed | .released => True
  | _ => False

theorem obeys_retried {Φ : Type} {M : Protocol PyErr Stmt Res Φ} {s : Stmt} {φ : Φ} {Q : Res s → Φ → Prop}
    {E : PyErr → Φ → Prop} (hmay : M.may φ s) (hok : ∀ a, ∃ φ', M.next φ s (.ok a) φ' ∧ Q a φ')
    (hagain : ∀ e, M.next φ s (.error e) φ) (herr : ∀ e, ∃ φ', M.next φ s (.error e) φ' ∧ E e φ')
    (retries : Nat) : (executeWithRetry (query s) retries).Obeys M Q E φ := by
  induction retries with
  | zero =>
    refine obeys_stmt hmay fun r => ?_
    cases r with
    | ok a => exact hok a
    | error e => exact herr e
  | succ retries ih =>
    simp only [executeWithRetry, obeys_tryCatch]
    refine obeys_stmt hmay fun r => ?_
    cases r with
    | ok a => exact hok a
    | error e =>
      by_cases hconn : isConnectionError e = true
      · exact ⟨φ, hagain e, by simpa only [answered_error, if_pos hconn] using ih⟩
      · obtain ⟨φ', hnext, he⟩ := herr e
        refine ⟨φ', hnext, ?_⟩
        rw [answered_error, if_neg hconn]
        exact he

/-- A delivery goes through the phases. -/
theorem delivery_obeys (d : Delivery) :
    d.prog.Obeys (claimProtocol d.event) (fun result φ => φ.ends d.event result) (fun _ φ => φ.raises) .claiming := by
  have hhandle : ∀ s : Stmt, s.ClaimFree → (claimProtocol d.event).may .owner s ∧
      ∀ r, (claimProtocol d.event).next .owner s r .owner := fun s h => ⟨.inl h, fun r => .handle h r⟩
  have hwithout : ∀ s : Stmt, s.ClaimFree → (claimProtocol d.event).may .unclaimed s ∧
      ∀ r, (claimProtocol d.event).next .unclaimed s r .unclaimed := fun s h => ⟨h, fun r => .handleWithout h r⟩
  unfold Delivery.prog withClaim claimEvent
  simp only [obeys_bind, obeys_tryCatch]
  refine obeys_retried rfl ?_ (fun e => PhaseStep.claimAgain e) ?_ 2
  · intro a
    refine ⟨.owner, PhaseStep.claim a, ?_⟩
    simp only [Prog.pure_eq, Prog.Obeys, underClaim, obeys_bind, obeys_tryCatch]
    refine obeys_of_only d.claimFree hhandle (fun _ => rfl) fun e => ?_
    simp only [Claim.giveBack, releaseEvent, obeys_bind, obeys_tryCatch]
    refine obeys_retried (Or.inr rfl) ?_ (fun e => PhaseStep.releaseAgain e) ?_ 2
    · exact fun a => ⟨.released, PhaseStep.release _, trivial⟩
    · exact fun e => ⟨.released, PhaseStep.release _, trivial⟩
  · intro e
    cases hdup : isDuplicateError e with
    | true =>
      refine ⟨.reported, PhaseStep.report e hdup, ?_⟩
      simp only [if_true, Prog.pure_eq, Prog.Obeys]
      rfl
    | false =>
      refine ⟨.unclaimed, PhaseStep.goWithout e, ?_⟩
      simp only [Bool.false_eq_true, if_false, Prog.pure_eq, Prog.Obeys, underClaim, obeys_bind, obeys_tryCatch]
      exact obeys_of_only d.claimFree hwithout (fun _ => rfl) fun _ => trivial

/-! ## The invariant -/

variable {φ : ι → Phase} {e : WebhookEvent} {err : PyErr}

section Invariant

variable {d : ι → Delivery}

/-- A row is there only while some delivery of the event owns it. -/
def RowsOwned (d : ι → Delivery) (φ : ι → Phase) (w : World) : Prop :=
  ∀ i, w.Claimed (d i).event.id → ∃ j, (d j).event.id = (d i).event.id ∧ φ j = .owner

variable [DecidableEq ι]

abbrev DeliveryMove (d : ι → Delivery) (φ : ι → Phase) (T : DeliveryPool ι) (w : World) (i : ι) (o : Outcome PyErr)
    (s : Stmt) (φ' : Phase) : Prop :=
  Pool.Move anyRun (fun i => claimProtocol (d i).event) (fun i result φ => φ.ends (d i).event result)
    (fun _ _ φ => φ.raises) φ T w i o s φ'

theorem RowsOwned.move {w w' : World} {i : ι} {φ' : Phase} (h : RowsOwned d φ w)
    (hother : ∀ id, id ≠ (d i).event.id → w'.Claimed id → w.Claimed id)
    (hown : w'.Claimed (d i).event.id → φ' = .owner ∨ φ i ≠ .owner ∧ w.Claimed (d i).event.id) :
    RowsOwned d (Function.update φ i φ') w' := by
  intro k hk
  by_cases hki : (d k).event.id = (d i).event.id
  · rw [hki] at hk ⊢
    rcases hown hk with howner | ⟨hne, hc⟩
    · exact ⟨i, rfl, by rw [Function.update_self, howner]⟩
    · obtain ⟨j, hj, howner⟩ := h i hc
      have hji : j ≠ i := fun heq => hne (heq ▸ howner)
      exact ⟨j, hj, by rw [Function.update_of_ne hji, howner]⟩
  · obtain ⟨j, hj, howner⟩ := h k (hother _ hki hk)
    have hji : j ≠ i := fun heq => hki (hj.symm.trans (heq ▸ rfl))
    exact ⟨j, hj, by rw [Function.update_of_ne hji, howner]⟩

theorem claimed_of_same {w w' : World} (h : w'.webhookEvents = w.webhookEvents) (id : String)
    (hc : w'.Claimed id) : w.Claimed id := by
  rwa [World.Claimed, h] at hc

theorem answer_claimFree {s : Stmt} (h : s.ClaimFree) (o : Outcome PyErr) (w : World) :
    (answer exec s o w).2.webhookEvents = w.webhookEvents := by
  cases o with
  | served => exact exec_claimFree h w
  | dropped e => rfl
  | lost e => exact exec_claimFree h w

theorem claim_refused {T : DeliveryPool ι} {w : World} {i : ι} {o : Outcome PyErr}
    (hnext : (T i).prog.next? = some (.insertWebhookEvent e)) (hturn : UnambiguousTurn T w i o)
    (herr : (answer exec (.insertWebhookEvent e) o w).1 = .error err) :
    (answer exec (.insertWebhookEvent e) o w).2 = w := by
  unfold UnambiguousTurn at hturn
  rw [hnext] at hturn
  rcases insertWebhookEventRow_cases e w with ⟨err', he⟩ | he
  · cases o <;> simp [answer, exec, he]
  · cases o with
    | served => simp [answer, exec, he] at herr
    | dropped e => rfl
    | lost e => simp [he, Except.isOk, Except.toBool] at hturn

theorem claimed_insert {o : Outcome PyErr} {w : World} {id : String} (hne : id ≠ e.eventId)
    (hc : (answer exec (.insertWebhookEvent e) o w).2.Claimed id) : w.Claimed id := by
  have hexec : (exec (.insertWebhookEvent e) w).2.Claimed id → w.Claimed id := by
    simp only [exec]
    rcases insertWebhookEventRow_cases e w with ⟨err, he⟩ | he
    · rw [he]; exact fun hc => hc
    · rw [he]
      rintro ⟨r, hr, hid⟩
      rcases List.mem_append.mp hr with hr | hr
      · exact ⟨r, hr, hid⟩
      · rw [List.mem_singleton.mp hr] at hid
        exact absurd hid.symm hne
  cases o with
  | served => exact hexec hc
  | dropped err => exact hc
  | lost err => exact hexec hc

theorem claimed_delete {id : String} {w : World} {id' : String}
    (hc : (exec (.deleteWebhookEvent id) w).2.Claimed id') : id' ≠ id ∧ w.Claimed id' := by
  obtain ⟨r, hr, hid⟩ := hc
  obtain ⟨hmem, hne⟩ := List.mem_filter.mp hr
  refine ⟨?_, r, hmem, hid⟩
  rw [← hid]
  simpa using hne

theorem rowsOwned_move {T : DeliveryPool ι} {w : World} {i : ι} {o : Outcome PyErr} {s : Stmt}
    {φ' : Phase} (h : RowsOwned d φ w) (hturn : UnambiguousTurn T w i o) (hm : DeliveryMove d φ T w i o s φ') :
    RowsOwned d (Function.update φ i φ') (Pool.turn anyRun i o T w).2 := by
  rw [hm.store]
  have hnext := hm.next
  have hissued := hm.issued
  have hafter := hm.obeys
  change PhaseStep (d i).event (φ i) s (answer exec s o w).1 φ' at hnext
  generalize hr : (answer exec s o w).1 = r at hnext
  generalize hφ : φ i = φi at hnext
  cases hnext with
  | claim a =>
    exact h.move (fun id hne hc => claimed_insert hne hc) fun _ => .inl rfl
  | claimAgain e =>
    rw [claim_refused hissued hturn hr]
    exact h.move (fun _ _ hc => hc) fun hc => .inr ⟨by simp [hφ], hc⟩
  | report e hdup =>
    rw [claim_refused hissued hturn hr]
    exact h.move (fun _ _ hc => hc) fun hc => .inr ⟨by simp [hφ], hc⟩
  | goWithout e =>
    rw [claim_refused hissued hturn hr]
    exact h.move (fun _ _ hc => hc) fun hc => .inr ⟨by simp [hφ], hc⟩
  | handle hs r =>
    exact h.move (fun id _ hc => claimed_of_same (answer_claimFree hs o w) id hc) fun _ => .inl rfl
  | handleWithout hs r =>
    have hsame := claimed_of_same (answer_claimFree hs o w)
    exact h.move (fun id _ hc => hsame id hc) fun hc => .inr ⟨by simp [hφ], hsame _ hc⟩
  | release r =>
    cases o with
    | served =>
      exact h.move (fun id _ hc => (claimed_delete hc).2) fun hc => absurd rfl (claimed_delete hc).1
    | lost e =>
      exact h.move (fun id _ hc => (claimed_delete hc).2) fun hc => absurd rfl (claimed_delete hc).1
    | dropped e =>
      -- the release is tried again, but this phase has no statement left
      exfalso
      unfold UnambiguousTurn at hturn
      rw [hissued] at hturn
      simp only [Releasing] at hturn
      revert hafter hturn
      generalize ((Pool.turn anyRun i (.dropped e) T w).1 i).prog = p
      cases p with
      | ret a => intro hnext; cases hnext
      | fail e => intro hnext; cases hnext
      | ask s k => intro _ hobeys; exact hobeys.1
  | releaseAgain e =>
    refine h.move (fun id _ hc => ?_) fun _ => .inl rfl
    cases o with
    | served => exact (claimed_delete hc).2
    | dropped e => exact hc
    | lost e => exact (claimed_delete hc).2

end Invariant

/-! ## Whole runs -/

theorem insertWebhookEventRow_duplicate {w : World} (h : (insertWebhookEventRow e w).1 = .error err)
    (hdup : isDuplicateError err = true) : w.Claimed e.eventId := by
  unfold insertWebhookEventRow at h
  split at h
  · cases h
    exact absurd hdup (by decide +kernel)
  split at h
  · rename_i hany
    obtain ⟨r, hr, hid⟩ := List.any_eq_true.mp hany
    exact ⟨r, hr, by simpa using hid⟩
  · cases h

/-- A claim that is answered with a unique violation, in a turn without the defects, has met a row, and nobody is
    about to release it. -/
theorem claim_reported [DecidableEq ι] {T : DeliveryPool ι} {w : World} {i : ι} {o : Outcome PyErr}
    (hnext : (T i).prog.next? = some (.insertWebhookEvent e)) (hturn : UnambiguousTurn T w i o)
    (herr : (answer exec (.insertWebhookEvent e) o w).1 = .error err) (hdup : isDuplicateError err = true) :
    w.Claimed e.eventId ∧ ∀ j, ¬ Releasing T j e.eventId := by
  unfold UnambiguousTurn at hturn
  rw [hnext] at hturn
  cases o with
  | served =>
    have hclaimed := insertWebhookEventRow_duplicate herr hdup
    exact ⟨hclaimed, hturn hclaimed⟩
  | dropped e' =>
    obtain rfl : e' = err := by simpa using herr
    exact absurd hdup (by simpa using hturn)
  | lost e' =>
    obtain rfl : e' = err := by simpa using herr
    exact absurd hdup (by simpa using hturn.1)

section Runs

theorem owner_handles {d : ι → Delivery} {T : DeliveryPool ι} {j : ι}
    (h : (T j).prog.Obeys (claimProtocol (d j).event) (fun r φ => φ.ends (d j).event r) (fun _ φ => φ.raises) (φ j))
    (howner : φ j = .owner) (hrel : ¬ Releasing T j (d j).event.id) : Handled d T j ∨ Handling T j := by
  rw [howner] at h
  unfold Handled Handling
  unfold Releasing at hrel
  generalize (T j).prog = p at h hrel
  cases p with
  | ret a =>
    obtain rfl : a = (d j).event.processedResult := h
    exact .inl rfl
  | fail e => exact h.elim
  | ask s k =>
    rcases h.1 with hfree | hdel
    · exact .inr ⟨s, rfl, hfree⟩
    · exact absurd (congrArg some hdel) hrel

variable [DecidableEq ι]

/-- **No delivery is told that its event is a duplicate before some delivery handles it**, in the runs that do not
    meet one of the three defects. -/
theorem no_false_duplicate (d : ι → Delivery) (w : World) (hfresh : ∀ i, ¬ w.Claimed (d i).event.id)
    (ts : Schedule ι PyErr) (i : ι) (o : Outcome PyErr)
    (hturns : Pool.Throughout anyRun UnambiguousTurn (ts ++ [(i, o)]) (deliveryPool d) w) :
    JustifiedReport d (Pool.run anyRun ts (deliveryPool d) w).1 (Pool.run anyRun ts (deliveryPool d) w).2 i o := by
  obtain ⟨hbefore, hlast, -⟩ := (Pool.throughout_append ts [(i, o)] _ w).mp hturns
  have hstart : Pool.Phased (fun i => claimProtocol (d i).event) (fun i r φ => φ.ends (d i).event r)
      (fun _ _ φ => φ.raises) (fun _ => Phase.claiming) (deliveryPool d) := fun i => delivery_obeys (d i)
  have hrows : RowsOwned d (fun _ => .claiming) w := fun i hc => absurd hc (hfresh i)
  obtain ⟨φ, hphased, howned⟩ := Pool.phased_run (J := RowsOwned d) (P := UnambiguousTurn)
    (fun φ T w i o s φ' _ hJ hP hm => rowsOwned_move hJ hP hm) ts hstart hrows hbefore
  generalize (Pool.run anyRun ts (deliveryPool d) w).1 = T at *
  generalize (Pool.run anyRun ts (deliveryPool d) w).2 = w' at *
  intro hnot hreport
  have hturn : Pool.turn anyRun i o T w' = (T, w') ∨ ∃ s φ', Pool.Move anyRun _ _ _ φ T w' i o s φ' :=
    Pool.phased_turn hphased i o
  rcases hturn with hstay | ⟨s, φ', hm⟩
  · rw [hstay] at hreport
    exact absurd hreport hnot
  have hends := hm.obeys
  unfold Reported at hreport
  generalize ((Pool.turn anyRun i o T w').1 i).prog = p at hreport hends
  cases p with
  | fail e => cases hreport
  | ask s k => cases hreport
  | ret a =>
    obtain rfl : a = (d i).event.duplicateResult := by simpa [Prog.result?] using hreport
    -- only a refused claim leads to this answer, and only the database refuses it like this
    obtain rfl : φ' = .reported := by
      cases φ' with
      | reported => rfl
      | owner => exact absurd hends (duplicateResult_ne _)
      | unclaimed => exact absurd hends (duplicateResult_ne _)
      | claiming => exact hends.elim
      | released => exact hends.elim
    have hnext := hm.next
    have hissued := hm.issued
    change PhaseStep (d i).event (φ i) s (answer exec s o w').1 .reported at hnext
    generalize hr : (answer exec s o w').1 = r at hnext
    generalize hφ : φ i = φi at hnext
    cases hnext with
    | report e hdup =>
      obtain ⟨hclaimed, hrel⟩ := claim_reported hissued hlast hr hdup
      obtain ⟨j, hj, howner⟩ := howned i hclaimed
      have hji : j ≠ i := by
        rintro rfl
        rw [hφ] at howner
        cases howner
      refine ⟨j, hj, ?_⟩
      unfold Handled Handling
      rw [hm.others j hji]
      exact owner_handles (hphased j) howner (hj ▸ hrel j)

def twoDeliveries : Fin 2 → Delivery := fun _ =>
  .ofEvent {} 0 ⟨"evt_1", .paymentIntentPaymentFailed { id := "pi_1" }⟩

theorem no_false_duplicate_twoDeliveries :
    JustifiedReport twoDeliveries (Pool.run anyRun [(0, .served)] (deliveryPool twoDeliveries) (oneUser 5 0)).1
      (Pool.run anyRun [(0, .served)] (deliveryPool twoDeliveries) (oneUser 5 0)).2 1 .served :=
  no_false_duplicate twoDeliveries (oneUser 5 0) (by decide) [(0, .served)] 1 .served (by decide +kernel)

/-- A delivery whose claim is carried out unheard is told that its event is a duplicate when it asks again; nobody
    has handled the event. -/
theorem own_claim_is_duplicate :
    let d : Unit → Delivery := fun _ => .ofEvent {} 0 ⟨"evt_1", .paymentIntentPaymentFailed { id := "pi_1" }⟩
    let ran := Pool.run anyRun [((), .lost ⟨.connectionError, "reset"⟩)] (deliveryPool d) (oneUser 5 0)
    (∀ i, ¬ (oneUser 5 0).Claimed (d i).event.id) ∧ ¬ JustifiedReport d ran.1 ran.2 () .served := by
  decide +kernel

end Runs

end Gatewayz
