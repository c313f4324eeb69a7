import Gatewayz.Auth.SignIn
import Gatewayz.Exec.Wp

/-!
# `Correctness.SignInIdentity` — whose account a sign-in opens

An account is opened because it carries the Privy id of the request, because it has just been made for it, or because it goes by a
name, or an address, that the request happens to have. So a sign-in opens its own account only, where no lookup by a name or an
address finds the account of somebody else, and no entry of the cache is about one (`FindsOwn`).
-/

namespace Gatewayz.Auth

open Exec

/-! ## Who carries a Privy id -/

def Carries (privyId : String) (u : Int) (w : AuthWorld) : Prop :=
  ∃ row ∈ w.accounts.rows, row.id = u ∧ row.privyUserId = some privyId

instance (privyId : String) (u : Int) (w : AuthWorld) : Decidable (Carries privyId u w) :=
  inferInstanceAs (Decidable (∃ row ∈ w.accounts.rows, _))

def rebinds (w w' : AuthWorld) : Bool :=
  w.accounts.rows.any fun row =>
    row.privyUserId.isSome && !w'.accounts.rows.any fun row' => row'.id = row.id && row'.privyUserId = row.privyUserId

/-- What a lookup may find: an account that carries the Privy id, if it goes by anything else or asks the cache. -/
def FindsOwn (privyId : String) (w : AuthWorld) : AuthStmt → Prop
  | .getCachedByPrivyId p => ∀ account, w.cache.byPrivyId.lookup p = some account → Carries privyId account.id w
  | .getCachedByUsername n => ∀ account, w.cache.byUsername.lookup n = some account → Carries privyId account.id w
  | .selectByUsername n => ∀ account, w.byUsername n = some account → account.privyUserId = some privyId
  | .selectByEmail e => ∀ account, w.byEmail e = some account → account.privyUserId = some privyId
  | _ => True

@[reducible] def signInRuns (privyId : String) : Setting PyErr AuthStmt AuthRes Bool AuthWorld where
  exec := AuthWorld.exec
  note := fun g _ _ w w' => g || rebinds w w'
  allow := fun _ s o w => o = .served → FindsOwn privyId w s

/-! ## Steps -/

structure SameIdentities (w w' : AuthWorld) : Prop where
  rows : w'.accounts.rows.map (fun row => (row.id, row.privyUserId)) = w.accounts.rows.map fun row => (row.id, row.privyUserId)
  next : w'.accounts.nextId = w.accounts.nextId

theorem SameIdentities.of_accounts {w w' : AuthWorld} (h : w'.accounts = w.accounts) : SameIdentities w w' :=
  ⟨by rw [h], by rw [h]⟩

theorem SameIdentities.forth {w w' : AuthWorld} (h : SameIdentities w w') {row : Account} (hrow : row ∈ w.accounts.rows) :
    ∃ row' ∈ w'.accounts.rows, row'.id = row.id ∧ row'.privyUserId = row.privyUserId := by
  have hmem : (row.id, row.privyUserId) ∈ w'.accounts.rows.map fun row => (row.id, row.privyUserId) := by
    rw [h.rows]
    exact List.mem_map.mpr ⟨row, hrow, rfl⟩
  obtain ⟨row', hrow', heq⟩ := List.mem_map.mp hmem
  exact ⟨row', hrow', congrArg Prod.fst heq, congrArg Prod.snd heq⟩

theorem SameIdentities.symm {w w' : AuthWorld} (h : SameIdentities w w') : SameIdentities w' w := ⟨h.rows.symm, h.next.symm⟩

/-- What has become of the accounts: those there were have their Privy ids, and who carries the one has carried it or is new. -/
structure Grown (privyId : String) (w w' : AuthWorld) : Prop where
  kept : ∀ row ∈ w.accounts.rows, ∃ row' ∈ w'.accounts.rows, row'.id = row.id ∧ row'.privyUserId = row.privyUserId
  traced : ∀ row' ∈ w'.accounts.rows, row'.privyUserId = some privyId →
    Carries privyId row'.id w ∨ w.accounts.nextId ≤ row'.id
  next : w.accounts.nextId ≤ w'.accounts.nextId

variable {privyId : String} {w₀ w w' : AuthWorld} {known : Option Int} {g : Bool}

theorem Grown.refl (w : AuthWorld) : Grown privyId w w where
  kept row hrow := ⟨row, hrow, rfl, rfl⟩
  traced row hrow hprivy := .inl ⟨row, hrow, rfl, hprivy⟩
  next := le_refl _

theorem Grown.same (h : Grown privyId w₀ w) (hsame : SameIdentities w w') : Grown privyId w₀ w' where
  kept row hrow := by
    obtain ⟨row', hrow', hid, hprivy⟩ := h.kept row hrow
    obtain ⟨row'', hrow'', hid', hprivy'⟩ := hsame.forth hrow'
    exact ⟨row'', hrow'', hid'.trans hid, hprivy'.trans hprivy⟩
  traced row' hrow' hprivy := by
    obtain ⟨row, hrow, hid, hprivy'⟩ := hsame.symm.forth hrow'
    rw [← hid]
    exact h.traced row hrow (hprivy'.trans hprivy)
  next := by
    rw [hsame.next]
    exact h.next

/-- The invariant of a sign-in, with an account that is known to carry the Privy id. -/
structure Fine (privyId : String) (w₀ : AuthWorld) (known : Option Int) (g : Bool) (w : AuthWorld) : Prop where
  note : g = false
  grown : Grown privyId w₀ w
  carries : ∀ u, known = some u → Carries privyId u w

theorem Carries.same {u : Int} (h : Carries privyId u w) (hsame : SameIdentities w w') : Carries privyId u w' := by
  obtain ⟨row, hrow, hid, hprivy⟩ := h
  obtain ⟨row', hrow', hid', hprivy'⟩ := hsame.forth hrow
  exact ⟨row', hrow', hid'.trans hid, hprivy'.trans hprivy⟩

theorem rebinds_eq_false
    (h : ∀ row ∈ w.accounts.rows, ∃ row' ∈ w'.accounts.rows, row'.id = row.id ∧ row'.privyUserId = row.privyUserId) :
    rebinds w w' = false := by
  rw [rebinds, List.any_eq_false]
  intro row hrow
  obtain ⟨row', hrow', hid, hprivy⟩ := h row hrow
  have hany : w'.accounts.rows.any (fun row' => row'.id = row.id && row'.privyUserId = row.privyUserId) = true :=
    List.any_eq_true.mpr ⟨row', hrow', by simp [hid, hprivy]⟩
  rw [hany]
  simp

theorem Fine.same (h : Fine privyId w₀ known g w) (hsame : SameIdentities w w') :
    Fine privyId w₀ known (g || rebinds w w') w' where
  note := by rw [h.note, rebinds_eq_false fun _ hrow => hsame.forth hrow]; rfl
  grown := h.grown.same hsame
  carries u hu := (h.carries u hu).same hsame

theorem Fine.knows (h : Fine privyId w₀ known g w) {u : Int} (hu : Carries privyId u w) : Fine privyId w₀ (some u) g w :=
  ⟨h.note, h.grown, fun v hv => by cases hv; exact hu⟩

theorem Fine.forget (h : Fine privyId w₀ known g w) : Fine privyId w₀ none g w := ⟨h.note, h.grown, nofun⟩

/-! ## Statements -/

theorem update_same {id : Int} {patch : AccountPatch}
    (h : ∀ p, patch.privyUserId = some p → p = privyId ∧ Carries privyId id w) :
    SameIdentities w { w with accounts := (w.accounts.update id patch).2 } := by
  rw [AccountTable.update]
  split
  · refine ⟨?_, rfl⟩
    show (w.accounts.patched id patch).map _ = _
    unfold AccountTable.patched
    rw [List.map_map]
    refine List.map_congr_left fun row hrow => ?_
    rw [Function.comp_apply]
    split
    · next hid =>
      rw [AccountPatch.apply_id, AccountPatch.apply_privyUserId]
      cases hpatch : patch.privyUserId with
      | none => rfl
      | some p =>
        obtain ⟨rfl, old, hold, hold_id, hold_privy⟩ := h p hpatch
        have heq : row = old := AccountTable.eq_of_id hrow hold (hid.trans hold_id.symm)
        rw [heq, hold_privy]
        rfl
    · rfl
  · exact .of_accounts rfl

def Neutral : AuthStmt → Prop
  | .insertAccount _ => False
  | .updateAccount _ patch => patch.privyUserId = none
  | _ => True

variable {s : AuthStmt}

theorem exec_neutral (hs : Neutral s) (w : AuthWorld) : SameIdentities w (AuthWorld.exec s w).2 := by
  cases s with
  | insertAccount row => exact hs.elim
  | updateAccount id patch =>
    refine @update_same "" w id patch fun p hp => ?_
    rw [show patch.privyUserId = none from hs] at hp
    cases hp
  | insertKey key =>
    refine .of_accounts ?_
    show (if w.keys.any fun old => old.apiKey = key.apiKey then (.error AccountTable.duplicate, w)
      else (.ok (), { w with keys := w.keys ++ [key] }) : Except PyErr Unit × AuthWorld).2.accounts = w.accounts
    split
    · rfl
    · rfl
  | _ => exact .of_accounts rfl

theorem answer_same (hs : SameIdentities w (AuthWorld.exec s w).2) (o : Outcome PyErr) :
    SameIdentities w (answer AuthWorld.exec s o w).2 := by
  cases o with
  | served => exact hs
  | dropped e => exact .of_accounts rfl
  | lost e => exact hs

theorem wp_neutral {α : Type} {p : AuthProg α} (hp : p.Only Neutral) (h : Fine privyId w₀ known g w) :
    p.wp (signInRuns privyId) .alone (fun _ => Fine privyId w₀ known) (fun _ => Fine privyId w₀ known) g w := by
  refine wp_of_only (C := signInRuns privyId) (J := Fine privyId w₀ known) (fun g w w' hr h => ?_) ?_ hp h
  · cases hr
    exact h
  intro s hs g o w _ _ h
  exact ⟨trivial, trivial, h.same (answer_same (exec_neutral hs w) o)⟩

theorem wp_find (hs : Neutral s) (find : AuthRes s → Option Account) (own : Account → Prop)
    (hread : ∀ w, ∃ a, AuthWorld.exec s w = (.ok a, w))
    (hown : ∀ w a account, FindsOwn privyId w s → AuthWorld.exec s w = (.ok a, w) → find a = some account →
      own account ∧ Carries privyId account.id w) (h : Fine privyId w₀ known g w) :
    (ask s).wp (signInRuns privyId) .alone
      (fun a g w => Fine privyId w₀ ((find a).map Account.id) g w ∧ ∀ account, find a = some account → own account)
      (fun _ => Fine privyId w₀ none) g w := by
  refine wp_alone_stmt (C := signInRuns privyId) fun o ho => ?_
  obtain ⟨a, ha⟩ := hread w
  have hfound : o = .served → ∀ account, find a = some account → own account ∧ Carries privyId account.id w :=
    fun hserved account haccount => hown w a account (ho hserved) ha haccount
  have hsame := h.same (answer_same (exec_neutral hs w) o)
  cases o with
  | dropped e => exact hsame.forget
  | lost e => exact hsame.forget
  | served =>
    have hserved : ∀ p : Except PyErr (AuthRes s) × AuthWorld, p = (.ok a, w) →
        Answered (fun a => Fine privyId w₀ ((find a).map Account.id) (g || rebinds w p.2) p.2 ∧
          ∀ account, find a = some account → own account) (fun _ => Fine privyId w₀ none (g || rebinds w p.2) p.2) p.1 := by
      rintro p rfl
      have hnext : Fine privyId w₀ known (g || rebinds w w) w := h.same (.of_accounts rfl)
      refine ⟨?_, fun account haccount => (hfound rfl account haccount).1⟩
      cases haccount : find a with
      | none => exact hnext.forget
      | some account => exact hnext.knows (hfound rfl account haccount).2
    exact hserved _ ha

theorem carries_of_find {q : Account → Bool} {account : Account} (h : w.accounts.rows.find? q = some account)
    (hprivy : account.privyUserId = some privyId) : Carries privyId account.id w :=
  ⟨account, List.mem_of_find?_eq_some h, rfl, hprivy⟩

def Own (privyId : String) (account : Account) : Prop := account.privyUserId = some privyId

theorem wp_selectByPrivyId (h : Fine privyId w₀ known g w) :
    (ask (.selectByPrivyId privyId)).wp (signInRuns privyId) .alone
      (fun a g w => Fine privyId w₀ (a.map Account.id) g w ∧ ∀ account, a = some account → Own privyId account)
      (fun _ => Fine privyId w₀ none) g w := by
  refine wp_find (s := .selectByPrivyId privyId) trivial id (Own privyId) (fun w => ⟨_, rfl⟩) ?_ h
  intro w a account _ ha hsome
  cases ha
  have hprivy : account.privyUserId = some privyId := by simpa using List.find?_some hsome
  exact ⟨hprivy, carries_of_find hsome hprivy⟩

variable (username : String)

theorem wp_selectByUsername (h : Fine privyId w₀ known g w) :
    (ask (.selectByUsername username)).wp (signInRuns privyId) .alone
      (fun a g w => Fine privyId w₀ (a.map Account.id) g w ∧ ∀ account, a = some account → Own privyId account)
      (fun _ => Fine privyId w₀ none) g w := by
  refine wp_find (s := .selectByUsername username) trivial id (Own privyId) (fun w => ⟨_, rfl⟩) ?_ h
  intro w a account hfinds ha hsome
  cases ha
  exact ⟨hfinds account hsome, carries_of_find hsome (hfinds account hsome)⟩

theorem wp_selectByEmail (email : String) (h : Fine privyId w₀ known g w) :
    (ask (.selectByEmail email)).wp (signInRuns privyId) .alone
      (fun a g w => Fine privyId w₀ (a.map Account.id) g w ∧ ∀ account, a = some account → Own privyId account)
      (fun _ => Fine privyId w₀ none) g w := by
  refine wp_find (s := .selectByEmail email) trivial id (Own privyId) (fun w => ⟨_, rfl⟩) ?_ h
  intro w a account hfinds ha hsome
  cases ha
  exact ⟨hfinds account hsome, carries_of_find hsome (hfinds account hsome)⟩

theorem wp_getCachedByPrivyId (h : Fine privyId w₀ known g w) :
    (ask (.getCachedByPrivyId privyId)).wp (signInRuns privyId) .alone
      (fun a g w => Fine privyId w₀ (a.map Account.id) g w) (fun _ => Fine privyId w₀ none) g w := by
  refine wp_post (fun _ _ _ h => h.1)
    (wp_find (s := .getCachedByPrivyId privyId) trivial id (fun _ => True) (fun w => ⟨_, rfl⟩) ?_ h)
  intro w a account hfinds ha hsome
  cases ha
  exact ⟨trivial, hfinds account hsome⟩

theorem wp_getCachedByUsername (h : Fine privyId w₀ known g w) :
    (ask (.getCachedByUsername username)).wp (signInRuns privyId) .alone
      (fun a g w => Fine privyId w₀ (a.map Account.id) g w) (fun _ => Fine privyId w₀ none) g w := by
  refine wp_post (fun _ _ _ h => h.1)
    (wp_find (s := .getCachedByUsername username) trivial id (fun _ => True) (fun w => ⟨_, rfl⟩) ?_ h)
  intro w a account hfinds ha hsome
  cases ha
  exact ⟨trivial, hfinds account hsome⟩

theorem wp_orNone {p : AuthProg (Option Account)} {Q : Option Account → Bool → AuthWorld → Prop}
    {E : PyErr → Bool → AuthWorld → Prop} (hp : p.wp (signInRuns privyId) .alone Q (fun _ => Fine privyId w₀ none) g w)
    (hnone : ∀ g w, Fine privyId w₀ none g w → Q none g w) : (orNone p).wp (signInRuns privyId) .alone Q E g w := by
  unfold orNone
  rw [wp_tryCatch]
  exact wp_mono (fun _ _ _ h => h) (fun _ g w h => hnone g w h) hp

/-! ## Lookups -/

abbrev Found (privyId : String) (w₀ : AuthWorld) (a : Option Account) : Bool → AuthWorld → Prop :=
  Fine privyId w₀ (a.map Account.id)

def FoundOwn (privyId : String) (w₀ : AuthWorld) (a : Option Account) (g : Bool) (w : AuthWorld) : Prop :=
  Found privyId w₀ a g w ∧ ∀ account, a = some account → Own privyId account

variable {E : PyErr → Bool → AuthWorld → Prop}

theorem foundOwn_none (h : Fine privyId w₀ none g w) : FoundOwn privyId w₀ none g w :=
  ⟨h, fun _ hsome => (Option.some_ne_none _ hsome.symm).elim⟩

theorem wp_getUserByPrivyId (h : Fine privyId w₀ known g w) :
    (getUserByPrivyId privyId).wp (signInRuns privyId) .alone (FoundOwn privyId w₀) E g w :=
  wp_orNone (wp_selectByPrivyId h) fun _ _ h => foundOwn_none h

theorem wp_getUserByUsername (h : Fine privyId w₀ known g w) :
    (getUserByUsername username).wp (signInRuns privyId) .alone (FoundOwn privyId w₀) E g w :=
  wp_orNone (wp_selectByUsername username h) fun _ _ h => foundOwn_none h

theorem only_bestEffort {α : Type} {P : AuthStmt → Prop} {p : AuthProg α} (hp : p.Only P) : (bestEffort p).Only P :=
  only_tryCatch (only_bind hp fun _ => trivial) fun _ => trivial

theorem only_ask {P : AuthStmt → Prop} (h : P s) : (ask s).Only P := (only_stmt s).mpr h

theorem wp_bestEffort {α : Type} {p : AuthProg α} (hp : p.Only Neutral) (h : Fine privyId w₀ known g w) :
    (bestEffort p).wp (signInRuns privyId) .alone (fun _ => Fine privyId w₀ known) E g w := by
  unfold bestEffort
  rw [wp_tryCatch, wp_bind]
  exact wp_neutral hp h

theorem wp_cacheAside {cached found : AuthProg (Option Account)} {remember : Account → AuthProg Unit}
    (hcached : cached.wp (signInRuns privyId) .alone (Found privyId w₀) (fun _ _ _ => False) g w)
    (hfound : ∀ g w, Fine privyId w₀ none g w →
      found.wp (signInRuns privyId) .alone (FoundOwn privyId w₀) (fun _ => Fine privyId w₀ none) g w)
    (hremember : ∀ account, (remember account).Only Neutral) :
    (cacheAside cached found remember).wp (signInRuns privyId) .alone (Found privyId w₀) E g w := by
  unfold cacheAside
  rw [wp_bind]
  refine wp_mono (fun hit g w h => ?_) (fun _ _ _ h => h.elim) hcached
  cases hit with
  | some account => exact h
  | none =>
    rw [wp_bind]
    refine wp_orNone (wp_post (fun row g w h => ?_) (hfound g w h)) fun _ _ h => h
    cases row with
    | none => exact h.1
    | some account =>
      rw [wp_bind]
      exact wp_bestEffort (hremember account) h.1

theorem wp_findByPrivyId (h : Fine privyId w₀ known g w) :
    (findByPrivyId privyId).wp (signInRuns privyId) .alone (Found privyId w₀) E g w :=
  wp_cacheAside (wp_orNone (wp_getCachedByPrivyId h) fun _ _ h => h) (fun _ _ h => wp_getUserByPrivyId h)
    fun _ => only_ask trivial

theorem wp_bindPrivyId (account : Account) (h : Fine privyId w₀ (some account.id) g w) :
    (bindPrivyId privyId username account).wp (signInRuns privyId) .alone
      (fun bound g w => bound.id = account.id ∧ Fine privyId w₀ (some account.id) g w) E g w := by
  have hupdate : (ask (.updateAccount account.id { privyUserId := some privyId })).wp (signInRuns privyId) .alone
      (fun _ => Fine privyId w₀ (some account.id)) (fun _ => Fine privyId w₀ (some account.id)) g w := by
    refine wp_alone_stmt (C := signInRuns privyId) fun o _ => ?_
    have hsame : SameIdentities w (AuthWorld.exec (.updateAccount account.id { privyUserId := some privyId }) w).2 :=
      update_same fun p hp => ⟨(Option.some.inj hp).symm, h.carries _ rfl⟩
    have hnext := h.same (answer_same hsame o)
    revert hnext
    cases (answer AuthWorld.exec (.updateAccount account.id { privyUserId := some privyId }) o w).1 with
    | ok a => exact fun hnext => hnext
    | error e => exact fun hnext => hnext
  unfold bindPrivyId
  rw [wp_bind]
  unfold orNone
  rw [wp_tryCatch]
  have hrest : ∀ g w, Fine privyId w₀ (some account.id) g w →
      (do
        bestEffort (ask (.invalidateCache privyId username))
        pure { account with privyUserId := some privyId } : AuthProg Account).wp (signInRuns privyId) .alone
        (fun bound g w => bound.id = account.id ∧ Fine privyId w₀ (some account.id) g w) E g w := by
    intro g w h
    exact wp_seq (wp_bestEffort (only_ask trivial) h) fun _ _ _ h => ⟨rfl, h⟩
  exact wp_mono (fun _ g w h => hrest g w h) (fun _ g w h => hrest g w h) hupdate

theorem wp_findByUsername (h : Fine privyId w₀ known g w) :
    (findByUsername privyId username).wp (signInRuns privyId) .alone (Found privyId w₀) E g w := by
  refine wp_seq (wp_cacheAside (wp_orNone (wp_getCachedByUsername username h) fun _ _ h => h)
      (fun _ _ h => wp_getUserByUsername username h) fun _ => only_ask trivial) fun found g w h => ?_
  cases found with
  | none => exact h
  | some account =>
    refine wp_seq (wp_bindPrivyId username account h) fun bound g w h => ?_
    obtain ⟨hid, hfine⟩ := h
    show Fine privyId w₀ (some bound.id) g w
    rw [hid]
    exact hfine

theorem wp_findAgain (username : String) (h : Fine privyId w₀ known g w) :
    (findAgain privyId username).wp (signInRuns privyId) .alone (FoundOwn privyId w₀) E g w := by
  refine wp_seq (wp_getUserByPrivyId h) fun found g w h => ?_
  cases found with
  | some account => exact h
  | none => exact wp_getUserByUsername username h.1

/-! ## Parts that leave the identities alone -/

theorem only_hasPaymentSignal (userId : Int) (credits : Option ℚ) : (hasPaymentSignal userId credits).Only Neutral :=
  only_bind (only_tryCatch (only_ask trivial) fun _ => trivial) fun _ => trivial

theorem only_resolveKeyEnvironment (userId : Int) (credits : Option ℚ) (requested : String) :
    (resolveKeyEnvironment userId credits requested).Only Neutral := by
  unfold resolveKeyEnvironment
  split
  · trivial
  · exact only_bind (only_hasPaymentSignal userId credits) fun _ => trivial

theorem only_insertApiKey (key : AccountKey) : (insertApiKey key).Only Neutral := by
  refine only_tryCatch (only_ask trivial) fun e => ?_
  split
  · unfold handleSchemaCacheInsertError
    split
    · refine only_bind (only_tryCatch (only_bind (only_ask trivial) fun _ => trivial) fun _ => trivial) fun refreshed => ?_
      split
      · refine only_tryCatch (only_ask trivial) fun retry => ?_
        split
        · exact only_ask trivial
        · trivial
      · exact only_ask trivial
    · trivial
  · split
    · exact only_ask trivial
    · trivial

variable (draws : Draws)

theorem only_createApiKey (userId : Int) (keyName environmentTag : String) :
    (createApiKey draws userId keyName environmentTag).Only Neutral := by
  refine only_tryCatch ?_ fun _ => trivial
  refine only_bind (only_tryCatch (only_ask trivial) fun _ => trivial) fun taken => ?_
  split
  · trivial
  · exact only_bind (only_insertApiKey _) fun _ => only_bind (only_bestEffort (only_ask trivial)) fun _ => trivial

theorem only_keyToReturn (existing : Account) : (keyToReturn existing).Only Neutral :=
  only_bind (only_tryCatch (only_ask trivial) fun _ => trivial) fun _ => trivial

theorem only_writeTieredCredits (existing : Account) : (writeTieredCredits existing).Only Neutral := by
  unfold writeTieredCredits
  dsimp only
  split
  · exact only_bestEffort (only_ask rfl)
  · trivial

theorem only_replaceKey (existing : Account) (request : AuthRequest) (found : Option String) :
    (replaceKey draws existing request found).Only Neutral := by
  unfold replaceKey
  split
  · refine only_tryCatch ?_ fun _ => trivial
    refine only_bind (only_resolveKeyEnvironment _ _ _) fun tag => only_bind (only_createApiKey _ _ _ _) fun key => ?_
    exact only_bind (only_bestEffort (only_ask rfl)) fun _ => trivial
  · trivial

variable (checks : EmailChecks)

theorem only_shouldBlockEmail (email : String) : (shouldBlockEmail checks email).Only Neutral := by
  unfold shouldBlockEmail
  split
  · trivial
  split
  · trivial
  split
  · trivial
  · exact only_tryCatch (only_bind (only_ask trivial) fun _ => trivial) fun _ => trivial

theorem only_firstFreeName (sanitized last candidate : String) (suffixes : List String) :
    (firstFreeName sanitized last candidate suffixes).Only Neutral := by
  induction suffixes generalizing candidate with
  | nil => trivial
  | cons suffix suffixes ih =>
    refine only_bind (only_ask trivial) fun taken => ?_
    split
    · exact ih _
    · trivial

theorem only_fallbackKey (username environmentTag : String) (created : Account) :
    (fallbackKey draws username environmentTag created).Only Neutral := by
  refine only_bind (only_tryCatch (only_ask trivial) fun _ => trivial) fun keys => ?_
  dsimp only
  split
  · trivial
  · exact only_bind (only_bestEffort (only_ask trivial)) fun _ => trivial

/-! ## Making and completing accounts -/

theorem Fine.insert (h : Fine privyId w₀ known g w) {row : Account} (hrow : row.privyUserId = some privyId) :
    Fine privyId w₀ known (g || rebinds w { w with accounts := (w.accounts.insert row).2 })
        { w with accounts := (w.accounts.insert row).2 } ∧
      ∀ made, (w.accounts.insert row).1 = .ok made →
        Own privyId made ∧ Carries privyId made.id { w with accounts := (w.accounts.insert row).2 } := by
  rw [AccountTable.insert]
  split
  · next hunique =>
    have hkept : ∀ old ∈ w.accounts.rows, ∃ old' ∈ w.accounts.rows ++ [{ row with id := w.accounts.nextId }],
        old'.id = old.id ∧ old'.privyUserId = old.privyUserId :=
      fun old hold => ⟨old, List.mem_append_left _ hold, rfl, rfl⟩
    have hnew : ({ row with id := w.accounts.nextId } : Account) ∈
        w.accounts.rows ++ [{ row with id := w.accounts.nextId }] := by simp
    refine ⟨⟨?_, ⟨fun old hold => ?_, fun old hold hprivy => ?_, ?_⟩, fun u hu => ?_⟩, fun made hmade => ?_⟩
    · rw [h.note, rebinds_eq_false hkept]
      rfl
    · obtain ⟨old', hold', hid, hprivy⟩ := h.grown.kept old hold
      exact ⟨old', List.mem_append_left _ hold', hid, hprivy⟩
    · rcases List.mem_append.mp hold with hold | hold
      · exact h.grown.traced old hold hprivy
      · rw [List.mem_singleton.mp hold]
        exact .inr h.grown.next
    · exact le_trans h.grown.next (Int.le_add_one (le_refl _))
    · obtain ⟨old, hold, hid, hprivy⟩ := h.carries u hu
      exact ⟨old, List.mem_append_left _ hold, hid, hprivy⟩
    · obtain rfl : { row with id := w.accounts.nextId } = made := Except.ok.inj hmade
      exact ⟨hrow, _, hnew, rfl, hrow⟩
  · refine ⟨h.same (.of_accounts rfl), fun made hmade => ?_⟩
    cases hmade

theorem wp_insertAccount {row : Account} (hrow : row.privyUserId = some privyId) (h : Fine privyId w₀ known g w) :
    (ask (.insertAccount row)).wp (signInRuns privyId) .alone
      (fun made g w => Fine privyId w₀ (some made.id) g w ∧ Own privyId made) (fun _ => Fine privyId w₀ none) g w := by
  refine wp_alone_stmt (C := signInRuns privyId) fun o _ => ?_
  obtain ⟨hfine, hmade⟩ := h.insert hrow
  cases o with
  | dropped e => exact (h.same (.of_accounts rfl)).forget
  | lost e => exact hfine.forget
  | served =>
    show Answered _ _ (w.accounts.insert row).1
    cases hresult : (w.accounts.insert row).1 with
    | error e => exact hfine.forget
    | ok made =>
      obtain ⟨hown, hcarries⟩ := hmade made hresult
      exact ⟨hfine.knows hcarries, hown⟩

theorem wp_createEnhancedUser (draws : Draws) (username email : String) (authMethod : AuthMethod)
    (h : Fine privyId w₀ none g w) :
    (createEnhancedUser draws username email authMethod privyId).wp (signInRuns privyId) .alone
      (fun user => Fine privyId w₀ (some user.userId)) (fun _ => Fine privyId w₀ none) g w := by
  unfold createEnhancedUser
  rw [wp_tryCatch, wp_bind]
  refine wp_post (fun made g w h => ?_) (wp_insertAccount rfl h)
  rw [wp_bind]
  refine wp_mono (fun tag g w h => ?_) (fun _ _ _ h => h.forget) (wp_neutral (only_resolveKeyEnvironment _ _ _) h.1)
  rw [wp_bind]
  refine wp_mono (fun key g w h => ?_) (fun _ _ _ h => h.forget) (wp_neutral (only_createApiKey _ _ _ _) h)
  rw [wp_bind]
  exact wp_mono (fun _ _ _ h => h) (fun _ _ _ h => h.forget) (wp_neutral (only_ask rfl) h)

theorem differences_privyUserId {payload row : Account} (hpayload : payload.privyUserId = some privyId)
    (hrow : Own privyId row) : (differences payload row).privyUserId = none := by
  have hsame : row.privyUserId = payload.privyUserId := by
    rw [hpayload]
    exact hrow
  exact if_neg (not_not_intro hsame)

theorem wp_completeAccount {payload row : Account} (hpayload : payload.privyUserId = some privyId) (hrow : Own privyId row)
    (h : Fine privyId w₀ (some row.id) g w) :
    (completeAccount payload row).wp (signInRuns privyId) .alone (fun made => Fine privyId w₀ (some made.id))
      (fun _ => Fine privyId w₀ none) g w := by
  unfold completeAccount
  split
  · exact h
  · rw [wp_bind]
    have hneutral : Neutral (.updateAccount row.id (differences payload row)) := differences_privyUserId hpayload hrow
    refine wp_alone_stmt (C := signInRuns privyId) fun o _ => ?_
    have hnext := h.same (answer_same (exec_neutral hneutral w) o)
    cases o with
    | dropped e => exact hnext.forget
    | lost e => exact hnext.forget
    | served =>
      show Answered _ _ (w.accounts.update row.id (differences payload row)).1
      have hid : ∀ updated, (w.accounts.update row.id (differences payload row)).1 = .ok updated →
          (updated.getD ((differences payload row).apply row)).id = row.id := by
        intro updated hupdated
        rw [AccountTable.update] at hupdated
        split at hupdated
        · cases hupdated
          cases hfound : w.accounts.rows.find? fun old => old.id = row.id with
          | none => rfl
          | some old => simpa using List.find?_some hfound
        · cases hupdated
      cases hresult : (w.accounts.update row.id (differences payload row)).1 with
      | error e => exact hnext.forget
      | ok updated =>
        show Fine privyId w₀ (some (updated.getD ((differences payload row).apply row)).id) _ _
        rw [hid updated hresult]
        exact hnext

variable {payload : Account}

theorem wp_insertOrFind (hpayload : payload.privyUserId = some privyId) (h : Fine privyId w₀ known g w) :
    (insertOrFind payload).wp (signInRuns privyId) .alone (fun made => Fine privyId w₀ (some made.id))
      (fun _ => Fine privyId w₀ none) g w := by
  unfold insertOrFind
  rw [wp_tryCatch]
  refine wp_mono (fun _ _ _ h => h.1) (fun e g w h => ?_) (wp_insertAccount hpayload h)
  split
  · refine wp_seq (wp_selectByUsername payload.username h) fun byName g w h => ?_
    cases byName with
    | some account => exact h.1
    | none =>
      refine wp_seq (wp_selectByEmail payload.email h.1) fun byEmail g w h => ?_
      cases byEmail with
      | some account => exact h.1
      | none => exact h.1
  · exact h

theorem wp_createdAccount (hpayload : payload.privyUserId = some privyId) (h : Fine privyId w₀ known g w) :
    (createdAccount payload privyId).wp (signInRuns privyId) .alone (fun made => Fine privyId w₀ (some made.id))
      (fun _ => Fine privyId w₀ none) g w := by
  refine wp_seq (wp_findAgain payload.username h) fun found g w h => ?_
  cases found with
  | some row => exact wp_completeAccount hpayload (h.2 row rfl) h.1
  | none => exact wp_insertOrFind hpayload h.1

theorem wp_createManually (checks : EmailChecks) (draws : Draws) (request : AuthRequest) (info : AuthInfo) (username : String)
    (h : Fine request.privyUserId w₀ none g w) :
    (createManually checks draws request info username).wp (signInRuns request.privyUserId) .alone
      (fun user => Fine request.privyUserId w₀ (some user.userId)) (fun _ => Fine request.privyUserId w₀ none) g w := by
  refine wp_seq (wp_neutral (only_firstFreeName _ _ _ _) h) fun free g w h => ?_
  rw [wp_tryCatch, wp_bind]
  refine wp_post (fun made g w h => ?_) (wp_createdAccount rfl h)
  rw [wp_bind]
  refine wp_mono (fun tag g w h => ?_) (fun _ _ _ h => h.forget) (wp_neutral (only_resolveKeyEnvironment _ _ _) h)
  rw [wp_bind]
  exact wp_mono (fun _ _ _ h => h) (fun _ _ _ h => h.forget) (wp_neutral (only_fallbackKey _ _ _ _) h)

/-! ## The route -/

def Opened (privyId : String) (w₀ : AuthWorld) (response : AuthResponse) : Bool → AuthWorld → Prop :=
  Fine privyId w₀ (some response.userId)

theorem wp_handleExistingUser (draws : Draws) (existing : Account) (request : AuthRequest) (info : AuthInfo)
    (h : Fine privyId w₀ (some existing.id) g w) :
    (handleExistingUser draws existing request info).wp (signInRuns privyId) .alone (Opened privyId w₀)
      (fun _ => Fine privyId w₀ none) g w := by
  unfold handleExistingUser
  rw [wp_bind]
  refine wp_mono (fun found g w h => ?_) (fun _ _ _ h => h.forget) (wp_neutral (only_keyToReturn existing) h)
  rw [wp_bind]
  refine wp_mono (fun _ g w h => ?_) (fun _ _ _ h => h.forget) (wp_neutral (only_writeTieredCredits existing) h)
  rw [wp_bind]
  refine wp_mono (fun apiKey g w h => ?_) (fun _ _ _ h => h.forget) (wp_neutral (only_replaceKey draws existing request found) h)
  cases apiKey with
  | none => exact h.forget
  | some apiKey => exact h

theorem wp_register (request : AuthRequest) (info : AuthInfo) (user : NewUser) (h : Fine privyId w₀ (some user.userId) g w) :
    (register request info user).wp (signInRuns privyId) .alone (Opened privyId w₀) (fun _ => Fine privyId w₀ none) g w := by
  unfold register
  split
  · exact h.forget
  · exact h

theorem wp_afterFailedCreation (draws : Draws) (request : AuthRequest) (info : AuthInfo)
    (username : String) (h : Fine request.privyUserId w₀ none g w) :
    (afterFailedCreation checks draws request info username).wp (signInRuns request.privyUserId) .alone
      (Opened request.privyUserId w₀) (fun _ => Fine request.privyUserId w₀ none) g w := by
  refine wp_seq (wp_findAgain username h) fun found g w h => ?_
  cases found with
  | some account => exact wp_handleExistingUser draws account request info h.1
  | none =>
    exact wp_seq (wp_createManually checks draws request info username h.1) fun user _ _ h => wp_register request info user h

/-- What `create_account` does once the address has been looked at. -/
theorem wp_createUnlessBlocked (draws : Draws) (request : AuthRequest) (info : AuthInfo)
    (base : String) (blocked : Bool) (h : Fine request.privyUserId w₀ none g w) :
    (if blocked = true then throw (.httpException 400 "This email address is not allowed. Please use a valid email.")
      else do
        let username ← generateUniqueUsername draws.suffixes draws.lastSuffix base
        let created ←
          (createEnhancedUser draws username (newAccountEmail checks request info) info.authMethod request.privyUserId).attempt
        match created with
        | .ok user => register request info user
        | .error _ => afterFailedCreation checks draws request info username : AuthProg AuthResponse).wp
      (signInRuns request.privyUserId) .alone (Opened request.privyUserId w₀)
      (fun _ => Fine request.privyUserId w₀ none) g w := by
  split
  · exact h
  · refine wp_seq (wp_neutral (only_firstFreeName _ _ _ _) h) fun username g w h => ?_
    rw [wp_bind, wp_attempt]
    exact wp_mono (fun user _ _ h => wp_register request info user h)
      (fun _ _ _ h => wp_afterFailedCreation checks draws request info username h) (wp_createEnhancedUser draws _ _ _ h)

theorem wp_createAccount (draws : Draws) (request : AuthRequest) (info : AuthInfo) (base : String)
    (h : Fine request.privyUserId w₀ none g w) :
    (createAccount checks draws request info base).wp (signInRuns request.privyUserId) .alone
      (Opened request.privyUserId w₀) (fun _ => Fine request.privyUserId w₀ none) g w := by
  unfold createAccount
  split
  · next email _ =>
    rw [wp_bind]
    exact wp_post (fun blocked _ _ h => wp_createUnlessBlocked checks draws request info base blocked h) (wp_neutral (only_shouldBlockEmail checks email) h)
  · exact wp_createUnlessBlocked checks draws request info base false h

theorem wp_authenticate (checks : EmailChecks) (draws : Draws) (request : AuthRequest)
    (h : Fine request.privyUserId w₀ none g w) :
    (authenticate checks draws request).wp (signInRuns request.privyUserId) .alone (Opened request.privyUserId w₀)
      (fun _ => Fine request.privyUserId w₀ none) g w := by
  unfold authenticate
  refine wp_seq (wp_findByPrivyId h) fun existing g w h => ?_
  cases existing with
  | some account => exact wp_handleExistingUser draws account request _ h
  | none =>
    refine wp_seq (wp_findByUsername _ h) fun named g w h => ?_
    cases named with
    | some account => exact wp_handleExistingUser draws account request _ h
    | none => exact wp_createAccount checks draws request _ _ h

theorem wp_privyAuth (draws : Draws) (request : AuthRequest) (w : AuthWorld) :
    (privyAuth checks draws request).wp (signInRuns request.privyUserId) .alone (Opened request.privyUserId w)
      (fun _ => Fine request.privyUserId w none) false w := by
  have hstart : Fine request.privyUserId w none false w := ⟨rfl, .refl w, nofun⟩
  refine wp_seq (wp_neutral (only_ask trivial) hstart) fun limit g w' h => ?_
  cases limit with
  | some seconds => exact h
  | none =>
    rw [wp_tryCatch]
    exact wp_authenticate checks draws request h

/-! ## Whose account -/

/-- A sign-in opens its own account only, if it ends so: the account whose key it answers with carries the Privy id, and
    carried it before or is new; and no step has taken an account the Privy id that it carried. -/
structure OwnAccountOnly (privyId : String) (w : AuthWorld) (result : Except PyErr AuthResponse) (rebound : Bool)
    (w' : AuthWorld) : Prop where
  carries : ∀ response, result = .ok response → Carries privyId response.userId w'
  before : ∀ response, result = .ok response →
    Carries privyId response.userId w ∨ ∀ row ∈ w.accounts.rows, row.id ≠ response.userId
  kept : rebound = false

def rebound (checks : EmailChecks) (draws : Draws) (request : AuthRequest) (os : List (Outcome PyErr)) (w : AuthWorld) : Bool :=
  (privyAuth checks draws request).noted (signInRuns request.privyUserId) os false w

theorem Fine.ownAccountOnly {result : Except PyErr AuthResponse}
    (h : Fine privyId w (result.toOption.map AuthResponse.userId) g w') : OwnAccountOnly privyId w result g w' where
  carries response hresult := by
    subst hresult
    exact h.carries _ rfl
  before response hresult := by
    subst hresult
    obtain ⟨row, hrow, hid, hprivy⟩ := h.carries _ rfl
    rcases h.grown.traced row hrow hprivy with hbefore | hnew
    · rw [hid] at hbefore
      exact .inl hbefore
    · refine .inr fun old hold heq => ?_
      have hlt := w.accounts.fresh old hold
      omega
  kept := h.note

/-- **Where no lookup finds somebody else**, whatever the tables and the cache hold otherwise, whatever fails and however, the
    sign-in opens its own account only. -/
theorem sign_in_own_account (checks : EmailChecks) (draws : Draws) (request : AuthRequest) (w : AuthWorld)
    (os : List (Outcome PyErr)) (hfinds : (privyAuth checks draws request).Admits (signInRuns request.privyUserId) os false w) :
    OwnAccountOnly request.privyUserId w ((privyAuth checks draws request).run AuthWorld.exec os w).1
      (rebound checks draws request os w) ((privyAuth checks draws request).run AuthWorld.exec os w).2.2 := by
  have hend := wp_noted (wp_privyAuth checks draws request w) hfinds
  revert hend
  show Answered _ _ ((privyAuth checks draws request).run AuthWorld.exec os w).1 → _
  cases hresult : ((privyAuth checks draws request).run AuthWorld.exec os w).1 with
  | ok response => exact fun hend => Fine.ownAccountOnly hend
  | error e => exact fun hend => Fine.ownAccountOnly hend

/-! ## Alice and Mallory -/

section Example

instance (privyId : String) (w : AuthWorld) (s : AuthStmt) : Decidable (FindsOwn privyId w s) :=
  match s with
  | .getCachedByPrivyId p => decidable_of_iff (∀ account ∈ w.cache.byPrivyId.lookup p, Carries privyId account.id w) Iff.rfl
  | .getCachedByUsername n => decidable_of_iff (∀ account ∈ w.cache.byUsername.lookup n, Carries privyId account.id w) Iff.rfl
  | .selectByUsername n => decidable_of_iff (∀ account ∈ w.byUsername n, account.privyUserId = some privyId) Iff.rfl
  | .selectByEmail e => decidable_of_iff (∀ account ∈ w.byEmail e, account.privyUserId = some privyId) Iff.rfl
  | .checkRateLimit | .verifyEmail _ | .cacheByPrivyId _ _ | .cacheByUsername _ _ | .invalidateCache _ _
  | .selectByPrivyId _ | .usernameTaken _ | .updateAccount _ _ | .insertAccount _ | .selectPaymentSignal _
  | .selectActiveKeys _ | .keyNameTaken _ _ | .refreshSchemaCache | .insertKey _ | .insertKeyRecords _ => .isTrue trivial

def openChecks : EmailChecks := ⟨fun _ => true, fun _ => false, fun _ => false⟩

def someDraws : Draws where
  suffixes := ["0a0a", "1b1b", "2c2c", "3d3d", "4e4e"]
  lastSuffix := "5f5f5f5f"
  suffixes' := ["6a6a", "7b7b", "8c8c", "9d9d", "aeae"]
  lastSuffix' := "bfbfbfbf"
  temporaryKey := "temporary"
  key := "key"
  now := 1

/-- Alice has signed up, and has a key. -/
def withAlice (username : String) : AuthWorld where
  accounts :=
    { rows := [{ id := 1, username := username, email := "alice@corp.com", privyUserId := some "did:privy:alice" }]
      nextId := 2
      unique := by refine ⟨?_, ?_, ?_, ?_⟩ <;> simp
      fresh := by
        intro a ha
        rw [List.mem_singleton.mp ha]
        exact (by decide : (1 : Int) < 2) }
  keys := [{ userId := 1, apiKey := "gw_test_alice", keyName := "Primary Key", environmentTag := "test", isPrimary := true }]

def mallory (email : String) : AuthRequest := { privyUserId := "did:privy:mallory", email := some email }

def signIn (w : AuthWorld) (request : AuthRequest) : Except PyErr AuthResponse × List (Outcome PyErr) × AuthWorld :=
  (privyAuth openChecks someDraws request).run AuthWorld.exec [] w

/-- **Mallory has `alice@evil.com`**: she is answered with Alice's key, and Alice's account carries her Privy id. By Alice's own
    address she gets there as well. -/
theorem sign_in_not_own_account :
    ((signIn (withAlice "alice") (mallory "alice@evil.com")).1.toOption.map fun r => (r.userId, r.apiKey)) =
        some (1, "gw_test_alice") ∧
      (signIn (withAlice "alice") (mallory "alice@evil.com")).2.2.accounts.rows.map Account.privyUserId =
        [some "did:privy:mallory"] ∧
      (signIn (withAlice "a.smith") (mallory "alice@corp.com")).1.toOption.map AuthResponse.userId = some 1 ∧
      ¬ OwnAccountOnly "did:privy:mallory" (withAlice "alice") (signIn (withAlice "alice") (mallory "alice@evil.com")).1
        (rebound openChecks someDraws (mallory "alice@evil.com") [] (withAlice "alice"))
        (signIn (withAlice "alice") (mallory "alice@evil.com")).2.2 := by
  refine ⟨by decide +kernel, by decide +kernel, by decide +kernel, fun hown => ?_⟩
  have hkept : rebound openChecks someDraws (mallory "alice@evil.com") [] (withAlice "alice") = true := by decide +kernel
  exact absurd (hown.kept.symm.trans hkept) (by decide)

/-- With a name and an address of her own she gets an account of her own. -/
theorem sign_in_own_account_mallory :
    (signIn (withAlice "alice") (mallory "mal@corp.com")).1.toOption.map AuthResponse.userId = some 2 ∧
      OwnAccountOnly "did:privy:mallory" (withAlice "alice") (signIn (withAlice "alice") (mallory "mal@corp.com")).1
        (rebound openChecks someDraws (mallory "mal@corp.com") [] (withAlice "alice"))
        (signIn (withAlice "alice") (mallory "mal@corp.com")).2.2 :=
  ⟨by decide +kernel,
    sign_in_own_account openChecks someDraws (mallory "mal@corp.com") (withAlice "alice") [] (by decide +kernel)⟩

end Example

end Gatewayz.Auth
