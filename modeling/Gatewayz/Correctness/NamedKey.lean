import Gatewayz.Keys.Rules

/-!
# `Correctness.NamedKey` — which key a `PUT` changes

The route looks up the key that the path names, and then hands the key that the *caller* came with to `updateApiKey`, which
updates the row of that one. So the named row gets the requested values exactly when the caller came with its own key (or when
the update would change neither row); and since `updateApiKey` drops `api_key`, a rotation rotates nothing.
-/

namespace Gatewayz.Keys

open Exec

/-! ## The property -/

/-- The row with the requested values. -/
def UpdateApiKeyRequest.requested (request : UpdateApiKeyRequest) (now : Int) (row : KeyRow) : KeyRow :=
  { row with
    keyName := request.keyName.getD row.keyName
    scopePermissions := (request.scopePermissions.map fun scopes =>
      scopes.map fun scope => (scope.1, Allowed.resources scope.2)).or row.scopePermissions
    expirationDate := (request.expirationDays.map fun days => Iso.ofUtc (now + secondsPerDay * days)).or row.expirationDate
    maxRequests := request.maxRequests.or row.maxRequests
    ipAllowlist := request.ipAllowlist.or row.ipAllowlist
    domainReferrers := request.domainReferrers.or row.domainReferrers
    isActive := request.isActive.or row.isActive
    updatedAt := some (.ofUtc now) }

/-- The key has been rotated, and nothing else has happened. -/
structure Rotated (crypto : Crypto) (keyId : Int) (t t' : KeyTable) (returned : String) : Prop where
  others : ∀ row ∈ t.rows, row.id ≠ keyId → row ∈ t'.rows
  old : ∀ secret row, t.opened crypto.sha256KeyHash secret = some row → row.id = keyId →
    t'.opened crypto.sha256KeyHash secret = none
  new : ∃ row, t'.opened crypto.sha256KeyHash returned = some row ∧ row.id = keyId
  copies : ∀ row ∈ t'.rows, row.id = keyId →
    row.apiKey = returned ∧ row.keyHash = crypto.sha256KeyHash returned ∧
      (∀ text ∈ row.encryptedKey, crypto.decryptApiKey text = some returned) ∧ (∀ text ∈ row.last4, text = last4 returned)

/-- The request has acted on the named key and on nothing else. -/
def ActsOnNamed (crypto : Crypto) (now : Int) (request : UpdateApiKeyRequest) (keyId : Int) (t t' : KeyTable)
    (returned : String) : Prop :=
  if request.action = some "rotate" then Rotated crypto keyId t t' returned
  else t'.rows = t.patched keyId (request.requested now)

def OwnKey (t : KeyTable) (apiKey : String) (keyId : Int) : Prop := ∃ row ∈ t.rows, row.id = keyId ∧ row.apiKey = apiKey

def NothingToWrite (t : KeyTable) (now : Int) (request : UpdateApiKeyRequest) (apiKey : String) (keyId : Int) : Prop :=
  ∀ row ∈ t.rows, row.apiKey = apiKey ∨ row.id = keyId → request.requested now row = row

/-! ## A successful update, read backwards -/

section Update

variable {w w' : KeyWorld} {now userId keyId : Int} {updates : Updates} {apiKey message : String} {response : PutResponse}

/-- What `updateFoundKey` has written. -/
theorem updateFoundKey_ends {b : Bool} (h : (updateFoundKey now userId updates keyId).Ends KeyWorld.exec w (.ok b) w') :
    ∃ expirationDate, updates.expirationDate now = .ok expirationDate ∧
      w'.keys.rows = w.keys.patched keyId (updates.patch now expirationDate).apply := by
  unfold updateFoundKey at h
  obtain ⟨_, w₁, hname, h₁⟩ := ends_bind h
  have hkeys₁ := keys_of_reads (checkName_reads _ _ _) hname
  obtain ⟨expirationDate, w₂, hexp, h₂⟩ := ends_bind h₁
  obtain ⟨hdate, rfl⟩ := ends_lift hexp
  obtain ⟨matched, w₃, hupdate, h₃⟩ := ends_bind h₂
  have hupdate : w₂.updateKey keyId (updates.patch now expirationDate) = (.ok matched, w₃) := ends_stmt hupdate
  refine ⟨expirationDate, hdate, ?_⟩
  have hkeys₃ : w₃.keys.rows = w.keys.patched keyId (updates.patch now expirationDate).apply := by
    unfold KeyWorld.updateKey at hupdate
    cases ht : w₂.keys.update keyId (updates.patch now expirationDate) with
    | error e =>
      rw [ht] at hupdate
      cases hupdate
    | ok p =>
      rw [ht] at hupdate
      cases hupdate
      rw [(KeyTable.rows_update ht).1, hkeys₁]
  cases matched with
  | false => cases (ends_fail.mp h₃).1
  | true =>
    have hrest : Prog.Only KeyStmt.Reads (do
        updates.copyLimit keyId
        bestEffort (ask (.insertAuditLog ⟨userId, "update", keyId⟩))
        pure true : KeyProg Bool) :=
      only_bind (copyLimit_reads _ _) fun _ => only_bind (reads_bestEffort (reads_ask trivial)) fun _ => only_ret _
    rw [keys_of_reads hrest h₃, hkeys₃]

/-- `updateApiKey` writes the caller's row, whichever key was named. -/
theorem updateApiKey_ends {b : Bool} (h : (updateApiKey now apiKey userId updates).Ends KeyWorld.exec w (.ok b) w') :
    ∃ row ∈ w.keys.rows, row.apiKey = apiKey ∧ ∃ expirationDate, updates.expirationDate now = .ok expirationDate ∧
      w'.keys.rows = w.keys.patched row.id (updates.patch now expirationDate).apply := by
  unfold updateApiKey at h
  obtain ⟨keyResult, w₁, hfound, h₁⟩ := ends_bind (ends_rethrown (fun e => ⟨_, rfl⟩) h)
  have hfound := ends_stmt hfound
  cases keyResult with
  | none => cases (ends_fail.mp h₁).1
  | some row =>
    obtain ⟨hrow, rfl⟩ : (w.keys.rows.find? fun row => row.apiKey = apiKey ∧ row.userId = userId) = some row ∧ w = w₁ := by
      simpa [KeyWorld.exec, Prod.ext_iff] using hfound
    have hmem := List.mem_of_find?_eq_some hrow
    have hkey : row.apiKey = apiKey ∧ row.userId = userId := by simpa using List.find?_some hrow
    exact ⟨row, hmem, hkey.1, updateFoundKey_ends h₁⟩

theorem details_eq {row : KeyRow} {details : KeyDetails} (h : row.details now = some details) :
    details.id = row.id ∧ details.apiKey = row.apiKey := by
  unfold KeyRow.details at h
  dsimp only at h
  split at h
  · cases h
  · cases h
    exact ⟨rfl, rfl⟩

/-- What `getApiKeyById` has found. -/
theorem getApiKeyById_ends {details : KeyDetails}
    (h : (getApiKeyById now keyId userId).Ends KeyWorld.exec w (.ok (some details)) w') :
    w' = w ∧ details.id = keyId ∧ ∃ row ∈ w.keys.rows, row.id = keyId ∧ details.apiKey = row.apiKey := by
  unfold getApiKeyById at h
  rcases ends_tryCatch h with ⟨_, hd, h₁⟩ | ⟨e, w₁, -, h₁⟩
  · cases hd
    obtain ⟨found, w₁, hread, h₂⟩ := ends_bind h₁
    obtain ⟨hfound, rfl⟩ : (w.keys.rows.find? fun row => row.id = keyId ∧ row.userId = userId) = found ∧ w = w₁ := by
      simpa [KeyWorld.exec, Prod.ext_iff] using ends_stmt hread
    obtain ⟨hsome, rfl⟩ := ends_ret.mp h₂
    have hbind : found.bind (KeyRow.details now) = some details := (Except.ok.inj hsome).symm
    obtain ⟨row, rfl, hdetails⟩ := Option.bind_eq_some_iff.mp hbind
    have hkey : row.id = keyId ∧ row.userId = userId := by simpa using List.find?_some hfound
    obtain ⟨hid, hapiKey⟩ := details_eq hdetails
    exact ⟨rfl, hid.trans hkey.1, row, List.mem_of_find?_eq_some hfound, hkey.1, hapiKey⟩
  · cases (ends_ret.mp h₁).1

/-- What a successful `PUT` has done to the tables `t`: one update, on the row of the caller's key, and it answers with the key
of the named row. -/
structure Updated (now : Int) (apiKey : String) (keyId : Int) (updates : Updates) (t t' : KeyTable) (returned : String) :
    Prop where
  wrote : ∃ row ∈ t.rows, row.apiKey = apiKey ∧ ∃ expirationDate, updates.expirationDate now = .ok expirationDate ∧
    t'.rows = t.patched row.id (updates.patch now expirationDate).apply
  answered : ∃ row ∈ t'.rows, row.id = keyId ∧ returned = row.apiKey

theorem finishUpdate_ends
    (h : (finishUpdate now apiKey userId keyId updates message).Ends KeyWorld.exec w (.ok response) w') :
    ∃ details, response = .updated message details ∧ Updated now apiKey keyId updates w.keys w'.keys details.apiKey := by
  unfold finishUpdate at h
  obtain ⟨success, w₁, hupdate, h₁⟩ := ends_bind h
  have hupdate : (updateApiKey now apiKey userId updates).Ends KeyWorld.exec w (.ok success) w₁ := by
    refine ends_rethrown (fun e => ?_) hupdate
    split
    · split
      · exact ⟨_, rfl⟩
      · exact ⟨_, rfl⟩
    · exact ⟨_, rfl⟩
  have hwrote := updateApiKey_ends hupdate
  cases success with
  | false => cases (ends_fail.mp h₁).1
  | true =>
    obtain ⟨updatedKey, w₂, hread, h₂⟩ := ends_bind h₁
    cases updatedKey with
    | none => cases (ends_fail.mp h₂).1
    | some details =>
      obtain ⟨rfl, -, hanswered⟩ := getApiKeyById_ends hread
      by_cases hvalid : details.Valid
      · simp only [hvalid, if_true] at h₂
        obtain ⟨hresponse, rfl⟩ := ends_ret.mp h₂
        exact ⟨details, Except.ok.inj hresponse, hwrote, hanswered⟩
      · simp only [hvalid, if_false] at h₂
        cases (ends_fail.mp h₂).1

def UpdateApiKeyRequest.written (request : UpdateApiKeyRequest) : Updates :=
  if request.action = some "rotate" then {} else request.updates

/-- A successful `PUT`, read backwards. -/
theorem endpoint_updates {crypto : Crypto} {cached : Option KeyUser} {request : UpdateApiKeyRequest}
    (hbulk : request.action ≠ some "bulk_rotate")
    (h : (updateUserApiKeyEndpoint crypto now cached apiKey keyId request).Ends KeyWorld.exec w (.ok response) w') :
    (∃ named ∈ w.keys.rows, named.id = keyId) ∧ ∃ message details, response = .updated message details ∧
      Updated now apiKey keyId request.written w.keys w'.keys details.apiKey := by
  unfold updateUserApiKeyEndpoint at h
  have h₀ := ends_rethrown (fun e => by
    split
    · exact ⟨_, rfl⟩
    · exact ⟨_, rfl⟩) h
  obtain ⟨user, w₁, huser, h₁⟩ := ends_bind h₀
  have hkeys₁ := keys_of_reads (getUser_reads _ _) huser
  cases user with
  | none => cases (ends_fail.mp h₁).1
  | some user =>
    obtain ⟨allowed, w₂, hallowed, h₂⟩ := ends_bind h₁
    have hkeys₂ := keys_of_reads (validateApiKeyPermissions_reads _ _ _) hallowed
    cases allowed with
    | false => cases (ends_fail.mp h₂).1
    | true =>
      obtain ⟨keyToUpdate, w₃, hread, h₃⟩ := ends_bind h₂
      cases keyToUpdate with
      | none => cases (ends_fail.mp h₃).1
      | some keyToUpdate =>
        obtain ⟨rfl, rfl, named, hnamed, hid, -⟩ := getApiKeyById_ends hread
        rw [hkeys₂, hkeys₁] at hnamed
        refine ⟨⟨named, hnamed, hid⟩, ?_⟩
        rw [← hkeys₁, ← hkeys₂]
        have h₃ : (changeKey crypto now apiKey user.id keyToUpdate request).Ends KeyWorld.exec w₃ (.ok response) w' := h₃
        unfold changeKey at h₃
        by_cases hrotate : request.action = some "rotate"
        · rw [if_pos hrotate] at h₃
          obtain ⟨details, hresponse, hupdated⟩ := finishUpdate_ends h₃
          refine ⟨_, details, hresponse, ?_⟩
          rw [UpdateApiKeyRequest.written, if_pos hrotate]
          -- `patch` does not look at the new key
          exact ⟨hupdated.wrote, hupdated.answered⟩
        · rw [if_neg hrotate, if_neg hbulk] at h₃
          split at h₃
          · cases (ends_fail.mp h₃).1
          · obtain ⟨details, hresponse, hupdated⟩ := finishUpdate_ends h₃
            rw [UpdateApiKeyRequest.written, if_neg hrotate]
            exact ⟨_, details, hresponse, hupdated⟩

end Update

/-! ## The two tables -/

section Tables

variable {t t' : KeyTable} {crypto : Crypto} {request : UpdateApiKeyRequest} {now keyId : Int} {apiKey returned : String}

theorem patch_requested {expirationDate : Option (Option Iso)} (hdate : request.updates.expirationDate now = .ok expirationDate) :
    (request.updates.patch now expirationDate).apply = request.requested now := by
  have hdate' : expirationDate = request.expirationDays.map fun days => some (Iso.ofUtc (now + secondsPerDay * days)) := by
    rw [Updates.expirationDate, UpdateApiKeyRequest.updates] at hdate
    cases hdays : request.expirationDays with
    | none =>
      rw [hdays] at hdate
      cases hdate
      rfl
    | some days =>
      rw [hdays] at hdate
      simp only [Option.map_some, plusDays] at hdate
      split at hdate
      · cases hdate
        rfl
      · cases hdate
  funext row
  subst hdate'
  unfold KeyPatch.apply Updates.patch UpdateApiKeyRequest.requested UpdateApiKeyRequest.updates
  cases request.expirationDays with
  | none => rfl
  | some days => rfl

theorem opened_rotation {id : Int} (h : t'.rows = t.patched id (Updates.patch now none {}).apply) (secret : String) :
    (t'.opened crypto.sha256KeyHash secret).map KeyRow.id = (t.opened crypto.sha256KeyHash secret).map KeyRow.id := by
  have hkeep (row : KeyRow) : ((Updates.patch now none {}).apply row).apiKey = row.apiKey ∧
      ((Updates.patch now none {}).apply row).keyHash = row.keyHash := ⟨rfl, rfl⟩
  rw [KeyTable.opened_patched hkeep h, Option.map_map]
  refine congrArg (Option.map · _) (funext fun row => ?_)
  rw [Function.comp_apply]
  split
  · rfl
  · rfl

theorem not_rotated (hsame : ∀ secret, (t'.opened crypto.sha256KeyHash secret).map KeyRow.id =
    (t.opened crypto.sha256KeyHash secret).map KeyRow.id) : ¬ Rotated crypto keyId t t' returned := by
  intro h
  obtain ⟨row, hopens, hid⟩ := h.new
  have hbefore : (t.opened crypto.sha256KeyHash returned).map KeyRow.id = some keyId := by
    rw [← hsame, hopens, Option.map_some, hid]
  obtain ⟨old, hold, hid⟩ := Option.map_eq_some_iff.mp hbefore
  rw [h.old returned old hold hid] at hopens
  cases hopens

/-- The update of one row is the update of another if they are one row, or if nothing is written in either. -/
theorem patched_eq_iff {f : KeyRow → KeyRow} {caller named : KeyRow} (hcaller : caller ∈ t.rows) (hnamed : named ∈ t.rows) :
    t.patched caller.id f = t.patched named.id f ↔ caller = named ∨ f caller = caller ∧ f named = named := by
  unfold KeyTable.patched
  rw [List.map_inj_left]
  constructor
  · intro h
    by_cases hne : caller.id = named.id
    · exact .inl (KeyTable.eq_of_id hcaller hnamed hne)
    · have hc := h caller hcaller
      have hn := h named hnamed
      rw [if_pos rfl, if_neg hne] at hc
      rw [if_pos rfl, if_neg (Ne.symm hne)] at hn
      exact .inr ⟨hc, hn.symm⟩
  · rintro (rfl | ⟨hc, hn⟩) row hrow
    · rfl
    · have hfix (other : KeyRow) (hother : other ∈ t.rows) (hf : f other = other) :
          (if row.id = other.id then f row else row) = row := by
        split
        · rw [KeyTable.eq_of_id hrow hother ‹_›, hf]
        · rfl
      rw [hfix caller hcaller hc, hfix named hnamed hn]

end Tables

/-- **A `PUT` acts on the named key exactly if it is no rotation and comes with that key**, or else would write nothing to
either row: for every table, every caller, every request and whatever the link does. -/
theorem put_acts_on_named {crypto : Crypto} {now keyId : Int} {cached : Option KeyUser} {apiKey : String}
    {request : UpdateApiKeyRequest} {w w' : KeyWorld} {os os' : List (Outcome PyErr)} {response : PutResponse}
    (hbulk : request.action ≠ some "bulk_rotate")
    (hrun : (updateUserApiKeyEndpoint crypto now cached apiKey keyId request).run KeyWorld.exec os w = (.ok response, os', w')) :
    (∃ message details, response = .updated message details ∧
        ActsOnNamed crypto now request keyId w.keys w'.keys details.apiKey) ↔
      request.action ≠ some "rotate" ∧ (OwnKey w.keys apiKey keyId ∨ NothingToWrite w.keys now request apiKey keyId) := by
  obtain ⟨⟨named, hnamed, rfl⟩, message, details, rfl, hupdated⟩ := endpoint_updates hbulk (ends_of_run hrun)
  obtain ⟨caller, hcaller, rfl, expirationDate, hdate, hrows⟩ := hupdated.wrote
  have hresponse (P : String → Prop) : (∃ message' details', PutResponse.updated message details = .updated message' details' ∧
      P details'.apiKey) ↔ P details.apiKey :=
    ⟨fun ⟨_, _, heq, hP⟩ => by cases heq; exact hP, fun hP => ⟨_, _, rfl, hP⟩⟩
  rw [hresponse]
  unfold ActsOnNamed
  by_cases hrotate : request.action = some "rotate"
  · rw [if_pos hrotate]
    refine iff_of_false ?_ fun h => h.1 hrotate
    rw [UpdateApiKeyRequest.written, if_pos hrotate] at hdate hrows
    cases hdate
    exact not_rotated (opened_rotation hrows)
  · rw [if_neg hrotate]
    rw [UpdateApiKeyRequest.written, if_neg hrotate] at hdate hrows
    rw [patch_requested hdate] at hrows
    rw [hrows, patched_eq_iff hcaller hnamed, and_iff_right hrotate]
    refine or_congr ⟨?_, ?_⟩ ⟨?_, ?_⟩
    · rintro rfl
      exact ⟨caller, hcaller, rfl, rfl⟩
    · rintro ⟨row, hrow, hid, hkey⟩
      rw [← KeyTable.eq_of_apiKey hrow hcaller hkey]
      exact KeyTable.eq_of_id hrow hnamed hid
    · rintro ⟨hc, hn⟩ row hrow (hkey | hid)
      · rw [KeyTable.eq_of_apiKey hrow hcaller hkey]
        exact hc
      · rw [KeyTable.eq_of_id hrow hnamed hid]
        exact hn
    · intro h
      exact ⟨h caller hcaller (.inl rfl), h named hnamed (.inr rfl)⟩

section Example

/-- Two keys of one user. -/
def twoKeys : KeyWorld where
  keys :=
    { rows :=
        [{ id := 1, userId := 7, apiKey := "gw_live_a", keyName := "server", isPrimary := some true },
         { id := 2, userId := 7, apiKey := "gw_live_b", keyName := "laptop" }]
      unique := by decide }
  users := [{ id := 7 }]

/-- `{"is_active": false}` -/
def deactivate : UpdateApiKeyRequest := { isActive := some false }

/-- The second key is switched off with a `PUT` that comes with the key `apiKey`. -/
def deactivateSecond (apiKey : String) : Except PyErr PutResponse × List (Outcome PyErr) × KeyWorld :=
  (updateUserApiKeyEndpoint plainCrypto 1000 none apiKey 2 deactivate).run KeyWorld.exec [] twoKeys

def deactivated (isActive : Bool) (updatedAt : Option Iso) : PutResponse :=
  .updated "API key updated successfully with enhanced security features"
    { id := 2, keyName := "laptop", apiKey := "gw_live_b", environmentTag := "live", scopePermissions := [],
      isActive := some isActive, isPrimary := some false, expirationDate := none, daysRemaining := none, maxRequests := none,
      requestsUsed := some 0, requestsRemaining := none, usagePercentage := none, ipAllowlist := [], domainReferrers := [],
      createdAt := none, updatedAt := updatedAt, lastUsedAt := none }

/-- With its own key it is switched off. -/
theorem put_acts_on_named_own : ∃ message details, deactivated false (some (.ofUtc 1000)) = .updated message details ∧
    ActsOnNamed plainCrypto 1000 deactivate 2 twoKeys.keys (deactivateSecond "gw_live_b").2.2.keys details.apiKey :=
  (put_acts_on_named (by decide)
    (Prod.ext (by decide +kernel) rfl :
      (updateUserApiKeyEndpoint plainCrypto 1000 none "gw_live_b" 2 deactivate).run KeyWorld.exec [] twoKeys =
        (.ok (deactivated false (some (.ofUtc 1000))), (deactivateSecond "gw_live_b").2))).mpr
    ⟨by decide, .inl ⟨{ id := 2, userId := 7, apiKey := "gw_live_b", keyName := "laptop" }, by decide, rfl, rfl⟩⟩

/-- With the other key the answer is a success too, the second key goes on working, and the first one is switched off. -/
theorem other_key_deactivated :
    (deactivateSecond "gw_live_a").1 = .ok (deactivated true none) ∧
      ((deactivateSecond "gw_live_a").2.2.keys.rows.map fun row => (row.id, row.isActive)) = [(1, some false), (2, some true)] ∧
      ¬ ActsOnNamed plainCrypto 1000 deactivate 2 twoKeys.keys (deactivateSecond "gw_live_a").2.2.keys "gw_live_b" := by
  refine ⟨by decide +kernel, by decide +kernel, ?_⟩
  rw [ActsOnNamed, if_neg (by decide)]
  decide +kernel

end Example

end Gatewayz.Keys
