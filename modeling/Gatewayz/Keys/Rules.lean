import Gatewayz.Exec.Served
import Gatewayz.Keys.Acceptance

/-!
# `Keys.Rules` — how the key functions are judged

Most of them leave the key table alone (`…_reads`). The two that count are judged with served statements (`keyRuns`): the
validation of a key lets nobody in beyond the limit of its row (`wp_getOptionalApiKey`), and the count raises `requests_used` by
one (`wp_incrementApiKeyUsage`).
-/

namespace Gatewayz.Keys

open Exec

/-! ## Programs that leave the table alone -/

section Reads

variable {α : Type} {p : KeyProg α} {r : Except PyErr α} {w w' : KeyWorld}

theorem keys_of_reads (hp : p.Only KeyStmt.Reads) (h : p.Ends KeyWorld.exec w r w') : w'.keys = w.keys :=
  ends_keeps (I := fun v => v.keys = w.keys) (fun _ hs v hv => (exec_reads hs v).trans hv) hp h rfl

theorem reads_ask {s : KeyStmt} (hs : s.Reads) : (ask s).Only KeyStmt.Reads := (only_stmt s).mpr hs

theorem reads_bestEffort {p : KeyProg Unit} (hp : p.Only KeyStmt.Reads) : (bestEffort p).Only KeyStmt.Reads :=
  only_tryCatch hp fun _ => only_ret ()

theorem getUser_reads (cached : Option KeyUser) (apiKey : String) : (getUser cached apiKey).Only KeyStmt.Reads := by
  unfold getUser
  cases cached with
  | some user => exact only_ret _
  | none =>
    refine only_tryCatch (only_bind (reads_ask trivial) fun keyResult => ?_) fun _ => only_ret _
    cases keyResult with
    | some keyData =>
      refine only_bind (reads_ask trivial) fun user => ?_
      cases user with
      | some user => exact only_ret _
      | none => exact reads_ask trivial
    | none => exact reads_ask trivial

theorem checkKeyNameUniqueness_reads (userId : Int) (keyName : String) (excluded : Option Int) :
    (checkKeyNameUniqueness userId keyName excluded).Only KeyStmt.Reads :=
  only_tryCatch (only_bind (reads_ask trivial) fun _ => only_ret _) fun _ => only_ret _

theorem validateApiKeyPermissions_reads (apiKey requiredPermission resource : String) :
    (validateApiKeyPermissions apiKey requiredPermission resource).Only KeyStmt.Reads := by
  refine only_tryCatch ?_ fun _ => only_ret _
  split
  · exact only_ret _
  · refine only_bind (reads_ask trivial) fun keyResult => ?_
    cases keyResult with
    | none => exact only_ret _
    | some keyData => exact only_ret _

theorem checkName_reads (userId keyId : Int) (updates : Updates) : (updates.checkName userId keyId).Only KeyStmt.Reads := by
  unfold Updates.checkName
  split
  · exact only_ret _
  · refine only_bind (checkKeyNameUniqueness_reads _ _ _) fun unique => ?_
    split
    · exact only_ret _
    · exact only_fail _

theorem copyLimit_reads (keyId : Int) (updates : Updates) : (updates.copyLimit keyId).Only KeyStmt.Reads := by
  unfold Updates.copyLimit
  split
  · exact reads_bestEffort (reads_ask trivial)
  · exact only_ret _

theorem ends_lift {e : Except PyErr α} {a : α} (h : (lift e).Ends KeyWorld.exec w (.ok a) w') : e = .ok a ∧ w' = w := by
  cases e with
  | ok b =>
    obtain ⟨heq, hw⟩ := ends_ret.mp h
    cases heq
    exact ⟨rfl, hw⟩
  | error e => cases (ends_fail.mp h).1

end Reads

/-! ## The quota of a key -/

/-- The key opens its own row, with the limit `m`, `used` requests of it used. -/
def KeyTable.HasQuota (t : KeyTable) (sha256KeyHash : String → Option String) (apiKey : String) (m used : Int) : Prop :=
  ∃ row, t.opened sha256KeyHash apiKey = some row ∧ t.byApiKey apiKey = some row ∧ row.maxRequests = some m ∧
    row.requestsUsed = some used

def KeyPatch.KeepsIdentity (p : KeyPatch) : Prop := p.apiKey = none ∧ p.keyHash = none ∧ p.maxRequests = none

section Quota

variable {t t' : KeyTable} {sha256KeyHash : String → Option String} {apiKey : String} {m used : Int} {patch : KeyPatch}

theorem KeyPatch.KeepsIdentity.apply (hp : patch.KeepsIdentity) (row : KeyRow) :
    (patch.apply row).apiKey = row.apiKey ∧ (patch.apply row).keyHash = row.keyHash ∧
      (patch.apply row).maxRequests = row.maxRequests := by
  obtain ⟨hkey, hhash, hmax⟩ := hp
  unfold KeyPatch.apply
  rw [hkey, hhash, hmax]
  exact ⟨rfl, rfl, rfl⟩

/-- Such an update is never refused. -/
theorem KeyPatch.KeepsIdentity.update (hp : patch.KeepsIdentity) (t : KeyTable) (id : Int) :
    ∃ t', t.update id patch = .ok ((t.byId id).isSome, t') ∧ t'.rows = t.patched id patch.apply := by
  have hids : (t.patched id patch.apply).map KeyRow.id = t.rows.map KeyRow.id := by
    rw [KeyTable.patched, List.map_map]
    refine List.map_congr_left fun row _ => ?_
    rw [Function.comp_apply]
    split
    · rfl
    · rfl
  have hkeys : (t.patched id patch.apply).map KeyRow.apiKey = t.rows.map KeyRow.apiKey := by
    rw [KeyTable.patched, List.map_map]
    refine List.map_congr_left fun row _ => ?_
    rw [Function.comp_apply]
    split
    · exact (hp.apply row).1
    · rfl
  have hhashes : (t.patched id patch.apply).filterMap KeyRow.keyHash = t.rows.filterMap KeyRow.keyHash := by
    rw [KeyTable.patched, List.filterMap_map]
    refine List.filterMap_congr fun row _ => ?_
    rw [Function.comp_apply]
    split
    · exact (hp.apply row).2.1
    · rfl
  have hunique : Unique (t.patched id patch.apply) := by
    unfold Unique
    rw [hids, hkeys, hhashes]
    exact t.unique
  refine ⟨⟨_, hunique⟩, ?_, rfl⟩
  rw [KeyTable.update, dif_pos hunique]

/-- Such an update, of any row, leaves the quota; of the key's own row it may set the count. -/
theorem KeyTable.HasQuota.patched (h : t.HasQuota sha256KeyHash apiKey m used) (hp : patch.KeepsIdentity) {id : Int}
    (ht : t'.rows = t.patched id patch.apply) : (patch.requestsUsed = none → t'.HasQuota sha256KeyHash apiKey m used) ∧
      ∀ n row, patch.requestsUsed = some n → t.byApiKey apiKey = some row → id = row.id →
        t'.HasQuota sha256KeyHash apiKey m n := by
  obtain ⟨row, hopened, hkey, hmax, hused⟩ := h
  have hopened' : t'.opened sha256KeyHash apiKey =
      (t.opened sha256KeyHash apiKey).map fun row => if row.id = id then patch.apply row else row :=
    opened_patched (fun row => ⟨(hp.apply row).1, (hp.apply row).2.1⟩) ht apiKey
  have hkey' : t'.byApiKey apiKey = (t.byApiKey apiKey).map fun row => if row.id = id then patch.apply row else row := by
    rw [byApiKey, ht]
    exact find_patched fun row => by rw [(hp.apply row).1]
  rw [hopened, Option.map_some] at hopened'
  rw [hkey, Option.map_some] at hkey'
  have hmax' : (if row.id = id then patch.apply row else row).maxRequests = some m := by
    split
    · rw [(hp.apply row).2.2, hmax]
    · exact hmax
  constructor
  · intro hnone
    refine ⟨_, hopened', hkey', hmax', ?_⟩
    split
    · unfold KeyPatch.apply
      rw [hnone]
      exact hused
    · exact hused
  · intro n row' hsome hrow' hid
    rw [hkey] at hrow'
    cases hrow'
    refine ⟨_, hopened', hkey', hmax', ?_⟩
    rw [if_pos hid.symm]
    unfold KeyPatch.apply
    rw [hsome]
    rfl

end Quota

/-! ## Served runs -/

/-- Every statement is served. -/
@[reducible] def keyRuns : Setting PyErr KeyStmt KeyRes Unit KeyWorld where
  exec := KeyWorld.exec
  note := fun g _ _ _ _ => g
  allow := fun _ _ o _ => o = .served

section Served

variable {α : Type} {Q : α → Unit → KeyWorld → Prop} {E : PyErr → Unit → KeyWorld → Prop} {w : KeyWorld}

theorem wp_ask {s : KeyStmt} {Q : KeyRes s → Unit → KeyWorld → Prop}
    (h : Answered (fun a => Q a () (KeyWorld.exec s w).2) (fun e => E e () (KeyWorld.exec s w).2) (KeyWorld.exec s w).1) :
    (ask s).wp keyRuns .alone Q E () w := by
  refine wp_alone_stmt (C := keyRuns) fun o ho => ?_
  obtain rfl : o = .served := ho
  exact h

theorem wp_lift {e : Except PyErr α} (h : Answered (fun a => Q a () w) (fun e => E e () w) e) :
    (lift e).wp keyRuns .alone Q E () w := by
  cases e with
  | ok a => exact h
  | error e => exact h

theorem wp_reads {p : KeyProg α} (hp : p.Only KeyStmt.Reads) {J : KeyTable → Prop} (hJ : J w.keys) :
    p.wp keyRuns .alone (fun _ _ w => J w.keys) (fun _ _ w => J w.keys) () w := by
  refine wp_of_only (C := keyRuns) (K := .alone) (J := fun _ (v : KeyWorld) => J v.keys)
    (fun _ _ _ hr h => hr ▸ h) (fun s hs _ o st _ ho h => ?_) hp hJ
  obtain rfl : o = .served := ho
  refine ⟨trivial, trivial, ?_⟩
  rw [answer_served, exec_reads hs]
  exact h

theorem wp_bestEffort {p : KeyProg Unit} {Q : Unit → Unit → KeyWorld → Prop}
    (h : p.wp keyRuns .alone Q (fun _ => Q ()) () w) : (bestEffort p).wp keyRuns .alone Q E () w := by
  unfold bestEffort
  rw [wp_tryCatch]
  exact h

end Served

/-! ## Admission and count -/

section Admission

variable {crypto : Crypto} {net : Net} {now : Int} {cached : Option KeyUser} {apiKey : String} {caller : Caller} {m n : Int}
variable {w : KeyWorld}

/-- Both lookups together find the row that the key opens. -/
theorem wp_lookupKey {Q : Option KeyRow → Unit → KeyWorld → Prop} {E : PyErr → Unit → KeyWorld → Prop}
    (h : Q (w.keys.opened crypto.sha256KeyHash apiKey) () w) : (lookupKey crypto apiKey).wp keyRuns .alone Q E () w := by
  unfold lookupKey lookupByHash
  rw [wp_bind, wp_tryCatch]
  unfold KeyTable.opened at h
  cases hhash : crypto.sha256KeyHash apiKey with
  | none =>
    rw [hhash] at h
    show Prog.wp keyRuns .alone _ _ (ite _ _ _) () w
    rw [if_pos (.inr rfl), wp_bind]
    have hplain : Q (w.keys.byApiKey apiKey) () w := by simpa using h
    exact wp_ask (s := .selectByApiKey apiKey) hplain
  | some keyHash =>
    rw [hhash] at h
    dsimp only
    rw [wp_bind]
    refine wp_ask (s := .selectByKeyHash keyHash) ?_
    show Prog.wp keyRuns .alone Q E
      (if true = true ∧ w.keys.byKeyHash keyHash = none then ask (.selectByApiKey apiKey)
        else pure (w.keys.byKeyHash keyHash)) () w
    cases hfound : w.keys.byKeyHash keyHash with
    | none =>
      rw [if_pos ⟨rfl, rfl⟩]
      have hplain : Q (w.keys.byApiKey apiKey) () w := by simpa [hfound] using h
      exact wp_ask (s := .selectByApiKey apiKey) hplain
    | some row =>
      rw [if_neg (by simp)]
      simpa [hfound] using h

/-- A row with a count passes or is refused with a `ValueError`, and if it passes, it is below its limit. -/
theorem check_cases {row : KeyRow} (hmax : row.maxRequests = some m) (hused : row.requestsUsed = some n) :
    (row.check net now caller = .ok () ∧ n < m) ∨ ∃ text, row.check net now caller = .error (.valueError text) := by
  unfold KeyRow.check
  have hdates : row.checkDates now = .ok () ∨ ∃ text, row.checkDates now = .error (.valueError text) := by
    unfold KeyRow.checkDates
    split
    · exact .inr ⟨_, rfl⟩
    · rcases row.expirationDate with _ | ⟨clock, zone⟩
      · exact .inl rfl
      · have hpast : (if clock < now then Except.error (PyErr.valueError "API key has expired") else .ok ()) = .ok () ∨
            ∃ text, (if clock < now then Except.error (PyErr.valueError "API key has expired") else .ok ()) =
              .error (PyErr.valueError text) := by
          split
          · exact .inr ⟨_, rfl⟩
          · exact .inl rfl
        cases zone with
        | offset minutes => exact .inr ⟨_, rfl⟩
        | zulu => exact hpast
        | utc => exact hpast
        | naive => exact hpast
  have horigin : row.checkOrigin net caller = .ok () ∨ ∃ text, row.checkOrigin net caller = .error (.valueError text) := by
    unfold KeyRow.checkOrigin
    repeat' split
    · exact .inr ⟨_, rfl⟩
    · exact .inr ⟨_, rfl⟩
    · exact .inr ⟨_, rfl⟩
    · exact .inl rfl
  rcases hdates with hdates | ⟨text, hdates⟩
  · rw [hdates]
    have hlimit : row.checkLimit = if m ≤ n then .error (.valueError "API key request limit reached") else .ok () := by
      rw [KeyRow.checkLimit, hmax, hused]
    rw [hlimit]
    split
    · exact .inr ⟨_, rfl⟩
    · rename_i hlt
      rcases horigin with horigin | ⟨text, horigin⟩
      · rw [horigin]
        exact .inl ⟨rfl, not_le.mp hlt⟩
      · rw [horigin]
        exact .inr ⟨text, rfl⟩
  · rw [hdates]
    exact .inr ⟨text, rfl⟩

/-- The stamp of a validated key changes nothing about it. -/
theorem wp_stamp {id : Int} {Q : Unit → Unit → KeyWorld → Prop} {E : PyErr → Unit → KeyWorld → Prop}
    (h : w.keys.HasQuota crypto.sha256KeyHash apiKey m n)
    (hQ : ∀ w', w'.keys.HasQuota crypto.sha256KeyHash apiKey m n → Q () () w') : (bestEffort (do
      let _ ← ask (.updateKey id { lastUsedAt := some (.ofUtc now) })
      pure ())).wp keyRuns .alone Q E () w := by
  have hkeeps : KeyPatch.KeepsIdentity { lastUsedAt := some (Iso.ofUtc now) } := ⟨rfl, rfl, rfl⟩
  refine wp_bestEffort ?_
  rw [wp_bind]
  refine wp_ask (s := .updateKey id _) ?_
  obtain ⟨t', hupdate, hrows⟩ := hkeeps.update w.keys id
  have hexec : KeyWorld.exec (.updateKey id { lastUsedAt := some (.ofUtc now) }) w =
      (.ok (w.keys.byId id).isSome, { w with keys := t' }) := by
    show w.updateKey id _ = _
    rw [KeyWorld.updateKey, hupdate]
  rw [hexec]
  exact hQ _ ((h.patched hkeeps hrows).1 rfl)

/-- Who is let in with the key is below its limit. -/
theorem wp_getOptionalApiKey (h : w.keys.HasQuota crypto.sha256KeyHash apiKey m n) :
    (getOptionalApiKey crypto net now cached (some apiKey) caller).wp keyRuns .alone
      (fun r _ w => w.keys.HasQuota crypto.sha256KeyHash apiKey m n ∧ (r.isSome → n < m))
      (fun _ _ w => w.keys.HasQuota crypto.sha256KeyHash apiKey m n) () w := by
  unfold getOptionalApiKey
  rw [wp_tryCatch]
  refine wp_bind _ _ () w ▸ ?_
  unfold getApiKey
  split
  · exact ⟨h, nofun⟩
  rw [wp_tryCatch, wp_bind]
  unfold validateApiKeySecurity
  rw [wp_bind]
  unfold checkTable
  rw [wp_tryCatch, wp_bind]
  refine wp_lookupKey ?_
  obtain ⟨row, hopened, hkey, hmax, hused⟩ := id h
  rw [hopened]
  dsimp only
  rw [wp_bind]
  unfold validateKeyConstraints
  rw [wp_bind]
  refine wp_lift ?_
  have hcases : (row.check net now caller = .ok () ∧ n < m) ∨ ∃ text, row.check net now caller = .error (.valueError text) :=
    check_cases hmax hused
  rcases hcases with ⟨hcheck, hlt⟩ | ⟨text, hcheck⟩
  · rw [hcheck]
    refine wp_stamp h fun w' h' => ?_
    -- the validated key is returned after its user has been logged
    show Prog.wp keyRuns .alone _ _ (getUser cached apiKey >>= _) () w'
    rw [wp_bind]
    have hlogged := wp_reads (J := fun t => t.HasQuota crypto.sha256KeyHash apiKey m n) (getUser_reads cached apiKey) h'
    refine wp_mono (fun _ _ _ h => ⟨h, fun _ => hlt⟩) (fun e _ _ h => ?_) hlogged
    split
    · exact ⟨h, nofun⟩
    · exact ⟨h, nofun⟩
  · rw [hcheck]
    exact ⟨h, nofun⟩

/-- The count raises the count by one. -/
theorem wp_incrementApiKeyUsage (h : w.keys.HasQuota crypto.sha256KeyHash apiKey m n) :
    (incrementApiKeyUsage now apiKey).wp keyRuns .alone
      (fun _ _ w => w.keys.HasQuota crypto.sha256KeyHash apiKey m (n + 1)) (fun _ _ _ => False) () w := by
  unfold incrementApiKeyUsage
  refine wp_bestEffort ?_
  rw [wp_bind]
  obtain ⟨row, hopened, hkey, hmax, hused⟩ := id h
  have hread : KeyWorld.exec (.selectByApiKey apiKey) w = (.ok (some row), w) := by
    rw [← hkey]
    rfl
  refine wp_ask (s := .selectByApiKey apiKey) ?_
  rw [hread, answered_ok]
  dsimp only
  rw [hused]
  dsimp only
  rw [wp_bind]
  have hkeeps : KeyPatch.KeepsIdentity
      { requestsUsed := some (n + 1), lastUsedAt := some (Iso.ofUtc now), updatedAt := some (Iso.ofUtc now) } := ⟨rfl, rfl, rfl⟩
  obtain ⟨t', hupdate, hrows⟩ := hkeeps.update w.keys row.id
  have hexec : KeyWorld.exec (.updateByApiKey apiKey
      { requestsUsed := some (n + 1), lastUsedAt := some (.ofUtc now), updatedAt := some (.ofUtc now) }) w =
      (.ok (w.keys.byId row.id).isSome, { w with keys := t' }) := by
    show w.updateByApiKey apiKey _ = _
    rw [KeyWorld.updateByApiKey, hkey]
    dsimp only
    rw [KeyWorld.updateKey, hupdate]
  refine wp_ask (s := .updateByApiKey apiKey _) ?_
  rw [hexec]
  exact (h.patched hkeeps hrows).2 _ row rfl hkey rfl

end Admission

/-- Hashes that are the texts themselves. -/
def plainCrypto : Crypto where
  sha256KeyHash := some
  hashApiKey := .ok
  encryptApiKey := fun _ apiKey => .ok apiKey
  decryptApiKey := some
  token := fun _ => "c"

end Gatewayz.Keys
