import Gatewayz.Catalog.RefreshJob
import Gatewayz.Correctness.StaleHistories
import Gatewayz.Exec.Pool

/-!
# `Correctness.DelistingSurvives` — a model that an operator has taken out stays out

An operator takes a model out by a mark in the metadata of its row. Two jobs overwrite that metadata whole: a sync, which
stamps the mark anew on the models that its own read has found marked, and a price refresh, which writes back a copy. A purge
deletes the row.

`carefulJobs` says so of a run, statement by statement: whoever upserts a marked model has loaded its mark before, nobody
writes metadata over a row that was marked in the meantime, and no marked row is purged.
-/

namespace Gatewayz.Catalog

open Exec Prices

/-! ## Rows that are held down -/

def ModelData.delisted (d : ModelData) : Bool := !d.isActive && d.metadata.delistReason = some "unservable"

theorem ModelData.delisted_iff (d : ModelData) :
    d.delisted = true ↔ d.isActive = false ∧ d.metadata.delistReason = some "unservable" := by
  simp [delisted]

namespace CatalogDb

def delisted (db : CatalogDb) (k : ModelKey) : Bool := (db.find k).any fun r => r.data.delisted

theorem delisted_iff (db : CatalogDb) (k : ModelKey) :
    db.delisted k = true ↔ ∃ r ∈ db.models, r.key = k ∧ r.data.delisted = true := by
  rw [delisted, Option.any_eq_true]
  constructor
  · rintro ⟨r, hfind, hdelisted⟩
    obtain ⟨hr, hkey⟩ := (db.find_eq_some).mp hfind
    exact ⟨r, hr, hkey, hdelisted⟩
  · rintro ⟨r, hr, hkey, hdelisted⟩
    exact ⟨r, (db.find_eq_some).mpr ⟨hr, hkey⟩, hdelisted⟩

variable {db : CatalogDb} {k : ModelKey}

theorem delisted_modify {f : ModelRow → ModelData} (h : db.delisted k = true)
    (hf : ∀ r ∈ db.models, r.key = k → r.data.delisted = true → (f r).delisted = true) :
    (db.modify f).delisted k = true := by
  obtain ⟨r, hr, hkey, hdelisted⟩ := (db.delisted_iff k).mp h
  exact ((db.modify f).delisted_iff k).mpr ⟨_, (db.mem_modify).mpr ⟨r, hr, rfl⟩, hkey, hf r hr hkey hdelisted⟩

theorem delisted_rewrite {ids : List Nat} {f : ModelData → ModelData} (h : db.delisted k = true)
    (hf : ∀ r ∈ db.models, r.key = k → r.id ∈ ids → r.data.delisted = true → (f r.data).delisted = true) :
    (db.rewrite ids f).delisted k = true := by
  refine delisted_modify h fun r hr hkey hdelisted => ?_
  by_cases hid : r.id ∈ ids
  · rw [if_pos hid]
    exact hf r hr hkey hid hdelisted
  · rw [if_neg hid]
    exact hdelisted

theorem delisted_upsertOne {now : Time} {m : UpsertRow} (h : db.delisted k = true)
    (hm : m.key = k → m.isActive = false ∧ m.metadata.delistReason = some "unservable") :
    (db.upsertOne now m).delisted k = true := by
  unfold upsertOne
  split
  · refine delisted_modify h fun r hr hkey hdelisted => ?_
    by_cases hsame : r.key = m.key
    · rw [if_pos hsame]
      exact (ModelData.delisted_iff _).mpr (hm (hsame.symm.trans hkey))
    · rw [if_neg hsame]
      exact hdelisted
  · next hnone =>
    obtain ⟨r, hr, hkey, hdelisted⟩ := (db.delisted_iff k).mp h
    exact (delisted_iff _ k).mpr ⟨r, (db.mem_insert hnone).mpr (.inl hr), hkey, hdelisted⟩

theorem delisted_upsert {now : Time} (batch : List UpsertRow) {db : CatalogDb} (h : db.delisted k = true)
    (hbatch : ∀ m ∈ batch, m.key = k → m.isActive = false ∧ m.metadata.delistReason = some "unservable") :
    (batch.foldl (fun db m => db.upsertOne now m) db).delisted k = true := by
  induction batch generalizing db with
  | nil => exact h
  | cons m batch ih =>
    have hone : (db.upsertOne now m).delisted k = true := delisted_upsertOne h (hbatch m List.mem_cons_self)
    exact ih hone fun m' hm' => hbatch m' (List.mem_cons_of_mem _ hm')

theorem delisted_putPricing (rows : List PricingRow) (db : CatalogDb) :
    (rows.foldl (fun db row => db.putPricing row.rounded) db).delisted k = db.delisted k := by
  induction rows generalizing db with
  | nil => rfl
  | cons row rows ih =>
    rw [List.foldl_cons, ih, delisted, find_putPricing]
    rfl

theorem delisted_delete {keep : ModelRow → Bool} (h : db.delisted k = true)
    (hkeep : ∀ r ∈ db.models, r.key = k → keep r = true) : (db.delete keep).delisted k = true := by
  obtain ⟨r, hr, hkey, hdelisted⟩ := (db.delisted_iff k).mp h
  exact (delisted_iff _ k).mpr ⟨r, (db.mem_delete).mpr ⟨hr, hkeep r hr hkey⟩, hkey, hdelisted⟩

end CatalogDb

/-- What an operator has taken out is out: its row is there, inactive and marked. -/
def World.HeldDown (w : World) : Prop := ∀ k ∈ w.held, w.db.delisted k = true

instance (w : World) : Decidable w.HeldDown := inferInstanceAs (Decidable (∀ k ∈ w.held, _))

/-! ## Runs of jobs -/

/-- What the observer of a job notes: the marks that its last load of them returned, of models that are held down. -/
structure MarksSeen where
  loaded : List ModelKey := []

def noteMarks (g : MarksSeen) (s : Stmt) (r : Except DbError (Res s)) (w _ : World) : MarksSeen :=
  match s, r with
  | .selectRows _, .ok rows =>
    { loaded := ((rows : List ModelRow).filter fun r =>
        w.held.contains r.key && r.data.metadata.delistReason = some "unservable").map ModelRow.key }
  | .selectRows _, .error _ => { loaded := [] }
  | _, _ => g

def World.Free (w : World) (ids : List Nat) : Prop := ∀ r ∈ w.db.models, r.id ∈ ids → r.key ∉ w.held

instance (w : World) (ids : List Nat) : Decidable (w.Free ids) :=
  inferInstanceAs (Decidable (∀ r ∈ w.db.models, _))

/-- A statement that does not undo a mark: a batch holds marked models only if their marks were loaded before, metadata is
written over no marked row, and no marked row is deleted. -/
def Careful (g : MarksSeen) (s : Stmt) (_ : Outcome DbError) (w : World) : Prop :=
  match s with
  | .upsertModels batch => ∀ m ∈ batch, m.key ∈ w.held → m.key ∈ g.loaded
  | .updateMetadata modelId _ => w.Free [modelId]
  | .deleteModels ids => w.Free ids
  | _ => True

instance (g : MarksSeen) (s : Stmt) (o : Outcome DbError) (w : World) : Decidable (Careful g s o w) := by
  revert s
  intro s
  apply Stmt.casesOn (motive := fun s => Decidable (Careful g s o w)) s
  all_goals (intros; unfold Careful; infer_instance)

variable {unservable : List String}

section Runs

variable (order : Nat → List ModelRow → List ModelRow)

def carefulJobs : Setting DbError Stmt Res MarksSeen World := ⟨World.exec order, noteMarks, Careful⟩

def anyJobs : Setting DbError Stmt Res MarksSeen World := ⟨World.exec order, noteMarks, fun _ _ _ _ => True⟩

inductive Job where
  | sync (facts : ProviderFacts) (fuel : Nat) (now : Time) (call : SyncCall)
  | refresh (facts : ProviderFacts) (pages : Nat) (call : RefreshCall)
  | stale (fuel providerId : Nat) (seen : List String) (threshold : Nat) (purgeAfterDays : Option Int) (now : Time)
  | mark (modelId : Nat)
  | clear (modelId : Nat)
  | wait (duration : Nat)

/-- What it does. -/
def Job.prog : Job → CatalogM Unit
  | .sync facts fuel now call => do
    let _ ← syncProviderModels facts fuel now call
    return ()
  | .refresh facts pages call => do
    let _ ← refreshPricesOf facts pages call
    return ()
  | .stale fuel providerId seen threshold purgeAfterDays now => do
    let _ ← processStaleModels fuel providerId seen threshold purgeAfterDays now
    return ()
  | .mark modelId => ask (.markUnservable modelId)
  | .clear modelId => ask (.clearMark modelId)
  | .wait duration => ask (.wait duration)

/-! ## One statement -/

/-- A statement of a job that has found the models `unservable` marked: what it upserts of them it pins. -/
def Pins (unservable : List String) : Stmt → Prop
  | .upsertModels batch => ∀ m ∈ batch, m.key.providerModelId ≠ "" ∧
      (m.key.providerModelId ∈ unservable → m.isActive = false ∧ m.metadata.delistReason = some "unservable")
  | .selectRows _ => False
  | _ => True

def Found (unservable : List String) (g : MarksSeen) : Prop :=
  ∀ k ∈ g.loaded, k.providerModelId ≠ "" → k.providerModelId ∈ unservable

theorem heldDown_mark {w : World} (h : w.HeldDown) (modelId : Nat) :
    (World.exec order (.markUnservable modelId) w).2.HeldDown := by
  intro k hk
  have hmarked : ∀ r ∈ w.db.models, r.id ∈ [modelId] →
      (w.db.rewrite [modelId] ModelData.delist).delisted r.key = true := by
    intro r hr hid
    refine (CatalogDb.delisted_iff _ _).mpr ⟨_, (w.db.mem_modify).mpr ⟨r, hr, rfl⟩, rfl, ?_⟩
    rw [if_pos hid]
    exact (ModelData.delisted_iff _).mpr ⟨rfl, rfl⟩
  rcases List.mem_append.mp hk with hnew | hold
  · obtain ⟨r, hfind, rfl⟩ : ∃ r, w.db.findId modelId = some r ∧ r.key = k := by
      simpa using hnew
    obtain ⟨hr, hid⟩ := (w.db.findId_eq_some).mp hfind
    exact hmarked r hr (List.mem_singleton.mpr hid)
  · exact CatalogDb.delisted_rewrite (h k hold) fun r _ _ _ _ => (ModelData.delisted_iff _).mpr ⟨rfl, rfl⟩

theorem heldDown_clear {w : World} (h : w.HeldDown) (modelId : Nat) :
    (World.exec order (.clearMark modelId) w).2.HeldDown := by
  intro k hk
  obtain ⟨hold, hother⟩ := List.mem_filter.mp hk
  refine CatalogDb.delisted_rewrite (h k hold) fun r hr hkey hid _ => ?_
  -- the row that is cleared is another one
  have hfind : w.db.findId modelId = some r := (w.db.findId_eq_some).mpr ⟨hr, List.mem_singleton.mp hid⟩
  rw [hfind, Option.map_some, hkey] at hother
  simp at hother

/-- One statement of a job that pins what it has found marked, if it undoes no mark. -/
theorem heldDown_exec {s : Stmt} (hs : Pins unservable s) {g : MarksSeen} {o : Outcome DbError}
    {w : World} (h : w.HeldDown) (hcareful : Careful g s o w) (hfound : Found unservable g) :
    (World.exec order s w).2.HeldDown := by
  cases s with
  | upsertModels batch =>
    intro k hk
    refine CatalogDb.delisted_upsert batch (h k hk) fun m hm hkey => ?_
    have hloaded : m.key ∈ g.loaded := hcareful m hm (hkey ▸ hk)
    exact (hs m hm).2 (hfound m.key hloaded (hs m hm).1)
  | upsertPricing rows =>
    rw [World.exec]
    split
    · intro k hk
      rw [World.write_db, CatalogDb.delisted_putPricing]
      exact h k hk
    · exact h
  | updateMetadata modelId metadata =>
    intro k hk
    refine CatalogDb.delisted_rewrite (h k hk) fun r hr hkey hid _ => ?_
    exact absurd (hkey ▸ hk) (hcareful r hr hid)
  | selectRows providerId => exact h
  | countActive providerId => exact h
  | selectActive providerId offset => exact h
  | resetSeen ids now => exact fun k hk => CatalogDb.delisted_rewrite (h k hk) fun r _ _ _ hr => hr
  | setMissingCount ids count => exact fun k hk => CatalogDb.delisted_rewrite (h k hk) fun r _ _ _ hr => hr
  | deactivateStale ids threshold =>
    intro k hk
    refine CatalogDb.delisted_rewrite (h k hk) fun r _ _ _ hr => ?_
    exact (ModelData.delisted_iff _).mpr ⟨rfl, ((ModelData.delisted_iff _).mp hr).2⟩
  | selectStale providerId cutoff offset => exact h
  | deleteModels ids =>
    intro k hk
    refine CatalogDb.delisted_delete (h k hk) fun r hr hkey => ?_
    have hnot : r.id ∉ ids := fun hid => hcareful r hr hid (hkey ▸ hk)
    simpa using hnot
  | deactivateProvider providerId =>
    intro k hk
    refine CatalogDb.delisted_modify (h k hk) fun r _ _ hr => ?_
    split
    · exact (ModelData.delisted_iff _).mpr ⟨rfl, ((ModelData.delisted_iff _).mp hr).2⟩
    · exact hr
  | markUnservable modelId => exact heldDown_mark order h modelId
  | clearMark modelId => exact heldDown_clear order h modelId
  | wait duration => exact h

/-! ## The jobs -/

def jobContract : Contract Stmt World := ⟨World.HeldDown, fun _ _ => True, fun _ _ _ => True⟩

abbrev Right {α : Type} (p : CatalogM α) (g : MarksSeen) (w : World) : Prop :=
  Prog.wp (carefulJobs order) jobContract (fun _ _ _ => True) (fun _ _ _ => True) p g w

section Programs

variable {order} {α : Type} {p : CatalogM α} {g : MarksSeen} {w : World}

theorem right_of_pins (hp : p.Only (Pins unservable)) (hg : Found unservable g) : Right order p g w := by
  refine wp_mono (fun _ _ _ _ => trivial) (fun _ _ _ _ => trivial)
    (wp_of_only (J := fun g _ => Found unservable g) (fun _ _ _ _ hg => hg) ?_ hp hg)
  intro s hs g o w hw hcareful hg
  have hnote : ∀ r w', noteMarks g s r w w' = g := by
    intro r w'
    cases s with
    | selectRows providerId => exact hs.elim
    | _ => rfl
  refine ⟨?_, trivial, ?_⟩
  · cases o with
    | served => exact heldDown_exec order (o := .served) hs hw hcareful hg
    | dropped e => exact hw
    | lost e => exact heldDown_exec order (o := .lost e) hs hw hcareful hg
  · change Found unservable (noteMarks g s (answer (World.exec order) s o w).1 w (answer (World.exec order) s o w).2)
    rw [hnote]
    exact hg

theorem right_of_quiet (hp : ∀ unservable, p.Only (Pins unservable)) : Right order p g w :=
  right_of_pins (hp (g.loaded.map ModelKey.providerModelId)) fun _ hk _ => List.mem_map_of_mem hk

theorem wp_loadUnservable (providerId : Nat) :
    Prog.wp (carefulJobs order) jobContract (fun unservable g _ => Found unservable g) (fun _ _ _ => True)
      (loadUnservableModelIds providerId) g w := by
  rw [loadUnservableModelIds, wp_bind, wp_attempt]
  refine wp_stmt fun w₁ _ hw o _ => ?_
  have hkeeps : (answer (World.exec order) (.selectRows providerId) o w₁).2.HeldDown := by
    cases o with
    | served => exact hw
    | dropped e => exact hw
    | lost e => exact hw
  refine ⟨hkeeps, trivial, ?_⟩
  change Answered _ _ (answer (World.exec order) (.selectRows providerId) o w₁).1
  cases (answer (World.exec order) (.selectRows providerId) o w₁).1 with
  | ok rows =>
    intro k hk hne
    obtain ⟨r, hr, rfl⟩ := List.mem_map.mp hk
    obtain ⟨hmem, hmarked⟩ := List.mem_filter.mp hr
    rw [Bool.and_eq_true, decide_eq_true_eq] at hmarked
    refine List.mem_map.mpr ⟨r, List.mem_filter.mpr ⟨hmem, ?_⟩, rfl⟩
    simp [hne, hmarked.2]
  | error e => exact fun k hk => absurd hk List.not_mem_nil

end Programs

end Runs

/-! ### What they write -/

theorem mem_foldl_setKey (ms acc : List UpsertRow) {m : UpsertRow} (h : m ∈ ms.foldl setKey acc) : m ∈ acc ∨ m ∈ ms := by
  have hset : ∀ (acc : List UpsertRow) (x : UpsertRow), m ∈ setKey acc x → m ∈ acc ∨ m = x := by
    intro acc x
    induction acc with
    | nil => exact fun h => .inr (List.mem_singleton.mp h)
    | cons y acc ih =>
      rw [setKey]
      split
      · intro h
        rcases List.mem_cons.mp h with rfl | h
        · exact .inr rfl
        · exact .inl (List.mem_cons_of_mem _ h)
      · intro h
        rcases List.mem_cons.mp h with rfl | h
        · exact .inl List.mem_cons_self
        · exact (ih h).imp_left (List.mem_cons_of_mem _)
  induction ms generalizing acc with
  | nil => exact .inl h
  | cons x ms ih =>
    rcases ih _ h with h | h
    · rcases hset acc x h with h | rfl
      · exact .inl h
      · exact .inr List.mem_cons_self
    · exact .inr (List.mem_cons_of_mem _ h)

theorem only_syncPricing {P : Stmt → Prop} (hP : ∀ rows, P (.upsertPricing rows)) (rows : List ModelRow) :
    (syncPricingToModelPricing rows).Only P :=
  only_tryCatch (only_bind (only_forEach_of_mem fun b _ => hP b) fun _ => trivial) fun _ => trivial

theorem only_bulkUpsert_of_rows {P : Stmt → Prop} {T : UpsertRow → Prop} (hP : ∀ rows, P (.upsertPricing rows))
    (hT : ∀ batch, (∀ m ∈ batch, T m) → P (.upsertModels batch)) {models : List ModelInput}
    (h : ∀ m ∈ models, ∀ row, m.toRow = some row → T row) : (bulkUpsertModels models).Only P := by
  have hrows : ∀ row ∈ deduplicated models, T row := by
    intro row hrow
    rcases mem_foldl_setKey _ _ hrow with hnil | hmem
    · exact absurd hnil List.not_mem_nil
    · obtain ⟨m, hm, hto⟩ := List.mem_filterMap.mp hmem
      exact h m hm row hto
  refine only_tryCatch ?_ fun _ => trivial
  split
  · trivial
  · refine only_bind (only_forEach_of_mem fun batch hbatch => hT batch fun m hm => ?_) fun batches => ?_
    · exact hrows m (mem_of_mem_chunks hbatch hm)
    · dsimp only
      split
      · trivial
      · exact only_bind (only_syncPricing hP _) fun _ => trivial

theorem firstText_ne {texts : List (Option String)} {t : String} (h : firstText texts = some t) : t ≠ "" := by
  induction texts with
  | nil => cases h
  | cons x texts ih =>
    cases x with
    | none => exact ih h
    | some s =>
      rw [firstText] at h
      split at h
      · exact ih h
      · next hne =>
        cases h
        exact hne

theorem transformed_pmid {facts : ProviderFacts} {providerActive : Bool} {fetched : List FetchedModel} {m : DbModel}
    (h : m ∈ transformed facts providerActive fetched) : m.providerModelId ≠ "" := by
  obtain ⟨x, -, hx⟩ := List.mem_filterMap.mp h
  rw [transformNormalizedModel, Option.bind_eq_bind, Option.bind_eq_some_iff] at hx
  obtain ⟨pmid, hpmid, hx⟩ := hx
  obtain ⟨_, -, hx⟩ := Option.bind_eq_some_iff.mp hx
  cases hx
  exact firstText_ne hpmid

theorem pinModel_toRow {m : DbModel} {providerId : Nat} {row : UpsertRow} (hne : m.providerModelId ≠ "")
    (h : (DbModel.toInput (pinModel unservable m) providerId).toRow = some row) : row.key.providerModelId ≠ "" ∧
      (row.key.providerModelId ∈ unservable → row.isActive = false ∧ row.metadata.delistReason = some "unservable") := by
  have hpmid : (pinModel unservable m).providerModelId = m.providerModelId := by
    rw [pinModel]
    split <;> rfl
  cases h
  refine ⟨fun h => hne (hpmid.symm.trans h), fun hmem => ?_⟩
  have hpinned : unservable.contains m.providerModelId = true := List.contains_iff_mem.mpr (hpmid ▸ hmem)
  rw [DbModel.toInput, pinModel, if_pos hpinned]
  exact ⟨rfl, rfl⟩

/-! ### A sync -/

section Jobs

variable {order : Nat → List ModelRow → List ModelRow} {g : MarksSeen} {w : World}

theorem pins_of_stalePass {s : Stmt} (h : OfStalePass s) : Pins unservable s := by
  cases s with
  | upsertModels batch => exact h.elim
  | selectRows providerId => exact h.elim
  | _ => trivial

theorem right_syncUntilStale (facts : ProviderFacts) (call : SyncCall) : Right order (syncUntilStale facts call) g w := by
  unfold syncUntilStale
  cases call.provider with
  | none => trivial
  | some providerActive =>
    dsimp only
    split
    · split
      · trivial
      · refine right_of_quiet fun unservable => only_bind (only_bind ?_ fun r => ?_) fun _ => trivial
        · exact only_attempt ((only_stmt _).mpr trivial)
        · cases r <;> trivial
    · cases call.fetched with
      | error e => trivial
      | ok fetched =>
        dsimp only
        split
        · trivial
        · rw [Right, wp_bind]
          -- from here on the job knows what it has found marked
          refine wp_post (fun unservable g w hfound => ?_) (wp_loadUnservable facts.providerId)
          refine right_of_pins (?_ : Prog.Only (Pins unservable) _) hfound
          split
          · trivial
          · split
            · trivial
            · refine only_bind (only_attempt ((only_stmt _).mpr trivial)) fun count => ?_
              refine only_bind ?_ fun synced => trivial
              refine only_bulkUpsert_of_rows (fun _ => trivial) (fun batch hbatch => hbatch) fun m hm row hrow => ?_
              obtain ⟨m', hm', rfl⟩ := List.mem_map.mp hm
              obtain ⟨m₀, hm₀, rfl⟩ := List.mem_map.mp hm'
              exact pinModel_toRow (transformed_pmid hm₀) hrow

theorem right_sync (facts : ProviderFacts) (fuel : Nat) (now : Time) (call : SyncCall) :
    Right order (syncProviderModels facts fuel now call) g w := by
  rw [Right, syncProviderModels, wp_tryCatch, wp_bind]
  refine wp_mono (fun a g w _ => ?_) (fun _ _ _ _ => trivial) (right_syncUntilStale facts call)
  cases a with
  | error result => trivial
  | ok u =>
    -- the stale pass upserts nothing
    have hstale := only_staleTracking facts fuel call.purgeAfterDays now u
    exact wp_mono (fun _ _ _ _ => trivial) (fun _ _ _ _ => trivial)
      (right_of_quiet fun unservable => only_bind (only_mono (fun s => pins_of_stalePass) hstale) fun stale => trivial)

/-! ### A refresh -/

theorem only_readUntilDeadline (unservable : List String) (providerId pages offset : Nat) :
    (readUntilDeadline providerId pages offset).Only (Pins unservable) := by
  induction pages generalizing offset with
  | zero => trivial
  | succ pages ih =>
    refine only_bind ((only_stmt _).mpr trivial) fun batch => ?_
    split
    · trivial
    · exact only_bind (ih _) fun rest => trivial

theorem only_refreshRows (unservable : List String) (facts : ProviderFacts) (dryRun : Bool) (existing : List ModelRow)
    (ms : List FetchedModel) (n : RefreshCounts) : (refreshRows facts dryRun existing n ms).Only (Pins unservable) := by
  induction ms generalizing n with
  | nil => trivial
  | cons m ms ih =>
    refine only_bind ?_ fun n' => ih n'
    unfold refreshRow
    split
    · trivial
    · split
      · trivial
      · dsimp only
        split
        · trivial
        · split
          · trivial
          · refine only_bind (only_tryCatch (only_bind ((only_stmt _).mpr trivial) fun rows => ?_) fun _ => trivial)
              fun _ => trivial
            split
            · trivial
            · exact only_bind (only_syncPricing (fun _ => trivial) _) fun _ => trivial

theorem only_refresh (unservable : List String) (facts : ProviderFacts) (pages : Nat) (call : RefreshCall) :
    (refreshPricesOf facts pages call).Only (Pins unservable) := by
  unfold refreshPricesOf
  split
  · trivial
  · split
    · trivial
    · refine only_bind (only_tryCatch (only_readUntilDeadline _ _ _ _) fun _ => trivial) fun existing => ?_
      exact only_refreshRows unservable facts _ _ _ _

/-! ## All jobs together -/

theorem right_job (job : Job) : Right order job.prog g w := by
  cases job with
  | sync facts fuel now call =>
    rw [Right, Job.prog, wp_bind]
    exact wp_mono (fun _ _ _ _ => trivial) (fun _ _ _ _ => trivial) (right_sync facts fuel now call)
  | refresh facts pages call =>
    exact right_of_quiet fun unservable => only_bind (only_refresh unservable facts pages call) fun _ => trivial
  | stale fuel providerId seen threshold purgeAfterDays now =>
    have hstale := only_processStaleModels fuel providerId seen threshold purgeAfterDays now
    exact right_of_quiet fun unservable => only_bind (only_mono (fun s => pins_of_stalePass) hstale) fun _ => trivial
  | mark modelId => exact right_of_quiet fun unservable => (only_stmt _).mpr trivial
  | clear modelId => exact right_of_quiet fun unservable => (only_stmt _).mpr trivial
  | wait duration => exact right_of_quiet fun unservable => (only_stmt _).mpr trivial

variable {ι : Type} [DecidableEq ι]

def jobsOf (jobs : ι → Job) : Pool ι DbError Stmt Res MarksSeen Unit := Pool.start {} fun i => (jobs i).prog

/-- **A delisting survives** every schedule of any number of jobs whose statements undo no mark: syncs, refreshes and purges
of any providers, with marks set and cleared in between. -/
theorem delisting_survives (order : Nat → List ModelRow → List ModelRow) (jobs : ι → Job) {w : World} (hw : w.HeldDown)
    (ts : Schedule ι DbError) (hts : Pool.Admits (carefulJobs order) ts (jobsOf jobs) w) :
    (Pool.run (carefulJobs order) ts (jobsOf jobs) w).2.HeldDown := by
  have hfit : Pool.Compatible (ι := ι) (fun _ => jobContract) World.HeldDown
      (fun _ (_ : Unit) (_ : MarksSeen) _ => True) (fun _ (_ : DbError) _ _ => True) :=
    { inv := fun _ => rfl
      refl := fun _ _ => trivial
      trans := fun _ _ _ _ _ _ => trivial
      result := fun _ _ _ _ _ _ _ => trivial
      raise := fun _ _ _ _ _ _ _ => trivial
      fits := fun _ _ _ _ _ _ _ _ _ => trivial }
  have hsafe : Pool.Safe (carefulJobs order) (fun _ : ι => jobContract) (fun _ (_ : Unit) (_ : MarksSeen) _ => True)
      (fun _ (_ : DbError) _ _ => True) (jobsOf jobs) w :=
    fun i => right_job (jobs i)
  exact (Pool.pool_run hfit ts hsafe hw hts).1

end Jobs

/-! ## Two runs -/

instance (order : Nat → List ModelRow → List ModelRow) (g : MarksSeen) (s : Stmt) (o : Outcome DbError) (w : World) :
    Decidable ((carefulJobs order).allow g s o w) :=
  inferInstanceAs (Decidable (Careful g s o w))

def aroundMark : Nat → Job
  | 0 => .sync perTokenProvider 2 0 { provider := some true, fetched := .ok [pricedListing] }
  | 1 => .mark 1
  | _ => .sync perTokenProvider 2 0 { provider := some true, fetched := .ok [pricedListing] }

def turnsOf (n i : Nat) : Schedule Nat DbError := List.replicate n (i, .served)

theorem emptyWorld_heldDown : emptyWorld.HeldDown := fun _ h => absurd h List.not_mem_nil

/-- The second sync loads the mark. -/
theorem delisting_survives_sync :
    (Pool.run (carefulJobs asStored) (turnsOf 8 0 ++ turnsOf 1 1 ++ turnsOf 8 2) (jobsOf aroundMark) emptyWorld).2.HeldDown :=
  delisting_survives asStored aroundMark emptyWorld_heldDown (turnsOf 8 0 ++ turnsOf 1 1 ++ turnsOf 8 2) (by decide +kernel)

/-- **A delisted model comes back.** The read that loads the marks fails, the sync fails open and goes by price alone, and so it
upserts the model as active. -/
theorem delisted_model_back :
    emptyWorld.HeldDown ∧
      ¬ (Pool.run (anyJobs asStored) (turnsOf 8 0 ++ turnsOf 1 1 ++ [(2, .dropped .failed)] ++ turnsOf 7 2)
        (jobsOf aroundMark) emptyWorld).2.HeldDown :=
  ⟨emptyWorld_heldDown, by decide +kernel⟩

end Gatewayz.Catalog
