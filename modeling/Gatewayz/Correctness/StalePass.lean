import Gatewayz.Catalog.ProviderSync

/-!
# `Correctness.StalePass` — what a stale pass makes of every row

A pass none of whose statements fails, and whose read found every active row, is a function on rows: `reclassify` on the
active rows of its provider, nothing on the others, and then the rows that have become stale are gone. `pass_rows` proves
this of `process_stale_models`; the histories build on it alone.
-/

namespace Gatewayz.Catalog

open Exec Prices

/-! ## Rewrites by id -/

def applyAll (rewrites : List (List Nat × (ModelData → ModelData))) (id : Nat) (d : ModelData) : ModelData :=
  rewrites.foldl (fun d x => if id ∈ x.1 then x.2 d else d) d

theorem models_rewrites (rewrites : List (List Nat × (ModelData → ModelData))) (db : CatalogDb) :
    (rewrites.foldl (fun db x => db.rewrite x.1 x.2) db).models =
      db.models.map fun r => { r with data := applyAll rewrites r.id r.data } := by
  induction rewrites generalizing db with
  | nil => exact (List.map_id _).symm
  | cons x rewrites ih =>
    rw [List.foldl_cons, ih]
    exact List.map_map ..

theorem applyAll_eq {f : ModelData → ModelData} (hf : ∀ d, f (f d) = f d) {id : Nat}
    {rewrites : List (List Nat × (ModelData → ModelData))} (h : ∀ x ∈ rewrites, id ∈ x.1 → x.2 = f) (d : ModelData) :
    applyAll rewrites id d = if ∃ x ∈ rewrites, id ∈ x.1 then f d else d := by
  induction rewrites generalizing d with
  | nil => simp [applyAll]
  | cons x rewrites ih =>
    have hrest := ih fun x hx => h x (List.mem_cons_of_mem _ hx)
    have hcons : applyAll (x :: rewrites) id d = applyAll rewrites id (if id ∈ x.1 then x.2 d else d) := rfl
    rw [hcons, hrest]
    by_cases hx : id ∈ x.1
    · have hany : ∃ x' ∈ x :: rewrites, id ∈ x'.1 := ⟨x, List.mem_cons_self, hx⟩
      rw [if_pos hx, if_pos hany, h x List.mem_cons_self hx]
      split
      · exact hf d
      · rfl
    · rw [if_neg hx]
      refine if_congr ?_ rfl rfl
      simp [hx]

/-! ## Groups -/

theorem mem_addToGroup {groups : List (Nat × List Nat)} {x : Nat × Nat} {count id : Nat} :
    (∃ g ∈ addToGroup groups x, g.1 = count ∧ id ∈ g.2) ↔
      (∃ g ∈ groups, g.1 = count ∧ id ∈ g.2) ∨ x = (id, count) := by
  obtain ⟨id', count'⟩ := x
  induction groups with
  | nil =>
    simp only [addToGroup, List.mem_singleton, exists_eq_left, List.not_mem_nil, false_and, exists_const, false_or,
      Prod.mk.injEq]
    constructor
    · rintro ⟨rfl, rfl⟩
      exact ⟨rfl, rfl⟩
    · rintro ⟨rfl, rfl⟩
      exact ⟨rfl, rfl⟩
  | cons g groups ih =>
    obtain ⟨count'', ids⟩ := g
    rw [addToGroup]
    split
    · next heq =>
      subst heq
      simp only [List.mem_cons, exists_eq_or_imp, List.mem_append, List.not_mem_nil, or_false, Prod.mk.injEq]
      constructor
      · rintro (⟨hcount, hid | hid⟩ | h)
        · exact .inl (.inl ⟨hcount, hid⟩)
        · exact .inr ⟨hid.symm, hcount⟩
        · exact .inl (.inr h)
      · rintro ((⟨hcount, hid⟩ | h) | ⟨hid, hcount⟩)
        · exact .inl ⟨hcount, .inl hid⟩
        · exact .inr h
        · exact .inl ⟨hcount, .inr hid.symm⟩
    · simp only [List.mem_cons, exists_eq_or_imp, ih, or_assoc]

theorem mem_groups {pairs : List (Nat × Nat)} {count id : Nat} :
    (∃ g ∈ pairs.foldl addToGroup [], g.1 = count ∧ id ∈ g.2) ↔ (id, count) ∈ pairs := by
  have hloop : ∀ (pairs : List (Nat × Nat)) (groups : List (Nat × List Nat)),
      (∃ g ∈ pairs.foldl addToGroup groups, g.1 = count ∧ id ∈ g.2) ↔
        (∃ g ∈ groups, g.1 = count ∧ id ∈ g.2) ∨ (id, count) ∈ pairs := by
    intro pairs
    induction pairs with
    | nil => simp
    | cons x pairs ih =>
      intro groups
      rw [List.foldl_cons, ih, mem_addToGroup, or_assoc, List.mem_cons, eq_comm (a := x)]
  simpa using hloop pairs []

theorem mem_incrementChunks {pairs : List (Nat × Nat)} {count id : Nat} :
    (∃ x ∈ incrementChunks pairs, x.2 = count ∧ id ∈ x.1) ↔ (id, count) ∈ pairs := by
  rw [← mem_groups, incrementChunks]
  simp only [List.mem_flatMap, List.mem_map]
  constructor
  · rintro ⟨x, ⟨g, hg, ids, hids, rfl⟩, hcount, hid⟩
    refine ⟨g, hg, hcount, ?_⟩
    rw [← flatten_chunks chunkSize_pos g.2]
    exact List.mem_flatten.mpr ⟨ids, hids, hid⟩
  · rintro ⟨g, hg, hcount, hid⟩
    rw [← flatten_chunks chunkSize_pos g.2] at hid
    obtain ⟨ids, hids, hid⟩ := List.mem_flatten.mp hid
    exact ⟨(ids, g.1), ⟨g, hg, ids, hids, rfl⟩, hcount, hid⟩

/-! ## What a pass makes of a row -/

def reclassify (seen : List String) (threshold : Nat) (now : Time) (r : ModelRow) : ModelData :=
  if r.key.providerModelId ∈ seen then { r.data with lastSeenInProviderAt := some now, consecutiveMissingCount := 0 }
  else if r.data.consecutiveMissingCount + 1 < threshold then
    { r.data with consecutiveMissingCount := r.data.consecutiveMissingCount + 1 }
  else { r.data with isActive := false, consecutiveMissingCount := threshold }

section Rewrites

variable (db : CatalogDb) (seen : List String) (threshold : Nat) (now : Time) (rows : List ModelRow)

/-- The statements of a pass that rewrite rows. -/
def passRewrites : List (List Nat × (ModelData → ModelData)) :=
  ((chunks chunkSize (idsToReset seen rows)).map fun ids =>
      (ids, fun d => { d with lastSeenInProviderAt := some now, consecutiveMissingCount := 0 })) ++
    ((incrementChunks (idsToIncrement seen threshold rows)).map fun x =>
      (x.1, fun d => { d with consecutiveMissingCount := x.2 })) ++
    (chunks chunkSize (idsToDeactivate seen threshold rows)).map fun ids =>
      (ids, fun d => { d with isActive := false, consecutiveMissingCount := threshold })

variable {db rows} (hrows : ∀ r ∈ rows, r ∈ db.models) {r : ModelRow} (hr : r ∈ db.models)

include hrows hr

theorem id_mem_reset : r.id ∈ idsToReset seen rows ↔ r ∈ rows ∧ r.key.providerModelId ∈ seen := by
  simp only [idsToReset, List.mem_map, List.mem_filter, List.contains_iff_mem]
  constructor
  · rintro ⟨r', ⟨hr', hseen⟩, hid⟩
    obtain rfl := db.eq_of_id (hrows r' hr') hr hid
    exact ⟨hr', hseen⟩
  · rintro ⟨hmem, hseen⟩
    exact ⟨r, ⟨hmem, hseen⟩, rfl⟩

theorem id_mem_missed (count : Nat) : (r.id, count) ∈ missed seen rows ↔
    (r ∈ rows ∧ r.key.providerModelId ∉ seen) ∧ r.data.consecutiveMissingCount + 1 = count := by
  simp only [missed, List.mem_map, List.mem_filter, Bool.not_eq_true', Prod.mk.injEq]
  constructor
  · rintro ⟨r', ⟨hr', hunseen⟩, hid, hcount⟩
    obtain rfl := db.eq_of_id (hrows r' hr') hr hid
    refine ⟨⟨hr', fun hseen => ?_⟩, hcount⟩
    rw [List.contains_iff_mem.mpr hseen] at hunseen
    cases hunseen
  · rintro ⟨⟨hmem, hunseen⟩, hcount⟩
    refine ⟨r, ⟨hmem, ?_⟩, rfl, hcount⟩
    exact Bool.eq_false_iff.mpr fun h => hunseen (List.contains_iff_mem.mp h)

theorem id_mem_increment (count : Nat) : (r.id, count) ∈ idsToIncrement seen threshold rows ↔
    (r ∈ rows ∧ r.key.providerModelId ∉ seen) ∧ r.data.consecutiveMissingCount + 1 = count ∧ count < threshold := by
  rw [idsToIncrement, List.mem_filter, id_mem_missed seen hrows hr, decide_eq_true_eq, and_assoc]

theorem id_mem_deactivate : r.id ∈ idsToDeactivate seen threshold rows ↔
    (r ∈ rows ∧ r.key.providerModelId ∉ seen) ∧ threshold ≤ r.data.consecutiveMissingCount + 1 := by
  simp only [idsToDeactivate, List.mem_map, List.mem_filter, decide_eq_true_eq, Prod.exists, exists_and_right,
    exists_eq_right]
  constructor
  · rintro ⟨count, hmem, hle⟩
    obtain ⟨h, rfl⟩ := (id_mem_missed seen hrows hr count).mp hmem
    exact ⟨h, hle⟩
  · rintro ⟨h, hle⟩
    exact ⟨_, (id_mem_missed seen hrows hr _).mpr ⟨h, rfl⟩, hle⟩

theorem applyAll_pass : applyAll (passRewrites seen threshold now rows) r.id r.data =
      if r ∈ rows then reclassify seen threshold now r else r.data := by
  have happend : ∀ (a b : List (List Nat × (ModelData → ModelData))) (d : ModelData),
      applyAll (a ++ b) r.id d = applyAll b r.id (applyAll a r.id d) := fun a b d => List.foldl_append
  have hreset : ∀ d, applyAll ((chunks chunkSize (idsToReset seen rows)).map fun ids =>
        (ids, fun d => { d with lastSeenInProviderAt := some now, consecutiveMissingCount := 0 })) r.id d =
      if r ∈ rows ∧ r.key.providerModelId ∈ seen then
        { d with lastSeenInProviderAt := some now, consecutiveMissingCount := 0 } else d := by
    intro d
    rw [applyAll_eq (f := fun d => { d with lastSeenInProviderAt := some now, consecutiveMissingCount := 0 })
      (fun d => rfl)]
    · refine if_congr ?_ rfl rfl
      rw [← id_mem_reset seen hrows hr]
      conv_rhs => rw [← flatten_chunks chunkSize_pos (idsToReset seen rows), List.mem_flatten]
      simp
    · intro x hx _
      obtain ⟨ids, -, rfl⟩ := List.mem_map.mp hx
      rfl
  have hincrement : ∀ d, applyAll ((incrementChunks (idsToIncrement seen threshold rows)).map fun x =>
        (x.1, fun d => { d with consecutiveMissingCount := x.2 })) r.id d =
      if (r ∈ rows ∧ r.key.providerModelId ∉ seen) ∧ r.data.consecutiveMissingCount + 1 < threshold then
        { d with consecutiveMissingCount := r.data.consecutiveMissingCount + 1 } else d := by
    intro d
    rw [applyAll_eq (f := fun d => { d with consecutiveMissingCount := r.data.consecutiveMissingCount + 1 })
      (fun d => rfl)]
    · refine if_congr ?_ rfl rfl
      constructor
      · rintro ⟨x, hx, hid⟩
        obtain ⟨y, hy, rfl⟩ := List.mem_map.mp hx
        obtain ⟨h, hcount, hlt⟩ := (id_mem_increment seen threshold hrows hr y.2).mp
          (mem_incrementChunks.mp ⟨y, hy, rfl, hid⟩)
        rw [hcount]
        exact ⟨h, hlt⟩
      · rintro ⟨h, hlt⟩
        obtain ⟨y, hy, -, hid⟩ := mem_incrementChunks.mpr ((id_mem_increment seen threshold hrows hr _).mpr ⟨h, rfl, hlt⟩)
        exact ⟨_, List.mem_map_of_mem hy, hid⟩
    · intro x hx hid
      obtain ⟨y, hy, rfl⟩ := List.mem_map.mp hx
      obtain ⟨-, hcount, -⟩ := (id_mem_increment seen threshold hrows hr y.2).mp
        (mem_incrementChunks.mp ⟨y, hy, rfl, hid⟩)
      dsimp only
      rw [hcount]
  have hdeactivate : ∀ d, applyAll ((chunks chunkSize (idsToDeactivate seen threshold rows)).map fun ids =>
        (ids, fun d => { d with isActive := false, consecutiveMissingCount := threshold })) r.id d =
      if (r ∈ rows ∧ r.key.providerModelId ∉ seen) ∧ threshold ≤ r.data.consecutiveMissingCount + 1 then
        { d with isActive := false, consecutiveMissingCount := threshold } else d := by
    intro d
    rw [applyAll_eq (f := fun d => { d with isActive := false, consecutiveMissingCount := threshold }) (fun d => rfl)]
    · refine if_congr ?_ rfl rfl
      rw [← id_mem_deactivate seen threshold hrows hr]
      conv_rhs => rw [← flatten_chunks chunkSize_pos (idsToDeactivate seen threshold rows), List.mem_flatten]
      simp
    · intro x hx _
      obtain ⟨ids, -, rfl⟩ := List.mem_map.mp hx
      rfl
  rw [passRewrites, happend, happend, hreset, hincrement, hdeactivate, reclassify]
  by_cases hmem : r ∈ rows
  · by_cases hseen : r.key.providerModelId ∈ seen
    · simp [hmem, hseen]
    · by_cases hlt : r.data.consecutiveMissingCount + 1 < threshold
      · simp [hmem, hseen, hlt]
      · simp [hmem, hseen, hlt, not_lt.mp hlt]
  · simp [hmem]

end Rewrites

/-! ## The run of a pass -/

/-- The pages of one read are cut from one arrangement of the rows: there is a single page, or the order stays. -/
def OneRead (order : Nat → List ModelRow → List ModelRow) (rows : List ModelRow) : Prop :=
  rows.length < pageSize ∨ ∀ t t', order t rows = order t' rows

def Purgeable (providerId : Nat) (purgeAfterDays : Option Int) (now : Time) (r : ModelRow) : Prop :=
  ∃ days, purgeAfterDays = some days ∧ 0 < days ∧ r.key.providerId = providerId ∧
    r.data.staleBefore (now - days.toNat * day) = true

section Run

variable {order : Nat → List ModelRow → List ModelRow} (horder : ∀ t rows, (order t rows).Perm rows)

theorem complete_nil {β : Type} (bs : List β) : Complete (fun _ => true) bs ([] : List (Outcome DbError)) := by
  induction bs with
  | nil => trivial
  | cons b bs ih => exact ⟨rfl, rfl, ih⟩

variable (order) in
theorem run_rewrites {β A : Type} (s : β → Stmt) (collect : (b : β) → Res (s b) → A) (ans : (b : β) → World → Res (s b))
    (x : β → List Nat × (ModelData → ModelData))
    (hexec : ∀ b w, World.exec order (s b) w = (.ok (ans b w), w.write (w.db.rewrite (x b).1 (x b).2))) (bs : List β)
    (w : World) : ∃ as w', (forEach s collect bs).run (World.exec order) [] w = (.ok as, [], w') ∧
      w'.db = (bs.map x).foldl (fun db x => db.rewrite x.1 x.2) w.db := by
  have hserved : ∀ b w, World.exec order (s b) w =
      if (fun _ => true) b then (.ok (ans b w), w.write (w.db.rewrite (x b).1 (x b).2)) else (.error .failed, w) :=
    fun b w => (hexec b w).trans (if_pos rfl).symm
  have hrun := run_forEach_complete (World.exec order) s collect hserved (complete_nil bs) w
  rw [List.drop_nil] at hrun
  refine ⟨_, _, hrun, ?_⟩
  rw [World.foldl_writes (fun b _ db => db.rewrite (x b).1 (x b).2), List.foldl_map]

theorem mem_deletes {bs : List (List Nat)} {db : CatalogDb} {r : ModelRow} :
    r ∈ (bs.foldl (fun db ids => db.delete fun r => !ids.contains r.id) db).models ↔
      r ∈ db.models ∧ ∀ ids ∈ bs, r.id ∉ ids := by
  induction bs generalizing db with
  | nil => simp
  | cons ids bs ih =>
    rw [List.foldl_cons, ih, CatalogDb.mem_delete, List.forall_mem_cons, and_assoc]
    simp

include horder

theorem run_readRows {fuel : Nat} (query : Nat → CatalogM (List ModelRow)) (rows : CatalogDb → List ModelRow)
    (hquery : ∀ offset w, (query offset).run (World.exec order) [] w =
      (.ok (page order w.tick offset (rows w.db)), [], w.read))
    (w : World) (hfuel : (rows w.db).length < fuel) :
    ∃ read w', w'.db = w.db ∧
      (readPages query pageSize .failed fuel 0).run (World.exec order) [] w = (.ok read, [], w') ∧
      (∀ r ∈ read, r ∈ rows w.db) ∧ (OneRead order (rows w.db) → ∀ r ∈ rows w.db, r ∈ read) := by
  have hpages := run_readPages (fun w => order w.tick (rows w.db)) (fun w' => w'.db = w.db) DbError.failed
    (fun offset w' hw' => ⟨w'.read, hw', hquery offset w'⟩) (fun w' hw' => by rw [hw']; exact (horder _ _).length_eq)
    fuel 0 (Nat.zero_le _) (by have := Nat.le_mul_of_pos_right fuel (show 0 < pageSize by decide); omega) w rfl
  obtain ⟨read, w', hw', hrun, hmem, hall⟩ := hpages
  refine ⟨read, w', hw', hrun, fun r hr => ?_, fun hone r hr => ?_⟩
  · obtain ⟨w'', hw'', hr⟩ := hmem r hr
    rw [hw''] at hr
    exact (horder _ _).mem_iff.mp hr
  · have hread : read = (order w.tick (rows w.db)).drop 0 := by
      refine hall ?_
      rcases hone with hfew | hsame
      · exact .inr (by rw [Nat.zero_add]; exact hfew)
      · refine .inl fun w₁ w₂ h₁ h₂ => ?_
        rw [h₁, h₂]
        exact hsame _ _
    rw [hread, List.drop_zero]
    exact (horder _ _).mem_iff.mpr hr

theorem run_purge {fuel : Nat} (providerId : Nat) (purgeAfterDays : Option Int) (now : Time) (w : World)
    (hfuel : w.db.models.length < fuel) :
    ∃ purged w', (purgeStaleDeactivated fuel providerId purgeAfterDays now).run (World.exec order) [] w =
        (.ok purged, [], w') ∧ (∀ r ∈ w'.db.models, r ∈ w.db.models) ∧
      ∀ r ∈ w.db.models, r ∈ w'.db.models ∨ Purgeable providerId purgeAfterDays now r := by
  cases purgeAfterDays with
  | none => exact ⟨0, w, rfl, fun r hr => hr, fun r hr => .inl hr⟩
  | some days =>
    rw [purgeStaleDeactivated]
    by_cases hneg : days ≤ 0
    · rw [if_pos hneg]
      exact ⟨0, w, rfl, fun r hr => hr, fun r hr => .inl hr⟩
    rw [if_neg hneg, readStale, run_bind_nil]
    have hlength : (w.db.select providerId (ModelData.staleBefore (now - days.toNat * day))).length < fuel :=
      lt_of_le_of_lt (List.length_filter_le _ _) hfuel
    obtain ⟨stale, w₁, hdb, hrun, hmem, -⟩ := run_readRows horder
      (fun offset => ask (.selectStale providerId (now - days.toNat * day) offset))
      (fun db => db.select providerId (ModelData.staleBefore (now - days.toNat * day)))
      (fun offset w => rfl) w hlength
    rw [hrun]
    dsimp only
    by_cases hnone : stale = []
    · rw [if_pos hnone]
      refine ⟨0, w₁, rfl, fun r hr => ?_, fun r hr => .inl ?_⟩
      · rwa [hdb] at hr
      · rwa [hdb]
    rw [if_neg hnone, run_bind_nil]
    have hserved : ∀ ids w, World.exec order (.deleteModels ids) w =
        if (fun _ => true) ids then (.ok (), w.write (w.db.delete fun r => !ids.contains r.id)) else (.error .failed, w) :=
      fun ids w => (if_pos rfl).symm
    rw [run_forEach_complete (World.exec order) Stmt.deleteModels (fun _ a => a) hserved (complete_nil _) w₁]
    have hleft : ∀ r, r ∈ ((chunks chunkSize (stale.map ModelRow.id)).foldl
        (fun w ids => w.write (w.db.delete fun r => !ids.contains r.id)) w₁).db.models ↔
        r ∈ w.db.models ∧ ∀ ids ∈ chunks chunkSize (stale.map ModelRow.id), r.id ∉ ids := by
      intro r
      rw [World.foldl_writes (fun (ids : List Nat) _ db => db.delete fun r => !ids.contains r.id), mem_deletes, hdb]
    refine ⟨stale.length, _, rfl, fun r hr => ((hleft r).mp hr).1, fun r hr => ?_⟩
    by_cases hid : r.id ∈ stale.map ModelRow.id
    · -- its row was read, and read as stale
      obtain ⟨r', hr', heq⟩ := List.mem_map.mp hid
      have hstale := List.mem_filter.mp (hmem r' hr')
      obtain rfl := w.db.eq_of_id hstale.1 hr heq
      rw [Bool.and_eq_true, decide_eq_true_eq] at hstale
      exact .inr ⟨days, rfl, not_le.mp hneg, hstale.2.1, hstale.2.2⟩
    · refine .inl ((hleft r).mpr ⟨hr, fun ids hids hmem => hid ?_⟩)
      rw [← flatten_chunks chunkSize_pos (stale.map ModelRow.id)]
      exact List.mem_flatten.mpr ⟨ids, hids, hmem⟩

def passed (providerId : Nat) (seen : List String) (threshold : Nat) (now : Time) (r : ModelRow) : ModelData :=
  if r.key.providerId = providerId ∧ r.data.isActive = true then reclassify seen threshold now r else r.data

/-- A served pass, row by row: every row it leaves is one it found, with the data of `passed`, and every row it found is
left with these data, or may be purged with them. -/
theorem pass_rows {fuel : Nat} (providerId : Nat) (seen : List String) (threshold : Nat) (purgeAfterDays : Option Int)
    (now : Time) (w : World) (hfuel : w.db.models.length < fuel)
    (hread : OneRead order (w.db.select providerId ModelData.isActive)) :
    ∃ result w', (processStaleModels fuel providerId seen threshold purgeAfterDays now).run (World.exec order) [] w =
        (.ok result, [], w') ∧
      (∀ r' ∈ w'.db.models, ∃ r ∈ w.db.models, r' = { r with data := passed providerId seen threshold now r }) ∧
      ∀ r ∈ w.db.models, { r with data := passed providerId seen threshold now r } ∈ w'.db.models ∨
        Purgeable providerId purgeAfterDays now { r with data := passed providerId seen threshold now r } := by
  have hlength : (w.db.select providerId ModelData.isActive).length < fuel :=
    lt_of_le_of_lt (List.length_filter_le _ _) hfuel
  obtain ⟨rows, w₁, hdb₁, hrun, hmem, hall⟩ := run_readRows horder
    (fun offset => ask (.selectActive providerId offset)) (fun db => db.select providerId ModelData.isActive)
    (fun offset w => rfl) w hlength
  have hrows : ∀ r, r ∈ rows ↔ r ∈ w.db.models ∧ r.key.providerId = providerId ∧ r.data.isActive = true := by
    intro r
    have hselect : r ∈ w.db.select providerId ModelData.isActive ↔
        r ∈ w.db.models ∧ r.key.providerId = providerId ∧ r.data.isActive = true := by
      rw [CatalogDb.select, List.mem_filter, Bool.and_eq_true, decide_eq_true_eq]
    rw [← hselect]
    exact ⟨hmem r, hall hread r⟩
  rw [processStaleModels, run_bind_nil, readActive, hrun]
  dsimp only
  by_cases hnone : rows = []
  · -- no active rows, nothing to count
    rw [if_pos hnone, run_bind_nil]
    obtain ⟨purged, w₂, hpurge, hleft, hgone⟩ := run_purge horder providerId purgeAfterDays now w₁ (by rw [hdb₁]; exact hfuel)
    rw [hpurge]
    have hsame : ∀ r ∈ w.db.models, { r with data := passed providerId seen threshold now r } = r := by
      intro r hr
      have hnot : ¬(r.key.providerId = providerId ∧ r.data.isActive = true) := by
        intro h
        have hin := (hrows r).mpr ⟨hr, h⟩
        rw [hnone] at hin
        cases hin
      rw [passed, if_neg hnot]
    refine ⟨_, w₂, rfl, fun r hr => ?_, fun r hr => ?_⟩
    · have hr := hleft r hr
      rw [hdb₁] at hr
      exact ⟨r, hr, (hsame r hr).symm⟩
    · rw [hsame r hr]
      rw [hdb₁] at hgone
      exact hgone r hr
  rw [if_neg hnone, run_bind_nil]
  obtain ⟨_, w₂, hreset, hdb₂⟩ := run_rewrites order (fun ids => Stmt.resetSeen ids now) (fun _ a => a)
    (fun _ _ => ()) (fun ids => (ids, fun d => { d with lastSeenInProviderAt := some now, consecutiveMissingCount := 0 }))
    (fun _ _ => rfl) (chunks chunkSize (idsToReset seen rows)) w₁
  rw [hreset]
  dsimp only
  rw [run_bind_nil]
  obtain ⟨_, w₃, hincrement, hdb₃⟩ := run_rewrites order (fun x => Stmt.setMissingCount x.1 x.2) (fun _ a => a)
    (fun _ _ => ()) (fun x => (x.1, fun d => { d with consecutiveMissingCount := x.2 }))
    (fun _ _ => rfl) (incrementChunks (idsToIncrement seen threshold rows)) w₂
  rw [hincrement]
  dsimp only
  rw [run_bind_nil]
  obtain ⟨_, w₄, hdeactivate, hdb₄⟩ := run_rewrites order (fun ids => Stmt.deactivateStale ids threshold)
    (fun _ a => a) (fun _ _ => ())
    (fun ids => (ids, fun d => { d with isActive := false, consecutiveMissingCount := threshold }))
    (fun _ _ => rfl) (chunks chunkSize (idsToDeactivate seen threshold rows)) w₃
  rw [hdeactivate]
  dsimp only
  have hmodels : w₄.db.models = w.db.models.map fun r => { r with data := passed providerId seen threshold now r } := by
    have hall : w₄.db = (passRewrites seen threshold now rows).foldl (fun db x => db.rewrite x.1 x.2) w.db := by
      rw [passRewrites, List.foldl_append, List.foldl_append, ← hdb₁, ← hdb₂, ← hdb₃, ← hdb₄]
    rw [hall, models_rewrites]
    refine List.map_congr_left fun r hr => ?_
    have hiff : r ∈ rows ↔ r.key.providerId = providerId ∧ r.data.isActive = true := by rw [hrows, and_iff_right hr]
    rw [applyAll_pass seen threshold now (fun r hr => ((hrows r).mp hr).1) hr, passed]
    simp only [hiff]
  have hfuel₄ : w₄.db.models.length < fuel := by
    rw [hmodels, List.length_map]
    exact hfuel
  obtain ⟨purged, w₅, hpurge, hleft, hgone⟩ := run_purge horder providerId purgeAfterDays now w₄ hfuel₄
  rw [run_bind_nil, hpurge]
  refine ⟨_, w₅, rfl, fun r' hr' => ?_, fun r hr => ?_⟩
  · have hr' := hleft r' hr'
    rw [hmodels] at hr'
    obtain ⟨r, hr, heq⟩ := List.mem_map.mp hr'
    exact ⟨r, hr, heq.symm⟩
  · refine hgone _ ?_
    rw [hmodels]
    exact List.mem_map_of_mem hr

end Run

end Gatewayz.Catalog
