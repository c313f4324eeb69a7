import Gatewayz.Catalog.PriceCopies
import Mathlib.Tactic.Positivity

/-!
# `Correctness.PriceCopiesAgree` — when billing reads the price that was stored last

What billing can see of a model is its `shelf`: the `pricing_raw` of its row and the prices that `model_pricing` holds of
it.

A copy differs from its source where a price is unknown, too large for the guard or too fine for the column; a model that
was stored and not copied is billed at the copy it had.
-/

namespace Gatewayz.Catalog

open Exec Prices

/-! ## One price -/

/-- A price that the copy keeps: a price per token that the guard lets pass and that its column holds exactly. A negative
price is none in both places. -/
def Kept (q : ℚ) : Prop := q < 0 ∨ q ≤ 1 / 1000 ∧ toColumn 15 q = q

variable {q : ℚ}

variable (scale : Nat)

theorem toColumn_nonneg (hq : 0 ≤ q) : 0 ≤ toColumn scale q := by
  rw [toColumn, if_neg (not_lt.mpr hq)]
  have hfloor : (0 : ℤ) ≤ (q * 10 ^ scale + 1 / 2).floor := by
    rw [Rat.le_floor_iff]
    push_cast
    positivity
  have hcast : (0 : ℚ) ≤ ((q * 10 ^ scale + 1 / 2).floor : ℚ) := by exact_mod_cast hfloor
  positivity

theorem toColumn_nonpos (hq : q < 0) : toColumn scale q ≤ 0 := by
  rw [toColumn, if_pos hq]
  have hfloor : (0 : ℤ) ≤ ((-q) * 10 ^ scale + 1 / 2).floor := by
    rw [Rat.le_floor_iff]
    have hneg : 0 ≤ -q := by linarith
    push_cast
    positivity
  have hcast : (0 : ℚ) ≤ (((-q) * 10 ^ scale + 1 / 2).floor : ℚ) := by exact_mod_cast hfloor
  have hdiv : 0 ≤ (((-q) * 10 ^ scale + 1 / 2).floor : ℚ) / 10 ^ scale := by positivity
  linarith

theorem toColumn_le (hq : 0 ≤ q) : toColumn scale q ≤ q + 1 / 2 / 10 ^ scale := by
  rw [toColumn, if_neg (not_lt.mpr hq)]
  have hfloor : ((q * 10 ^ scale + 1 / 2).floor : ℚ) ≤ q * 10 ^ scale + 1 / 2 := Rat.floor_le _
  have hpos : (0 : ℚ) < 10 ^ scale := by positivity
  rw [div_le_iff₀ hpos, add_mul, div_mul_cancel₀ _ hpos.ne']
  exact hfloor

theorem guardPrice_small (hq : q ≤ 1 / 1000) : guardPrice q = q := if_neg (not_lt.mpr hq)

theorem guardPrice_large (hq : 1 / 1000 < q) : guardPrice q = q / 1000000 := by
  have hformat : autoDetectFormat q = .per1mTokens := by
    rw [autoDetectFormat, if_neg (by linarith), if_neg (by linarith)]
  rw [guardPrice, if_pos hq, hformat, normalizeToPerToken_pos (by linarith)]
  rfl

theorem guarded_iff (q : ℚ) : validatePricingValue (toColumn 15 (guardPrice q)) = validatePricingValue q ↔ Kept q := by
  by_cases hneg : q < 0
  · refine iff_of_true ?_ (.inl hneg)
    have hcopy := toColumn_nonpos 15 hneg
    rw [guardPrice_small (by linarith), validatePricingValue, validatePricingValue, if_pos hneg]
    split
    · rfl
    · linarith
  have hq : 0 ≤ q := not_lt.mp hneg
  rw [validatePricingValue.eq_def q, if_neg hneg, Kept, or_iff_right hneg]
  by_cases hsmall : q ≤ 1 / 1000
  · rw [guardPrice_small hsmall, validatePricingValue, if_neg (not_lt.mpr (toColumn_nonneg 15 hq)), and_iff_right hsmall]
  · -- a converted price is a millionth of what it was
    refine iff_of_false ?_ fun h => hsmall h.1
    have hlarge : 1 / 1000 < q := not_le.mp hsmall
    have hmillionth : 0 ≤ q / 1000000 := by positivity
    have hcopy := toColumn_le 15 hmillionth
    rw [guardPrice_large hlarge, validatePricingValue, if_neg (not_lt.mpr (toColumn_nonneg 15 hmillionth))]
    intro heq
    rw [heq] at hcopy
    norm_num at hcopy
    linarith

/-! ## Both prices of a model -/

/-- The two prices that `model_pricing` gets of a `pricing_raw`. -/
def copyOf (pricingRaw : Option PriceTable) : ℚ × ℚ :=
  let raw := pricingRaw.getD {}
  (toColumn 15 (guardPrice (raw.prompt.getD 0)), toColumn 15 (guardPrice (raw.completion.getD 0)))

def isPriced (pricingRaw : Option PriceTable) : Bool :=
  match pricingRaw with
  | none => false
  | some raw => raw.prompt.isSome || raw.completion.isSome

/-- Billing's two prices, given those of `model_pricing`. -/
def billedOf (held : Option (ℚ × ℚ)) (pricingRaw : Option PriceTable) : Option (ℚ × ℚ) :=
  match held with
  | some (input, output) => some (validatePricingValue input, validatePricingValue output)
  | none => rawPrices pricingRaw

def PricingRow.prices (row : PricingRow) : ℚ × ℚ := (row.pricePerInputToken, row.pricePerOutputToken)

theorem billedPrices_eq (pricing : Option PricingRow) (pricingRaw : Option PriceTable) :
    billedPrices pricing pricingRaw = billedOf (pricing.map PricingRow.prices) pricingRaw := by
  cases pricing <;> rfl

/-- A `pricing_raw` whose copy is as good: both prices are known and kept. -/
def CopyKept (pricingRaw : Option PriceTable) : Prop :=
  ∃ raw prompt completion, pricingRaw = some raw ∧ raw.prompt = some prompt ∧ raw.completion = some completion ∧
    Kept prompt ∧ Kept completion

theorem copyKept_iff (pricingRaw : Option PriceTable) :
    billedOf (some (copyOf pricingRaw)) pricingRaw = rawPrices pricingRaw ↔ CopyKept pricingRaw := by
  cases pricingRaw with
  | none => simp [billedOf, rawPrices, CopyKept]
  | some raw =>
    obtain ⟨prompt, completion, image, request⟩ := raw
    cases prompt with
    | none => simp [billedOf, rawPrices, CopyKept]
    | some prompt =>
      cases completion with
      | none => simp [billedOf, rawPrices, CopyKept]
      | some completion =>
        have hboth : billedOf (some (copyOf (some ⟨some prompt, some completion, image, request⟩)))
              (some ⟨some prompt, some completion, image, request⟩) =
            rawPrices (some ⟨some prompt, some completion, image, request⟩) ↔ Kept prompt ∧ Kept completion := by
          rw [← guarded_iff, ← guarded_iff]
          simp [billedOf, rawPrices, copyOf]
        rw [hboth]
        constructor
        · exact fun h => ⟨_, prompt, completion, rfl, rfl, rfl, h⟩
        · rintro ⟨raw, p, c, hraw, hp, hc, h⟩
          cases hraw
          cases hp
          cases hc
          exact h

/-! ## Shelves -/

/-- What billing can see of a model: its `pricing_raw`, and the prices that `model_pricing` holds. -/
abbrev Shelf := ModelKey → Option (Option PriceTable × Option (ℚ × ℚ))

namespace CatalogDb

variable (db : CatalogDb)

def shelf : Shelf := fun key =>
  (db.find key).map fun r => (r.data.metadata.pricingRaw, (db.pricingOf r.id).map PricingRow.prices)

def Agrees : Prop :=
  ∀ r ∈ db.models, billedPrices (db.pricingOf r.id) r.data.metadata.pricingRaw = rawPrices r.data.metadata.pricingRaw

/-- What `model_pricing` holds of a model, if anything, are the prices of this `pricing_raw`. -/
def HoldsPrice (key : ModelKey) (pricingRaw : Option PriceTable) : Prop :=
  ∀ r ∈ db.models, r.key = key → ∀ p, db.pricingOf r.id = some p → billedPrices (some p) none = rawPrices pricingRaw

end CatalogDb

def Shelf.Agrees (shelf : Shelf) : Prop := ∀ key raw held, shelf key = some (raw, held) → billedOf held raw = rawPrices raw

variable (now : Time)

namespace CatalogDb

variable (db : CatalogDb)

theorem agrees_iff : db.Agrees ↔ db.shelf.Agrees := by
  constructor
  · intro h key raw held hshelf
    obtain ⟨r, hr, heq⟩ := Option.map_eq_some_iff.mp hshelf
    cases heq
    rw [← billedPrices_eq]
    exact h r (db.find_eq_some.mp hr).1
  · intro h r hr
    rw [billedPrices_eq]
    refine h r.key _ _ ?_
    rw [shelf, db.find_eq_some.mpr ⟨hr, rfl⟩]
    rfl

theorem holdsPrice_iff (key : ModelKey) (pricingRaw : Option PriceTable) :
    db.HoldsPrice key pricingRaw ↔ ∀ raw held, db.shelf key = some (raw, some held) →
      billedOf (some held) pricingRaw = rawPrices pricingRaw := by
  constructor
  · intro h raw held hshelf
    obtain ⟨r, hr, heq⟩ := Option.map_eq_some_iff.mp hshelf
    obtain ⟨hmem, hkey⟩ := db.find_eq_some.mp hr
    obtain ⟨p, hp, hprices⟩ := Option.map_eq_some_iff.mp (congrArg Prod.snd heq)
    rw [← h r hmem hkey p hp, ← hprices]
    rfl
  · intro h r hr hkey p hp
    have hshelf : db.shelf key = some (r.data.metadata.pricingRaw, some p.prices) := by
      rw [shelf, db.find_eq_some.mpr ⟨hr, hkey⟩, Option.map_some, hp]
      rfl
    rw [← h _ _ hshelf]
    rfl

/-- An upserted model has a new `pricing_raw` and the prices it had. -/
theorem shelf_upsertOne (m : UpsertRow) (key : ModelKey) : (db.upsertOne now m).shelf key =
      if m.key = key then some (m.metadata.pricingRaw, (db.shelf key).bind Prod.snd) else db.shelf key := by
  unfold upsertOne
  split
  · next r hr =>
    obtain ⟨hmem, hkey⟩ := db.find_eq_some.mp hr
    rw [shelf, find_modify]
    by_cases h : m.key = key
    · subst h
      rw [hr, if_pos rfl, shelf, hr]
      simp [hkey]
    · rw [if_neg h]
      cases hfind : db.find key with
      | none => simp [shelf, hfind]
      | some r' =>
        have hne : r'.key ≠ m.key := by
          rw [(db.find_eq_some.mp hfind).2]
          exact Ne.symm h
        simp [shelf, hfind, hne]
  · next hnone =>
    rw [shelf, find_insert]
    by_cases h : m.key = key
    · subst h
      have hshelf : db.shelf m.key = none := by
        rw [shelf, hnone]
        rfl
      rw [if_pos rfl, if_pos rfl, hshelf]
      simp [db.pricingOf_fresh (le_refl _)]
    · rw [if_neg h, if_neg h]
      rfl

theorem shelf_putPricing {r : ModelRow} (row : PricingRow) (hr : r ∈ db.models) (hid : r.id = row.modelId) (key : ModelKey) :
    (db.putPricing row).shelf key =
      if r.key = key then some (r.data.metadata.pricingRaw, some row.prices) else db.shelf key := by
  rw [shelf, find_putPricing]
  by_cases h : r.key = key
  · rw [if_pos h, db.find_eq_some.mpr ⟨hr, h⟩, Option.map_some, db.pricingOf_putPricing ⟨r, hr, hid⟩, if_pos hid.symm]
    rfl
  · rw [if_neg h, shelf]
    cases hfind : db.find key with
    | none => rfl
    | some r' =>
      obtain ⟨hr', hkey⟩ := db.find_eq_some.mp hfind
      have hne : ¬ row.modelId = r'.id := fun heq => h (by rw [db.eq_of_id hr hr' (hid.trans heq), hkey])
      rw [Option.map_some, Option.map_some, db.pricingOf_putPricing ⟨r, hr, hid⟩, if_neg hne]

end CatalogDb

/-! ## Many models at once -/

variable {ms : List UpsertRow} {m : UpsertRow}

theorem find_of_nodup (hms : (ms.map UpsertRow.key).Nodup) (hm : m ∈ ms) :
    ms.find? (fun m' => m'.key = m.key) = some m := by
  cases h : ms.find? (fun m' => m'.key = m.key) with
  | none =>
    have hall := List.find?_eq_none.mp h m hm
    simp at hall
  | some m' =>
    have hkey : m'.key = m.key := by simpa using List.find?_some h
    rw [List.inj_on_of_nodup_map hms (List.mem_of_find?_eq_some h) hm hkey]

variable {key : ModelKey}

theorem find_absent (h : key ∉ ms.map UpsertRow.key) : ms.find? (fun m => m.key = key) = none := by
  refine List.find?_eq_none.mpr fun m hm => ?_
  simp only [decide_eq_true_eq]
  exact fun heq => h (heq ▸ List.mem_map_of_mem hm)

namespace Shelf

def store (shelf : Shelf) (ms : List UpsertRow) : Shelf := fun key =>
  match ms.find? (fun m => m.key = key) with
  | some m => some (m.metadata.pricingRaw, (shelf key).bind Prod.snd)
  | none => shelf key

def copy (shelf : Shelf) (ms : List UpsertRow) : Shelf := fun key =>
  match ms.find? (fun m => m.key = key) with
  | some m => (shelf key).map fun x => (x.1, some (copyOf m.metadata.pricingRaw))
  | none => shelf key

theorem store_cons {shelf shelf' : Shelf} (hm : m.key ∉ ms.map UpsertRow.key) (h : ∀ key, shelf' key =
      if m.key = key then some (m.metadata.pricingRaw, (shelf key).bind Prod.snd) else shelf key) :
    shelf'.store ms = shelf.store (m :: ms) := by
  funext key
  rw [store, store, List.find?_cons]
  by_cases hkey : m.key = key
  · subst hkey
    simp [find_absent hm, h]
  · simp [hkey, h]

theorem copy_cons {shelf shelf' : Shelf} (hm : m.key ∉ ms.map UpsertRow.key) (h : ∀ key, shelf' key =

          if m.key = key then (shelf key).map fun x => (x.1, some (copyOf m.metadata.pricingRaw)) else shelf key) :
    shelf'.copy ms = shelf.copy (m :: ms) := by
  funext key
  rw [copy, copy, List.find?_cons]
  by_cases hkey : m.key = key
  · subst hkey
    simp [find_absent hm, h]
  · simp [hkey, h]

end Shelf

/-- The row that `model_pricing` gets for a model. -/
def pricingRow (modelId : Nat) (pricingRaw : Option PriceTable) : PricingRow :=
  let raw := pricingRaw.getD {}
  let inputPrice := guardPrice (raw.prompt.getD 0)
  let outputPrice := guardPrice (raw.completion.getD 0)
  { modelId
    pricePerInputToken := inputPrice
    pricePerOutputToken := outputPrice
    pricePerImageToken := raw.image
    pricePerRequest := raw.request
    paid := decide (inputPrice > 0) || decide (outputPrice > 0) }

theorem pricingRowOf_eq (modelId : Nat) (pricingRaw : Option PriceTable) :
    pricingRowOf modelId pricingRaw = if isPriced pricingRaw then some (pricingRow modelId pricingRaw) else none := by
  cases pricingRaw with
  | none => rfl
  | some raw =>
    obtain ⟨prompt, completion, image, request⟩ := raw
    cases prompt <;> cases completion <;> rfl

namespace CatalogDb

variable (db : CatalogDb)

def upserts (now : Time) (ms : List UpsertRow) : CatalogDb := ms.foldl (fun db m => db.upsertOne now m) db

def putPricings (rows : List PricingRow) : CatalogDb := rows.foldl (fun db row => db.putPricing row.rounded) db

theorem shelf_upserts (hms : (ms.map UpsertRow.key).Nodup) : (db.upserts now ms).shelf = db.shelf.store ms := by
  induction ms generalizing db with
  | nil => rfl
  | cons m ms ih =>
    obtain ⟨hm, hms⟩ := List.nodup_cons.mp hms
    exact (ih (db.upsertOne now m) hms).trans (Shelf.store_cons hm (db.shelf_upsertOne now m))

theorem shelf_putPricings (idOf : ModelKey → Nat) (hms : (ms.map UpsertRow.key).Nodup)
    (hid : ∀ m ∈ ms, ∃ r ∈ db.models, r.key = m.key ∧ r.id = idOf m.key) :
    (db.putPricings (ms.map fun m => pricingRow (idOf m.key) m.metadata.pricingRaw)).shelf = db.shelf.copy ms := by
  induction ms generalizing db with
  | nil => rfl
  | cons m ms ih =>
    obtain ⟨hm, hms⟩ := List.nodup_cons.mp hms
    obtain ⟨r, hr, hkey, hrid⟩ := hid m List.mem_cons_self
    refine (ih (db.putPricing (pricingRow (idOf m.key) m.metadata.pricingRaw).rounded) hms fun m' hm' => ?_).trans
      (Shelf.copy_cons hm fun key => ?_)
    · rw [models_putPricing]
      exact hid m' (List.mem_cons_of_mem _ hm')
    · rw [db.shelf_putPricing (pricingRow (idOf m.key) m.metadata.pricingRaw).rounded hr hrid, hkey]
      by_cases h : m.key = key
      · subst h
        rw [if_pos rfl, if_pos rfl, shelf, db.find_eq_some.mpr ⟨hr, hkey⟩]
        rfl
      · rw [if_neg h, if_neg h]

theorem find_upserts (hkey : key ∉ ms.map UpsertRow.key) : (db.upserts now ms).find key = db.find key := by
  induction ms generalizing db with
  | nil => rfl
  | cons m ms ih =>
    rw [List.map_cons, List.mem_cons, not_or] at hkey
    refine (ih (db.upsertOne now m) hkey.2).trans ?_
    unfold upsertOne
    split
    · rw [find_modify]
      cases hfind : db.find key with
      | none => rfl
      | some r =>
        have hne : r.key ≠ m.key := by
          rw [(db.find_eq_some.mp hfind).2]
          exact hkey.1
        simp [hne]
    · rw [find_insert, if_neg (Ne.symm hkey.1)]

theorem find_upserts_mem (hms : (ms.map UpsertRow.key).Nodup) (hm : m ∈ ms) :
    ∃ r, (db.upserts now ms).find m.key = some r ∧
      r.data.metadata.pricingRaw = m.metadata.pricingRaw := by
  have hshelf := congrFun (db.shelf_upserts now hms) m.key
  rw [Shelf.store, find_of_nodup hms hm, shelf, Option.map_eq_some_iff] at hshelf
  obtain ⟨r, hr, heq⟩ := hshelf
  exact ⟨r, hr, congrArg Prod.fst heq⟩

def idOf (key : ModelKey) : Nat := ((db.find key).map ModelRow.id).getD 0

theorem pricingRows_returned (hms : (ms.map UpsertRow.key).Nodup) :
    (World.returned (db.upserts now ms) ms).filterMap (fun m => pricingRowOf m.id m.data.metadata.pricingRaw) =
      (ms.filter fun m => isPriced m.metadata.pricingRaw).map fun m =>
        pricingRow ((db.upserts now ms).idOf m.key) m.metadata.pricingRaw := by
  rw [World.returned, List.filterMap_filterMap, ← List.filterMap_eq_map, ← List.filterMap_eq_filter,
    List.filterMap_filterMap]
  refine List.filterMap_congr fun m hm => ?_
  obtain ⟨r, hr, hraw⟩ := db.find_upserts_mem now hms hm
  have hid : (db.upserts now ms).idOf m.key = r.id := by
    rw [idOf, hr]
    rfl
  rw [hr, Option.bind_some, pricingRowOf_eq, hraw]
  cases h : isPriced m.metadata.pricingRaw <;> simp [Option.guard, h, hid]

end CatalogDb

/-! ## Calls -/

inductive Call where
  | bulkUpsert (models : List ModelInput)
  | updatePricing (modelId : Nat) (pricingRaw : PriceTable) (existingMetadata : Option Metadata)

def Call.prog : Call → CatalogM Unit
  | .bulkUpsert models => do
    let _ ← bulkUpsertModels models
    return ()
  | .updatePricing modelId pricingRaw existingMetadata => do
    let _ ← updateModelPricingOnly modelId pricingRaw existingMetadata
    return ()

/-- What a call stores, a list for every statement on `models`. -/
def Call.batches (db : CatalogDb) : Call → List (List UpsertRow)
  | .bulkUpsert models => chunks chunkSize (deduplicated models)
  | .updatePricing modelId pricingRaw existingMetadata =>
    match db.findId modelId with
    | none => []
    | some r => [[⟨r.key, r.data.isActive, { (existingMetadata.getD {}) with pricingRaw := some pricingRaw }⟩]]

/-- Every statement on `models` is carried out as sent. -/
def allBatches : List UpsertRow → Bool := fun _ => true

def chunkFits (ms : List UpsertRow) : Bool := ms.all fun m => (pricingRow 0 m.metadata.pricingRaw).fits

section Reached

variable (db : CatalogDb) (c : Call) (os : List (Outcome DbError))

def storedModels : List UpsertRow := (carried allBatches (c.batches db) os).flatten

/-- The models whose prices are copied: those in a chunk that is carried out, once all of the first statements were
served. -/
def copiedModels : List UpsertRow :=
  if Complete allBatches (c.batches db) os then
    (carried chunkFits (chunks chunkSize ((c.batches db).flatten.filter fun m => isPriced m.metadata.pricingRaw))
      (os.drop (c.batches db).length)).flatten
  else []

end Reached

/-! ## What a call leaves on the shelves -/

section Run

variable (order : Nat → List ModelRow → List ModelRow)

theorem syncPricing_run (upserted : List ModelRow) (os : List (Outcome DbError)) (w : World) :
    ((syncPricingToModelPricing upserted).run (World.exec order) os w).1 = .ok () ∧
      ((syncPricingToModelPricing upserted).run (World.exec order) os w).2.2.db =
        w.db.putPricings (carried (fun rows => rows.all PricingRow.fits)
          (chunks chunkSize (upserted.filterMap fun m => pricingRowOf m.id m.data.metadata.pricingRaw)) os).flatten := by
  have hexec : ∀ rows w, World.exec order (.upsertPricing rows) w =
      if rows.all PricingRow.fits then (.ok (), w.write (w.db.putPricings rows)) else (.error .numericOverflow, w) :=
    fun _ _ => rfl
  have hstore := run_forEach (World.exec order) Stmt.upsertPricing (fun _ a => a) hexec
    (chunks chunkSize (upserted.filterMap fun m => pricingRowOf m.id m.data.metadata.pricingRaw)) os w
  have hswallowed := run_swallowed (World.exec order) (forEach Stmt.upsertPricing (fun _ a => a)
    (chunks chunkSize (upserted.filterMap fun m => pricingRowOf m.id m.data.metadata.pricingRaw))) os w
  have hrun : (syncPricingToModelPricing upserted).run (World.exec order) os w = _ := hswallowed
  rw [hrun]
  refine ⟨rfl, ?_⟩
  rw [hstore, World.foldl_writes (fun rows _ db => db.putPricings rows), CatalogDb.putPricings, List.foldl_flatten]
  rfl

theorem returned_batches (bs : List (List UpsertRow)) (w : World) (hbs : (bs.flatten.map UpsertRow.key).Nodup) :
    (answers (s := Stmt.upsertModels) (R := Res) (fun _ a => a) (fun b w => w.write (w.db.upserts w.now b))
      (fun b w => World.returned (w.db.upserts w.now b) b) bs w).flatten =
      World.returned (w.db.upserts w.now bs.flatten) bs.flatten := by
  induction bs generalizing w with
  | nil => rfl
  | cons b bs ih =>
    rw [List.flatten_cons, List.map_append, List.nodup_append] at hbs
    obtain ⟨-, hrest, hdisjoint⟩ := hbs
    have happend : w.db.upserts w.now (b ++ bs.flatten) = (w.db.upserts w.now b).upserts w.now bs.flatten :=
      List.foldl_append
    rw [answers, List.flatten_cons, ih _ hrest, List.flatten_cons, World.returned, World.returned, World.returned,
      List.filterMap_append, happend]
    congr 1
    refine List.filterMap_congr fun m hm => ?_
    refine (CatalogDb.find_upserts _ _ ?_).symm
    intro hmem
    exact hdisjoint _ (List.mem_map_of_mem hm) _ hmem rfl

theorem carried_rows (idOf : ModelKey → Nat) (ms : List UpsertRow) (os : List (Outcome DbError)) :
    (carried (fun rows => rows.all PricingRow.fits)
        (chunks chunkSize (ms.map fun m => pricingRow (idOf m.key) m.metadata.pricingRaw)) os).flatten =
      (carried chunkFits (chunks chunkSize ms) os).flatten.map fun m => pricingRow (idOf m.key) m.metadata.pricingRaw := by
  rw [chunks_map, carried_map chunkFits _ (fun c => ?_), List.map_flatten]
  rw [chunkFits, List.all_map]
  rfl

theorem carried_sublist {β : Type} (valid : List β → Bool) {n : Nat} (hn : 0 < n) (l : List β)
    (os : List (Outcome DbError)) : (carried valid (chunks n l) os).flatten.Sublist l := by
  obtain ⟨rest, hrest⟩ := carried_prefix valid (chunks n l) os
  have hflatten : l = (carried valid (chunks n l) os).flatten ++ rest.flatten := by
    rw [← List.flatten_append, hrest, flatten_chunks hn]
  have hsub := List.sublist_append_left (carried valid (chunks n l) os).flatten rest.flatten
  rwa [← hflatten] at hsub

theorem shelf_copied (db : CatalogDb) (hms : (ms.map UpsertRow.key).Nodup) (os : List (Outcome DbError)) :
    ((db.upserts now ms).putPricings (carried (fun rows => rows.all PricingRow.fits) (chunks chunkSize
      ((World.returned (db.upserts now ms) ms).filterMap fun m => pricingRowOf m.id m.data.metadata.pricingRaw))
        os).flatten).shelf =
      (db.shelf.store ms).copy
        (carried chunkFits (chunks chunkSize (ms.filter fun m => isPriced m.metadata.pricingRaw)) os).flatten := by
  have hsub : (carried chunkFits (chunks chunkSize (ms.filter fun m => isPriced m.metadata.pricingRaw)) os).flatten.Sublist
      ms := (carried_sublist _ chunkSize_pos _ os).trans List.filter_sublist
  rw [db.pricingRows_returned now hms, carried_rows, CatalogDb.shelf_putPricings, db.shelf_upserts now hms]
  · exact (hsub.map _).nodup hms
  · intro m hm
    obtain ⟨r, hr, -⟩ := db.find_upserts_mem now hms (hsub.subset hm)
    obtain ⟨hmem, hkey⟩ := (CatalogDb.find_eq_some _).mp hr
    refine ⟨r, hmem, hkey, ?_⟩
    rw [CatalogDb.idOf, hr]
    rfl

end Run

/-! ### The keys of a call -/

theorem mem_setKey : key ∈ (setKey ms m).map UpsertRow.key ↔ key ∈ ms.map UpsertRow.key ∨ key = m.key := by
  induction ms with
  | nil => simp [setKey]
  | cons m' ms ih =>
    rw [setKey]
    split
    · next h =>
      rw [List.map_cons, List.map_cons, h, List.mem_cons]
      constructor
      · exact fun hkey => .inl hkey
      · rintro (hkey | rfl)
        · exact hkey
        · exact .inl rfl
    · rw [List.map_cons, List.map_cons, List.mem_cons, List.mem_cons, ih, or_assoc]

theorem nodup_setKey (h : (ms.map UpsertRow.key).Nodup) (m : UpsertRow) : ((setKey ms m).map UpsertRow.key).Nodup := by
  induction ms with
  | nil => exact List.nodup_singleton _
  | cons m' ms ih =>
    obtain ⟨hm', hms⟩ := List.nodup_cons.mp h
    rw [setKey]
    split
    · next heq =>
      rw [List.map_cons, List.nodup_cons, ← heq]
      exact ⟨hm', hms⟩
    · next hne =>
      rw [List.map_cons, List.nodup_cons, mem_setKey, not_or]
      exact ⟨⟨hm', hne⟩, ih hms⟩

theorem nodup_deduplicated (models : List ModelInput) : ((deduplicated models).map UpsertRow.key).Nodup := by
  have hloop : ∀ (rows acc : List UpsertRow), (acc.map UpsertRow.key).Nodup →
      ((rows.foldl setKey acc).map UpsertRow.key).Nodup := by
    intro rows
    induction rows with
    | nil => exact fun acc h => h
    | cons m rows ih => exact fun acc h => ih _ (nodup_setKey h m)
  exact hloop _ [] List.nodup_nil

theorem nodup_batches (db : CatalogDb) (c : Call) : ((c.batches db).flatten.map UpsertRow.key).Nodup := by
  cases c with
  | bulkUpsert models =>
    rw [Call.batches, flatten_chunks chunkSize_pos]
    exact nodup_deduplicated models
  | updatePricing modelId pricingRaw existingMetadata =>
    rw [Call.batches]
    cases db.findId modelId with
    | none => exact List.nodup_nil
    | some r => exact List.nodup_singleton _

/-! ### The shelves after a call -/

section After

variable (order : Nat → List ModelRow → List ModelRow)

def Call.after (c : Call) (os : List (Outcome DbError)) (w : World) : World := (c.prog.run (World.exec order) os w).2.2

theorem Shelf.copy_nil (shelf : Shelf) : shelf.copy [] = shelf := rfl

theorem Shelf.store_nil (shelf : Shelf) : shelf.store [] = shelf := rfl

theorem foldl_upserts (bs : List (List UpsertRow)) (w : World) :
    (bs.foldl (fun w b => w.write (w.db.upserts w.now b)) w).db = w.db.upserts w.now bs.flatten := by
  rw [World.foldl_writes (fun b now db => db.upserts now b), CatalogDb.upserts, List.foldl_flatten]
  rfl

theorem shelf_bulkUpsert (models : List ModelInput) (os : List (Outcome DbError)) (w : World) :
    ((Call.bulkUpsert models).after order os w).db.shelf =
      (w.db.shelf.store (storedModels w.db (.bulkUpsert models) os)).copy
        (copiedModels w.db (.bulkUpsert models) os) := by
  have hnodup := nodup_deduplicated models
  have hbatches : ((Call.bulkUpsert models).batches w.db).flatten = deduplicated models := flatten_chunks chunkSize_pos _
  have hflat : ((chunks chunkSize (deduplicated models)).flatten.map UpsertRow.key).Nodup := by
    rw [flatten_chunks chunkSize_pos]
    exact hnodup
  have hexec : ∀ b w, World.exec order (.upsertModels b) w =
      if allBatches b then (.ok (World.returned (w.db.upserts w.now b) b), w.write (w.db.upserts w.now b))
      else (.error .failed, w) := fun _ _ => rfl
  rw [Call.after, Call.prog, run_discarded, bulkUpsertModels, run_caught]
  by_cases hnone : deduplicated models = []
  · rw [if_pos hnone]
    have hempty : (Call.bulkUpsert models).batches w.db = [] := by
      rw [Call.batches, hnone, chunks_nil _ chunkSize_pos]
    rw [storedModels, copiedModels, hempty]
    rfl
  rw [if_neg hnone, Prog.run_bind]
  by_cases hcomplete : Complete allBatches (chunks chunkSize (deduplicated models)) os
  · have hstored : storedModels w.db (.bulkUpsert models) os = deduplicated models := by
      rw [storedModels, Call.batches, carried_of_complete hcomplete, flatten_chunks chunkSize_pos]
    have hcopied : copiedModels w.db (.bulkUpsert models) os =
        (carried chunkFits (chunks chunkSize ((deduplicated models).filter fun m => isPriced m.metadata.pricingRaw))
          (os.drop (chunks chunkSize (deduplicated models)).length)).flatten := by
      rw [copiedModels, hbatches]
      exact if_pos hcomplete
    rw [run_forEach_complete (World.exec order) Stmt.upsertModels _ hexec hcomplete]
    dsimp only
    rw [returned_batches _ _ hflat, flatten_chunks chunkSize_pos]
    have hsome : World.returned (w.db.upserts w.now (deduplicated models)) (deduplicated models) ≠ [] := by
      obtain ⟨m, hm⟩ := List.exists_mem_of_ne_nil _ hnone
      obtain ⟨r, hr, -⟩ := w.db.find_upserts_mem w.now hnodup hm
      exact List.ne_nil_of_mem (List.mem_filterMap.mpr ⟨m, hm, hr⟩)
    rw [if_neg hsome, Prog.run_bind]
    obtain ⟨hok, hdb⟩ := syncPricing_run order (World.returned (w.db.upserts w.now (deduplicated models))
      (deduplicated models)) (os.drop (chunks chunkSize (deduplicated models)).length)
      ((chunks chunkSize (deduplicated models)).foldl (fun w b => w.write (w.db.upserts w.now b)) w)
    rw [hstored, hcopied, ← shelf_copied w.now w.db hnodup]
    have hfold := foldl_upserts (chunks chunkSize (deduplicated models)) w
    rw [flatten_chunks chunkSize_pos] at hfold
    rw [hfold] at hdb
    rw [← hdb]
    rcases hrun : Prog.run (World.exec order) (os.drop (chunks chunkSize (deduplicated models)).length)
      (syncPricingToModelPricing (World.returned (w.db.upserts w.now (deduplicated models)) (deduplicated models)))
      ((chunks chunkSize (deduplicated models)).foldl (fun w b => w.write (w.db.upserts w.now b)) w) with ⟨r, os', w'⟩
    rw [hrun] at hok
    subst hok
    rfl
  · -- the copies wait for all batches
    have hcopied : copiedModels w.db (.bulkUpsert models) os = [] := if_neg hcomplete
    have hstore := run_forEach (World.exec order) Stmt.upsertModels (fun _ a => a) hexec
      (chunks chunkSize (deduplicated models)) os w
    obtain ⟨e, he⟩ := run_forEach_broken (World.exec order) Stmt.upsertModels (fun _ a => a) hexec hcomplete w
    have hsub : (storedModels w.db (.bulkUpsert models) os).Sublist (deduplicated models) :=
      carried_sublist _ chunkSize_pos _ os
    rw [hcopied, Shelf.copy_nil, ← w.db.shelf_upserts w.now ((hsub.map _).nodup hnodup), storedModels, ← foldl_upserts]
    revert he hstore
    rcases Prog.run (World.exec order) os (forEach Stmt.upsertModels (fun _ a => a)
      (chunks chunkSize (deduplicated models))) w with ⟨r, os', w'⟩
    intro hstore he
    cases he
    exact congrArg (fun w => w.db.shelf) hstore

theorem shelf_rewrite (db : CatalogDb) {r : ModelRow} (hr : r ∈ db.models) (metadata : Metadata) (isActive : Bool) :
    (db.rewrite [r.id] fun d => { d with metadata }).shelf = db.shelf.store [⟨r.key, isActive, metadata⟩] := by
  funext key
  rw [CatalogDb.shelf, CatalogDb.rewrite, CatalogDb.find_modify, Shelf.store, List.find?_singleton]
  by_cases h : r.key = key
  · subst h
    simp [CatalogDb.shelf, db.find_eq_some.mpr ⟨hr, rfl⟩]
  · simp only [h, decide_false, Bool.false_eq_true, if_false]
    rw [CatalogDb.shelf]
    cases hfind : db.find key with
    | none => rfl
    | some r' =>
      obtain ⟨hr', hkey⟩ := db.find_eq_some.mp hfind
      have hne : r'.id ≠ r.id := fun hid => h (by rw [← db.eq_of_id hr' hr hid, hkey])
      simp [hne]

theorem rewrite_absent (db : CatalogDb) {modelId : Nat} (h : db.findId modelId = none) (f : ModelData → ModelData) :
    (db.rewrite [modelId] f).shelf = db.shelf := by
  funext key
  rw [CatalogDb.shelf, CatalogDb.rewrite, CatalogDb.find_modify, CatalogDb.shelf]
  cases hfind : db.find key with
  | none => rfl
  | some r =>
    have hne : r.id ≠ modelId := by
      intro hid
      rw [db.findId_eq_some.mpr ⟨(db.find_eq_some.mp hfind).1, hid⟩] at h
      cases h
    simp [hne]

theorem shelf_updatePricing (modelId : Nat) (pricingRaw : PriceTable) (existingMetadata : Option Metadata)
    (os : List (Outcome DbError)) (w : World) :
    ((Call.updatePricing modelId pricingRaw existingMetadata).after order os w).db.shelf =
      (w.db.shelf.store (storedModels w.db (.updatePricing modelId pricingRaw existingMetadata) os)).copy
        (copiedModels w.db (.updatePricing modelId pricingRaw existingMetadata) os) := by
  rw [Call.after, Call.prog, run_discarded, updateModelPricingOnly, run_caught]
  generalize hmerged : ({ (existingMetadata.getD {}) with pricingRaw := some pricingRaw } : Metadata) = merged
  dsimp only
  rw [Prog.run_bind, ask, run_stmt]
  cases hfind : w.db.findId modelId with
  | none =>
    have hbatches : (Call.updatePricing modelId pricingRaw existingMetadata).batches w.db = [] := by
      rw [Call.batches, hfind]
    have hshelf := rewrite_absent w.db hfind fun d => { d with metadata := merged }
    have hstored : storedModels w.db (.updatePricing modelId pricingRaw existingMetadata) os = [] := by
      rw [storedModels, hbatches]
      rfl
    have hcopied : copiedModels w.db (.updatePricing modelId pricingRaw existingMetadata) os = [] := by
      rw [copiedModels, hbatches]
      rfl
    rw [hstored, hcopied, Shelf.store_nil, Shelf.copy_nil]
    cases os.headD .served with
    | served =>
      have hrows : ((w.db.rewrite [modelId] fun d => { d with metadata := merged }).findId modelId).toList = [] := by
        simp [CatalogDb.rewrite, hfind]
      simp only [answer_served, World.exec, hrows, if_true]
      exact hshelf
    | lost e => exact hshelf
    | dropped e => rfl
  | some r =>
    obtain ⟨hr, rfl⟩ := w.db.findId_eq_some.mp hfind
    have hbatches : (Call.updatePricing r.id pricingRaw existingMetadata).batches w.db =
        [[⟨r.key, r.data.isActive, merged⟩]] := by
      rw [Call.batches, hfind, ← hmerged]
    have hshelf := shelf_rewrite w.db hr merged r.data.isActive
    rw [storedModels, copiedModels, hbatches]
    cases hout : os.headD .served with
    | dropped e =>
      simp only [carried, Complete, hout, reduceCtorEq, false_and, if_false, List.flatten_nil, Shelf.copy_nil,
        Shelf.store_nil]
      rfl
    | lost e =>
      simp only [carried, Complete, hout, allBatches, if_true, reduceCtorEq, false_and, if_false, List.flatten_cons,
        List.flatten_nil, List.append_nil, Shelf.copy_nil]
      exact hshelf
    | served =>
      have hrow : (w.db.rewrite [r.id] fun d => { d with metadata := merged }).findId r.id =
          some { r with data := { r.data with metadata := merged } } := by
        simp [CatalogDb.rewrite, hfind]
      obtain ⟨hok, hdb⟩ := syncPricing_run order [{ r with data := { r.data with metadata := merged } }] os.tail
        (w.write (w.db.rewrite [r.id] fun d => { d with metadata := merged }))
      simp only [carried, Complete, hout, allBatches, if_true, and_self, List.flatten_cons, List.flatten_nil,
        List.append_nil, answer_served, World.exec, hrow, Option.toList_some, reduceCtorEq, if_false,
        List.length_singleton, List.drop_one]
      rw [Prog.run_bind]
      have hrows : ([{ r with data := { r.data with metadata := merged } }] : List ModelRow).filterMap
          (fun m => pricingRowOf m.id m.data.metadata.pricingRaw) =
          (([⟨r.key, r.data.isActive, merged⟩] : List UpsertRow).filter fun m => isPriced m.metadata.pricingRaw).map
            fun m => pricingRow ((fun _ => r.id) m.key) m.metadata.pricingRaw := by
        cases hpriced : isPriced merged.pricingRaw <;> simp [pricingRowOf_eq, hpriced]
      have hsub := carried_sublist chunkFits chunkSize_pos
        (([⟨r.key, r.data.isActive, merged⟩] : List UpsertRow).filter fun m => isPriced m.metadata.pricingRaw) os.tail
      have hsub := hsub.trans List.filter_sublist
      rw [hrows, carried_rows (fun _ => r.id), World.write_db] at hdb
      have hcopy := CatalogDb.shelf_putPricings (w.db.rewrite [r.id] fun d => { d with metadata := merged })
        (fun _ => r.id) ((hsub.map _).nodup (List.nodup_singleton _)) fun m hm => by
          rw [List.mem_singleton.mp (hsub.subset hm)]
          exact ⟨_, List.mem_map_of_mem hr, rfl, rfl⟩
      rw [← hdb, hshelf] at hcopy
      rw [← hcopy]
      rcases hrun : Prog.run (World.exec order) os.tail
        (syncPricingToModelPricing [{ r with data := { r.data with metadata := merged } }])
        (w.write (w.db.rewrite [r.id] fun d => { d with metadata := merged })) with ⟨res, os', w'⟩
      rw [hrun] at hok
      subst hok
      rfl

theorem shelf_after (c : Call) (os : List (Outcome DbError)) (w : World) :
    (c.after order os w).db.shelf = (w.db.shelf.store (storedModels w.db c os)).copy (copiedModels w.db c os) := by
  cases c with
  | bulkUpsert models => exact shelf_bulkUpsert order models os w
  | updatePricing modelId pricingRaw existingMetadata =>
    exact shelf_updatePricing order modelId pricingRaw existingMetadata os w

end After

/-! ## When the copies agree -/

section Agree

variable (db : CatalogDb) (c : Call) (os : List (Outcome DbError))

theorem stored_sublist : (storedModels db c os).Sublist (c.batches db).flatten := by
  obtain ⟨rest, hrest⟩ := carried_prefix allBatches (c.batches db) os
  have hsub := List.sublist_append_left (carried allBatches (c.batches db) os).flatten rest.flatten
  rwa [← List.flatten_append, hrest] at hsub

theorem nodup_stored : ((storedModels db c os).map UpsertRow.key).Nodup :=
  ((stored_sublist db c os).map _).nodup (nodup_batches db c)

theorem copied_subset : copiedModels db c os ⊆ storedModels db c os := by
  rw [copiedModels]
  split
  · next hcomplete =>
    rw [storedModels, carried_of_complete hcomplete]
    exact ((carried_sublist _ chunkSize_pos _ _).trans List.filter_sublist).subset
  · exact List.nil_subset _

/-- A call under which the copies stay in step. Of every model that it stores: where the price is copied, both prices
are known and the copy keeps them; where it is not, `model_pricing` holds nothing else. -/
def CallSound : Prop :=
  ∀ m ∈ storedModels db c os,
    if m ∈ copiedModels db c os then CopyKept m.metadata.pricingRaw else db.HoldsPrice m.key m.metadata.pricingRaw

variable {db c os}

theorem shelf_stored (hm : m ∈ storedModels db c os) :
    (db.shelf.store (storedModels db c os)).copy (copiedModels db c os) m.key =
      some (m.metadata.pricingRaw,
        if m ∈ copiedModels db c os then some (copyOf m.metadata.pricingRaw) else (db.shelf m.key).bind Prod.snd) := by
  have hstore : db.shelf.store (storedModels db c os) m.key =
      some (m.metadata.pricingRaw, (db.shelf m.key).bind Prod.snd) := by
    rw [Shelf.store, find_of_nodup (nodup_stored db c os) hm]
  rw [Shelf.copy, hstore]
  cases hfind : (copiedModels db c os).find? (fun m' => m'.key = m.key) with
  | none =>
    have hnot : m ∉ copiedModels db c os := by
      intro hmem
      have hall := List.find?_eq_none.mp hfind m hmem
      simp at hall
    rw [if_neg hnot]
  | some m' =>
    have hmem := List.mem_of_find?_eq_some hfind
    have hkey : m'.key = m.key := by simpa using List.find?_some hfind
    have heq : m' = m := List.inj_on_of_nodup_map (nodup_stored db c os) (copied_subset db c os hmem) hm hkey
    subst heq
    rw [if_pos hmem]
    rfl

theorem shelf_other (hkey : key ∉ (storedModels db c os).map UpsertRow.key) :
    (db.shelf.store (storedModels db c os)).copy (copiedModels db c os) key = db.shelf key := by
  have hcopied : key ∉ (copiedModels db c os).map UpsertRow.key :=
    fun hmem => hkey (List.map_subset _ (copied_subset db c os) hmem)
  rw [Shelf.copy, find_absent hcopied, Shelf.store, find_absent hkey]

variable (order : Nat → List ModelRow → List ModelRow)

/-- One call keeps the copies in step exactly when it is sound. -/
theorem agrees_after_iff (w : World) (h : w.db.Agrees) : (c.after order os w).db.Agrees ↔ CallSound w.db c os := by
  rw [CatalogDb.agrees_iff, shelf_after]
  constructor
  · intro hagrees m hm
    have hshelf := shelf_stored hm
    by_cases hcopied : m ∈ copiedModels w.db c os
    · rw [if_pos hcopied] at hshelf
      rw [if_pos hcopied, ← copyKept_iff]
      exact hagrees _ _ _ hshelf
    · rw [if_neg hcopied] at hshelf
      rw [if_neg hcopied, CatalogDb.holdsPrice_iff]
      intro raw held hheld
      rw [hheld, Option.bind_some] at hshelf
      exact hagrees _ _ _ hshelf
  · intro hsound key raw held hshelf
    by_cases hkey : key ∈ (storedModels w.db c os).map UpsertRow.key
    · obtain ⟨m, hm, rfl⟩ := List.mem_map.mp hkey
      have hm' := hsound m hm
      rw [shelf_stored hm] at hshelf
      cases hshelf
      by_cases hcopied : m ∈ copiedModels w.db c os
      · rw [if_pos hcopied] at hm' ⊢
        exact (copyKept_iff _).mpr hm'
      · rw [if_neg hcopied] at hm' ⊢
        rw [CatalogDb.holdsPrice_iff] at hm'
        -- with nothing in the other table, billing reads the metadata
        cases hheld : (w.db.shelf m.key).bind Prod.snd with
        | none => rfl
        | some pair =>
          obtain ⟨⟨raw, held⟩, hx, hsnd⟩ := Option.bind_eq_some_iff.mp hheld
          cases hsnd
          exact hm' raw pair hx
    · rw [shelf_other hkey] at hshelf
      exact (w.db.agrees_iff.mp h) key raw held hshelf

/-! ## Sequences of calls -/

abbrev Calls := List (Call × List (Outcome DbError))

def AgreesThroughout (calls : Calls) (w : World) : Prop :=
  match calls with
  | [] => True
  | (c, os) :: rest => (c.after order os w).db.Agrees ∧ AgreesThroughout rest (c.after order os w)

def SoundThroughout (calls : Calls) (w : World) : Prop :=
  match calls with
  | [] => True
  | (c, os) :: rest => CallSound w.db c os ∧ SoundThroughout rest (c.after order os w)

/-- **The two copies agree after every call** exactly when every call is sound. -/
theorem copies_agree_iff (calls : Calls) (w : World) (h : w.db.Agrees) :
    AgreesThroughout order calls w ↔ SoundThroughout order calls w := by
  induction calls generalizing w with
  | nil => exact Iff.rfl
  | cons x rest ih =>
    obtain ⟨c, os⟩ := x
    rw [AgreesThroughout, SoundThroughout, agrees_after_iff order w h]
    refine and_congr_right fun hsound => ih _ ?_
    exact (agrees_after_iff order w h).mpr hsound

end Agree

/-! ## A completion price that is not known -/

theorem emptyWorld_agrees : emptyWorld.db.Agrees := fun _ h => absurd h List.not_mem_nil

def pricedModel (prompt completion : Option ℚ) : ModelInput where
  providerId := some 1
  providerModelId := some "gpt-4o"
  isActive := true
  metadata := { pricingRaw := some { prompt, completion } }

instance decidableAgrees (db : CatalogDb) : Decidable db.Agrees :=
  inferInstanceAs (Decidable (∀ r ∈ db.models, _))

/-- Twice the same price, of which both parts are known. -/
theorem copies_agree_iff_twice :
    AgreesThroughout asStored
        [(.bulkUpsert [pricedModel (some (25 / 10000000)) (some (1 / 100000))], []),
          (.bulkUpsert [pricedModel (some (25 / 10000000)) (some (1 / 100000))], [.dropped .failed])] emptyWorld ↔
      SoundThroughout asStored
        [(.bulkUpsert [pricedModel (some (25 / 10000000)) (some (1 / 100000))], []),
          (.bulkUpsert [pricedModel (some (25 / 10000000)) (some (1 / 100000))], [.dropped .failed])] emptyWorld :=
  copies_agree_iff asStored _ emptyWorld emptyWorld_agrees

/-- A prompt price without a completion price: `model_pricing` gets a zero, and the completion is billed at nothing. -/
theorem unknown_completion_billed_zero :
    ¬ AgreesThroughout asStored [(.bulkUpsert [pricedModel (some (25 / 10000000)) none], [])] emptyWorld := by
  intro h
  exact absurd h.1 (by decide +kernel)

end Gatewayz.Catalog
