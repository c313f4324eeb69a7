import Gatewayz.Catalog.ModelsTable

/-!
# `Catalog.CatalogStore` — the statements of the jobs over the catalog

One constructor per statement that a job issues. Rows come back in no particular order: `order` is the database's choice,
made anew for every statement (`tick`), and no answer has more than a thousand rows. Prices are rounded to the scale of
their column; one that does not fit refuses its whole chunk.
-/

namespace Gatewayz.Catalog

open Exec Prices

/-- `SUPABASE_PAGE_SIZE`, and the most rows that PostgREST returns. -/
def pageSize : Nat := 1000

structure UpsertRow where
  key : ModelKey
  isActive : Bool
  metadata : Metadata
  deriving DecidableEq

/-! ## Numeric columns -/

/-- A value in a `NUMERIC` column of so many decimals: halves are rounded away from zero. -/
def toColumn (scale : Nat) (q : ℚ) : ℚ :=
  if q < 0 then -(((-q) * 10 ^ scale + 1 / 2).floor / 10 ^ scale) else (q * 10 ^ scale + 1 / 2).floor / 10 ^ scale

/-- Does it have at most so many digits in front of the point? -/
def fitsColumn (scale digits : Nat) (q : ℚ) : Bool := decide (|toColumn scale q| < 10 ^ digits)

/-- `NUMERIC(20, 15)` for the prices, `NUMERIC(10, 6)` for the price of a request. -/
def PricingRow.rounded (row : PricingRow) : PricingRow :=
  { row with
    pricePerInputToken := toColumn 15 row.pricePerInputToken
    pricePerOutputToken := toColumn 15 row.pricePerOutputToken
    pricePerImageToken := row.pricePerImageToken.map (toColumn 15)
    pricePerRequest := row.pricePerRequest.map (toColumn 6) }

def PricingRow.fits (row : PricingRow) : Bool :=
  fitsColumn 15 5 row.pricePerInputToken && fitsColumn 15 5 row.pricePerOutputToken &&
    row.pricePerImageToken.all (fitsColumn 15 5) && row.pricePerRequest.all (fitsColumn 6 4)

/-! ## Statements -/

structure World where
  db : CatalogDb
  now : Time
  tick : Nat := 0
  /-- Kept by the observer: the models that an operator has taken out and not let in again. -/
  held : List ModelKey := []

inductive DbError where
  | failed
  | numericOverflow
  deriving DecidableEq

inductive Stmt where
  | upsertModels (batch : List UpsertRow)
  | upsertPricing (rows : List PricingRow)
  | updateMetadata (modelId : Nat) (metadata : Metadata)
  /-- `_load_unservable_model_ids`: all rows of a provider, no range. -/
  | selectRows (providerId : Nat)
  | countActive (providerId : Nat)
  /-- A page of the active rows of a provider. -/
  | selectActive (providerId offset : Nat)
  | resetSeen (ids : List Nat) (now : Time)
  | setMissingCount (ids : List Nat) (count : Nat)
  | deactivateStale (ids : List Nat) (threshold : Nat)
  /-- A page of the inactive rows of a provider last seen before the cutoff. -/
  | selectStale (providerId : Nat) (cutoff : Time) (offset : Nat)
  | deleteModels (ids : List Nat)
  | deactivateProvider (providerId : Nat)
  | markUnservable (modelId : Nat)
  | clearMark (modelId : Nat)
  | wait (duration : Nat)

/-- What a statement answers. -/
abbrev Res : Stmt → Type
  | .upsertModels _ => List ModelRow
  | .upsertPricing _ => Unit
  | .updateMetadata _ _ => List ModelRow
  | .selectRows _ => List ModelRow
  | .countActive _ => Nat
  | .selectActive _ _ => List ModelRow
  | .resetSeen _ _ => Unit
  | .setMissingCount _ _ => Unit
  | .deactivateStale _ _ => Unit
  | .selectStale _ _ _ => List ModelRow
  | .deleteModels _ => Unit
  | .deactivateProvider _ => Nat
  | .markUnservable _ => Unit
  | .clearMark _ => Unit
  | .wait _ => Unit

namespace CatalogDb

/-- `ON CONFLICT DO UPDATE`: the columns that are sent are set, the others stay or take their defaults. -/
def upsertOne (db : CatalogDb) (now : Time) (m : UpsertRow) : CatalogDb :=
  match h : db.find m.key with
  | some _ =>
    db.modify fun r => if r.key = m.key then { r.data with isActive := m.isActive, metadata := m.metadata } else r.data
  | none => db.insert m.key { isActive := m.isActive, metadata := m.metadata, lastSeenInProviderAt := some now } h

def rewrite (db : CatalogDb) (ids : List Nat) (f : ModelData → ModelData) : CatalogDb :=
  db.modify fun r => if r.id ∈ ids then f r.data else r.data

def select (db : CatalogDb) (providerId : Nat) (p : ModelData → Bool) : List ModelRow :=
  db.models.filter (fun r => r.key.providerId = providerId && p r.data)

end CatalogDb

/-- A stale row: inactive, and last seen before the cutoff. -/
def ModelData.staleBefore (cutoff : Time) (d : ModelData) : Bool :=
  !d.isActive && d.lastSeenInProviderAt.any (fun seen => seen < cutoff)

def ModelData.delist (d : ModelData) : ModelData :=
  { d with isActive := false, metadata := { d.metadata with delistReason := some "unservable" } }

def ModelData.clear (d : ModelData) : ModelData := { d with metadata := { d.metadata with delistReason := none } }

def page (order : Nat → List ModelRow → List ModelRow) (tick offset : Nat) (rows : List ModelRow) : List ModelRow :=
  ((order tick rows).drop offset).take pageSize

namespace World

def write (w : World) (db : CatalogDb) : World := { w with db := db, tick := w.tick + 1 }

def read (w : World) : World := { w with tick := w.tick + 1 }

variable (w : World)

@[simp] theorem write_db (db : CatalogDb) : (w.write db).db = db := rfl
@[simp] theorem read_db : w.read.db = w.db := rfl
@[simp] theorem write_now (db : CatalogDb) : (w.write db).now = w.now := rfl
@[simp] theorem read_now : w.read.now = w.now := rfl
@[simp] theorem write_held (db : CatalogDb) : (w.write db).held = w.held := rfl
@[simp] theorem read_held : w.read.held = w.held := rfl

theorem foldl_writes {β : Type} (f : β → Time → CatalogDb → CatalogDb) (bs : List β) (w : World) :
    (bs.foldl (fun w b => w.write (f b w.now w.db)) w).db = bs.foldl (fun db b => f b w.now db) w.db := by
  induction bs generalizing w with
  | nil => rfl
  | cons b bs ih => exact ih _

def returned (db : CatalogDb) (batch : List UpsertRow) : List ModelRow := batch.filterMap (fun m => db.find m.key)

def exec (order : Nat → List ModelRow → List ModelRow) : (s : Stmt) → World → Except DbError (Res s) × World
  | .upsertModels batch, w =>
    (.ok (returned (batch.foldl (fun db m => db.upsertOne w.now m) w.db) batch),
      w.write (batch.foldl (fun db m => db.upsertOne w.now m) w.db))
  | .upsertPricing rows, w =>
    if rows.all PricingRow.fits then
      (.ok (), w.write (rows.foldl (fun db row => db.putPricing row.rounded) w.db))
    else (.error .numericOverflow, w)
  | .updateMetadata modelId metadata, w =>
    (.ok ((w.db.rewrite [modelId] (fun d => { d with metadata })).findId modelId).toList,
      w.write (w.db.rewrite [modelId] (fun d => { d with metadata })))
  | .selectRows providerId, w => (.ok (page order w.tick 0 (w.db.select providerId fun _ => true)), w.read)
  | .countActive providerId, w => (.ok ((w.db.select providerId ModelData.isActive).length : Nat), w.read)
  | .selectActive providerId offset, w =>
    (.ok (page order w.tick offset (w.db.select providerId ModelData.isActive)), w.read)
  | .resetSeen ids now, w =>
    (.ok (), w.write (w.db.rewrite ids fun d => { d with lastSeenInProviderAt := some now, consecutiveMissingCount := 0 }))
  | .setMissingCount ids count, w =>
    (.ok (), w.write (w.db.rewrite ids fun d => { d with consecutiveMissingCount := count }))
  | .deactivateStale ids threshold, w =>
    (.ok (), w.write (w.db.rewrite ids fun d => { d with isActive := false, consecutiveMissingCount := threshold }))
  | .selectStale providerId cutoff offset, w =>
    (.ok (page order w.tick offset (w.db.select providerId (ModelData.staleBefore cutoff))), w.read)
  | .deleteModels ids, w => (.ok (), w.write (w.db.delete fun r => !ids.contains r.id))
  | .deactivateProvider providerId, w =>
    (.ok ((w.db.select providerId ModelData.isActive).length : Nat),
      w.write (w.db.modify fun r => if r.key.providerId = providerId then { r.data with isActive := false } else r.data))
  | .markUnservable modelId, w =>
    (.ok (), { w.write (w.db.rewrite [modelId] ModelData.delist) with
      held := ((w.db.findId modelId).map ModelRow.key).toList ++ w.held })
  | .clearMark modelId, w =>
    (.ok (), { w.write (w.db.rewrite [modelId] ModelData.clear) with
      held := w.held.filter fun k => some k ≠ (w.db.findId modelId).map ModelRow.key })
  | .wait duration, w => (.ok (), { w with now := w.now + duration })

end World

def asStored : Nat → List ModelRow → List ModelRow := fun _ rows => rows

theorem asStored_perm : ∀ t rows, (asStored t rows).Perm rows := fun _ _ => .refl _

def emptyWorld : World := { db := .empty, now := 0 }

abbrev CatalogM := Prog DbError Stmt Res

def ask (s : Stmt) : CatalogM (Res s) := Prog.stmt s

end Gatewayz.Catalog
