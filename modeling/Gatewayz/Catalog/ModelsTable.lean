import Gatewayz.Billing.Tables
import Gatewayz.Catalog.PriceUnits
import Gatewayz.Exec.Batches
import Mathlib.Data.List.Nodup

/-!
# `Catalog.ModelsTable` — the `models` and `model_pricing` tables

The columns of `models` that the jobs over it read or are judged by, and `model_pricing`, the second copy of a price. A
`CatalogDb` carries what the schema promises: keys are unique, a price belongs to a model, and there is one price at most
for each.
-/

namespace Gatewayz.Catalog

open Exec Prices

/-! ## Rows -/

/-- `(provider_id, provider_model_id)`, unique. -/
structure ModelKey where
  providerId : Nat
  providerModelId : String
  deriving DecidableEq

structure Metadata where
  pricingRaw : Option PriceTable := none
  delistReason : Option String := none
  deriving DecidableEq

structure ModelData where
  isActive : Bool
  metadata : Metadata
  consecutiveMissingCount : Nat := 0
  lastSeenInProviderAt : Option Time
  deriving DecidableEq

/-- A row of `models`. -/
structure ModelRow where
  id : Nat
  key : ModelKey
  data : ModelData
  deriving DecidableEq

/-- A row of `model_pricing`. -/
structure PricingRow where
  modelId : Nat
  pricePerInputToken : ℚ
  pricePerOutputToken : ℚ
  pricePerImageToken : Option ℚ := none
  pricePerRequest : Option ℚ := none
  paid : Bool

/-! ## The two tables -/

structure CatalogDb where
  models : List ModelRow
  pricing : List PricingRow
  nextId : Nat
  ids : (models.map ModelRow.id).Nodup
  keys : (models.map ModelRow.key).Nodup
  fresh : ∀ r ∈ models, r.id < nextId
  priced : ∀ p ∈ pricing, ∃ r ∈ models, r.id = p.modelId
  pricedOnce : (pricing.map PricingRow.modelId).Nodup

theorem fresh_nil : ∀ r ∈ ([] : List ModelRow), r.id < 1 := fun _ h => absurd h List.not_mem_nil

theorem priced_nil (rows : List ModelRow) : ∀ p ∈ ([] : List PricingRow), ∃ r ∈ rows, r.id = p.modelId :=
  fun _ h => absurd h List.not_mem_nil

namespace CatalogDb

def empty : CatalogDb := ⟨[], [], 1, List.nodup_nil, List.nodup_nil, fresh_nil, priced_nil [], List.nodup_nil⟩

variable (db : CatalogDb)

theorem eq_of_id {r r' : ModelRow} (hr : r ∈ db.models) (hr' : r' ∈ db.models) (h : r.id = r'.id) : r = r' :=
  List.inj_on_of_nodup_map db.ids hr hr' h

theorem eq_of_key {r r' : ModelRow} (hr : r ∈ db.models) (hr' : r' ∈ db.models) (h : r.key = r'.key) : r = r' :=
  List.inj_on_of_nodup_map db.keys hr hr' h

def find (key : ModelKey) : Option ModelRow := db.models.find? (fun r => r.key = key)

def findId (id : Nat) : Option ModelRow := db.models.find? (fun r => r.id = id)

def pricingOf (id : Nat) : Option PricingRow := db.pricing.find? (fun p => p.modelId = id)

variable {r : ModelRow}

theorem find_eq_some {key : ModelKey} : db.find key = some r ↔ r ∈ db.models ∧ r.key = key := by
  constructor
  · intro h
    exact ⟨List.mem_of_find?_eq_some h, by simpa using List.find?_some h⟩
  · rintro ⟨hr, rfl⟩
    cases h : db.find r.key with
    | none =>
      have hall := List.find?_eq_none.mp h r hr
      simp at hall
    | some r' =>
      have hkey : r'.key = r.key := by simpa using List.find?_some h
      rw [db.eq_of_key (List.mem_of_find?_eq_some h) hr hkey]

theorem find_eq_none {key : ModelKey} : db.find key = none ↔ ∀ r ∈ db.models, r.key ≠ key := by
  simp [find, List.find?_eq_none]

theorem findId_eq_some {id : Nat} : db.findId id = some r ↔ r ∈ db.models ∧ r.id = id := by
  constructor
  · intro h
    exact ⟨List.mem_of_find?_eq_some h, by simpa using List.find?_some h⟩
  · rintro ⟨hr, rfl⟩
    cases h : db.findId r.id with
    | none =>
      have hall := List.find?_eq_none.mp h r hr
      simp at hall
    | some r' =>
      have hid : r'.id = r.id := by simpa using List.find?_some h
      rw [db.eq_of_id (List.mem_of_find?_eq_some h) hr hid]

theorem pricingOf_fresh {id : Nat} (h : db.nextId ≤ id) : db.pricingOf id = none := by
  refine List.find?_eq_none.mpr fun p hp => ?_
  obtain ⟨r, hr, hid⟩ := db.priced p hp
  have hlt := db.fresh r hr
  simp only [decide_eq_true_eq]
  omega

/-! ### Rewriting -/

/-- `UPDATE models`: the data of every row, by the row. -/
def modify (f : ModelRow → ModelData) : CatalogDb where
  models := db.models.map (fun r => { r with data := f r })
  pricing := db.pricing
  nextId := db.nextId
  ids := by rw [List.map_map]; exact db.ids
  keys := by rw [List.map_map]; exact db.keys
  fresh := by
    intro r hr
    obtain ⟨r', hr', rfl⟩ := List.mem_map.mp hr
    exact db.fresh r' hr'
  priced := by
    intro p hp
    obtain ⟨r, hr, hid⟩ := db.priced p hp
    exact ⟨_, List.mem_map.mpr ⟨r, hr, rfl⟩, hid⟩
  pricedOnce := db.pricedOnce

theorem mem_modify {f : ModelRow → ModelData} :
    r ∈ (db.modify f).models ↔ ∃ r' ∈ db.models, { r' with data := f r' } = r :=
  List.mem_map

variable (f : ModelRow → ModelData)

@[simp] theorem pricingOf_modify (id : Nat) : (db.modify f).pricingOf id = db.pricingOf id := rfl

@[simp] theorem find_modify (key : ModelKey) :
    (db.modify f).find key = (db.find key).map (fun r => { r with data := f r }) :=
  List.find?_map ..

@[simp] theorem findId_modify (id : Nat) :
    (db.modify f).findId id = (db.findId id).map (fun r => { r with data := f r }) :=
  List.find?_map ..

/-! ### Inserting -/

theorem nodup_concat_id (row : ModelRow) (hid : row.id = db.nextId) : ((db.models ++ [row]).map ModelRow.id).Nodup := by
  rw [List.map_append, List.nodup_append]
  refine ⟨db.ids, List.nodup_singleton _, ?_⟩
  intro a ha b hb
  obtain ⟨r, hr, rfl⟩ := List.mem_map.mp ha
  rw [List.map_singleton, List.mem_singleton] at hb
  have hlt := db.fresh r hr
  omega

theorem nodup_concat_key (row : ModelRow) (hkey : db.find row.key = none) :
    ((db.models ++ [row]).map ModelRow.key).Nodup := by
  rw [List.map_append, List.nodup_append]
  refine ⟨db.keys, List.nodup_singleton _, ?_⟩
  intro a ha b hb
  obtain ⟨r, hr, rfl⟩ := List.mem_map.mp ha
  rw [List.map_singleton, List.mem_singleton] at hb
  rw [hb]
  exact db.find_eq_none.mp hkey r hr

/-- `INSERT INTO models`, of a key that is not there. -/
def insert (key : ModelKey) (data : ModelData) (h : db.find key = none) : CatalogDb where
  models := db.models ++ [⟨db.nextId, key, data⟩]
  pricing := db.pricing
  nextId := db.nextId + 1
  ids := db.nodup_concat_id _ rfl
  keys := db.nodup_concat_key _ h
  fresh := by
    intro r hr
    rcases List.mem_append.mp hr with hr | hr
    · exact Nat.lt_succ_of_lt (db.fresh r hr)
    · rw [List.mem_singleton.mp hr]
      exact Nat.lt_succ_self _
  priced := by
    intro p hp
    obtain ⟨r, hr, hid⟩ := db.priced p hp
    exact ⟨r, List.mem_append_left _ hr, hid⟩
  pricedOnce := db.pricedOnce

section Insert

variable {key : ModelKey} {data : ModelData} (h : db.find key = none)

theorem mem_insert : r ∈ (db.insert key data h).models ↔ r ∈ db.models ∨ r = ⟨db.nextId, key, data⟩ := by
  rw [insert, List.mem_append, List.mem_singleton]

@[simp] theorem pricingOf_insert (id : Nat) : (db.insert key data h).pricingOf id = db.pricingOf id := rfl

theorem find_insert (key' : ModelKey) :
    (db.insert key data h).find key' = if key = key' then some ⟨db.nextId, key, data⟩ else db.find key' := by
  by_cases hkey : key = key'
  · subst hkey
    rw [if_pos rfl, find_eq_some]
    exact ⟨(db.mem_insert h).mpr (.inr rfl), rfl⟩
  · rw [if_neg hkey]
    simp [find, insert, List.find?_append, hkey]

end Insert

/-! ### Deleting -/

/-- `DELETE FROM models`: the rows that pass stay, and so do their prices. -/
def delete (keep : ModelRow → Bool) : CatalogDb where
  models := db.models.filter keep
  pricing := db.pricing.filter (fun p => (db.models.filter keep).any (fun r => r.id = p.modelId))
  nextId := db.nextId
  ids := (List.filter_sublist.map _).nodup db.ids
  keys := (List.filter_sublist.map _).nodup db.keys
  fresh := fun r hr => db.fresh r (List.mem_of_mem_filter hr)
  priced := by
    intro p hp
    obtain ⟨r, hr, hid⟩ := List.any_eq_true.mp (List.mem_filter.mp hp).2
    exact ⟨r, hr, by simpa using hid⟩
  pricedOnce := (List.filter_sublist.map _).nodup db.pricedOnce

theorem mem_delete {keep : ModelRow → Bool} : r ∈ (db.delete keep).models ↔ r ∈ db.models ∧ keep r = true :=
  List.mem_filter

/-! ### Prices -/

/-- `UPSERT INTO model_pricing`, of one row; a price without a model is refused. -/
def putPricing (row : PricingRow) : CatalogDb :=
  if h : db.models.any (fun r => r.id = row.modelId) = true then
    { db with
      pricing := row :: db.pricing.filter (fun p => p.modelId ≠ row.modelId)
      priced := by
        intro p hp
        rcases List.mem_cons.mp hp with rfl | hp
        · obtain ⟨r, hr, hid⟩ := List.any_eq_true.mp h
          exact ⟨r, hr, by simpa using hid⟩
        · exact db.priced p (List.mem_of_mem_filter hp)
      pricedOnce := by
        rw [List.map_cons, List.nodup_cons]
        refine ⟨?_, (List.filter_sublist.map _).nodup db.pricedOnce⟩
        intro hmem
        obtain ⟨p, hp, hid⟩ := List.mem_map.mp hmem
        have hne := (List.mem_filter.mp hp).2
        simp [hid] at hne }
  else db

@[simp] theorem models_putPricing (row : PricingRow) : (db.putPricing row).models = db.models := by
  rw [putPricing]
  split <;> rfl

@[simp] theorem find_putPricing (row : PricingRow) (key : ModelKey) : (db.putPricing row).find key = db.find key := by
  rw [find, models_putPricing]
  rfl

theorem pricingOf_putPricing {row : PricingRow} (h : ∃ r ∈ db.models, r.id = row.modelId) (id : Nat) :
    (db.putPricing row).pricingOf id = if row.modelId = id then some row else db.pricingOf id := by
  have hany : db.models.any (fun r => r.id = row.modelId) = true := by
    obtain ⟨r, hr, hid⟩ := h
    exact List.any_eq_true.mpr ⟨r, hr, by simpa using hid⟩
  rw [putPricing, dif_pos hany, pricingOf, List.find?_cons]
  by_cases hid : row.modelId = id
  · simp [hid]
  · simp only [hid, decide_false, if_false]
    rw [pricingOf, List.find?_filter]
    refine congrArg (List.find? · db.pricing) (funext fun p => ?_)
    by_cases hp : p.modelId = id
    · subst hp
      simp [Ne.symm hid]
    · simp [hp]

end CatalogDb

end Gatewayz.Catalog
