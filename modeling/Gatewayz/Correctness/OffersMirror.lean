import Gatewayz.Catalog.OffersProjection
import Mathlib.Data.Finset.Max

/-!
# `Correctness.OffersMirror` — the offers table and the catalog

The offers that are built are the cheapest of each group and provider (`mem_buildOfferRows_iff`), whatever order the catalog comes in. A run
leaves them in the table with its stamp. What it did not write is deleted, unless it wrote next to nothing: so offers of models that are gone
stay behind such a run.
-/

namespace Gatewayz.Offers

open Exec.Dictionary

/-! ## The claim -/

def OfferedAs (tables : ProjectionTables) (m : CatalogModel) (key : OfferKey) : Prop :=
  (∃ nativeId, m.providerModelId = some nativeId ∧ nativeId ≠ "" ∧ offerGroupKey tables.aliasMap nativeId = key.canonicalId ∧ key.canonicalId ≠ "") ∧
    tables.slugOf m = some key.providerSlug

/-- An active model for chats is offered at a plausible cost. -/
structure Projects (tables : ProjectionTables) (m : CatalogModel) (key : OfferKey) (cost : ℚ) : Prop where
  active : m.isActive = true
  chat : lower m.modality ∉ nonChatModalities
  offered : OfferedAs tables m key
  priced : costPer1kFromModel m = some cost
  costPlausible : isPlausibleCostPer1k cost = true

/-- The rows mirror the catalog: one for each group and provider, the cheapest, in any order. -/
structure RowsMirror (tables : ProjectionTables) (models : List CatalogModel) : Prop where
  once : ((buildOfferRows tables models).map Offer.key).Nodup
  served : ∀ key, key ∈ (buildOfferRows tables models).map Offer.key ↔ ∃ m ∈ models, ∃ cost, Projects tables m key cost
  cheapest : ∀ offer ∈ buildOfferRows tables models, ∃ m ∈ models, ∃ cost, Projects tables m offer.key cost ∧
    offer.upstreamCost = round10 cost ∧ ∀ m' ∈ models, ∀ cost', Projects tables m' offer.key cost' → cost ≤ cost'
  anyOrder : ∀ models', models'.Perm models → ((buildOfferRows tables models').map fun offer => (offer.key, offer.upstreamCost)).Perm
    ((buildOfferRows tables models).map fun offer => (offer.key, offer.upstreamCost))

def OffersTable.Has (table : OffersTable) (key : OfferKey) : Prop := (table.rows.lookup key).isSome

/-- The table mirrors the catalog after a run. -/
structure TableMirrors (tables : ProjectionTables) (catalog : List CatalogModel) (before after : OffersTable) : Prop where
  noInactive : ∀ key, after.Has key → ∃ m ∈ catalog, m.isActive = true ∧ OfferedAs tables m key
  keepsActive : ∀ m ∈ catalog, ∀ key cost, Projects tables m key cost → before.Has key → after.Has key

/-- What a run leaves: its own offers; of the others, those that have a later stamp, or all of them if it wrote next to nothing; and, if it
took in the whole catalog, the offers of all active models. -/
structure RunMirrors (tables : ProjectionTables) (options : RunOptions) (catalog : List CatalogModel) (stamp : Nat)
    (before after : OffersTable) : Prop where
  written : ∀ offer ∈ offersOf tables options catalog, after.rows.lookup offer.key = some ⟨offer, stamp⟩
  noInactive : staleSweepFloor ≤ (offersOf tables options catalog).length → ∀ key, after.Has key →
    (∃ m ∈ catalog, m.isActive = true ∧ OfferedAs tables m key) ∨ ∃ row, before.rows.lookup key = some row ∧ stamp ≤ row.updatedAt
  keepsAll : (offersOf tables options catalog).length < staleSweepFloor → ∀ key, before.Has key → after.Has key
  keepsActive : options.onlyMulti = false → (∀ n, options.limit = some n → n = 0) → ∀ m ∈ catalog, ∀ key cost, Projects tables m key cost →
    after.Has key

/-! ## Rows -/

variable {key : OfferKey}

section Rows

variable {tables : ProjectionTables} {models : List CatalogModel} {m : CatalogModel} {offer : Offer}

/-- When a row is an offer. -/
theorem offerOf_eq_some_iff : offerOf tables m = some offer ↔ ∃ cost, Projects tables m offer.key cost ∧ offer.upstreamCost = round10 cost ∧
    m.providerModelId = some offer.nativeId ∧ offer.qualityPrior = qualityFromSuccessRate m.successRate ∧
    offer.p50Ms = toIntOrNone m.averageResponseTimeMs := by
  unfold offerOf
  constructor
  · intro h
    split at h
    · exact absurd h nofun
    · next hskip =>
      obtain ⟨hactive, hchat⟩ := not_or.mp hskip
      obtain ⟨nativeId, hnative, h⟩ := Option.bind_eq_some_iff.mp h
      obtain ⟨hnative, hnonempty⟩ := Option.filter_eq_some_iff.mp hnative
      dsimp only at h
      split at h
      · exact absurd h nofun
      · next hgroup =>
        obtain ⟨slug, hslug, h⟩ := Option.bind_eq_some_iff.mp h
        obtain ⟨cost, hcost, rfl⟩ := Option.map_eq_some_iff.mp h
        obtain ⟨hcost, hplausible⟩ := Option.filter_eq_some_iff.mp hcost
        exact ⟨cost, ⟨Bool.eq_true_of_not_eq_false hactive, hchat,
          ⟨⟨nativeId, hnative, of_decide_eq_true hnonempty, rfl, hgroup⟩, hslug⟩, hcost, hplausible⟩, rfl, hnative, rfl, rfl⟩
  · rintro ⟨cost, ⟨hactive, hchat, ⟨⟨nativeId, hnative, hnonempty, hgroup, hkey⟩, hslug⟩, hcost, hplausible⟩, hrounded, hnative', hquality, hp50⟩
    obtain rfl : nativeId = offer.nativeId := Option.some.inj (hnative.symm.trans hnative')
    have hgroup' : offerGroupKey tables.aliasMap offer.nativeId = offer.canonicalId := hgroup
    have hslug' : tables.slugOf m = some offer.providerSlug := hslug
    have hkey' : offer.canonicalId ≠ "" := hkey
    rw [if_neg (by simp [hactive, hchat]), hnative, Option.filter_some, if_pos (decide_eq_true hnonempty), Option.bind_some]
    dsimp only
    rw [hgroup', if_neg hkey', hslug', Option.bind_some, hcost, Option.filter_some, if_pos hplausible, Option.map_some, ← hrounded, ← hquality,
      ← hp50]

theorem offerOf_of_projects {cost : ℚ} (h : Projects tables m key cost) :
    ∃ offer, offerOf tables m = some offer ∧ offer.key = key ∧ offer.upstreamCost = round10 cost := by
  obtain ⟨nativeId, hnative, -⟩ := h.offered.1
  exact ⟨⟨key.canonicalId, key.providerSlug, nativeId, round10 cost, qualityFromSuccessRate m.successRate, toIntOrNone m.averageResponseTimeMs⟩,
    offerOf_eq_some_iff.mpr ⟨cost, h, rfl, hnative, rfl, rfl⟩, rfl, rfl⟩

theorem round10_mono {x y : ℚ} (h : x ≤ y) : round10 x ≤ round10 y := by
  unfold round10
  have hscaled : x * 10000000000 ≤ y * 10000000000 := mul_le_mul_of_nonneg_right h (by norm_num)
  exact div_le_div_of_nonneg_right (Int.cast_le.mpr (roundHalfEven_mono hscaled)) (by norm_num)

/-- The offers that are built are those of the catalog that no other of the same key undercuts. -/
theorem mem_buildOfferRows (h : offer ∈ buildOfferRows tables models) : (∃ m ∈ models, offerOf tables m = some offer) ∧
    ∀ m ∈ models, ∀ other, offerOf tables m = some other → other.key = offer.key → offer.upstreamCost ≤ other.upstreamCost := by
  obtain ⟨⟨key, offer'⟩, hmem, rfl⟩ := List.mem_map.mp h
  have hlookup := (lookup_iff (uniqueKeys_leastByKey _)).mpr hmem
  rcases lookup_leastByKey Offer.upstreamCost ((models.filterMap (offerOf tables)).map fun offer => (offer.key, offer)) key with
    ⟨hnone, -⟩ | ⟨least, hleast, hvalue, hall⟩
  · exact absurd (hnone.symm.trans hlookup) nofun
  · obtain rfl : least = offer' := Option.some.inj (hleast.symm.trans hlookup)
    obtain ⟨offer'', hoffer, heq⟩ := List.mem_map.mp (mem_valuesOf.mp hvalue)
    cases heq
    refine ⟨List.mem_filterMap.mp hoffer, fun m hm other hother hkey => hall other (mem_valuesOf.mpr ?_)⟩
    rw [← hkey]
    exact List.mem_map_of_mem (List.mem_filterMap.mpr ⟨m, hm, hother⟩)

theorem mem_keys_buildOfferRows :
    key ∈ (buildOfferRows tables models).map Offer.key ↔ ∃ m ∈ models, ∃ offer, offerOf tables m = some offer ∧ offer.key = key := by
  constructor
  · intro h
    obtain ⟨offer, hoffer, rfl⟩ := List.mem_map.mp h
    obtain ⟨⟨m, hm, hofferOf⟩, -⟩ := mem_buildOfferRows hoffer
    exact ⟨m, hm, offer, hofferOf, rfl⟩
  · rintro ⟨m, hm, offer, hofferOf, rfl⟩
    have hitem : offer ∈ valuesOf ((models.filterMap (offerOf tables)).map fun offer => (offer.key, offer)) offer.key :=
      mem_valuesOf.mpr (List.mem_map_of_mem (f := fun offer : Offer => (offer.key, offer)) (List.mem_filterMap.mpr ⟨m, hm, hofferOf⟩))
    rcases lookup_leastByKey Offer.upstreamCost _ offer.key with ⟨-, hempty⟩ | ⟨least, hleast, hvalue, -⟩
    · exact absurd (hempty ▸ hitem) List.not_mem_nil
    · have hmem := (lookup_iff (uniqueKeys_leastByKey _)).mp hleast
      obtain ⟨offer', -, heq⟩ := List.mem_map.mp (mem_valuesOf.mp hvalue)
      obtain ⟨hkey, rfl⟩ := Prod.mk.inj heq
      exact hkey ▸ List.mem_map_of_mem (List.mem_map.mpr ⟨_, hmem, rfl⟩)

theorem nodup_keys_buildOfferRows (tables : ProjectionTables) (models : List CatalogModel) :
    ((buildOfferRows tables models).map Offer.key).Nodup := by
  have hkeys : (buildOfferRows tables models).map Offer.key =
      (leastByKey Offer.upstreamCost ((models.filterMap (offerOf tables)).map fun offer => (offer.key, offer))).map Prod.fst := by
    unfold buildOfferRows
    rw [List.map_map]
    refine List.map_congr_left fun entry hentry => ?_
    have hlookup := (lookup_iff (uniqueKeys_leastByKey _)).mpr hentry
    rcases lookup_leastByKey Offer.upstreamCost ((models.filterMap (offerOf tables)).map fun offer => (offer.key, offer)) entry.1 with
      ⟨hnone, -⟩ | ⟨least, hleast, hvalue, -⟩
    · exact absurd (hnone.symm.trans hlookup) nofun
    · obtain ⟨offer, -, heq⟩ := List.mem_map.mp (mem_valuesOf.mp hvalue)
      obtain ⟨hkey, rfl⟩ := Prod.mk.inj heq
      obtain rfl : offer = entry.2 := Option.some.inj (hleast.symm.trans hlookup)
      exact hkey
  rw [hkeys]
  exact uniqueKeys_leastByKey _

/-- Which costs are built: of each key the least one. -/
theorem mem_costs_buildOfferRows {entry : OfferKey × ℚ} :
    entry ∈ (buildOfferRows tables models).map (fun offer => (offer.key, offer.upstreamCost)) ↔
      (∃ m ∈ models, ∃ offer, offerOf tables m = some offer ∧ offer.key = entry.1 ∧ offer.upstreamCost = entry.2) ∧
        ∀ m ∈ models, ∀ offer, offerOf tables m = some offer → offer.key = entry.1 → entry.2 ≤ offer.upstreamCost := by
  constructor
  · intro h
    obtain ⟨offer, hoffer, rfl⟩ := List.mem_map.mp h
    obtain ⟨⟨m, hm, hofferOf⟩, hleast⟩ := mem_buildOfferRows hoffer
    exact ⟨⟨m, hm, offer, hofferOf, rfl, rfl⟩, hleast⟩
  · rintro ⟨⟨m, hm, offer, hofferOf, hkey, hcost⟩, hleast⟩
    obtain ⟨built, hbuilt, hbuiltKey⟩ := List.mem_map.mp (mem_keys_buildOfferRows.mpr ⟨m, hm, offer, hofferOf, hkey⟩)
    obtain ⟨⟨m', hm', hofferOf'⟩, hleast'⟩ := mem_buildOfferRows hbuilt
    have hle := hleast' m hm offer hofferOf (hkey.trans hbuiltKey.symm)
    have hge := hleast m' hm' built hofferOf' hbuiltKey
    refine List.mem_map.mpr ⟨built, hbuilt, Prod.ext hbuiltKey (le_antisymm ?_ hge)⟩
    rwa [hcost] at hle

theorem exists_cheapest {cost : ℚ} (hm : m ∈ models) (h : Projects tables m key cost) :
    ∃ m' ∈ models, ∃ cost', Projects tables m' key cost' ∧ ∀ m'' ∈ models, ∀ cost'', Projects tables m'' key cost'' → cost' ≤ cost'' := by
  classical
  have hcost : ∀ {m cost}, Projects tables m key cost → (costPer1kFromModel m).getD 0 = cost := fun h => by rw [h.priced, Option.getD_some]
  obtain ⟨m', hm', hleast⟩ := Finset.exists_min_image (models.filter fun m => ∃ cost, Projects tables m key cost).toFinset
    (fun m => (costPer1kFromModel m).getD 0) ⟨m, List.mem_toFinset.mpr (List.mem_filter.mpr ⟨hm, decide_eq_true ⟨cost, h⟩⟩)⟩
  obtain ⟨hmem, hprojects⟩ := List.mem_filter.mp (List.mem_toFinset.mp hm')
  obtain ⟨cost', hprojects'⟩ := of_decide_eq_true hprojects
  refine ⟨m', hmem, cost', hprojects', fun m'' hm'' cost'' hprojects'' => ?_⟩
  rw [← hcost hprojects', ← hcost hprojects'']
  exact hleast m'' (List.mem_toFinset.mpr (List.mem_filter.mpr ⟨hm'', decide_eq_true ⟨cost'', hprojects''⟩⟩))

/-- The rows mirror the catalog. -/
theorem rowsMirror (tables : ProjectionTables) (models : List CatalogModel) : RowsMirror tables models where
  once := nodup_keys_buildOfferRows tables models
  served key := by
    rw [mem_keys_buildOfferRows]
    constructor
    · rintro ⟨m, hm, offer, hofferOf, rfl⟩
      obtain ⟨cost, hprojects, -⟩ := offerOf_eq_some_iff.mp hofferOf
      exact ⟨m, hm, cost, hprojects⟩
    · rintro ⟨m, hm, cost, hprojects⟩
      obtain ⟨offer, hofferOf, hkey, -⟩ := offerOf_of_projects hprojects
      exact ⟨m, hm, offer, hofferOf, hkey⟩
  cheapest offer hoffer := by
    obtain ⟨⟨m, hm, hofferOf⟩, hleast⟩ := mem_buildOfferRows hoffer
    obtain ⟨cost, hprojects, hrounded, -⟩ := offerOf_eq_some_iff.mp hofferOf
    obtain ⟨m', hm', cost', hprojects', hcheapest⟩ := exists_cheapest hm hprojects
    refine ⟨m', hm', cost', hprojects', le_antisymm ?_ ?_, hcheapest⟩
    · obtain ⟨offer', hofferOf', hkey', hrounded'⟩ := offerOf_of_projects hprojects'
      rw [← hrounded']
      exact hleast m' hm' offer' hofferOf' hkey'
    · rw [hrounded]
      exact round10_mono (hcheapest m hm cost hprojects)
  anyOrder models' hperm := by
    refine (List.perm_ext_iff_of_nodup ?_ ?_).mpr fun entry => ?_
    · exact List.Nodup.of_map Prod.fst (by rw [List.map_map]; exact nodup_keys_buildOfferRows tables models')
    · exact List.Nodup.of_map Prod.fst (by rw [List.map_map]; exact nodup_keys_buildOfferRows tables models)
    · rw [mem_costs_buildOfferRows, mem_costs_buildOfferRows]
      simp only [hperm.mem_iff]

end Rows

/-! ## A run -/

section Run

variable {limit : Option Int} {rest rows : List CatalogModel} {m : CatalogModel}

theorem mem_sliceTo {n : Int} (h : m ∈ sliceTo n rows) : m ∈ rows := by
  unfold sliceTo at h
  split at h
  · exact List.mem_of_mem_take h
  · exact List.mem_of_mem_take h

theorem mem_fetchPages (h : m ∈ fetchPages limit rest rows) : m ∈ rows ∨ m ∈ rest := by
  fun_induction fetchPages limit rest rows with
  | case1 rest rows batch n hlimit => exact (List.mem_append.mp (mem_sliceTo h)).imp_right List.mem_of_mem_take
  | case2 rest rows batch hlimit hshort => exact (List.mem_append.mp h).imp_right List.mem_of_mem_take
  | case3 rest rows batch hlimit hfull ih =>
    rcases ih h with hrows | hrest
    · exact (List.mem_append.mp hrows).imp_right List.mem_of_mem_take
    · exact .inr (List.mem_of_mem_drop hrest)

theorem fetchPages_unlimited (hlimit : ∀ n, limit = some n → n = 0) : fetchPages limit rest rows = rows ++ rest := by
  fun_induction fetchPages limit rest rows with
  | case1 rest rows batch n hfilter =>
    obtain ⟨hsome, hn⟩ := Option.filter_eq_some_iff.mp hfilter
    exact absurd (hlimit n hsome) (of_decide_eq_true hn).1
  | case2 rest rows batch hfilter hshort =>
    have hall : rest.length ≤ 1000 := by
      have hlength : batch.length = min 1000 rest.length := List.length_take
      omega
    rw [show batch = rest from List.take_of_length_le hall]
  | case3 rest rows batch hfilter hfull ih => rw [ih, List.append_assoc, List.take_append_drop]

theorem mem_fetchActiveModels {catalog : List CatalogModel} (h : m ∈ fetchActiveModels limit catalog) : m ∈ catalog ∧ m.isActive = true := by
  rcases mem_fetchPages h with hnil | hmem
  · exact absurd hnil List.not_mem_nil
  · exact List.mem_filter.mp hmem

/-! ## The table -/

variable {tables : ProjectionTables} {options : RunOptions} {catalog : List CatalogModel} {stamp : Nat} {table : OffersTable}

theorem rows_upsertOffers (table : OffersTable) (offers : List Offer) (stamp : Nat) :
    (upsertOffers table offers stamp).rows =
      (offers.map fun offer => (offer.key, (⟨offer, stamp⟩ : TableRow))).foldl (fun d e => put d e.1 e.2) table.rows := by
  have hbatches : upsertOffers table offers stamp = offers.foldl (·.upsert stamp) table := by
    unfold upsertOffers
    rw [← List.foldl_flatten, Exec.flatten_chunks (by norm_num)]
  rw [hbatches]
  induction offers generalizing table with
  | nil => rfl
  | cons offer offers ih =>
    have hrest : upsertOffers (table.upsert stamp offer) offers stamp = offers.foldl (·.upsert stamp) (table.upsert stamp offer) := by
      unfold upsertOffers
      rw [← List.foldl_flatten, Exec.flatten_chunks (by norm_num)]
    rw [List.foldl_cons, ih _ hrest]
    rfl

theorem lookup_upsertOffers {offers : List Offer} (hkeys : (offers.map Offer.key).Nodup) (key : OfferKey) (row : TableRow) :
    (upsertOffers table offers stamp).rows.lookup key = some row ↔
      (∃ offer ∈ offers, offer.key = key ∧ row = ⟨offer, stamp⟩) ∨ key ∉ offers.map Offer.key ∧ table.rows.lookup key = some row := by
  have hlast : ∀ v, (valuesOf (offers.map fun offer => (offer.key, (⟨offer, stamp⟩ : TableRow))) key).getLast? = some v →
      ∃ offer ∈ offers, offer.key = key ∧ v = ⟨offer, stamp⟩ := by
    intro v hv
    obtain ⟨offer, hoffer, heq⟩ := List.mem_map.mp (mem_valuesOf.mp (List.mem_of_getLast? hv))
    obtain ⟨hkey, rfl⟩ := Prod.mk.inj heq
    exact ⟨offer, hoffer, hkey, rfl⟩
  rw [rows_upsertOffers, lookup_foldl_put]
  cases hvalue : (valuesOf (offers.map fun offer => (offer.key, (⟨offer, stamp⟩ : TableRow))) key).getLast? with
  | none =>
    have hnew : key ∉ offers.map Offer.key := by
      intro hmem
      obtain ⟨offer, hoffer, rfl⟩ := List.mem_map.mp hmem
      have hitem : (⟨offer, stamp⟩ : TableRow) ∈ valuesOf (offers.map fun offer => (offer.key, (⟨offer, stamp⟩ : TableRow))) offer.key :=
        mem_valuesOf.mpr (List.mem_map_of_mem (f := fun offer : Offer => (offer.key, (⟨offer, stamp⟩ : TableRow))) hoffer)
      exact absurd (List.getLast?_eq_none_iff.mp hvalue ▸ hitem) List.not_mem_nil
    rw [Option.none_or]
    constructor
    · exact fun h => .inr ⟨hnew, h⟩
    · rintro (⟨offer, hoffer, rfl, -⟩ | ⟨-, h⟩)
      · exact absurd (List.mem_map_of_mem hoffer) hnew
      · exact h
  | some v =>
    obtain ⟨offer, hoffer, hkey, rfl⟩ := hlast v hvalue
    rw [Option.some_or]
    constructor
    · intro h
      exact .inl ⟨offer, hoffer, hkey, (Option.some.inj h).symm⟩
    · rintro (⟨offer', hoffer', hkey', rfl⟩ | ⟨hnew, -⟩)
      · rw [List.inj_on_of_nodup_map hkeys hoffer' hoffer (hkey'.trans hkey.symm)]
      · exact absurd (hkey ▸ List.mem_map_of_mem hoffer) hnew

theorem lookup_deleteStaleOffers {written : Nat} {row : TableRow} :
    (deleteStaleOffers table stamp written).rows.lookup key = some row ↔
      table.rows.lookup key = some row ∧ (written < staleSweepFloor ∨ stamp ≤ row.updatedAt) := by
  unfold deleteStaleOffers
  split
  · next hfloor => exact (and_iff_left (.inl hfloor)).symm
  · next hfloor =>
    rw [lookup_iff (OffersTable.unique _), List.mem_filter, lookup_iff table.unique, or_iff_right hfloor, decide_eq_true_eq, not_lt]

theorem nodup_keys_offersOf (tables : ProjectionTables) (options : RunOptions) (catalog : List CatalogModel) :
    ((offersOf tables options catalog).map Offer.key).Nodup := by
  unfold offersOf
  dsimp only
  split
  · exact (nodup_keys_buildOfferRows tables _).sublist (List.filter_sublist.map _)
  · exact nodup_keys_buildOfferRows tables _

/-- The table after a run. -/
theorem lookup_refreshOffersProjection (hwrite : options.dryRun = false) {row : TableRow} :
    (refreshOffersProjection tables options catalog stamp table).rows.lookup key = some row ↔
      (∃ offer ∈ offersOf tables options catalog, offer.key = key ∧ row = ⟨offer, stamp⟩) ∨
        key ∉ (offersOf tables options catalog).map Offer.key ∧ table.rows.lookup key = some row ∧
          ((offersOf tables options catalog).length < staleSweepFloor ∨ stamp ≤ row.updatedAt) := by
  unfold refreshOffersProjection
  rw [if_neg (by simp [hwrite])]
  dsimp only
  rw [lookup_deleteStaleOffers, lookup_upsertOffers (nodup_keys_offersOf tables options catalog)]
  constructor
  · rintro ⟨hwritten | ⟨hnew, hold⟩, hkept⟩
    · exact .inl hwritten
    · exact .inr ⟨hnew, hold, hkept⟩
  · rintro (⟨offer, hoffer, hkey, rfl⟩ | ⟨hnew, hold, hkept⟩)
    · exact ⟨.inl ⟨offer, hoffer, hkey, rfl⟩, .inr le_rfl⟩
    · exact ⟨.inr ⟨hnew, hold⟩, hkept⟩

theorem active_of_mem_offersOf {offer : Offer} (h : offer ∈ offersOf tables options catalog) :
    ∃ m ∈ catalog, m.isActive = true ∧ OfferedAs tables m offer.key := by
  have hbuilt : offer ∈ buildOfferRows tables (fetchActiveModels options.limit catalog) := by
    unfold offersOf at h
    dsimp only at h
    split at h
    · exact (List.mem_filter.mp h).1
    · exact h
  obtain ⟨⟨m, hm, hofferOf⟩, -⟩ := mem_buildOfferRows hbuilt
  obtain ⟨cost, hprojects, -⟩ := offerOf_eq_some_iff.mp hofferOf
  exact ⟨m, (mem_fetchActiveModels hm).1, hprojects.active, hprojects.offered⟩

/-- What a run leaves. -/
theorem runMirrors (hwrite : options.dryRun = false) :
    RunMirrors tables options catalog stamp table (refreshOffersProjection tables options catalog stamp table) where
  written offer hoffer := (lookup_refreshOffersProjection hwrite).mpr (.inl ⟨offer, hoffer, rfl, rfl⟩)
  noInactive hfloor key hkey := by
    obtain ⟨row, hrow⟩ := Option.isSome_iff_exists.mp hkey
    rcases (lookup_refreshOffersProjection hwrite).mp hrow with ⟨offer, hoffer, rfl, -⟩ | ⟨-, hold, hkept⟩
    · exact .inl (active_of_mem_offersOf hoffer)
    · exact .inr ⟨row, hold, hkept.resolve_left (not_lt.mpr hfloor)⟩
  keepsAll hfloor key hkey := by
    obtain ⟨row, hrow⟩ := Option.isSome_iff_exists.mp hkey
    by_cases hmem : key ∈ (offersOf tables options catalog).map Offer.key
    · obtain ⟨offer, hoffer, rfl⟩ := List.mem_map.mp hmem
      exact Option.isSome_iff_exists.mpr ⟨_, (lookup_refreshOffersProjection hwrite).mpr (.inl ⟨offer, hoffer, rfl, rfl⟩)⟩
    · exact Option.isSome_iff_exists.mpr ⟨_, (lookup_refreshOffersProjection hwrite).mpr (.inr ⟨hmem, hrow, .inl hfloor⟩)⟩
  keepsActive hmulti hlimit m hm key cost hprojects := by
    have hfetch : fetchActiveModels options.limit catalog = catalog.filter CatalogModel.isActive := fetchPages_unlimited hlimit
    have hoffers : offersOf tables options catalog = buildOfferRows tables (catalog.filter CatalogModel.isActive) := by
      unfold offersOf
      rw [hfetch, hmulti]
      rfl
    have hserved := (rowsMirror tables (catalog.filter CatalogModel.isActive)).served key
    obtain ⟨offer, hoffer, rfl⟩ := List.mem_map.mp
      (hserved.mpr ⟨m, List.mem_filter.mpr ⟨hm, hprojects.active⟩, cost, hprojects⟩)
    exact Option.isSome_iff_exists.mpr ⟨_, (lookup_refreshOffersProjection hwrite).mpr (.inl ⟨offer, hoffers ▸ hoffer, rfl, rfl⟩)⟩

end Run

/-! ## The whole claim -/

/-- **The projection mirrors the catalog**, as far as a run takes it in and sweeps. -/
theorem offers_mirror (tables : ProjectionTables) (catalog : List CatalogModel) :
    RowsMirror tables catalog ∧ ∀ (onlyMulti : Bool) (limit : Option Int) (stamp : Nat) (before : OffersTable),
      RunMirrors tables ⟨onlyMulti, false, limit⟩ catalog stamp before
        (refreshOffersProjection tables ⟨onlyMulti, false, limit⟩ catalog stamp before) :=
  ⟨rowsMirror tables catalog, fun _ _ _ _ => runMirrors rfl⟩

def delistedOffer : Offer := ⟨"llama", "novita", "llama", 1 / 100, 1 / 2, none⟩

def delistedTable : OffersTable := ⟨[(delistedOffer.key, ⟨delistedOffer, 0⟩)], List.nodup_singleton _⟩

/-- **A run that writes next to nothing** leaves the offers of models that are gone. -/
theorem delisted_stays : ¬∀ tables catalog, RowsMirror tables catalog ∧
    ∀ (onlyMulti : Bool) (limit : Option Int) (stamp : Nat) (before : OffersTable),
      TableMirrors tables catalog before (refreshOffersProjection tables ⟨onlyMulti, false, limit⟩ catalog stamp before) := by
  intro h
  have hhas : (refreshOffersProjection {} ⟨false, false, none⟩ [] 1 delistedTable).Has delistedOffer.key :=
    (runMirrors rfl).keepsAll (by decide +kernel) _ rfl
  obtain ⟨m, hm, -⟩ := ((h {} []).2 false none 1 delistedTable).noInactive _ hhas
  exact absurd hm List.not_mem_nil

end Gatewayz.Offers
