import Gatewayz.Catalog.PriceRefresh
import Mathlib.Data.List.Induction
import Mathlib.Data.List.Nodup

/-!
# `Correctness.PriceRefreshAgrees` — when the price refresh stores what the full sync stores

The two jobs take a price through the same steps, but for two: only the sync knows that an enriched price is per token
already, and only the sync refuses an implausible one.
-/

namespace Gatewayz.Prices

/-! ## One price -/

/-- The two jobs make the same of a price that is not zero: it did not come from enrichment unless the provider is per token
anyway, and it is plausible. A negative price is dropped by the sync, which the conversion anticipates. -/
def PriceAgrees (format : PricingFormat) (alreadyPerToken : Bool) (p : ℚ) : Prop :=
  (alreadyPerToken = true → format = .perToken) ∧
    if p < 0 then format ≠ .perToken else priceFloor ≤ p / format.tokens

theorem priceFloor_pos : 0 < priceFloor := by norm_num [priceFloor]

theorem gate_eq_self_iff (p : ℚ) : gate (some p) = some p ↔ p = 0 ∨ priceFloor ≤ p := by
  by_cases h : p ≠ 0 ∧ p < priceFloor
  · rw [gate, if_pos h]
    refine iff_of_false (Option.some_ne_none p).symm ?_
    rintro (hzero | hfloor)
    · exact h.1 hzero
    · exact absurd h.2 (not_lt.mpr hfloor)
  · rw [gate, if_neg h]
    refine iff_of_true rfl ?_
    by_cases hzero : p = 0
    · exact .inl hzero
    · exact .inr (not_lt.mp fun hlt => h ⟨hzero, hlt⟩)

@[simp] theorem gate_zero : gate (some 0) = some 0 := (gate_eq_self_iff 0).mpr (.inl rfl)

@[simp] theorem gate_none : gate none = none := rfl

theorem gate_cases (p : ℚ) : gate (some p) = none ∨ gate (some p) = some p := by
  rw [gate]
  split
  · exact .inl rfl
  · exact .inr rfl

variable (format : PricingFormat)

@[simp] theorem convert_zero : convert format (some 0) = some 0 := rfl

@[simp] theorem convert_none : convert format none = none := rfl

theorem convert_pos {p : ℚ} (hp : 0 < p) (format : PricingFormat) : convert format (some p) = some (p / format.tokens) := by
  rw [convert, if_neg hp.ne', normalizeToPerToken_pos hp]
  rfl

theorem convert_neg {p : ℚ} (hp : p < 0) (format : PricingFormat) : convert format (some p) = some 0 := by
  rw [convert, if_neg hp.ne, normalizeToPerToken_neg hp]
  rfl

theorem convert_isSome (price : Option ℚ) : (convert format price).isSome = price.isSome := by
  cases price with
  | none => rfl
  | some p =>
    rw [convert]
    split <;> rfl

theorem same_converted_iff {format : PricingFormat} (hformat : format ≠ .perToken) (tagged : Bool) {p : ℚ} (hp : p ≠ 0) :
    gate (if tagged = false then convert format (some p) else some p) = convert format (some p) ↔
      PriceAgrees format tagged p := by
  have htokens := PricingFormat.one_lt_tokens hformat
  have hpos := format.tokens_pos
  cases tagged with
  | false =>
    rw [if_pos rfl]
    rcases lt_or_gt_of_ne hp with hneg | hp
    · rw [convert_neg hneg, gate_zero]
      refine iff_of_true rfl ⟨fun h => absurd h Bool.false_ne_true, ?_⟩
      rw [if_pos hneg]
      exact hformat
    · rw [convert_pos hp, gate_eq_self_iff, PriceAgrees, if_neg (not_lt.mpr hp.le)]
      have hne : p / format.tokens ≠ 0 := (div_pos hp hpos).ne'
      simp [hne]
  | true =>
    -- an enriched price is divided a second time, which no price survives
    rw [if_neg (by simp)]
    refine iff_of_false ?_ fun h => hformat (h.1 rfl)
    rcases lt_or_gt_of_ne hp with hneg | hp
    · rw [convert_neg hneg]
      rcases gate_cases p with hg | hg
      · rw [hg]
        exact (Option.some_ne_none _).symm
      · rw [hg]
        intro h
        exact hneg.ne (Option.some.inj h)
    · rw [convert_pos hp]
      rcases gate_cases p with hg | hg
      · rw [hg]
        exact (Option.some_ne_none _).symm
      · rw [hg]
        intro h
        have hless : p / format.tokens < p := div_lt_self hp htokens
        exact hless.ne (Option.some.inj h).symm

theorem same_perToken_iff (tagged : Bool) {p : ℚ} (hp : p ≠ 0) :
    gate (some p) = some p ↔ PriceAgrees .perToken tagged p := by
  rw [gate_eq_self_iff, PriceAgrees]
  simp only [PricingFormat.tokens, div_one, implies_true, true_and, ne_eq, not_true_eq_false, hp, false_or]
  by_cases hneg : p < 0
  · rw [if_pos hneg]
    exact iff_of_false (not_le.mpr (hneg.trans priceFloor_pos)) not_false
  · rw [if_neg hneg]

/-! ## One model -/

section Model

variable (declared : String → Option String) (providerSlug : String)

def FetchedModel.SameUnits (m : FetchedModel) : Prop :=
  m.isFree = true ∨ ∀ f p, m.pricing.get f = some p → p ≠ 0 →
    PriceAgrees (m.format declared providerSlug) m.alreadyPerToken p

variable (m : FetchedModel)

theorem same_iff : syncPricing declared providerSlug m = extractNormalizedPricing declared providerSlug m ↔
      m.SameUnits declared providerSlug := by
  by_cases hfree : m.isFree = true
  · -- zero is zero in every unit
    refine iff_of_true ?_ (.inl hfree)
    refine PriceTable.ext_get fun f => ?_
    have hzero : m.pricingOrFree = ⟨some 0, some 0, some 0, some 0⟩ := if_pos hfree
    simp only [syncPricing, extractNormalizedPricing, hzero]
    cases f <;> (split <;> split <;> simp_all [PriceTable.map, PriceTable.get])
  have hpricing : m.pricingOrFree = m.pricing := if_neg hfree
  have hfields : syncPricing declared providerSlug m = extractNormalizedPricing declared providerSlug m ↔
      ∀ f, (syncPricing declared providerSlug m).get f = (extractNormalizedPricing declared providerSlug m).get f :=
    ⟨fun h f => by rw [h], fun h => PriceTable.ext_get h⟩
  rw [hfields, FetchedModel.SameUnits, or_iff_right hfree]
  refine forall_congr' fun f => ?_
  by_cases hformat : m.format declared providerSlug = .perToken
  · have hsync : (syncPricing declared providerSlug m).get f = gate (m.pricing.get f) := by
      simp [syncPricing, hformat, hpricing]
    have hextract : (extractNormalizedPricing declared providerSlug m).get f = m.pricing.get f := by
      simp [extractNormalizedPricing, hformat, hpricing]
    rw [hsync, hextract, hformat]
    cases hprice : m.pricing.get f with
    | none => simp
    | some p =>
      by_cases hp : p = 0
      · subst hp
        simp
      · rw [same_perToken_iff m.alreadyPerToken hp]
        exact ⟨fun h q hq _ => Option.some.inj hq ▸ h, fun h => h p rfl hp⟩
  · have hsync : (syncPricing declared providerSlug m).get f =
        gate (if m.alreadyPerToken = false then convert (m.format declared providerSlug) (m.pricing.get f)
          else m.pricing.get f) := by
      simp only [syncPricing, hpricing, PriceTable.get_map]
      cases m.alreadyPerToken <;> simp [hformat]
    have hextract : (extractNormalizedPricing declared providerSlug m).get f =
        convert (m.format declared providerSlug) (m.pricing.get f) := by
      simp [extractNormalizedPricing, hformat, hpricing]
    rw [hsync, hextract]
    cases hprice : m.pricing.get f with
    | none => cases m.alreadyPerToken <;> simp
    | some p =>
      by_cases hp : p = 0
      · subst hp
        cases m.alreadyPerToken <;> simp
      · rw [same_converted_iff hformat m.alreadyPerToken hp]
        exact ⟨fun h q hq _ => Option.some.inj hq ▸ h, fun h => h p rfl hp⟩

theorem extract_isSome (f : PriceField) :
    ((extractNormalizedPricing declared providerSlug m).get f).isSome = (m.pricingOrFree.get f).isSome := by
  rw [extractNormalizedPricing]
  split
  · rw [PriceTable.get_map, convert_isSome]
  · rfl

theorem extract_isEmpty : (extractNormalizedPricing declared providerSlug m).isEmpty = m.pricingOrFree.isEmpty := by
  simp only [PriceTable.isEmpty, ← Option.not_isSome, extract_isSome]

end Model

/-! ## The rows after a refresh -/

def PriceRow.after (r : PriceRow) (writes : List PriceWrite) : PriceRow :=
  writes.foldl (fun r w => if r.id = w.row.id then { r with pricingRaw := some w.pricing } else r) r

theorem existingRow_updatePricing (rows : List PriceRow) (id : Nat) (pricing : PriceTable) (pmid : String) :
    existingRow (updatePricing rows id pricing) pmid =
      (existingRow rows pmid).map fun r => if r.id = id then { r with pricingRaw := some pricing } else r := by
  rw [existingRow, updatePricing, List.find?_map]
  congr 1
  refine congrArg (List.find? · rows) (funext fun r => ?_)
  by_cases hr : r.id = id <;> simp [hr]

theorem existingRow_after (writes : List PriceWrite) (rows : List PriceRow) (pmid : String) :
    existingRow (writes.foldl PriceWrite.apply rows) pmid = (existingRow rows pmid).map fun r => r.after writes := by
  induction writes generalizing rows with
  | nil => simp [PriceRow.after]
  | cons w writes ih =>
    rw [List.foldl_cons, ih, PriceWrite.apply, existingRow_updatePricing, Option.map_map]
    rfl

@[simp] theorem after_id (r : PriceRow) (writes : List PriceWrite) : (r.after writes).id = r.id := by
  induction writes generalizing r with
  | nil => rfl
  | cons w writes ih =>
    refine (ih _).trans ?_
    dsimp only
    split <;> rfl

theorem after_cases (r : PriceRow) (writes : List PriceWrite) :
    (∃ w ∈ writes, w.row.id = r.id ∧ (r.after writes).stored = w.pricing) ∨
      ((∀ w ∈ writes, w.row.id ≠ r.id) ∧ r.after writes = r) := by
  induction writes using List.reverseRecOn with
  | nil => exact .inr ⟨fun w hw => absurd hw List.not_mem_nil, rfl⟩
  | append_singleton writes w ih =>
    have hlast : r.after (writes ++ [w]) =
        if (r.after writes).id = w.row.id then { r.after writes with pricingRaw := some w.pricing }
        else r.after writes := by
      rw [PriceRow.after, List.foldl_append]
      rfl
    by_cases hw : r.id = w.row.id
    · refine .inl ⟨w, List.mem_append_right _ (List.mem_singleton.mpr rfl), hw.symm, ?_⟩
      rw [hlast, after_id, if_pos hw]
      rfl
    · rw [hlast, after_id, if_neg hw]
      rcases ih with ⟨w', hw', hid', hstored⟩ | ⟨hnone, hsame⟩
      · exact .inl ⟨w', List.mem_append_left _ hw', hid', hstored⟩
      · refine .inr ⟨fun w' hw' => ?_, hsame⟩
        rcases List.mem_append.mp hw' with hw' | hw'
        · exact hnone w' hw'
        · rw [List.mem_singleton.mp hw']
          exact Ne.symm hw

/-! ## A refresh -/

section Refresh

variable (declared : String → Option String) (providerSlug : String)

def Matches (rows : List PriceRow) (m : FetchedModel) (r : PriceRow) : Prop :=
  ∃ pmid, m.pmid = some pmid ∧ existingRow rows pmid = some r

/-- The refresh stores what the sync would: every price it writes is the one that the sync stores for the model, no
write forgets a price that the row knows, and a second refresh on the same models writes nothing. -/
structure StoresAsSync (rows : List PriceRow) (fetched : List FetchedModel) : Prop where
  same : ∀ w ∈ (refreshProviderPrices declared providerSlug false rows fetched).writes,
    ∃ d, transformNormalizedModel declared providerSlug true w.model = some d ∧ d.pricingRaw = some w.pricing
  keeps : ∀ w ∈ (refreshProviderPrices declared providerSlug false rows fetched).writes,
    ∀ f, (w.row.stored.get f).isSome → (w.pricing.get f).isSome
  settles : (refreshProviderPrices declared providerSlug false
    (refreshProviderPrices declared providerSlug false rows fetched).rows fetched).updated = 0

/-- The condition, on the fetched models and the rows: where the price of a model has moved, the model has a name and the
same units in both jobs; where anything was fetched, so was every price that the row knows; and entries for the same row
agree. -/
structure RefreshSound (rows : List PriceRow) (fetched : List FetchedModel) : Prop where
  units : ∀ m ∈ fetched, ∀ r, Matches rows m r →
    pricingDiffers (extractNormalizedPricing declared providerSlug m) r.stored = true →
    m.modelName ≠ none ∧ m.SameUnits declared providerSlug
  known : ∀ m ∈ fetched, ∀ r, Matches rows m r → m.pricingOrFree.isEmpty = false →
    ∀ f, (r.stored.get f).isSome → (m.pricingOrFree.get f).isSome
  entries : ∀ m ∈ fetched, ∀ m' ∈ fetched, ∀ r, Matches rows m r → Matches rows m' r →
    m.pricingOrFree.isEmpty = false → m'.pricingOrFree.isEmpty = false →
    extractNormalizedPricing declared providerSlug m = extractNormalizedPricing declared providerSlug m'

variable {declared providerSlug}

theorem mem_writes {rows : List PriceRow} {fetched : List FetchedModel} {w : PriceWrite} :
    w ∈ (refreshProviderPrices declared providerSlug false rows fetched).writes ↔
      w.model ∈ fetched ∧ Matches rows w.model w.row ∧
        w.pricing = extractNormalizedPricing declared providerSlug w.model ∧
        pricingDiffers w.pricing w.row.stored = true := by
  rw [(refresh_eq declared providerSlug rows fetched).1, List.mem_filterMap]
  constructor
  · rintro ⟨m, hm, hw⟩
    simp only [writeFor, Option.bind_eq_bind, Option.bind_eq_some_iff] at hw
    obtain ⟨pmid, hpmid, row, hrow, hw⟩ := hw
    split at hw
    · next hdiffers =>
      cases hw
      exact ⟨hm, ⟨pmid, hpmid, hrow⟩, rfl, hdiffers⟩
    · cases hw
  · obtain ⟨row, m, pricing⟩ := w
    rintro ⟨hm, ⟨pmid, hpmid, hrow⟩, hpricing, hdiffers⟩
    have hpricing : pricing = extractNormalizedPricing declared providerSlug m := hpricing
    subst hpricing
    refine ⟨m, hm, ?_⟩
    simp only [writeFor, Option.bind_eq_bind, Option.bind_eq_some_iff]
    exact ⟨pmid, hpmid, row, hrow, if_pos hdiffers⟩

theorem updated_eq_length (rows : List PriceRow) (fetched : List FetchedModel) :
    (refreshProviderPrices declared providerSlug false rows fetched).updated =
      (refreshProviderPrices declared providerSlug false rows fetched).writes.length := by
  have hloop : ∀ (ms : List FetchedModel) (s : RefreshState), s.updated = s.writes.length →
      (ms.foldl (refreshModel declared providerSlug false rows) s).updated =
        (ms.foldl (refreshModel declared providerSlug false rows) s).writes.length := by
    intro ms
    induction ms with
    | nil => exact fun s hs => hs
    | cons m ms ih =>
      intro s hs
      refine ih _ ?_
      unfold refreshModel
      cases m.pmid with
      | none => exact hs
      | some pmid =>
        dsimp only
        cases existingRow rows pmid with
        | none => exact hs
        | some row =>
          dsimp only
          split
          · exact hs
          · simp [hs]
  exact hloop fetched { rows } rfl

variable (table : ProviderRows) (fetched : List FetchedModel)

theorem Matches.mem {rows : List PriceRow} {m : FetchedModel} {r : PriceRow} (h : Matches rows m r) : r ∈ rows := by
  obtain ⟨pmid, -, hrow⟩ := h
  exact List.mem_of_find?_eq_some hrow

theorem ProviderRows.eq_of_id {r r' : PriceRow} (hr : r ∈ table.rows) (hr' : r' ∈ table.rows) (h : r.id = r'.id) :
    r = r' :=
  List.inj_on_of_nodup_map table.ids hr hr' h

theorem settles_iff : (refreshProviderPrices declared providerSlug false
        (refreshProviderPrices declared providerSlug false table.rows fetched).rows fetched).updated = 0 ↔
      ∀ m ∈ fetched, ∀ r, Matches table.rows m r →
        pricingDiffers (extractNormalizedPricing declared providerSlug m)
          (r.after (refreshProviderPrices declared providerSlug false table.rows fetched).writes).stored = false := by
  have hrows := (refresh_eq declared providerSlug table.rows fetched).2
  rw [← (refresh_eq declared providerSlug table.rows fetched).1] at hrows
  rw [updated_eq_length, List.length_eq_zero_iff, List.eq_nil_iff_forall_not_mem]
  constructor
  · rintro hnone m hm r ⟨pmid, hpmid, hrow⟩
    by_contra hdiffers
    refine hnone ⟨r.after _, m, extractNormalizedPricing declared providerSlug m⟩
      (mem_writes.mpr ⟨hm, ⟨pmid, hpmid, ?_⟩, rfl, Bool.eq_true_of_not_eq_false hdiffers⟩)
    rw [hrows, existingRow_after, hrow]
    rfl
  · intro hsame w hw
    obtain ⟨hm, ⟨pmid, hpmid, hrow⟩, hpricing, hdiffers⟩ := mem_writes.mp hw
    rw [hrows, existingRow_after, Option.map_eq_some_iff] at hrow
    obtain ⟨r, hr, hafter⟩ := hrow
    rw [hpricing, ← hafter, hsame w.model hm r ⟨pmid, hpmid, hr⟩] at hdiffers
    exact absurd hdiffers Bool.false_ne_true

theorem settles_iff_entries : (refreshProviderPrices declared providerSlug false
        (refreshProviderPrices declared providerSlug false table.rows fetched).rows fetched).updated = 0 ↔
      ∀ m ∈ fetched, ∀ m' ∈ fetched, ∀ r, Matches table.rows m r → Matches table.rows m' r →
        m.pricingOrFree.isEmpty = false → m'.pricingOrFree.isEmpty = false →
        extractNormalizedPricing declared providerSlug m = extractNormalizedPricing declared providerSlug m' := by
  -- a price that does not differ from another is empty or the same
  have hsame : ∀ {p q : PriceTable}, p.isEmpty = false → pricingDiffers p q = false → p = q := by
    intro p q hp hpq
    by_contra hne
    rw [(pricingDiffers_iff p q).mpr ⟨hp, hne⟩] at hpq
    cases hpq
  rw [settles_iff]
  constructor
  · intro hrest m hm m' hm' r hr hr' hsome hsome'
    rw [← extract_isEmpty declared providerSlug] at hsome hsome'
    rw [hsame hsome (hrest m hm r hr), hsame hsome' (hrest m' hm' r hr')]
  · intro hentries m hm r hr
    by_contra hdiffers
    have hdiffers := Bool.eq_true_of_not_eq_false hdiffers
    obtain ⟨hsome, hne⟩ := (pricingDiffers_iff _ _).mp hdiffers
    rw [extract_isEmpty] at hsome
    rcases after_cases r (refreshProviderPrices declared providerSlug false table.rows fetched).writes with
      ⟨w, hw, hid, hstored⟩ | ⟨hnone, hsame⟩
    · -- the row was written, for a model that agrees with this one
      obtain ⟨hm', hr', hpricing, hdiffers'⟩ := mem_writes.mp hw
      have hrow : w.row = r := table.eq_of_id hr'.mem hr.mem hid
      rw [hrow] at hr'
      have hsome' : w.model.pricingOrFree.isEmpty = false := by
        rw [← extract_isEmpty declared providerSlug, ← hpricing]
        exact ((pricingDiffers_iff _ _).mp hdiffers').1
      refine hne ?_
      rw [hstored, hpricing]
      exact hentries m hm w.model hm' r hr hr' hsome hsome'
    · -- the row was not written, so nothing differed from it
      rw [hsame] at hdiffers
      exact hnone ⟨r, m, extractNormalizedPricing declared providerSlug m⟩ (mem_writes.mpr ⟨hm, hr, rfl, hdiffers⟩) rfl

theorem transform_pricingRaw {m : FetchedModel} (hpmid : m.pmid ≠ none) {pricing : PriceTable}
    (hsome : pricing.isEmpty = false) :
    (∃ d, transformNormalizedModel declared providerSlug true m = some d ∧ d.pricingRaw = some pricing) ↔
      m.modelName ≠ none ∧ syncPricing declared providerSlug m = pricing := by
  obtain ⟨pmid, hpmid⟩ := Option.ne_none_iff_exists'.mp hpmid
  cases hname : m.modelName with
  | none => simp [transformNormalizedModel, hpmid, hname]
  | some name =>
    simp only [transformNormalizedModel, hpmid, hname, Option.bind_eq_bind, Option.bind_some, Option.pure_def,
      Option.some.injEq, exists_eq_left', ne_eq, reduceCtorEq, not_false_eq_true, true_and, PriceTable.orNone]
    constructor
    · intro h
      split at h
      · cases h
      · exact Option.some.inj h
    · intro h
      rw [h, hsome]
      rfl

/-- **The refresh stores what the full sync would store** exactly when the condition holds. -/
theorem refresh_agrees_iff :
    StoresAsSync declared providerSlug table.rows fetched ↔ RefreshSound declared providerSlug table.rows fetched := by
  constructor
  · intro h
    refine ⟨fun m hm r hr hdiffers => ?_, fun m hm r hr hsome f hf => ?_, ?_⟩
    · have hw := mem_writes (w := ⟨r, m, extractNormalizedPricing declared providerSlug m⟩).mpr ⟨hm, hr, rfl, hdiffers⟩
      obtain ⟨pmid, hpmid, -⟩ := hr
      have hstored := (transform_pricingRaw (by rw [hpmid]; exact Option.some_ne_none _)
        ((pricingDiffers_iff _ _).mp hdiffers).1).mp (h.same _ hw)
      exact ⟨hstored.1, (same_iff declared providerSlug m).mp hstored.2⟩
    · rw [← extract_isSome declared providerSlug]
      by_contra hlost
      -- a known price that was not fetched is a difference, so it is written away
      have hdiffers : pricingDiffers (extractNormalizedPricing declared providerSlug m) r.stored = true := by
        refine (pricingDiffers_iff _ _).mpr ⟨(extract_isEmpty declared providerSlug m).trans hsome, fun heq => hlost ?_⟩
        rw [heq]
        exact hf
      exact hlost (h.keeps ⟨r, m, extractNormalizedPricing declared providerSlug m⟩
        (mem_writes.mpr ⟨hm, hr, rfl, hdiffers⟩) f hf)
    · exact (settles_iff_entries table fetched).mp h.settles
  · intro h
    refine ⟨fun w hw => ?_, fun w hw f hf => ?_, (settles_iff_entries table fetched).mpr h.entries⟩
    · obtain ⟨hm, hr, hpricing, hdiffers⟩ := mem_writes.mp hw
      have hunits := h.units w.model hm w.row hr (hpricing ▸ hdiffers)
      obtain ⟨pmid, hpmid, -⟩ := hr
      refine (transform_pricingRaw (by rw [hpmid]; exact Option.some_ne_none _)
        ((pricingDiffers_iff _ _).mp hdiffers).1).mpr ⟨hunits.1, ?_⟩
      rw [hpricing]
      exact (same_iff declared providerSlug w.model).mpr hunits.2
    · obtain ⟨hm, hr, hpricing, hdiffers⟩ := mem_writes.mp hw
      rw [hpricing, extract_isSome]
      refine h.known w.model hm w.row hr ?_ f hf
      rw [← extract_isEmpty declared providerSlug, ← hpricing]
      exact ((pricingDiffers_iff _ _).mp hdiffers).1

end Refresh

/-! ## An enriched price -/

def perMillion : String → Option String := fun slug => if slug = "xai" then some "per_1m" else none

def enrichedModel : FetchedModel where
  id := some "grok-4"
  name := some "Grok 4"
  pricing := { prompt := some (5 / 1000000), completion := some (15 / 1000000) }
  pricingSource := some "database"

def staleRow : PriceRow := ⟨1, "grok-4", some { prompt := some (4 / 1000000), completion := some (12 / 1000000) }⟩

def enrichedRow : ProviderRows where
  rows := [staleRow]
  ids := List.nodup_singleton _
  pmids := List.nodup_singleton _

/-- The refresh divides the price a second time: the model is sold at a millionth of its price. -/
theorem refresh_divides_twice : ¬ StoresAsSync perMillion "xai" enrichedRow.rows [enrichedModel] := by
  intro h
  have hrow : Matches enrichedRow.rows enrichedModel staleRow := ⟨"grok-4", by decide +kernel, by decide +kernel⟩
  have hdiffers : pricingDiffers (extractNormalizedPricing perMillion "xai" enrichedModel) staleRow.stored = true := by
    decide +kernel
  obtain ⟨-, hfree | hprices⟩ := ((refresh_agrees_iff enrichedRow [enrichedModel]).mp h).units enrichedModel
    (List.mem_singleton.mpr rfl) _ hrow hdiffers
  · exact absurd hfree (by decide)
  · -- the price came from enrichment, of a provider that quotes per million
    have hformat := (hprices .prompt (5 / 1000000) rfl (by norm_num)).1 (by decide +kernel)
    exact absurd hformat (by decide +kernel)

end Gatewayz.Prices
