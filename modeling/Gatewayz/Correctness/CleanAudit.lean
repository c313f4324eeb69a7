import Gatewayz.Catalog.DriftAudit
import Gatewayz.Chat.PriceLookup
import Gatewayz.Correctness.DisplayedPrice

/-!
# `Correctness.CleanAudit` — what an audit of prices says of the bills

The report is clean if no model that is looked at is unpriced or too cheap (`ok_iff`). For the bills that means something where the audit
looks at every model, and at the price that is billed for it (`AuditedAsBilled`): a provider whose load fails has no models to look at, and
the audit looks a price up by ids of its own, in the order of a set.

Of one model the comparison says exactly as much as the audited price allows: it is right for every markup and every reference if and only
if the model is not audited above the price that is billed (`judge_sound_iff`).
-/

namespace Gatewayz.DriftAudit

open Exec.Dictionary StoredPrices Prices CrossReference PriceLookup

/-! ## The claim -/

def IsOrder (setOrder : List String → List String) : Prop := ∀ ids, (setOrder ids).Perm ids

/-- A bill is fine: it comes to something, and to no less than the reference on either side that has one. -/
structure Fine (markup : ℚ) (ref : Option PriceTable) (billed : ModelPricing) : Prop where
  bills : 0 < billed.prompt * markup ∨ 0 < billed.completion * markup
  input : ∀ table price, ref = some table → table.prompt = some price → price ≤ billed.prompt * markup
  output : ∀ table price, ref = some table → table.completion = some price → price ≤ billed.completion * markup

/-- What `_get_pricing_from_database` finds in these tables. -/
def databaseOf (rows : List ModelRow) (candidates : List String) : Except PyErr (Option RawPrice) :=
  .ok ((resolvePricingFromDb rows candidates).map fun price => ⟨amount price.prompt, amount price.completion⟩)

def billing (s : Sources) (rows : List ModelRow) : Sources := { s with database := databaseOf rows }

def NoLeak (input : AuditInput) (s : Sources) (st : PricingState) : Prop :=
  ∀ slug ∈ input.slugs, ∀ model ∈ activeModels input.rows slug, ∀ billed,
    ((billing s input.rows).getModelPricing (modelIdentifier model) st).1 = .ok billed →
      Fine input.markup (referencePricing (buildIndex input.reference) slug (modelIdentifier model)) billed

/-- A clean report means no leak, and the report is the same for every order of the sets. -/
structure CleanMeansBilled (input : AuditInput) (s : Sources) (st : PricingState) : Prop where
  noLeak : ∀ setOrder, IsOrder setOrder → (auditPricingDrift input setOrder).ok = true → NoLeak input s st
  sameReport : ∀ setOrder setOrder', IsOrder setOrder → IsOrder setOrder' →
    auditPricingDrift input setOrder = auditPricingDrift input setOrder'

/-! ## The condition -/

/-- Of the ids that have a price one has it, and all that have one have it in the same place. -/
structure LeadTo (rows : List ModelRow) (ids : List String) (place : ModelRow × Source) : Prop where
  found : ∃ id ∈ ids, billedPlace rows id = some place
  only : ∀ id ∈ ids, ∀ other, billedPlace rows id = some other → other = place

def Numeric (f : Fields) : Prop := ∀ b, f.prompt ≠ .scalar (.bool b) ∧ f.completion ≠ .scalar (.bool b)

/-- One place for the audit and the bill. Billing looks there, or still holds what stands there. -/
structure OnePlace (rows : List ModelRow) (s : Sources) (st : PricingState) (model : ModelRow) (place : ModelRow × Source) : Prop where
  audited : LeadTo rows (auditCandidates model) place
  numeric : Numeric (fieldsIn place)
  billed : ∃ ids, s.prepare (modelIdentifier model) = .ok (some ids) ∧
    ((∃ cached, st.fresh ids.normalized s.now = some cached ∧ worth (fieldsIn place).prompt = .ok cached.prompt ∧
        worth (fieldsIn place).completion = .ok cached.completion) ∨
      st.fresh ids.normalized s.now = none ∧ LeadTo rows ids.candidates place)

/-- Every model is looked at, at the price that is billed for it, or has no price at all. -/
structure AuditedAsBilled (input : AuditInput) (s : Sources) (st : PricingState) : Prop where
  markup : 0 < input.markup
  loaded : ∀ slug ∈ input.slugs, ∀ page, (input.load slug).late page = false ∧ (input.load slug).fails page = false
  named : ∀ slug ∈ input.slugs, ∀ model ∈ activeModels input.rows slug, modelIdentifier model ≠ ""
  place : ∀ slug ∈ input.slugs, ∀ model ∈ activeModels input.rows slug,
    (∀ id ∈ auditCandidates model, billedPlace input.rows id = none) ∨ ∃ place, OnePlace input.rows s st model place

/-! ## The report -/

theorem add_drift (found : Findings) (verdict : Verdict) :
    (found.add verdict).drift = [] ∧ (found.add verdict).unpriced = [] ↔
      (found.drift = [] ∧ found.unpriced = []) ∧ verdict = .clean := by
  cases verdict with
  | clean => exact (and_iff_left rfl).symm
  | unpriced entry =>
    refine iff_of_false ?_ (fun h => nomatch h.2)
    exact fun h => List.append_ne_nil_of_right_ne_nil _ (List.cons_ne_nil _ _) h.2
  | drift entry =>
    refine iff_of_false ?_ (fun h => nomatch h.2)
    exact fun h => List.append_ne_nil_of_right_ne_nil _ (List.cons_ne_nil _ _) h.1

theorem foldl_add (entries : List (String × ModelRow)) (verdict : String × ModelRow → Verdict) (found : Findings) :
    (entries.foldl (fun found entry => found.add (verdict entry)) found).drift = [] ∧
        (entries.foldl (fun found entry => found.add (verdict entry)) found).unpriced = [] ↔
      (found.drift = [] ∧ found.unpriced = []) ∧ ∀ entry ∈ entries, verdict entry = .clean := by
  induction entries generalizing found with
  | nil => exact (and_iff_left fun entry h => absurd h List.not_mem_nil).symm
  | cons entry entries ih => rw [List.foldl_cons, ih, add_drift, List.forall_mem_cons, and_assoc]

/-- The report is clean if every model that is looked at is. -/
theorem ok_iff (input : AuditInput) (setOrder : List String → List String) :
    (auditPricingDrift input setOrder).ok = true ↔ ∀ entry ∈ input.examined, input.verdict setOrder entry.1 entry.2 = .clean := by
  have hloop := foldl_add input.examined (fun entry => input.verdict setOrder entry.1 entry.2) {}
  have hstart : ({} : Findings).drift = [] ∧ ({} : Findings).unpriced = [] := ⟨rfl, rfl⟩
  rw [and_iff_right hstart] at hloop
  rw [← hloop]
  unfold auditPricingDrift
  rw [Bool.and_eq_true, List.isEmpty_iff, List.isEmpty_iff]
  refine and_congr_left fun _ => ?_
  exact ⟨fun h => (h ▸ perm_sortOn _ _).symm.eq_nil, fun h => by rw [h]; rfl⟩

/-! ## Loads -/

theorem loadPages_all {run : LoadRun} (h : ∀ page, run.late page = false ∧ run.fails page = false) (fuel page : Nat) (models : List ModelRow)
    (hfuel : models.length < fuel) : loadPages run fuel page models = some models := by
  induction fuel generalizing page models with
  | zero => exact absurd hfuel (Nat.not_lt_zero _)
  | succ fuel ih =>
    rw [loadPages, if_neg (by rw [(h page).1]; exact Bool.false_ne_true), if_neg (by rw [(h page).2]; exact Bool.false_ne_true)]
    split
    · next hshort =>
      rw [List.length_take] at hshort
      rw [List.take_of_length_le (by omega)]
    · next hfull =>
      rw [List.length_take] at hfull
      have hsize : 0 < pageSize := by decide
      rw [ih _ _ (by rw [List.length_drop]; omega), Option.map_some, List.take_append_drop]

theorem getModelsByProviderSlug_all {run : LoadRun} (h : ∀ page, run.late page = false ∧ run.fails page = false) (rows : List ModelRow)
    (slug : String) : getModelsByProviderSlug rows slug run = activeModels rows slug := by
  unfold getModelsByProviderSlug
  dsimp only
  rw [loadPages_all h _ _ _ (Nat.lt_succ_self _), Option.getD_some]

theorem mem_rows_of_active {rows : List ModelRow} {slug : String} {model : ModelRow} (h : model ∈ activeModels rows slug) : model ∈ rows :=
  List.mem_of_mem_filter ((perm_sortOn _ _).mem_iff.mp h)

theorem mem_examined {input : AuditInput} {s : Sources} {st : PricingState} (h : AuditedAsBilled input s st) {slug : String}
    {model : ModelRow} (hslug : slug ∈ input.slugs) (hmodel : model ∈ activeModels input.rows slug) : (slug, model) ∈ input.examined := by
  unfold AuditInput.examined
  rw [List.mem_flatMap]
  refine ⟨slug, hslug, List.mem_map.mpr ⟨model, List.mem_filter.mpr ⟨?_, ?_⟩, rfl⟩⟩
  · rw [getModelsByProviderSlug_all (h.loaded slug hslug)]
    exact hmodel
  · exact decide_eq_true (h.named slug hslug model hmodel)

/-! ## Prices -/

theorem amount_of_validate {v : Json} {x : PyValue} (h : validatePricingValue v = .ok x) (hbool : ∀ b, v ≠ .scalar (.bool b)) :
    ∃ a : ℚ, 0 ≤ a ∧ amount x = .ok a := by
  have hzero : amount (.str "0") = .ok 0 := by decide +kernel
  cases v with
  | list items =>
    cases h
    exact ⟨0, le_rfl, hzero⟩
  | dict fields =>
    cases h
    exact ⟨0, le_rfl, hzero⟩
  | scalar v =>
    unfold validatePricingValue at h
    dsimp only at h
    cases hfloat : toFloat v with
    | error e =>
      rw [hfloat] at h
      dsimp only at h
      split at h
      · cases h
        exact ⟨0, le_rfl, hzero⟩
      · cases h
    | ok y =>
      rw [hfloat] at h
      cases y with
      | infinite negative =>
        cases h
        exact ⟨0, le_rfl, hzero⟩
      | nan =>
        cases h
        exact ⟨0, le_rfl, hzero⟩
      | finite q =>
        dsimp only at h
        split at h
        · cases h
          exact ⟨0, le_rfl, hzero⟩
        · next hneg =>
          cases h
          refine ⟨q, not_lt.mp hneg, ?_⟩
          cases x with
          | none => cases hfloat
          | bool b => exact absurd rfl (hbool b)
          | float r =>
            cases hfloat
            rfl
          | int n =>
            rw [toFloat] at hfloat
            split at hfloat
            · cases hfloat
            · cases hfloat
              rfl
          | str s =>
            rw [toFloat] at hfloat
            cases hs : parseFloat s with
            | none =>
              rw [hs] at hfloat
              cases hfloat
            | some z =>
              rw [hs] at hfloat
              cases hfloat
              rw [amount, hs]

theorem findSome?_of_leadTo {rows : List ModelRow} {ids : List String} {place : ModelRow × Source} (h : LeadTo rows ids place) :
    ids.findSome? (billedPlace rows) = some place := by
  cases hfind : ids.findSome? (billedPlace rows) with
  | none =>
    obtain ⟨id, hid, hplace⟩ := h.found
    exact nomatch (List.findSome?_eq_none_iff.mp hfind id hid).symm.trans hplace
  | some other =>
    obtain ⟨id, hid, hplace⟩ := List.exists_of_findSome?_eq_some hfind
    rw [h.only id hid other hplace]

theorem LeadTo.perm {rows : List ModelRow} {ids ids' : List String} {place : ModelRow × Source} (h : LeadTo rows ids place)
    (hperm : ids'.Perm ids) : LeadTo rows ids' place where
  found := by
    obtain ⟨id, hid, hplace⟩ := h.found
    exact ⟨id, hperm.mem_iff.mpr hid, hplace⟩
  only := fun id hid => h.only id (hperm.mem_iff.mp hid)

theorem resolvePricingFromDb_of_leadTo {rows : List ModelRow} {ids : List String} {place : ModelRow × Source}
    (h : LeadTo rows ids place) : resolvePricingFromDb rows ids = (fieldsIn place).validate.toOption := by
  unfold resolvePricingFromDb
  rw [findSome?_of_leadTo h]

theorem resolvePricingFromDb_of_none {rows : List ModelRow} {ids : List String} (h : ∀ id ∈ ids, billedPlace rows id = none) :
    resolvePricingFromDb rows ids = none := by
  unfold resolvePricingFromDb
  rw [List.findSome?_eq_none_iff.mpr h]

/-- What stands in a place is two amounts, or something that no lookup gets over. -/
theorem validate_cases {f : Fields} (h : Numeric f) :
    f.validate.toOption = none ∨ ∃ price i o, f.validate = .ok price ∧ 0 ≤ i ∧ 0 ≤ o ∧ amount price.prompt = .ok i ∧
      amount price.completion = .ok o ∧ worth f.prompt = .ok i ∧ worth f.completion = .ok o := by
  cases hvalid : f.validate with
  | error e => exact .inl rfl
  | ok price =>
    unfold Fields.validate at hvalid
    simp only [bind_eq_ok] at hvalid
    obtain ⟨prompt, hprompt, completion, hcompletion, request, hrequest, image, himage, hprice⟩ := hvalid
    cases hprice
    obtain ⟨i, hi, hin⟩ := amount_of_validate hprompt fun b => (h b).1
    obtain ⟨o, ho, hout⟩ := amount_of_validate hcompletion fun b => (h b).2
    refine .inr ⟨_, i, o, rfl, hi, ho, hin, hout, ?_, ?_⟩
    · rw [worth, hprompt]
      exact hin
    · rw [worth, hcompletion]
      exact hout

/-! ## One model -/

theorem deficit_eq_none_iff {markup our ref : ℚ} : deficit markup (some our) (some ref) = none ↔ (0 < ref → ref ≤ our * markup) := by
  rw [deficit, ite_eq_right_iff]
  simp only [reduceCtorEq, imp_false, not_and, not_lt]

theorem compare_eq_clean_iff {markup : ℚ} {provider modelId : String} {our : Option ℚ × Option ℚ} {ref : PriceTable} :
    compare markup provider modelId our ref = .clean ↔ deficit markup our.1 ref.prompt = none ∧ deficit markup our.2 ref.completion = none := by
  unfold compare
  cases deficit markup our.1 ref.prompt with
  | none =>
    cases deficit markup our.2 ref.completion with
    | none => exact iff_of_true rfl ⟨rfl, rfl⟩
    | some d => exact iff_of_false nofun (fun h => nomatch h.2)
  | some d => exact iff_of_false nofun (fun h => nomatch h.1)

theorem isMissing_some {a : ℚ} : isMissing (some a) = true ↔ a ≤ 0 := decide_eq_true_iff

theorem not_clean_of_missing {markup : ℚ} {provider modelId : String} {our : Option ℚ × Option ℚ} {ref : Option PriceTable}
    (h : isMissing our.1 = true ∧ isMissing our.2 = true) : judge markup provider modelId our ref ≠ .clean := by
  unfold judge
  rw [if_pos h]
  exact nofun

theorem le_of_deficit {markup our billed ref : ℚ} (hmarkup : 0 < markup) (hbilled : 0 ≤ billed) (hle : our ≤ billed)
    (h : deficit markup (some our) (some ref) = none) : ref ≤ billed * markup := by
  by_cases href : 0 < ref
  · exact (deficit_eq_none_iff.mp h href).trans (mul_le_mul_of_nonneg_right hle hmarkup.le)
  · exact (not_lt.mp href).trans (mul_nonneg hbilled hmarkup.le)

/-- A clean verdict is right of a model that is not audited above its bill. -/
theorem fine_of_clean {markup i o : ℚ} {provider modelId : String} {ref : Option PriceTable} {billed : ModelPricing}
    (hmarkup : 0 < markup) (hin : i ≤ billed.prompt) (hout : o ≤ billed.completion)
    (h : judge markup provider modelId (some i, some o) ref = .clean) : Fine markup ref billed := by
  by_cases hmissing : isMissing (some i) = true ∧ isMissing (some o) = true
  · exact absurd h (not_clean_of_missing hmissing)
  · unfold judge at h
    rw [if_neg hmissing] at h
    refine ⟨?_, ?_, ?_⟩
    · rw [isMissing_some, isMissing_some, not_and_or, not_le, not_le] at hmissing
      exact hmissing.imp (fun hi => mul_pos (hi.trans_le hin) hmarkup) (fun ho => mul_pos (ho.trans_le hout) hmarkup)
    · rintro table price rfl hprice
      have hdeficit := (compare_eq_clean_iff.mp h).1
      rw [hprice] at hdeficit
      exact le_of_deficit hmarkup billed.prompt_nonneg hin hdeficit
    · rintro table price rfl hprice
      have hdeficit := (compare_eq_clean_iff.mp h).2
      rw [hprice] at hdeficit
      exact le_of_deficit hmarkup billed.completion_nonneg hout hdeficit

/-- The comparison is right for every markup and reference exactly if the model is not audited above its bill, or is unpriced. -/
theorem judge_sound_iff (our : Option ℚ × Option ℚ) (billed : ModelPricing) (provider modelId : String) :
    (∀ markup : ℚ, 0 < markup → ∀ ref, judge markup provider modelId our ref = .clean → Fine markup ref billed) ↔
      (isMissing our.1 = true ∧ isMissing our.2 = true) ∨
        ∃ i o, our = (some i, some o) ∧ i ≤ billed.prompt ∧ o ≤ billed.completion := by
  constructor
  · intro h
    by_cases hmissing : isMissing our.1 = true ∧ isMissing our.2 = true
    · exact .inl hmissing
    · -- A reference just as high as the audited price, on one side, and a markup of one.
      have hjudge : ∀ ref, deficit 1 our.1 ref.prompt = none → deficit 1 our.2 ref.completion = none → Fine 1 (some ref) billed := by
        intro ref hin hout
        refine h 1 one_pos (some ref) ?_
        unfold judge
        rw [if_neg hmissing]
        exact compare_eq_clean_iff.mpr ⟨hin, hout⟩
      obtain ⟨ourIn, ourOut⟩ := our
      have hnone : ∀ a : Option ℚ, deficit 1 a none = none := fun a => by cases a <;> rfl
      cases ourIn with
      | none =>
        have hfine := hjudge { prompt := some (billed.prompt + 1) } rfl (hnone _)
        have hle := hfine.input _ _ rfl rfl
        linarith
      | some i =>
        cases ourOut with
        | none =>
          have hfine := hjudge { completion := some (billed.completion + 1) } (hnone _) rfl
          have hle := hfine.output _ _ rfl rfl
          linarith
        | some o =>
          have hin := (hjudge { prompt := some i } (deficit_eq_none_iff.mpr fun _ => by rw [mul_one]) (hnone _)).input _ _ rfl rfl
          have hout := (hjudge { completion := some o } (hnone _) (deficit_eq_none_iff.mpr fun _ => by rw [mul_one])).output _ _ rfl rfl
          rw [mul_one] at hin hout
          exact .inr ⟨i, o, rfl, hin, hout⟩
  · rintro (hmissing | ⟨i, o, rfl, hin, hout⟩) markup hmarkup ref hclean
    · exact absurd hclean (not_clean_of_missing hmissing)
    · exact fine_of_clean hmarkup hin hout hclean

/-! ## The bill -/

section Bill

variable {rows : List ModelRow} {s : Sources} {st : PricingState} {modelId : String} {ids : LookupIds} {place : ModelRow × Source}

theorem getModelPricing_of_cached {cached : ModelPricing} (hprepare : s.prepare modelId = .ok (some ids))
    (hcached : st.fresh ids.normalized s.now = some cached) : ((billing s rows).getModelPricing modelId st).1 = .ok cached := by
  have hprepare' : (billing s rows).prepare modelId = .ok (some ids) := hprepare
  have hcached' : st.fresh ids.normalized (billing s rows).now = some cached := hcached
  unfold Sources.getModelPricing Sources.lookUpPricing
  rw [hprepare']
  dsimp only
  rw [hcached']

variable (rows) in
theorem getModelPricing_of_leadTo {price : Price} {i o : ℚ} (hprepare : s.prepare modelId = .ok (some ids))
    (hcached : st.fresh ids.normalized s.now = none) (hlead : LeadTo rows ids.candidates place)
    (hprice : (fieldsIn place).validate = .ok price) (hin : amount price.prompt = .ok i) (hout : amount price.completion = .ok o) :
    ∃ billed, ((billing s rows).getModelPricing modelId st).1 = .ok billed ∧ billed.prompt = max 0 i ∧ billed.completion = max 0 o := by
  have hprepare' : (billing s rows).prepare modelId = .ok (some ids) := hprepare
  have hcached' : st.fresh ids.normalized (billing s rows).now = none := hcached
  have hdatabase : ∃ billed, (billing s rows).getPricingFromDatabase ids.candidates = some billed ∧ billed.prompt = max 0 i ∧
      billed.completion = max 0 o := by
    have hraw : (billing s rows).database ids.candidates = .ok (some ⟨.ok i, .ok o⟩) := by
      change databaseOf rows ids.candidates = _
      rw [databaseOf, resolvePricingFromDb_of_leadTo hlead, hprice, ← hin, ← hout]
      rfl
    unfold Sources.getPricingFromDatabase
    rw [hraw]
    exact ⟨_, rfl, rfl, rfl⟩
  obtain ⟨billed, hfound, hprompt, hcompletion⟩ := hdatabase
  refine ⟨billed, ?_, hprompt, hcompletion⟩
  unfold Sources.getModelPricing Sources.lookUpPricing Sources.search
  rw [hprepare']
  dsimp only
  rw [hcached']
  dsimp only
  rw [hfound, Option.some_or]

end Bill

/-! ## The audit -/

section Audit

variable {input : AuditInput} {s : Sources} {st : PricingState} {setOrder : List String → List String} {model : ModelRow}

theorem ourCatalogPricing_of_none (horder : IsOrder setOrder) (h : ∀ id ∈ auditCandidates model, billedPlace input.rows id = none) :
    ourCatalogPricing input.rows setOrder model = (none, none) := by
  unfold ourCatalogPricing
  rw [resolvePricingFromDb_of_none fun id hid => h id ((horder _).mem_iff.mp hid)]

theorem ourCatalogPricing_of_place (horder : IsOrder setOrder) {place : ModelRow × Source}
    (h : LeadTo input.rows (auditCandidates model) place) : ourCatalogPricing input.rows setOrder model =
      (fieldsIn place).validate.toOption.elim (none, none) fun price => (toFloatOrNone price.prompt, toFloatOrNone price.completion) := by
  unfold ourCatalogPricing
  rw [resolvePricingFromDb_of_leadTo (h.perm (horder _))]
  cases (fieldsIn place).validate.toOption with
  | none => rfl
  | some price => rfl

theorem ourCatalogPricing_same {setOrder' : List String → List String} (horder : IsOrder setOrder) (horder' : IsOrder setOrder')
    (h : (∀ id ∈ auditCandidates model, billedPlace input.rows id = none) ∨ ∃ place, OnePlace input.rows s st model place) :
    ourCatalogPricing input.rows setOrder model = ourCatalogPricing input.rows setOrder' model := by
  rcases h with hnone | ⟨place, hplace⟩
  · rw [ourCatalogPricing_of_none horder hnone, ourCatalogPricing_of_none horder' hnone]
  · rw [ourCatalogPricing_of_place horder hplace.audited, ourCatalogPricing_of_place horder' hplace.audited]

/-- What the audit finds of a model is what is billed for it, or the model is reported as unpriced. -/
theorem ourCatalogPricing_billed (horder : IsOrder setOrder) {place : ModelRow × Source} (h : OnePlace input.rows s st model place) :
    ourCatalogPricing input.rows setOrder model = (none, none) ∨
      ∃ i o billed, ourCatalogPricing input.rows setOrder model = (some i, some o) ∧
        ((billing s input.rows).getModelPricing (modelIdentifier model) st).1 = .ok billed ∧ i ≤ billed.prompt ∧ o ≤ billed.completion := by
  rw [ourCatalogPricing_of_place horder h.audited]
  rcases validate_cases h.numeric with hnone | ⟨price, i, o, hvalid, hi, ho, hin, hout, hworthIn, hworthOut⟩
  · rw [hnone]
    exact .inl rfl
  · rw [hvalid]
    refine .inr ?_
    have hour : (toFloatOrNone price.prompt, toFloatOrNone price.completion) = (some i, some o) := by
      rw [toFloatOrNone, toFloatOrNone, hin, hout]
      rfl
    obtain ⟨ids, hprepare, ⟨cached, hcached, hprompt, hcompletion⟩ | ⟨hcached, hlead⟩⟩ := h.billed
    · refine ⟨i, o, cached, hour, getModelPricing_of_cached hprepare hcached, ?_, ?_⟩
      · exact (Except.ok.inj (hworthIn.symm.trans hprompt)).le
      · exact (Except.ok.inj (hworthOut.symm.trans hcompletion)).le
    · obtain ⟨billed, hbilled, hprompt, hcompletion⟩ := getModelPricing_of_leadTo input.rows hprepare hcached hlead hvalid hin hout
      exact ⟨i, o, billed, hour, hbilled, hprompt ▸ le_max_right 0 i, hcompletion ▸ le_max_right 0 o⟩

theorem noLeak_of_ok (h : AuditedAsBilled input s st) (horder : IsOrder setOrder) (hok : (auditPricingDrift input setOrder).ok = true) :
    NoLeak input s st := by
  intro slug hslug model hmodel billed hbilled
  have hclean := (ok_iff input setOrder).mp hok _ (mem_examined h hslug hmodel)
  unfold AuditInput.verdict at hclean
  dsimp only at hclean
  have hmissing : ∀ our : Option ℚ × Option ℚ, our = (none, none) → isMissing our.1 = true ∧ isMissing our.2 = true := by
    rintro _ rfl
    exact ⟨rfl, rfl⟩
  rcases h.place slug hslug model hmodel with hnone | ⟨place, hplace⟩
  · exact absurd hclean (not_clean_of_missing (hmissing _ (ourCatalogPricing_of_none horder hnone)))
  · rcases ourCatalogPricing_billed horder hplace with hnone | ⟨i, o, found, hour, hfound, hin, hout⟩
    · exact absurd hclean (not_clean_of_missing (hmissing _ hnone))
    · cases hfound.symm.trans hbilled
      rw [hour] at hclean
      exact fine_of_clean h.markup hin hout hclean

end Audit

/-- **A clean report means no leak** where every model is looked at, at the price that is billed for it. Of one model the comparison is
right for every markup and reference exactly if it is not audited above its bill. -/
theorem clean_means_billed (s : Sources) (st : PricingState) :
    (∀ input, AuditedAsBilled input s st → CleanMeansBilled input s st) ∧
      ∀ (our : Option ℚ × Option ℚ) (billed : ModelPricing) (provider modelId : String),
        (∀ markup : ℚ, 0 < markup → ∀ ref, judge markup provider modelId our ref = .clean → Fine markup ref billed) ↔
          (isMissing our.1 = true ∧ isMissing our.2 = true) ∨
            ∃ i o, our = (some i, some o) ∧ i ≤ billed.prompt ∧ o ≤ billed.completion := by
  refine ⟨fun input h => ⟨fun setOrder horder hok => noLeak_of_ok h horder hok, fun setOrder setOrder' horder horder' => ?_⟩, judge_sound_iff⟩
  have hverdict : ∀ entry ∈ input.examined, input.verdict setOrder entry.1 entry.2 = input.verdict setOrder' entry.1 entry.2 := by
    rintro ⟨slug, model⟩ hentry
    obtain ⟨slug', hslug, hmem⟩ := List.mem_flatMap.mp hentry
    obtain ⟨model', hmodel, hpair⟩ := List.mem_map.mp hmem
    cases hpair
    rw [getModelsByProviderSlug_all (h.loaded slug hslug)] at hmodel
    have hplace := h.place slug hslug model (List.mem_of_mem_filter hmodel)
    unfold AuditInput.verdict
    dsimp only
    rw [ourCatalogPricing_same horder horder' hplace]
  have hfold : ∀ found : Findings, input.examined.foldl (fun found entry => found.add (input.verdict setOrder entry.1 entry.2)) found =
      input.examined.foldl (fun found entry => found.add (input.verdict setOrder' entry.1 entry.2)) found := fun found =>
    List.foldl_ext _ _ found fun a entry hentry => by rw [hverdict entry hentry]
  unfold auditPricingDrift
  rw [hfold]

def onlyDatabase : Sources := { now := 0, later := 0 }

/-- One provider with one model, in `model_pricing` at its own price. -/
def sonnetInput : AuditInput where
  markup := 5 / 4
  reference := [⟨"anthropic/claude-sonnet-4", some { prompt := some (3 / 1000000), completion := some (15 / 1000000) }⟩]
  providerSlugs := ["anthropic"]
  enabled := none
  rows := [tablePriced]
  load _ := {}

theorem clean_means_billed_sonnet : CleanMeansBilled sonnetInput onlyDatabase {} := by
  refine (clean_means_billed _ _).1 sonnetInput ⟨by decide +kernel, fun _ _ _ => ⟨rfl, rfl⟩, ?_, ?_⟩
  · rintro slug - model hmodel
    obtain rfl : model = tablePriced := List.mem_singleton.mp (mem_rows_of_active hmodel)
    decide +kernel
  · rintro slug - model hmodel
    obtain rfl : model = tablePriced := List.mem_singleton.mp (mem_rows_of_active hmodel)
    have hplace : ∀ id ∈ ["anthropic/claude-sonnet-4", "Sonnet"], billedPlace [tablePriced] id = some (tablePriced, .table) := by
      intro id hid
      rcases List.mem_cons.mp hid with rfl | hid
      · rfl
      · obtain rfl := List.mem_singleton.mp hid
        rfl
    have hlead : ∀ ids ⊆ ["anthropic/claude-sonnet-4", "Sonnet"], "anthropic/claude-sonnet-4" ∈ ids →
        LeadTo [tablePriced] ids (tablePriced, .table) := fun ids hsub hmem =>
      ⟨⟨_, hmem, hplace _ (hsub hmem)⟩, fun id hid other hother => Option.some.inj (hother.symm.trans (hplace id (hsub hid)))⟩
    refine .inr ⟨(tablePriced, .table), hlead _ (by decide +kernel) (by decide +kernel), fun b => ⟨nofun, nofun⟩, ?_⟩
    exact ⟨⟨"anthropic/claude-sonnet-4", ["anthropic/claude-sonnet-4"]⟩, rfl, .inr ⟨rfl, hlead _ (by decide +kernel) (by decide +kernel)⟩⟩

def llama : ModelRow := ⟨"Llama 3.3 70B", "llama-3.3-70b", "groq", true, .null, some ⟨some (1 / 10000000), some (1 / 10000000)⟩⟩

/-- The load of its provider fails. -/
def failedInput : AuditInput where
  markup := 5 / 4
  reference := [⟨"llama-3.3-70b", some { prompt := some (6 / 10000000), completion := some (6 / 10000000) }⟩]
  providerSlugs := ["groq"]
  enabled := some ["groq"]
  rows := [llama]
  load _ := { fails := fun _ => true }

/-- The report is clean, and the model is billed below its reference. -/
theorem leak_unseen : ¬∀ input s st, CleanMeansBilled input s st := by
  intro h
  have hleak := (h failedInput onlyDatabase {}).noLeak id (fun ids => List.Perm.refl ids) (by decide +kernel)
  have hslug : "groq" ∈ failedInput.slugs := by decide +kernel
  have hmodel : llama ∈ activeModels failedInput.rows "groq" := List.mem_singleton_self llama
  have href : referencePricing (buildIndex failedInput.reference) "groq" (modelIdentifier llama) =
      some ⟨some (6 / 10000000), some (6 / 10000000), some 0, some 0⟩ := by
    decide +kernel
  have hprice : (fieldsIn (llama, .table)).validate = .ok ⟨.float (1 / 10000000), .float (1 / 10000000), .str "0", .str "0"⟩ := by
    decide +kernel
  have hprepare : onlyDatabase.prepare (modelIdentifier llama) = .ok (some ⟨"llama-3.3-70b", ["llama-3.3-70b"]⟩) := rfl
  have hcached : ({} : PricingState).fresh "llama-3.3-70b" onlyDatabase.now = none := rfl
  have hplace : billedPlace failedInput.rows "llama-3.3-70b" = some (llama, .table) := rfl
  have hlead : LeadTo failedInput.rows ["llama-3.3-70b"] (llama, .table) := by
    refine ⟨⟨_, List.mem_singleton_self _, hplace⟩, fun id hid other hother => ?_⟩
    obtain rfl := List.mem_singleton.mp hid
    exact Option.some.inj (hother.symm.trans hplace)
  obtain ⟨billed, hbilled, hprompt, -⟩ := getModelPricing_of_leadTo failedInput.rows hprepare hcached hlead hprice rfl rfl
  have hfine := hleak "groq" hslug llama hmodel billed hbilled
  have hle := hfine.input _ _ href rfl
  rw [hprompt] at hle
  exact absurd hle (by decide +kernel)

end Gatewayz.DriftAudit
