import Gatewayz.Catalog.StoredPrices

/-!
# `Correctness.DisplayedPrice` — the price that is shown, and the price that is billed

Both are read from the same tables, and from the same places in them; they differ in what makes a place count. Billing wants both prices
there and takes zero for one, and it asks for the names of models before it asks for their ids. The catalog wants one price that is not
zero from `model_pricing`, one that is there from the metadata, and looks under an older key, too.
-/

namespace Gatewayz.StoredPrices

open Exec.Dictionary

/-! ## The claim -/

def SamePrice (p q : Price) : Prop :=
  amount p.prompt = amount q.prompt ∧ amount p.completion = amount q.completion ∧ amount p.request = amount q.request ∧
    amount p.image = amount q.image

/-- Two lookups agree: neither finds a price, or both find the same. -/
def Agree : Option Price → Option Price → Prop
  | none, none => True
  | some p, some q => SamePrice p q
  | _, _ => False

def OnlyOne (rows : List ModelRow) (row : ModelRow) : Prop :=
  (rows.filter fun other => other.isActive && other.providerModelId = row.providerModelId) = [row]

/-! ## The condition -/

/-- A number that no `float` holds. -/
def TooLarge (v : Json) : Prop := ∃ n : Int, v = .scalar (.int n) ∧ floatLimit ≤ |(n : ℚ)|

def Fields.Oversized (f : Fields) : Prop := TooLarge f.prompt ∨ TooLarge f.completion ∨ TooLarge f.request ∨ TooLarge f.image

def worth (v : Json) : Except PyErr ℚ := validatePricingValue v >>= amount

def Fields.Alike (f g : Fields) : Prop :=
  worth f.prompt = worth g.prompt ∧ worth f.completion = worth g.completion ∧ worth f.request = worth g.request ∧
    worth f.image = worth g.image

def readRows (rows : List ModelRow) (late : Nat → Bool) : List ModelRow :=
  (rows.filter ModelRow.isActive).take (pagesAllowed late maxPages 0 * pageSize)

def Clean (rows : List ModelRow) (late : Nat → Bool) : Prop :=
  ∀ other ∈ readRows rows late, ∀ source, other.providerModelId ≠ "" → other.shownFrom = some source →
    ¬(fieldsIn (other, source)).Oversized

def Shown (rows : List ModelRow) (late : Nat → Bool) (row : ModelRow) (place : ModelRow × Source) : Prop :=
  row ∈ readRows rows late ∧ Clean rows late ∧ row.providerModelId ≠ "" ∧ place.1 = row ∧ row.shownFrom = some place.2

/-- When both are the same. What is shown comes from the place that billing takes, or from one that holds the same; and where nothing
is shown there is no place with both prices, or a number that is too large in it. -/
structure DisplayedAsBilled (rows : List ModelRow) (late : Nat → Bool) (row : ModelRow) : Prop where
  shown : ∀ place, Shown rows late row place → ∃ other, billedPlace rows row.providerModelId = some other ∧
    ¬(fieldsIn other).Oversized ∧ (other = place ∨ (fieldsIn other).Alike (fieldsIn place))
  hidden : (∀ place, ¬Shown rows late row place) → ∀ other, billedPlace rows row.providerModelId = some other →
    (fieldsIn other).Oversized

/-! ## Values that are checked -/

theorem toFloat_error {v : PyValue} {e : PyErr} (h : toFloat v = .error e) :
    (e.kind = .typeError ∨ e.kind = .valueError) ∧ ¬TooLarge (.scalar v) ∨ e.kind = .other ∧ TooLarge (.scalar v) := by
  cases v with
  | none =>
    cases h
    exact .inl ⟨.inl rfl, fun ⟨n, hn, _⟩ => nomatch hn⟩
  | bool b => exact nomatch h
  | float q => exact nomatch h
  | int n =>
    rw [toFloat] at h
    split at h
    · next hlarge =>
      cases h
      exact .inr ⟨rfl, n, rfl, hlarge⟩
    · exact nomatch h
  | str s =>
    rw [toFloat] at h
    split at h
    · exact nomatch h
    · cases h
      exact .inl ⟨.inr rfl, fun ⟨n, hn, _⟩ => nomatch hn⟩

theorem toFloat_of_tooLarge {v : PyValue} (h : TooLarge (.scalar v)) : ∃ e, toFloat v = .error e := by
  obtain ⟨n, hv, hlarge⟩ := h
  cases hv
  exact ⟨_, if_pos hlarge⟩

theorem validatePricingValue_error_iff {v : Json} : (∃ e, validatePricingValue v = .error e) ↔ TooLarge v := by
  cases v with
  | list items => exact iff_of_false (fun ⟨e, h⟩ => nomatch h) (fun ⟨n, h, _⟩ => nomatch h)
  | dict fields => exact iff_of_false (fun ⟨e, h⟩ => nomatch h) (fun ⟨n, h, _⟩ => nomatch h)
  | scalar v =>
    unfold validatePricingValue
    dsimp only
    cases hfloat : toFloat v with
    | ok x =>
      refine iff_of_false ?_ fun h => ?_
      · rintro ⟨e, h⟩
        cases x with
        | finite q => exact nomatch h
        | infinite negative => exact nomatch h
        | nan => exact nomatch h
      · obtain ⟨e, he⟩ := toFloat_of_tooLarge h
        exact nomatch hfloat.symm.trans he
    | error e =>
      rcases toFloat_error hfloat with ⟨hcaught, hsmall⟩ | ⟨hraised, hlarge⟩
      · refine iff_of_false ?_ hsmall
        rintro ⟨e', h⟩
        dsimp only at h
        rw [if_pos hcaught] at h
        exact nomatch h
      · refine iff_of_true ⟨e, ?_⟩ hlarge
        dsimp only
        rw [if_neg (by rw [hraised]; exact nofun)]

theorem validate_ok_iff {f : Fields} : (∃ p, f.validate = .ok p) ↔ ¬f.Oversized := by
  have hvalue : ∀ v : Json, (∃ x, validatePricingValue v = .ok x) ↔ ¬TooLarge v := by
    intro v
    rw [← validatePricingValue_error_iff]
    cases validatePricingValue v with
    | ok x => exact iff_of_true ⟨x, rfl⟩ (fun ⟨e, h⟩ => nomatch h)
    | error e => exact iff_of_false (fun ⟨x, h⟩ => nomatch h) (fun h => h ⟨e, rfl⟩)
  unfold Fields.Oversized
  rw [not_or, not_or, not_or, ← hvalue, ← hvalue, ← hvalue, ← hvalue]
  unfold Fields.validate
  simp only [bind_eq_ok]
  constructor
  · rintro ⟨p, prompt, hprompt, completion, hcompletion, request, hrequest, image, himage, -⟩
    exact ⟨⟨prompt, hprompt⟩, ⟨completion, hcompletion⟩, ⟨request, hrequest⟩, ⟨image, himage⟩⟩
  · rintro ⟨⟨prompt, hprompt⟩, ⟨completion, hcompletion⟩, ⟨request, hrequest⟩, ⟨image, himage⟩⟩
    exact ⟨_, prompt, hprompt, completion, hcompletion, request, hrequest, image, himage, rfl⟩

theorem samePrice_iff {f g : Fields} {p q : Price} (hf : f.validate = .ok p) (hg : g.validate = .ok q) :
    SamePrice p q ↔ f.Alike g := by
  unfold Fields.validate at hf hg
  simp only [bind_eq_ok] at hf hg
  obtain ⟨prompt, hprompt, completion, hcompletion, request, hrequest, image, himage, hp⟩ := hf
  obtain ⟨prompt', hprompt', completion', hcompletion', request', hrequest', image', himage', hq⟩ := hg
  cases hp
  cases hq
  unfold SamePrice Fields.Alike worth
  rw [hprompt, hcompletion, hrequest, himage, hprompt', hcompletion', hrequest', himage']
  exact Iff.rfl

/-! ## The batch -/

theorem fetchPages_eq (active : List ModelRow) (late : Nat → Bool) (left page : Nat) :
    fetchPages active late left page = (active.drop (page * pageSize)).take (pagesAllowed late left page * pageSize) := by
  induction left generalizing page with
  | zero =>
    rw [fetchPages, pagesAllowed, Nat.zero_mul, List.take_zero]
  | succ left ih =>
    rw [fetchPages, pagesAllowed]
    by_cases hlate : late page = true
    · rw [if_pos (.inr hlate), if_pos hlate, Nat.one_mul]
    · rw [if_neg hlate]
      by_cases hshort : ((active.drop (page * pageSize)).take pageSize).length < pageSize
      · -- A page that is not full is the last one.
        rw [if_pos (.inl hshort)]
        have hrest : (active.drop (page * pageSize)).length < pageSize := by
          rw [List.length_take] at hshort
          omega
        rw [List.take_of_length_le hrest.le, List.take_of_length_le]
        exact hrest.le.trans (Nat.le_mul_of_pos_left _ (Nat.succ_pos _))
      · rw [if_neg (fun h => h.elim hshort hlate), ih, Nat.add_mul, Nat.one_mul, Nat.add_mul, Nat.one_mul,
          Nat.add_comm (pagesAllowed late left (page + 1) * pageSize), List.take_add, List.drop_drop]

theorem fetchAll_eq (rows : List ModelRow) (late : Nat → Bool) : fetchAll rows late = readRows rows late := by
  rw [fetchAll, fetchPages_eq, Nat.zero_mul, List.drop_zero, readRows]

def entryOf (row : ModelRow) : Option (String × Price) :=
  if row.providerModelId = "" then none
  else row.shownFrom.bind fun source => (fieldsIn (row, source)).validate.toOption.map fun price => (row.providerModelId, price)

def Passes (row : ModelRow) : Prop :=
  ∀ source, row.providerModelId ≠ "" → row.shownFrom = some source → ¬(fieldsIn (row, source)).Oversized

variable {row : ModelRow}

theorem addPrice_of_passes (h : Passes row) (d : List (String × Price)) :
    addPrice d row = .ok ((entryOf row).elim d fun e => put d e.1 e.2) := by
  unfold addPrice entryOf
  by_cases hid : row.providerModelId = ""
  · rw [if_pos hid, if_pos hid]
    rfl
  · rw [if_neg hid, if_neg hid]
    cases hsource : row.shownFrom with
    | none => rfl
    | some source =>
      obtain ⟨price, hprice⟩ := validate_ok_iff.mpr (h source hid hsource)
      dsimp only [Option.bind_some]
      rw [hprice]
      rfl

theorem addPrice_of_not_passes (h : ¬Passes row) (d : List (String × Price)) : ∃ e, addPrice d row = .error e := by
  unfold Passes at h
  push Not at h
  obtain ⟨source, hid, hsource, hlarge⟩ := h
  unfold addPrice
  rw [if_neg hid, hsource]
  dsimp only
  cases hprice : (fieldsIn (row, source)).validate with
  | ok price => exact absurd hlarge (validate_ok_iff.mp ⟨price, hprice⟩)
  | error e => exact ⟨e, rfl⟩

theorem foldlM_addPrice {l : List ModelRow} (h : ∀ row ∈ l, Passes row) (d : List (String × Price)) :
    l.foldlM addPrice d = .ok ((l.filterMap entryOf).foldl (fun d e => put d e.1 e.2) d) := by
  induction l generalizing d with
  | nil => rfl
  | cons row l ih =>
    rw [List.foldlM_cons, addPrice_of_passes (h row List.mem_cons_self)]
    change l.foldlM addPrice _ = _
    rw [ih (fun other hother => h other (List.mem_cons_of_mem row hother)), List.filterMap_cons]
    cases entryOf row with
    | none => rfl
    | some e => rfl

theorem foldlM_addPrice_error {l : List ModelRow} (h : ∃ row ∈ l, ¬Passes row) (d : List (String × Price)) :
    ∃ e, l.foldlM addPrice d = .error e := by
  induction l generalizing d with
  | nil =>
    obtain ⟨row, hrow, -⟩ := h
    exact absurd hrow List.not_mem_nil
  | cons first l ih =>
    rw [List.foldlM_cons]
    by_cases hfirst : Passes first
    · rw [addPrice_of_passes hfirst]
      refine ih ?_ _
      obtain ⟨row, hrow, hraises⟩ := h
      rcases List.mem_cons.mp hrow with rfl | hrest
      · exact absurd hfirst hraises
      · exact ⟨row, hrest, hraises⟩
    · obtain ⟨e, he⟩ := addPrice_of_not_passes hfirst d
      exact ⟨e, by rw [he]; rfl⟩

theorem fst_entryOf {e : String × Price} (h : entryOf row = some e) : e.1 = row.providerModelId := by
  unfold entryOf at h
  split at h
  · exact nomatch h
  · obtain ⟨source, -, hprice⟩ := Option.bind_eq_some_iff.mp h
    obtain ⟨price, -, rfl⟩ := Option.map_eq_some_iff.mp hprice
    rfl

theorem valuesOf_entries (l : List ModelRow) (id : String) :
    valuesOf (l.filterMap entryOf) id = (l.filter fun row => row.providerModelId = id).filterMap fun row => (entryOf row).map Prod.snd := by
  induction l with
  | nil => rfl
  | cons row l ih =>
    rw [List.filterMap_cons, List.filter_cons]
    cases hentry : entryOf row with
    | none =>
      dsimp only
      split
      · rw [List.filterMap_cons, hentry, ih]
        rfl
      · exact ih
    | some e =>
      dsimp only
      rw [valuesOf_cons, fst_entryOf hentry]
      by_cases hid : row.providerModelId = id
      · rw [if_pos hid, if_pos (decide_eq_true hid), List.filterMap_cons, hentry, ih]
        rfl
      · rw [if_neg hid, if_neg (by simpa using hid), ih]

variable {rows : List ModelRow}

theorem filter_readRows (h : OnlyOne rows row) (late : Nat → Bool) :
    ((readRows rows late).filter fun other => other.providerModelId = row.providerModelId).Sublist [row] := by
  have hall : ((rows.filter ModelRow.isActive).filter fun other => other.providerModelId = row.providerModelId) = [row] := by
    rw [List.filter_filter]
    refine Eq.trans (List.filter_congr fun other _ => ?_) h
    rw [Bool.and_comm]
  exact hall ▸ (List.take_sublist _ _).filter _

theorem lookup_entries (h : OnlyOne rows row) (late : Nat → Bool) (price : Price) :
    (ofEntries ((readRows rows late).filterMap entryOf)).lookup row.providerModelId = some price ↔
      row ∈ readRows rows late ∧ (entryOf row).map Prod.snd = some price := by
  rw [lookup_ofEntries, valuesOf_entries]
  rcases List.sublist_singleton.mp (filter_readRows h late) with hnone | hone
  · have hunread : row ∉ readRows rows late := by
      intro hread
      have hmem : row ∈ (readRows rows late).filter fun other => other.providerModelId = row.providerModelId :=
        List.mem_filter.mpr ⟨hread, decide_eq_true rfl⟩
      rw [hnone] at hmem
      exact absurd hmem List.not_mem_nil
    rw [hnone]
    exact iff_of_false nofun (fun hread => hunread hread.1)
  · have hread : row ∈ readRows rows late := List.mem_of_mem_filter (hone ▸ List.mem_singleton_self row)
    rw [hone, List.filterMap_cons, List.filterMap_nil, and_iff_right hread]
    cases (entryOf row).map Prod.snd with
    | none => exact Iff.rfl
    | some p => exact Iff.rfl

theorem entryOf_eq_some_iff {price : Price} : (entryOf row).map Prod.snd = some price ↔
      row.providerModelId ≠ "" ∧ ∃ source, row.shownFrom = some source ∧ (fieldsIn (row, source)).validate = .ok price := by
  unfold entryOf
  by_cases hid : row.providerModelId = ""
  · rw [if_pos hid]
    exact iff_of_false nofun fun h => h.1 hid
  · rw [if_neg hid, and_iff_right hid]
    cases row.shownFrom with
    | none => exact iff_of_false nofun (fun ⟨source, hsource, _⟩ => nomatch hsource)
    | some source =>
      rw [Option.bind_some]
      cases hprice : (fieldsIn (row, source)).validate with
      | error e =>
        refine iff_of_false nofun ?_
        rintro ⟨other, hother, hok⟩
        cases hother
        exact nomatch hprice.symm.trans hok
      | ok p =>
        constructor
        · intro h
          cases h
          exact ⟨source, rfl, hprice⟩
        · rintro ⟨other, hother, hok⟩
          cases hother
          cases hprice.symm.trans hok
          rfl

/-- What the batch has for the id. -/
theorem lookup_getAllPricingBatch (h : OnlyOne rows row) (late : Nat → Bool) (price : Price) :
    (getAllPricingBatch rows late).lookup row.providerModelId = some price ↔
      ∃ place, Shown rows late row place ∧ (fieldsIn place).validate = .ok price := by
  unfold getAllPricingBatch
  rw [fetchAll_eq]
  by_cases hclean : Clean rows late
  · rw [foldlM_addPrice hclean]
    change (ofEntries ((readRows rows late).filterMap entryOf)).lookup row.providerModelId = some price ↔ _
    rw [lookup_entries h, entryOf_eq_some_iff]
    constructor
    · rintro ⟨hread, hid, source, hsource, hprice⟩
      exact ⟨(row, source), ⟨hread, hclean, hid, rfl, hsource⟩, hprice⟩
    · rintro ⟨⟨_, source⟩, ⟨hread, -, hid, rfl, hsource⟩, hprice⟩
      exact ⟨hread, hid, source, hsource, hprice⟩
  · obtain ⟨e, he⟩ := foldlM_addPrice_error (by simpa only [Clean, Passes, not_forall, exists_prop] using hclean) []
    rw [he]
    exact iff_of_false nofun (fun ⟨place, hshown, _⟩ => hclean hshown.2.1)

/-! ## Both -/

/-- What billing finds for an id. -/
theorem resolvePricingFromDb_eq_some_iff {id : String} {price : Price} :
    resolvePricingFromDb rows [id] = some price ↔ ∃ place, billedPlace rows id = some place ∧ (fieldsIn place).validate = .ok price := by
  unfold resolvePricingFromDb
  rw [List.findSome?_cons, List.findSome?_nil]
  cases billedPlace rows id with
  | none => exact iff_of_false nofun (fun ⟨place, hplace, _⟩ => nomatch hplace)
  | some place =>
    dsimp only
    constructor
    · intro h
      refine ⟨place, rfl, ?_⟩
      cases hprice : (fieldsIn place).validate with
      | error e =>
        rw [hprice] at h
        exact nomatch h
      | ok p =>
        rw [hprice] at h
        cases h
        rfl
    · rintro ⟨other, hother, hprice⟩
      cases hother
      rw [hprice]
      rfl

theorem agree_iff {a b : Option Price} :
    Agree a b ↔ (∀ p, a = some p → ∃ q, b = some q ∧ SamePrice p q) ∧ (a = none → b = none) := by
  cases a with
  | none =>
    cases b with
    | none => exact iff_of_true trivial ⟨fun p h => (nomatch h), fun _ => rfl⟩
    | some q => exact iff_of_false id (fun h => nomatch h.2 rfl)
  | some p =>
    cases b with
    | none => exact iff_of_false id (fun h => (h.1 p rfl).elim fun q hq => nomatch hq.1)
    | some q =>
      refine ⟨fun h => ⟨fun _ hp => ⟨q, rfl, Option.some.inj hp ▸ h⟩, fun h => nomatch h⟩, fun h => ?_⟩
      obtain ⟨q', hq', hsame⟩ := h.1 p rfl
      exact Option.some.inj hq' ▸ hsame

theorem shown_not_oversized {late : Nat → Bool} {place : ModelRow × Source}
    (h : Shown rows late row place) : ¬(fieldsIn place).Oversized := by
  obtain ⟨_, source⟩ := place
  obtain ⟨hread, hclean, hid, rfl, hsource⟩ := h
  exact hclean _ hread source hid hsource

/-- A model with both prices in `model_pricing`. -/
def tablePriced : ModelRow :=
  ⟨"Sonnet", "anthropic/claude-sonnet-4", "anthropic", true, .null, some ⟨some (3 / 1000000), some (15 / 1000000)⟩⟩

def olderPriced : ModelRow :=
  ⟨"Llama", "meta-llama/llama-3.3-70b", "groq", true,
    .dict [("pricing", .dict [("prompt", .text "0.00000059"), ("completion", .text "0.00000079")])], none⟩

end Gatewayz.StoredPrices
