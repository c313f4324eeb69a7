import Gatewayz.Catalog.CrossReference
import Mathlib.Data.List.Induction

/-!
# `Correctness.BorrowedPrices` — whose price a model gets by cross reference

The price is that of an entry with the same name, in some spelling, or with the name and a version after it (`SameModel`). The entries
that the price can come from are all under one key, or all go on from the name (`deciding`): which of them it is depends on the order of
the catalog, so that the order does not matter exactly if their prices are the same.
-/

namespace Gatewayz.CrossReference

open Prices Exec.Dictionary

/-! ## The claim -/

/-- The names are spelled in the same way, but for case, a date and the hyphens of a version; or the entry's name has a version more. -/
def SameModel (modelId entryId : String) : Prop :=
  (∃ form ∈ forms (baseId modelId), lower (baseId entryId) = lower form) ∨
    extendsName (lower (baseId modelId)) (lower (baseId entryId)) = true

namespace ReferenceModel

def IsPriced (m : ReferenceModel) : Prop := m.pricing.isSome = true

def price (m : ReferenceModel) : PriceTable := normalizePricingDict (m.pricing.getD {}) .perToken

def isUnder (m : ReferenceModel) (key : String) : Bool := m.pricing.isSome && m.keys.contains key

def goesOn (m : ReferenceModel) (name : String) : Bool := m.pricing.isSome && m.keys.any (extendsName name)

end ReferenceModel

section Claim

variable (models : List ReferenceModel) (modelId : String) (provider : Option String)

def decidingKey : Option String := (exactKeys modelId provider).find? fun key => models.any (·.isUnder key)

/-- The entries that can decide the price. -/
def deciding : List ReferenceModel :=
  match decidingKey models modelId provider with
  | some key => models.filter (·.isUnder key)
  | none => models.filter (·.goesOn (lower (baseId modelId)))

def referencePrice : Option PriceTable := getCrossReferencePricing false (buildIndex models) modelId provider

def UnderAlias (m : ReferenceModel) : Prop :=
  m.IsPriced ∧ ∃ organisation, aliasOf provider = some organisation ∧ lower m.id = lower (organisation ++ "/" ++ baseId modelId)

def UnderOwn (m : ReferenceModel) : Prop := m.IsPriced ∧ ∃ form ∈ forms modelId, lower m.id = lower form

/-- Whose price it is. -/
structure PricedByReference : Prop where
  entry : ∀ building price, getCrossReferencePricing building (buildIndex models) modelId provider = some price →
    ∃ m ∈ models, m.IsPriced ∧ SameModel modelId m.id ∧ price = m.price
  byAlias : (∃ m ∈ models, UnderAlias modelId provider m) →
    ∃ m ∈ models, UnderAlias modelId provider m ∧ referencePrice models modelId provider = some m.price
  byOwn : '/' ∈ modelId.toList → (∀ m ∈ models, ¬ UnderAlias modelId provider m) → (∃ m ∈ models, UnderOwn modelId m) →
    ∃ m ∈ models, UnderOwn modelId m ∧ referencePrice models modelId provider = some m.price
  order : (∀ others, others.Perm models → referencePrice others modelId provider = referencePrice models modelId provider) ↔
    ∀ a ∈ deciding models modelId provider, ∀ b ∈ deciding models modelId provider, a.price = b.price

end Claim

/-! ## Names -/

variable {form : String}

section Names

theorem baseChars_append {pre base : List Char} (h : '/' ∉ base) : baseChars (pre ++ '/' :: base) = base := by
  have hall : ∀ c ∈ base.reverse, (decide (c ≠ '/')) = true := by
    intro c hc
    exact decide_eq_true fun heq => h (heq ▸ List.mem_reverse.mp hc)
  unfold baseChars
  rw [List.reverse_append, List.reverse_cons, List.append_assoc, List.takeWhile_append_of_pos hall, List.singleton_append,
    List.takeWhile_cons_of_neg (by decide), List.append_nil, List.reverse_reverse]

theorem baseChars_of_not_mem {id : List Char} (h : '/' ∉ id) : baseChars id = id := by
  have hall : ∀ c ∈ id.reverse, (decide (c ≠ '/')) = true := by
    intro c hc
    exact decide_eq_true fun heq => h (heq ▸ List.mem_reverse.mp hc)
  unfold baseChars
  rw [List.takeWhile_eq_self_iff.mpr hall, List.reverse_reverse]

theorem not_mem_baseChars (id : List Char) : '/' ∉ baseChars id := by
  unfold baseChars
  rw [List.mem_reverse]
  intro hmem
  have hne := List.mem_takeWhile_imp hmem
  exact absurd rfl (of_decide_eq_true hne)

theorem split_id (id : List Char) : '/' ∉ id ∧ baseChars id = id ∨ ∃ pre, id = pre ++ '/' :: baseChars id := by
  by_cases hmem : '/' ∈ id
  · right
    obtain ⟨back, front, hsplit, hback⟩ := List.eq_append_cons_of_mem (List.mem_reverse.mpr hmem)
    have hid : id = front.reverse ++ '/' :: back.reverse := by
      rw [← List.reverse_reverse id, hsplit, List.reverse_append, List.reverse_cons, List.append_assoc]
      rfl
    refine ⟨front.reverse, ?_⟩
    rw [hid, baseChars_append fun h => hback (List.mem_reverse.mp h)]
  · exact .inl ⟨hmem, baseChars_of_not_mem hmem⟩

/-- A change of ids that goes up to a slash and starts anew behind it. -/
structure KeepsBase (f : List Char → List Char) : Prop where
  not_mem : ∀ base, '/' ∉ base → '/' ∉ f base
  append : ∀ pre base, '/' ∉ base → ∃ pre', f (pre ++ '/' :: base) = pre' ++ '/' :: f base

namespace KeepsBase

variable {f g : List Char → List Char}

theorem baseChars (h : KeepsBase f) (id : List Char) : baseChars (f id) = f (CrossReference.baseChars id) := by
  rcases split_id id with ⟨hnone, hbase⟩ | ⟨pre, hsplit⟩
  · rw [hbase, baseChars_of_not_mem (h.not_mem id hnone)]
  · obtain ⟨pre', happend⟩ := h.append pre (CrossReference.baseChars id) (not_mem_baseChars id)
    rw [← hsplit] at happend
    rw [happend, baseChars_append (h.not_mem _ (not_mem_baseChars id))]

theorem mem_slash (h : KeepsBase f) {id : List Char} (hmem : '/' ∈ id) : '/' ∈ f id := by
  rcases split_id id with ⟨hnone, -⟩ | ⟨pre, hsplit⟩
  · exact absurd hmem hnone
  · obtain ⟨pre', happend⟩ := h.append pre (CrossReference.baseChars id) (not_mem_baseChars id)
    rw [hsplit, happend]
    exact List.mem_append_right pre' List.mem_cons_self

end KeepsBase

theorem keepsBase_lower : KeepsBase (List.map Char.toLower) where
  not_mem base h hmem := by
    obtain ⟨c, hc, hlower⟩ := List.mem_map.mp hmem
    exact h ((toLower_eq_iff (by decide)).mp hlower ▸ hc)
  append pre base _ := ⟨pre.map Char.toLower, by rw [List.map_append, List.map_cons]; rfl⟩

def IsDate (date : List Char) : Prop := date.length = 9 ∧ date.head? = some '-' ∧ date.tail.all isDecimalChar = true

theorem IsDate.not_mem {date : List Char} (h : IsDate date) : '/' ∉ date := by
  obtain ⟨-, hhead, htail⟩ := h
  obtain ⟨rest, rfl⟩ := List.head?_eq_some_iff.mp hhead
  rw [List.mem_cons]
  rintro (hslash | hmem)
  · exact absurd hslash (by decide)
  · exact absurd (List.all_eq_true.mp htail '/' hmem) (by decide)

theorem withoutDate_of_date {r date : List Char} (h : IsDate date) : withoutDate (r ++ date) = r := by
  have hlength : (r ++ date).length - 9 = r.length := by rw [List.length_append, h.1, Nat.add_sub_cancel]
  unfold withoutDate
  rw [hlength, List.drop_left, List.take_left]
  exact if_pos h

theorem withoutDate_of_none {id : List Char} (h : ∀ r date, IsDate date → id ≠ r ++ date) : withoutDate id = id :=
  if_neg fun hdate => h _ _ hdate (List.take_append_drop _ id).symm

theorem withoutDate_append (pre base : List Char) : withoutDate (pre ++ '/' :: base) = pre ++ '/' :: withoutDate base := by
  by_cases hdate : ∃ r date, IsDate date ∧ base = r ++ date
  · obtain ⟨r, date, h, rfl⟩ := hdate
    rw [withoutDate_of_date h, ← List.cons_append, ← List.append_assoc, withoutDate_of_date h]
  · have hnone : ∀ r date, IsDate date → base ≠ r ++ date := fun r date h heq => hdate ⟨r, date, h, heq⟩
    rw [withoutDate_of_none hnone, withoutDate_of_none]
    -- A date has no slash in it, so that it would be behind the slash.
    intro r date h heq
    rw [← List.singleton_append, ← List.append_assoc] at heq
    rcases List.append_eq_append_iff.mp heq with ⟨rest, -, hbase⟩ | ⟨rest, hpre, hbase⟩
    · exact hnone rest date h hbase
    · rcases List.eq_nil_or_concat rest with rfl | ⟨front, last, rfl⟩
      · exact hnone [] date h hbase.symm
      · rw [List.concat_eq_append, ← List.append_assoc] at hpre
        obtain ⟨-, hlast⟩ := List.append_inj' hpre rfl
        refine h.not_mem ?_
        rw [hbase, List.concat_eq_append, ← hlast]
        simp

theorem not_mem_withoutDate {base : List Char} (h : '/' ∉ base) : '/' ∉ withoutDate base := by
  unfold withoutDate
  dsimp only
  split
  · exact fun hmem => h (List.mem_of_mem_take hmem)
  · exact h

theorem keepsBase_undated : KeepsBase undatedChars where
  not_mem base h := by
    unfold undatedChars
    split
    · rw [List.mem_append]
      rintro (hmem | hmem)
      · exact not_mem_withoutDate (fun hdrop => h (List.dropLast_subset base hdrop)) hmem
      · exact absurd (List.mem_singleton.mp hmem) (by decide)
    · exact not_mem_withoutDate h
  append pre base _ := by
    refine ⟨pre, ?_⟩
    unfold undatedChars
    cases base with
    | nil =>
      rw [List.getLast?_concat, if_neg (by decide), if_neg (by decide)]
      exact withoutDate_append pre []
    | cons c cs =>
      have hlast : (pre ++ '/' :: c :: cs).getLast? = (c :: cs).getLast? := by
        rw [List.getLast?_append, List.getLast?_cons_cons, List.getLast?_cons, Option.some_or]
      have hdrop : (pre ++ '/' :: c :: cs).dropLast = pre ++ '/' :: (c :: cs).dropLast := by simp
      rw [hlast, hdrop, withoutDate_append, withoutDate_append]
      split
      · rw [List.append_assoc, List.cons_append]
      · rfl

theorem keepsBase_dotted : KeepsBase (dottedChars false) where
  not_mem base h := by
    have hany : ∀ afterDigit, '/' ∉ dottedChars afterDigit base := by
      induction base with
      | nil => exact fun _ => List.not_mem_nil
      | cons c cs ih =>
        obtain ⟨hc, hcs⟩ := not_or.mp fun hmem => h (List.mem_cons.mpr hmem)
        intro afterDigit
        rw [dottedChars, List.mem_cons]
        rintro (hhead | htail)
        · split at hhead
          · exact absurd hhead (by decide)
          · exact hc hhead
        · exact ih hcs _ htail
    exact hany false
  append pre base _ := by
    have hany : ∀ afterDigit, ∃ pre', dottedChars afterDigit (pre ++ '/' :: base) = pre' ++ '/' :: dottedChars false base := by
      induction pre with
      | nil => exact fun _ => ⟨[], by rw [List.nil_append, dottedChars, if_neg fun h => absurd h.1 (by decide)]; rfl⟩
      | cons c cs ih =>
        intro afterDigit
        obtain ⟨pre', hpre⟩ := ih (isDecimalChar c)
        rw [List.cons_append, dottedChars, hpre]
        exact ⟨_, (List.cons_append ..).symm⟩
    exact hany false

theorem toList_baseId (id : String) : (baseId id).toList = baseChars id.toList := String.toList_ofList

@[simp] theorem baseId_lower (id : String) : baseId (lower id) = lower (baseId id) := by
  unfold baseId lower
  rw [String.toList_ofList, String.toList_ofList, keepsBase_lower.baseChars]

theorem baseId_undated (id : String) : baseId (undated id) = undated (baseId id) := by
  unfold baseId undated
  rw [String.toList_ofList, String.toList_ofList, keepsBase_undated.baseChars]

theorem baseId_dotted (id : String) : baseId (dotted id) = dotted (baseId id) := by
  unfold baseId dotted
  rw [String.toList_ofList, String.toList_ofList, keepsBase_dotted.baseChars]

variable {id : String}

theorem baseId_of_not_mem (h : '/' ∉ id.toList) : baseId id = id := by
  unfold baseId
  rw [baseChars_of_not_mem h, String.ofList_toList]

@[simp] theorem baseId_baseId (id : String) : baseId (baseId id) = baseId id :=
  baseId_of_not_mem (toList_baseId id ▸ not_mem_baseChars id.toList)

theorem baseId_form (h : form ∈ forms id) : baseId form ∈ forms (baseId id) := by
  unfold forms at h ⊢
  rcases List.mem_cons.mp h with rfl | h
  · exact List.mem_cons_self
  rcases List.mem_cons.mp h with rfl | h
  · rw [baseId_undated]
    exact List.mem_cons_of_mem _ List.mem_cons_self
  · rw [List.mem_singleton.mp h, baseId_dotted, baseId_undated]
    exact List.mem_cons_of_mem _ (List.mem_cons_of_mem _ List.mem_cons_self)

theorem mem_slash_form (hslash : '/' ∈ id.toList) (h : form ∈ forms id) : '/' ∈ form.toList := by
  have hundated : '/' ∈ (undated id).toList := by
    unfold undated
    rw [String.toList_ofList]
    exact keepsBase_undated.mem_slash hslash
  rcases List.mem_cons.mp h with rfl | h
  · exact hslash
  rcases List.mem_cons.mp h with rfl | h
  · exact hundated
  · rw [List.mem_singleton.mp h, dotted, String.toList_ofList]
    exact keepsBase_dotted.mem_slash hundated

theorem mem_slash_lower (h : '/' ∈ id.toList) : '/' ∈ (lower id).toList := by
  unfold lower
  rw [String.toList_ofList]
  exact keepsBase_lower.mem_slash h

theorem ne_empty_of_mem_slash (h : '/' ∈ id.toList) : id ≠ "" := by
  rintro rfl
  exact absurd h (by decide)

end Names

/-! ## Keys -/

section Keys

variable {m : ReferenceModel} {key : String}

theorem ReferenceModel.mem_keys :
    key ∈ m.keys ↔ (key = m.id ∨ key = lower m.id ∨ key = baseId m.id ∨ key = lower (baseId m.id)) ∧ key ≠ "" := by
  unfold keys
  rw [List.mem_filter, decide_eq_true_eq]
  simp only [List.mem_cons, List.not_mem_nil, or_false]

theorem name_of_mem_keys (h : key ∈ m.keys) : lower (baseId key) = lower (baseId m.id) := by
  obtain ⟨rfl | rfl | rfl | rfl, -⟩ := ReferenceModel.mem_keys.mp h
  · rfl
  · rw [baseId_lower, lower_lower]
  · rw [baseId_baseId]
  · rw [baseId_lower, baseId_baseId, lower_lower]

theorem id_of_mem_keys (h : key ∈ m.keys) (hslash : '/' ∈ key.toList) : lower m.id = lower key := by
  have hname : '/' ∉ (baseId m.id).toList := toList_baseId m.id ▸ not_mem_baseChars _
  obtain ⟨rfl | rfl | rfl | rfl, -⟩ := ReferenceModel.mem_keys.mp h
  · rfl
  · exact (lower_lower m.id).symm
  · exact absurd hslash hname
  · rw [lower, String.toList_ofList] at hslash
    exact absurd hslash (keepsBase_lower.not_mem _ hname)

theorem ReferenceModel.isUnder_iff : m.isUnder key = true ↔ m.IsPriced ∧ key ∈ m.keys := by
  unfold isUnder IsPriced
  rw [Bool.and_eq_true, List.contains_iff_mem]

/-! ## Candidates -/

variable {cs : List String} {c : String}

theorem mem_addForm : c ∈ (if form ≠ "" ∧ form ∉ cs then cs ++ [form] else cs) ↔ c ∈ cs ∨ c ≠ "" ∧ c = form := by
  split
  · next hnew =>
    rw [List.mem_append, List.mem_singleton]
    refine or_congr_right ⟨fun h => ⟨h ▸ hnew.1, h⟩, fun h => h.2⟩
  · next hold =>
    refine ⟨.inl, fun h => ?_⟩
    rcases h with hmem | ⟨hne, rfl⟩
    · exact hmem
    · by_contra hnot
      exact hold ⟨hne, hnot⟩

theorem prefix_addForm (cs : List String) (form : String) : cs <+: (if form ≠ "" ∧ form ∉ cs then cs ++ [form] else cs) := by
  split
  · exact List.prefix_append cs [form]
  · exact List.prefix_refl cs

theorem mem_addCandidate {value c : String} :
    c ∈ addCandidate cs value ↔ c ∈ cs ∨ c ≠ "" ∧ (c = value ∨ c = lower value) := by
  unfold addCandidate
  rw [List.foldl_cons, List.foldl_cons, List.foldl_nil, mem_addForm, mem_addForm, or_assoc, ← and_or_left]

theorem prefix_addCandidate (cs : List String) (value : String) : cs <+: addCandidate cs value :=
  (prefix_addForm cs value).trans (prefix_addForm _ (lower value))

theorem mem_foldl_addCandidate {cs values : List String} :
    c ∈ values.foldl addCandidate cs ↔ c ∈ cs ∨ c ≠ "" ∧ ∃ value ∈ values, c = value ∨ c = lower value := by
  induction values generalizing cs with
  | nil => simp
  | cons value values ih =>
    rw [List.foldl_cons, ih, mem_addCandidate, or_assoc, ← and_or_left, List.exists_mem_cons_iff]

theorem prefix_foldl_addCandidate (cs values : List String) : cs <+: values.foldl addCandidate cs := by
  induction values generalizing cs with
  | nil => exact List.prefix_refl cs
  | cons value values ih => exact (prefix_addCandidate cs value).trans (ih _)

theorem mem_crossReferenceCandidates {modelId base c : String} (h : c ∈ crossReferenceCandidates modelId base) :
    ∃ value ∈ [modelId, base], ∃ form ∈ forms value, c = form ∨ c = lower form := by
  have hloop : ∀ (values cs : List String), c ∈ values.foldl (fun cs value => (forms value).foldl addCandidate cs) cs →
      c ∈ cs ∨ ∃ value ∈ values, ∃ form ∈ forms value, c = form ∨ c = lower form := by
    intro values
    induction values with
    | nil => exact fun cs hmem => .inl hmem
    | cons value values ih =>
      intro cs hmem
      rw [List.foldl_cons] at hmem
      rcases ih _ hmem with hold | ⟨other, hother, hform⟩
      · rcases mem_foldl_addCandidate.mp hold with hold | ⟨-, hform⟩
        · exact .inl hold
        · exact .inr ⟨value, List.mem_cons_self, hform⟩
      · exact .inr ⟨other, List.mem_cons_of_mem value hother, hform⟩
  unfold crossReferenceCandidates at h
  rcases hloop _ [] h with hnil | ⟨value, hvalue, hform⟩
  · exact absurd hnil List.not_mem_nil
  · exact ⟨value, List.mem_of_mem_filter hvalue, hform⟩

theorem prefix_crossReferenceCandidates {modelId : String} (base : String) (h : modelId ≠ "") :
    (forms modelId).foldl addCandidate [] <+: crossReferenceCandidates modelId base := by
  unfold crossReferenceCandidates
  rw [List.filter_cons, if_pos (decide_eq_true h), List.foldl_cons]
  by_cases hbase : base = ""
  · rw [List.filter_cons, if_neg (by simpa using hbase), List.filter_nil]
    simp only [List.foldl_nil, List.prefix_rfl]
  · rw [List.filter_cons, if_pos (decide_eq_true hbase), List.filter_nil, List.foldl_cons, List.foldl_nil]
    exact prefix_foldl_addCandidate _ _

theorem toList_aliased (organisation modelId : String) :
    (organisation ++ "/" ++ baseId modelId).toList = organisation.toList ++ '/' :: baseChars modelId.toList := by
  have hslash : "/".toList = ['/'] := by decide
  rw [String.toList_append, String.toList_append, toList_baseId, hslash, List.append_assoc, List.singleton_append]

theorem baseId_aliased (organisation modelId : String) : baseId (organisation ++ "/" ++ baseId modelId) = baseId modelId := by
  unfold baseId
  congr 1
  change baseChars (organisation ++ "/" ++ baseId modelId).toList = _
  rw [toList_aliased, baseChars_append (not_mem_baseChars _)]

theorem mem_aliasKeys {modelId : String} {provider : Option String} (h : key ∈ aliasKeys modelId provider) :
    ∃ organisation, aliasOf provider = some organisation ∧
      (key = organisation ++ "/" ++ baseId modelId ∨ key = lower (organisation ++ "/" ++ baseId modelId)) := by
  unfold aliasKeys at h
  cases halias : aliasOf provider with
  | none =>
    rw [halias] at h
    exact absurd h List.not_mem_nil
  | some organisation =>
    rw [halias] at h
    refine ⟨organisation, rfl, ?_⟩
    rcases List.mem_cons.mp h with hkey | hkey
    · exact .inl hkey
    · exact .inr (List.mem_singleton.mp hkey)

theorem name_of_mem_exactKeys {modelId : String} {provider : Option String} (h : key ∈ exactKeys modelId provider) :
    ∃ form ∈ forms (baseId modelId), lower (baseId key) = lower form := by
  rcases List.mem_append.mp h with hmem | hmem
  · obtain ⟨organisation, -, rfl | rfl⟩ := mem_aliasKeys hmem
    · exact ⟨baseId modelId, List.mem_cons_self, by rw [baseId_aliased]⟩
    · exact ⟨baseId modelId, List.mem_cons_self, by rw [baseId_lower, baseId_aliased, lower_lower]⟩
  · obtain ⟨value, hvalue, form, hform, hkey⟩ := mem_crossReferenceCandidates hmem
    have hname : lower (baseId key) = lower (baseId form) := by
      rcases hkey with rfl | rfl
      · rfl
      · rw [baseId_lower, lower_lower]
    refine ⟨baseId form, ?_, hname⟩
    rcases List.mem_cons.mp hvalue with rfl | hvalue
    · exact baseId_form hform
    · rw [List.mem_singleton.mp hvalue] at hform
      simpa using baseId_form hform

end Keys

/-! ## Names that go on -/

section Versions

variable {name key : String} {m : ReferenceModel}

theorem isDigitChar_toLower {c : Char} (h : isDigitChar c = true) : c.toLower = c := by
  have hletters : ∀ n < 26, isDigitChar (Char.ofNat (65 + n)) = false := by decide +kernel
  unfold Char.toLower
  split
  · next hupper =>
    -- A capital letter is no digit.
    have hlow : 65 ≤ c.toNat := UInt32.le_iff_toNat_le.mp hupper.1
    have hhigh : c.toNat ≤ 90 := UInt32.le_iff_toNat_le.mp hupper.2
    have hletter := hletters (c.toNat - 65) (by omega)
    rw [Nat.add_sub_cancel' hlow, Char.ofNat_toNat, h] at hletter
    cases hletter
  · rfl

theorem of_mem_versionSuffix {suffix : List Char} (h : isVersionSuffix suffix = true) {c : Char} (hc : c ∈ suffix) :
    c = '-' ∨ isDigitChar c = true := by
  unfold isVersionSuffix at h
  rcases Bool.or_eq_true_iff.mp h with hempty | hversion
  · rw [List.isEmpty_iff.mp hempty] at hc
    exact absurd hc List.not_mem_nil
  · obtain ⟨hhead, hdigits⟩ := Bool.and_eq_true_iff.mp hversion
    have hhead := of_decide_eq_true (Bool.and_eq_true_iff.mp hhead).1
    obtain ⟨rest, rfl⟩ := List.head?_eq_some_iff.mp hhead
    rcases List.mem_cons.mp hc with rfl | hrest
    · exact .inl rfl
    · by_cases hhyphen : c = '-'
      · exact .inl hhyphen
      · exact .inr (List.all_eq_true.mp hdigits c (List.mem_filter.mpr ⟨hrest, decide_eq_true hhyphen⟩))

theorem key_of_extendsName (hname : '/' ∉ name.toList) (h : extendsName (lower name) key = true) : '/' ∉ key.toList ∧ lower key = key := by
  obtain ⟨hleading, hversion⟩ := Bool.and_eq_true_iff.mp h
  obtain ⟨suffix, hkey⟩ := List.isPrefixOf_iff_prefix.mp hleading
  have hlength : (lower name).length = (lower name).toList.length := String.length_toList.symm
  rw [← hkey, hlength, List.drop_left] at hversion
  have hlower : (lower name).toList.map Char.toLower = (lower name).toList := by
    have htwice := congrArg String.toList (lower_lower name)
    rwa [lower, String.toList_ofList] at htwice
  have hsuffix : suffix.map Char.toLower = suffix := by
    have hsame : suffix.map Char.toLower = suffix.map id := by
      refine List.map_congr_left fun c hc => ?_
      rcases of_mem_versionSuffix hversion hc with rfl | hdigit
      · rfl
      · exact isDigitChar_toLower hdigit
    rw [hsame, List.map_id]
  constructor
  · rw [← hkey, List.mem_append]
    rintro (hmem | hmem)
    · rw [lower, String.toList_ofList] at hmem
      exact keepsBase_lower.not_mem _ hname hmem
    · rcases of_mem_versionSuffix hversion hmem with hhyphen | hdigit
      · exact absurd hhyphen (by decide)
      · exact absurd hdigit (by decide)
  · rw [lower, ← hkey, List.map_append, hlower, hsuffix, hkey, String.ofList_toList]

theorem eq_name_of_extendsName (hname : '/' ∉ name.toList) (hkey : key ∈ m.keys) (h : extendsName (lower name) key = true) :
    key = lower (baseId m.id) := by
  obtain ⟨hslash, hlower⟩ := key_of_extendsName hname h
  rw [← name_of_mem_keys hkey, baseId_of_not_mem hslash, hlower]

end Versions

/-! ## The index -/

section Index

variable {models : List ReferenceModel} {key : String} {m : ReferenceModel}

theorem buildIndex_eq (models : List ReferenceModel) : buildIndex models = ofEntries (models.flatMap ReferenceModel.entries) := by
  unfold buildIndex ofEntries
  rw [List.foldl_flatMap]

theorem valuesOf_entries (m : ReferenceModel) (key : String) :
    (m.isUnder key = true → (valuesOf m.entries key).getLast? = m.pricing) ∧ (m.isUnder key = false → valuesOf m.entries key = []) := by
  unfold ReferenceModel.isUnder ReferenceModel.entries
  cases hpricing : m.pricing with
  | none => exact ⟨(fun h => by cases h), fun _ => rfl⟩
  | some pricing =>
    have hmem : ∀ p ∈ valuesOf (m.keys.map fun k => (k, pricing)) key, p = pricing := by
      intro p hp
      obtain ⟨k, -, hk⟩ := List.mem_map.mp (mem_valuesOf.mp hp)
      exact (Prod.ext_iff.mp hk).2.symm
    refine ⟨fun h => ?_, fun h => ?_⟩
    · have hkey : key ∈ m.keys := List.contains_iff_mem.mp h
      have hthere : pricing ∈ valuesOf (m.keys.map fun k => (k, pricing)) key :=
        mem_valuesOf.mpr (List.mem_map.mpr ⟨key, hkey, rfl⟩)
      dsimp only
      rw [List.getLast?_eq_some_getLast (List.ne_nil_of_mem hthere), hmem _ (List.getLast_mem _)]
    · refine valuesOf_eq_nil fun hkey => ?_
      rw [List.map_map] at hkey
      have hin : key ∈ m.keys := by simpa using hkey
      rw [Option.isSome_some, Bool.true_and, List.contains_iff_mem.mpr hin] at h
      cases h

/-- Under a key stands the last entry that it leads to. -/
theorem lookup_buildIndex (models : List ReferenceModel) (key : String) :
    (buildIndex models).lookup key = ((models.filter (·.isUnder key)).getLast?).bind ReferenceModel.pricing := by
  rw [buildIndex_eq, lookup_ofEntries]
  induction models using List.reverseRecOn with
  | nil => rfl
  | append_singleton models m ih =>
    have hvalues : valuesOf ((models ++ [m]).flatMap ReferenceModel.entries) key =
        valuesOf (models.flatMap ReferenceModel.entries) key ++ valuesOf m.entries key := by
      rw [List.flatMap_append, List.flatMap_singleton, valuesOf, List.filter_append, List.map_append]
      rfl
    rw [hvalues, List.getLast?_append, ih, List.filter_append]
    cases hunder : m.isUnder key with
    | false =>
      rw [(valuesOf_entries m key).2 hunder, List.filter_cons, if_neg (by simp [hunder]), List.filter_nil, List.append_nil]
      rfl
    | true =>
      have hpriced : m.pricing.isSome := (Bool.and_eq_true_iff.mp hunder).1
      obtain ⟨pricing, hpricing⟩ := Option.isSome_iff_exists.mp hpriced
      rw [(valuesOf_entries m key).1 hunder, List.filter_cons, if_pos hunder, List.filter_nil, List.getLast?_concat, hpricing]
      exact hpricing.symm

theorem isSome_lookup_buildIndex (models : List ReferenceModel) (key : String) :
    ((buildIndex models).lookup key).isSome = models.any (·.isUnder key) := by
  rw [lookup_buildIndex]
  cases hlast : (models.filter (·.isUnder key)).getLast? with
  | none =>
    have hnone : models.filter (·.isUnder key) = [] := List.getLast?_eq_none_iff.mp hlast
    refine (Bool.eq_false_iff.mpr fun hany => ?_).symm
    obtain ⟨m, hm, hunder⟩ := List.any_eq_true.mp hany
    exact absurd (List.mem_filter.mpr ⟨hm, hunder⟩) (hnone ▸ List.not_mem_nil)
  | some m =>
    obtain ⟨hm, hunder⟩ := List.mem_filter.mp (List.mem_of_getLast? hlast)
    rw [List.any_eq_true.mpr ⟨m, hm, hunder⟩]
    exact (Bool.and_eq_true_iff.mp hunder).1

def allKeys (models : List ReferenceModel) : List String := (models.flatMap ReferenceModel.entries).map Prod.fst

theorem mem_allKeys : key ∈ allKeys models ↔ ∃ m ∈ models, m.isUnder key = true := by
  unfold allKeys
  rw [List.mem_map]
  constructor
  · rintro ⟨⟨k, pricing⟩, hentry, rfl⟩
    obtain ⟨m, hm, hmem⟩ := List.mem_flatMap.mp hentry
    refine ⟨m, hm, ?_⟩
    by_contra hunder
    have hnone := (valuesOf_entries m k).2 (Bool.eq_false_iff.mpr hunder)
    exact absurd (mem_valuesOf.mpr hmem) (hnone ▸ List.not_mem_nil)
  · rintro ⟨m, hm, hunder⟩
    have hlast := (valuesOf_entries m key).1 hunder
    obtain ⟨pricing, hpricing⟩ := Option.isSome_iff_exists.mp (Bool.and_eq_true_iff.mp hunder).1
    rw [hpricing] at hlast
    exact ⟨(key, pricing), List.mem_flatMap.mpr ⟨m, hm, mem_valuesOf.mp (List.mem_of_getLast? hlast)⟩, rfl⟩

def lastUnder (models : List ReferenceModel) (key : String) : Option ReferenceModel := (models.filter (·.isUnder key)).getLast?

theorem lastUnder_isSome (h : ∃ m ∈ models, m.isUnder key = true) : ∃ m, lastUnder models key = some m := by
  obtain ⟨m, hm, hunder⟩ := h
  have hne : models.filter (·.isUnder key) ≠ [] := List.ne_nil_of_mem (List.mem_filter.mpr ⟨hm, hunder⟩)
  exact ⟨_, List.getLast?_eq_some_getLast hne⟩

theorem of_lastUnder (h : lastUnder models key = some m) : m ∈ models ∧ m.isUnder key = true :=
  List.mem_filter.mp (List.mem_of_getLast? h)

theorem map_lookup_buildIndex (models : List ReferenceModel) (key : String) :
    ((buildIndex models).lookup key).map (normalizePricingDict · .perToken) = (lastUnder models key).map ReferenceModel.price := by
  rw [lookup_buildIndex]
  unfold lastUnder
  cases hlast : (models.filter (·.isUnder key)).getLast? with
  | none => rfl
  | some m =>
    obtain ⟨-, hunder⟩ := List.mem_filter.mp (List.mem_of_getLast? hlast)
    obtain ⟨pricing, hpricing⟩ := Option.isSome_iff_exists.mp (Bool.and_eq_true_iff.mp hunder).1
    unfold ReferenceModel.price
    rw [Option.bind_some, hpricing, Option.map_some, Option.map_some, hpricing, Option.getD_some]

end Index

/-! ## What is decided -/

section Decided

variable {models others : List ReferenceModel} {modelId : String} {provider : Option String} {key : String} {m : ReferenceModel}

theorem findSome?_eq_bind {α β : Type} (l : List α) (f : α → Option β) : l.findSome? f = (l.find? fun a => (f a).isSome).bind f := by
  induction l with
  | nil => rfl
  | cons a l ih =>
    rw [List.findSome?_cons, List.find?_cons]
    cases hf : f a with
    | some b => exact hf.symm
    | none => exact ih

/-- What the lookup answers: the price under the key that decides, or under the first one that goes on from the name. -/
theorem referencePrice_eq (models : List ReferenceModel) (modelId : String) (provider : Option String) :
    referencePrice models modelId provider =
      match decidingKey models modelId provider with
      | some key => (lastUnder models key).map ReferenceModel.price
      | none => ((allKeys models).find? (extendsName (lower (baseId modelId)))).bind fun key =>
        (lastUnder models key).map ReferenceModel.price := by
  have hexact : (exactKeys modelId provider).findSome? (fun key => (buildIndex models).lookup key) =
      (decidingKey models modelId provider).bind fun key => (buildIndex models).lookup key := by
    rw [findSome?_eq_bind]
    unfold decidingKey
    simp only [isSome_lookup_buildIndex]
  unfold referencePrice getCrossReferencePricing
  rw [if_neg Bool.false_ne_true, hexact]
  cases hkey : decidingKey models modelId provider with
  | some key =>
    have hany : models.any (·.isUnder key) = true := (List.find?_some hkey : _)
    rw [← isSome_lookup_buildIndex] at hany
    obtain ⟨pricing, hpricing⟩ := Option.isSome_iff_exists.mp hany
    dsimp only
    rw [← map_lookup_buildIndex, Option.bind_some, hpricing]
    rfl
  | none =>
    have hunique : UniqueKeys (buildIndex models) := buildIndex_eq models ▸ uniqueKeys_ofEntries _
    have hkeys : ((buildIndex models).map Prod.fst).find? (extendsName (lower (baseId modelId))) =
        (allKeys models).find? (extendsName (lower (baseId modelId))) := by
      rw [buildIndex_eq, find?_keys_ofEntries]
      rfl
    have hfound := find?_by_key hunique (extendsName (lower (baseId modelId)))
    rw [hkeys] at hfound
    have hprice := congrArg (Option.map (normalizePricingDict · .perToken)) hfound
    rw [Option.map_map, Option.map_bind] at hprice
    refine hprice.trans ?_
    congr 1
    exact funext fun key => map_lookup_buildIndex models key

theorem goesOn_iff {name : String} : m.goesOn name = true ↔ ∃ key, m.isUnder key = true ∧ extendsName name key = true := by
  unfold ReferenceModel.goesOn
  rw [Bool.and_eq_true, List.any_eq_true]
  constructor
  · rintro ⟨hpriced, key, hkey, hextends⟩
    exact ⟨key, ReferenceModel.isUnder_iff.mpr ⟨hpriced, hkey⟩, hextends⟩
  · rintro ⟨key, hunder, hextends⟩
    obtain ⟨hpriced, hkey⟩ := ReferenceModel.isUnder_iff.mp hunder
    exact ⟨hpriced, key, hkey, hextends⟩

theorem mem_deciding_of_price {price : PriceTable} (h : referencePrice models modelId provider = some price) :
    ∃ m ∈ deciding models modelId provider, price = m.price := by
  rw [referencePrice_eq] at h
  unfold deciding
  cases hkey : decidingKey models modelId provider with
  | some key =>
    rw [hkey] at h
    obtain ⟨m, hlast, rfl⟩ := Option.map_eq_some_iff.mp h
    obtain ⟨hm, hunder⟩ := of_lastUnder hlast
    exact ⟨m, List.mem_filter.mpr ⟨hm, hunder⟩, rfl⟩
  | none =>
    rw [hkey] at h
    obtain ⟨key, hfirst, hlastPrice⟩ := Option.bind_eq_some_iff.mp h
    obtain ⟨m, hlast, rfl⟩ := Option.map_eq_some_iff.mp hlastPrice
    obtain ⟨hm, hunder⟩ := of_lastUnder hlast
    have hextends : extendsName (lower (baseId modelId)) key = true := List.find?_some hfirst
    exact ⟨m, List.mem_filter.mpr ⟨hm, goesOn_iff.mpr ⟨key, hunder, hextends⟩⟩, rfl⟩

theorem price_of_mem_deciding (h : m ∈ deciding models modelId provider) : (referencePrice models modelId provider).isSome := by
  rw [referencePrice_eq]
  unfold deciding at h
  cases hkey : decidingKey models modelId provider with
  | some key =>
    rw [hkey] at h
    obtain ⟨hm, hunder⟩ := List.mem_filter.mp h
    obtain ⟨last, hlast⟩ := lastUnder_isSome ⟨m, hm, hunder⟩
    dsimp only
    rw [hlast]
    rfl
  | none =>
    rw [hkey] at h
    obtain ⟨hm, hextends⟩ := List.mem_filter.mp h
    obtain ⟨key, hunder, hkeyExtends⟩ := goesOn_iff.mp hextends
    have hsome : ((allKeys models).find? (extendsName (lower (baseId modelId)))).isSome :=
      List.find?_isSome.mpr ⟨key, mem_allKeys.mpr ⟨m, hm, hunder⟩, hkeyExtends⟩
    obtain ⟨first, hfirst⟩ := Option.isSome_iff_exists.mp hsome
    obtain ⟨last, hlast⟩ := lastUnder_isSome (mem_allKeys.mp (List.mem_of_find?_eq_some hfirst))
    dsimp only
    rw [hfirst, Option.bind_some, hlast]
    rfl

theorem decidingKey_of_perm (h : others.Perm models) : decidingKey others modelId provider = decidingKey models modelId provider := by
  unfold decidingKey
  congr 1
  refine funext fun key => Bool.eq_iff_iff.mpr ?_
  rw [List.any_eq_true, List.any_eq_true]
  simp only [h.mem_iff]

theorem mem_deciding_of_perm (h : others.Perm models) : m ∈ deciding others modelId provider ↔ m ∈ deciding models modelId provider := by
  unfold deciding
  rw [decidingKey_of_perm h]
  cases decidingKey models modelId provider with
  | some key => exact (h.filter _).mem_iff
  | none => exact (h.filter _).mem_iff

end Decided

/-! ## The order of the catalog -/

section Order

variable {models : List ReferenceModel} {modelId name : String} {provider : Option String} {key : String} {a : ReferenceModel}

theorem lastUnder_concat (xs : List ReferenceModel) (h : a.isUnder key = true) : lastUnder (xs ++ [a]) key = some a := by
  unfold lastUnder
  rw [List.filter_append, List.filter_cons, if_pos h, List.filter_nil, List.getLast?_concat]

theorem lastUnder_append_of_none {xs ys : List ReferenceModel} (h : ∀ m ∈ ys, m.isUnder key = false) :
    lastUnder (xs ++ ys) key = lastUnder xs key := by
  have hnone : ys.filter (·.isUnder key) = [] := List.filter_eq_nil_iff.mpr fun m hm => by simp [h m hm]
  unfold lastUnder
  rw [List.filter_append, hnone, List.append_nil]

theorem allKeys_append (xs ys : List ReferenceModel) : allKeys (xs ++ ys) = allKeys xs ++ allKeys ys := by
  unfold allKeys
  rw [List.flatMap_append, List.map_append]

theorem find?_eq_of_unique {α : Type} {l : List α} {p : α → Bool} {k : α} (hk : k ∈ l) (hp : p k = true)
    (hunique : ∀ x ∈ l, p x = true → x = k) : l.find? p = some k := by
  obtain ⟨x, hx⟩ := Option.isSome_iff_exists.mp (List.find?_isSome.mpr ⟨k, hk, hp⟩)
  rw [hx, hunique x (List.mem_of_find?_eq_some hx) (List.find?_some hx)]

theorem isUnder_name_of_extends (hname : '/' ∉ name.toList) (h : a.goesOn (lower name) = true) :
    a.isUnder (lower (baseId a.id)) = true ∧ extendsName (lower name) (lower (baseId a.id)) = true := by
  obtain ⟨key, hunder, hextends⟩ := goesOn_iff.mp h
  have heq := eq_name_of_extendsName hname (ReferenceModel.isUnder_iff.mp hunder).2 hextends
  rw [← heq]
  exact ⟨hunder, hextends⟩

/-- Each of the entries decides the price in some order: as the last one of its key, with its key before the others. -/
theorem exists_order (h : a ∈ deciding models modelId provider) :
    ∃ others, others.Perm models ∧ referencePrice others modelId provider = some a.price := by
  cases hkey : decidingKey models modelId provider with
  | some key =>
    unfold deciding at h
    rw [hkey] at h
    obtain ⟨hm, hunder⟩ := List.mem_filter.mp h
    have hperm : (models.erase a ++ [a]).Perm models := List.perm_append_comm.trans (List.perm_cons_erase hm).symm
    refine ⟨_, hperm, ?_⟩
    rw [referencePrice_eq, decidingKey_of_perm hperm, hkey]
    dsimp only
    rw [lastUnder_concat _ hunder]
    rfl
  | none =>
    unfold deciding at h
    rw [hkey] at h
    obtain ⟨hm, hextends⟩ := List.mem_filter.mp h
    have hname : '/' ∉ (baseId modelId).toList := toList_baseId modelId ▸ not_mem_baseChars _
    obtain ⟨hunder, hown⟩ := isUnder_name_of_extends hname hextends
    let key := lower (baseId a.id)
    let group := (models.filter (·.isUnder key)).erase a ++ [a]
    have hgroup : group.Perm (models.filter (·.isUnder key)) :=
      List.perm_append_comm.trans (List.perm_cons_erase (List.mem_filter.mpr ⟨hm, hunder⟩)).symm
    have hperm : (group ++ models.filter fun m => !m.isUnder key).Perm models :=
      (hgroup.append_right _).trans (List.filter_append_perm _ models)
    have hfirst : (allKeys group).find? (extendsName (lower (baseId modelId))) = some key := by
      refine find?_eq_of_unique (mem_allKeys.mpr ⟨a, List.mem_append_right _ List.mem_cons_self, hunder⟩) hown ?_
      intro other hother hotherExtends
      obtain ⟨m, hin, hotherUnder⟩ := mem_allKeys.mp hother
      have hmember := (List.mem_filter.mp (hgroup.mem_iff.mp hin)).2
      rw [eq_name_of_extendsName hname (ReferenceModel.isUnder_iff.mp hotherUnder).2 hotherExtends,
        eq_name_of_extendsName hname (ReferenceModel.isUnder_iff.mp hmember).2 hown]
    refine ⟨_, hperm, ?_⟩
    rw [referencePrice_eq, decidingKey_of_perm hperm, hkey]
    dsimp only
    rw [allKeys_append, List.find?_append, hfirst, Option.some_or, Option.bind_some, lastUnder_append_of_none, lastUnder_concat _ hunder]
    · rfl
    · intro m hrest
      simpa using (List.mem_filter.mp hrest).2

theorem order_iff (models : List ReferenceModel) (modelId : String) (provider : Option String) :
    (∀ others, others.Perm models → referencePrice others modelId provider = referencePrice models modelId provider) ↔
      ∀ a ∈ deciding models modelId provider, ∀ b ∈ deciding models modelId provider, a.price = b.price := by
  constructor
  · intro h a ha b hb
    obtain ⟨first, hfirst, ha⟩ := exists_order ha
    obtain ⟨second, hsecond, hb⟩ := exists_order hb
    have heq := (h first hfirst).trans (h second hsecond).symm
    rw [ha, hb] at heq
    exact Option.some.inj heq
  · intro h others hperm
    cases hprice : referencePrice models modelId provider with
    | none =>
      by_contra hsome
      obtain ⟨price, hother⟩ := Option.ne_none_iff_exists'.mp hsome
      obtain ⟨m, hm, -⟩ := mem_deciding_of_price hother
      have hthere := price_of_mem_deciding ((mem_deciding_of_perm hperm).mp hm)
      rw [hprice] at hthere
      cases hthere
    | some price =>
      obtain ⟨a, ha, rfl⟩ := mem_deciding_of_price hprice
      obtain ⟨price, hother⟩ := Option.isSome_iff_exists.mp (price_of_mem_deciding ((mem_deciding_of_perm hperm).mpr ha))
      obtain ⟨b, hb, rfl⟩ := mem_deciding_of_price hother
      rw [hother, h a ha b ((mem_deciding_of_perm hperm).mp hb)]

end Order

/-! ## Whose entry comes first -/

section Preferred

variable {models : List ReferenceModel} {modelId : String} {provider : Option String} {key : String} {m : ReferenceModel}

theorem isUnder_lower_id (hpriced : m.IsPriced) (hkey : lower m.id = key) (hslash : '/' ∈ key.toList) : m.isUnder key = true :=
  ReferenceModel.isUnder_iff.mpr ⟨hpriced, ReferenceModel.mem_keys.mpr ⟨.inr (.inl hkey.symm), ne_empty_of_mem_slash hslash⟩⟩

theorem price_of_prefix {first : List String} (h : first <+: exactKeys modelId provider)
    (hfound : ∃ key ∈ first, ∃ m ∈ models, m.isUnder key = true) :
    ∃ key ∈ first, ∃ m ∈ models, m.isUnder key = true ∧ referencePrice models modelId provider = some m.price := by
  obtain ⟨rest, hrest⟩ := h
  obtain ⟨key, hkey, m, hm, hunder⟩ := hfound
  have hsome : (first.find? fun key => models.any (·.isUnder key)).isSome :=
    List.find?_isSome.mpr ⟨key, hkey, List.any_eq_true.mpr ⟨m, hm, hunder⟩⟩
  obtain ⟨decided, hdecided⟩ := Option.isSome_iff_exists.mp hsome
  have hdeciding : decidingKey models modelId provider = some decided := by
    unfold decidingKey
    rw [← hrest, List.find?_append, hdecided, Option.some_or]
  obtain ⟨last, hlast⟩ := lastUnder_isSome (List.any_eq_true.mp (List.find?_some hdecided : _))
  obtain ⟨hlastMem, hlastUnder⟩ := of_lastUnder hlast
  refine ⟨decided, List.mem_of_find?_eq_some hdecided, last, hlastMem, hlastUnder, ?_⟩
  rw [referencePrice_eq, hdeciding]
  dsimp only
  rw [hlast]
  rfl

theorem mem_slash_aliased (organisation modelId : String) : '/' ∈ (organisation ++ "/" ++ baseId modelId).toList := by
  rw [toList_aliased]
  exact List.mem_append_right _ List.mem_cons_self

theorem underAlias_of_key (hkey : key ∈ aliasKeys modelId provider) (hunder : m.isUnder key = true) : UnderAlias modelId provider m := by
  obtain ⟨organisation, halias, hform⟩ := mem_aliasKeys hkey
  obtain ⟨hpriced, hmem⟩ := ReferenceModel.isUnder_iff.mp hunder
  refine ⟨hpriced, organisation, halias, ?_⟩
  rcases hform with rfl | rfl
  · exact id_of_mem_keys hmem (mem_slash_aliased organisation modelId)
  · rw [id_of_mem_keys hmem (mem_slash_lower (mem_slash_aliased organisation modelId)), lower_lower]

theorem key_of_underAlias (h : UnderAlias modelId provider m) : ∃ key ∈ aliasKeys modelId provider, m.isUnder key = true := by
  obtain ⟨hpriced, organisation, halias, hid⟩ := h
  refine ⟨lower (organisation ++ "/" ++ baseId modelId), ?_,
    isUnder_lower_id hpriced hid (mem_slash_lower (mem_slash_aliased organisation modelId))⟩
  unfold aliasKeys
  rw [halias]
  exact List.mem_cons_of_mem _ List.mem_cons_self

theorem price_byAlias (h : ∃ m ∈ models, UnderAlias modelId provider m) :
    ∃ m ∈ models, UnderAlias modelId provider m ∧ referencePrice models modelId provider = some m.price := by
  obtain ⟨m, hm, halias⟩ := h
  obtain ⟨key, hkey, hunder⟩ := key_of_underAlias halias
  obtain ⟨decided, hdecided, last, hlast, hlastUnder, hprice⟩ := price_of_prefix (List.prefix_append _ _) ⟨key, hkey, m, hm, hunder⟩
  exact ⟨last, hlast, underAlias_of_key hdecided hlastUnder, hprice⟩

theorem price_byOwn (hslash : '/' ∈ modelId.toList) (hnone : ∀ m ∈ models, ¬ UnderAlias modelId provider m)
    (h : ∃ m ∈ models, UnderOwn modelId m) :
    ∃ m ∈ models, UnderOwn modelId m ∧ referencePrice models modelId provider = some m.price := by
  obtain ⟨m, hm, hpriced, form, hform, hid⟩ := h
  have hlower : '/' ∈ (lower form).toList := mem_slash_lower (mem_slash_form hslash hform)
  have hkey : lower form ∈ (forms modelId).foldl addCandidate [] :=
    mem_foldl_addCandidate.mpr (.inr ⟨ne_empty_of_mem_slash hlower, form, hform, .inr rfl⟩)
  have hleading : aliasKeys modelId provider ++ (forms modelId).foldl addCandidate [] <+: exactKeys modelId provider :=
    (List.prefix_append_right_inj _).mpr (prefix_crossReferenceCandidates (baseId modelId) (ne_empty_of_mem_slash hslash))
  obtain ⟨decided, hdecided, last, hlast, hlastUnder, hprice⟩ :=
    price_of_prefix hleading ⟨_, List.mem_append_right _ hkey, m, hm, isUnder_lower_id hpriced hid hlower⟩
  refine ⟨last, hlast, ?_, hprice⟩
  rcases List.mem_append.mp hdecided with halias | hown
  · exact absurd (underAlias_of_key halias hlastUnder) (hnone last hlast)
  · obtain ⟨hlastPriced, hmem⟩ := ReferenceModel.isUnder_iff.mp hlastUnder
    rcases mem_foldl_addCandidate.mp hown with hnil | ⟨-, other, hother, hspelled⟩
    · exact absurd hnil List.not_mem_nil
    · refine ⟨hlastPriced, other, hother, ?_⟩
      have hslashOther := mem_slash_form hslash hother
      rcases hspelled with rfl | rfl
      · exact id_of_mem_keys hmem hslashOther
      · rw [id_of_mem_keys hmem (mem_slash_lower hslashOther), lower_lower]

theorem sameModel_of_deciding (h : m ∈ deciding models modelId provider) : m ∈ models ∧ m.IsPriced ∧ SameModel modelId m.id := by
  unfold deciding at h
  cases hkey : decidingKey models modelId provider with
  | some key =>
    rw [hkey] at h
    obtain ⟨hm, hunder⟩ := List.mem_filter.mp h
    obtain ⟨hpriced, hmem⟩ := ReferenceModel.isUnder_iff.mp hunder
    obtain ⟨form, hform, hname⟩ := name_of_mem_exactKeys (List.mem_of_find?_eq_some hkey)
    exact ⟨hm, hpriced, .inl ⟨form, hform, (name_of_mem_keys hmem).symm.trans hname⟩⟩
  | none =>
    rw [hkey] at h
    obtain ⟨hm, hextends⟩ := List.mem_filter.mp h
    have hname : '/' ∉ (baseId modelId).toList := toList_baseId modelId ▸ not_mem_baseChars _
    exact ⟨hm, (Bool.and_eq_true_iff.mp hextends).1, .inr (isUnder_name_of_extends hname hextends).2⟩

end Preferred

/-! ## Whose price it is -/

/-- **The price of a cross reference** is that of an entry with the name of the model: one of the provider's alias, if there is one, and
    else one of the model's own organisation, if there is one. It is the same in every order of the catalog just when all entries that
    can decide it have the same price. -/
theorem priced_by_reference (models : List ReferenceModel) (modelId : String) (provider : Option String) :
    PricedByReference models modelId provider where
  entry building price h := by
    cases building with
    | true => cases h
    | false =>
      obtain ⟨m, hdeciding, rfl⟩ := mem_deciding_of_price h
      obtain ⟨hm, hpriced, hsame⟩ := sameModel_of_deciding hdeciding
      exact ⟨m, hm, hpriced, hsame, rfl⟩
  byAlias := price_byAlias
  byOwn := price_byOwn
  order := order_iff models modelId provider

def sharedNames : List ReferenceModel :=
  [⟨"openai/gpt-4o", some { prompt := some 1 }⟩, ⟨"azure/gpt-4o", some { prompt := some 2 }⟩,
    ⟨"openai/gpt-4-1", some { prompt := some 3 }⟩]

/-- **Borrowed prices**: of another organisation, whichever comes last in the catalog; and of another version of the model. -/
theorem price_borrowed :
    ((¬ ∃ m ∈ sharedNames, (UnderAlias "acme/gpt-4o" none m ∨ UnderOwn "acme/gpt-4o" m) ∧
        referencePrice sharedNames "acme/gpt-4o" none = some m.price) ∧
      (referencePrice sharedNames "acme/gpt-4o" none).map PriceTable.prompt = some (some 2) ∧
      (referencePrice sharedNames.reverse "acme/gpt-4o" none).map PriceTable.prompt = some (some 1)) ∧
    (¬ ∃ m ∈ sharedNames, ∃ form ∈ forms (baseId "openai/gpt-4"), lower (baseId m.id) = lower form) ∧
      (referencePrice sharedNames "openai/gpt-4" none).map PriceTable.prompt = some (some 3) := by
  refine ⟨⟨?_, by decide +kernel, by decide +kernel⟩, by decide +kernel, by decide +kernel⟩
  have hnone : ∀ m ∈ sharedNames, ∀ form ∈ forms "acme/gpt-4o", lower m.id ≠ lower form := by decide +kernel
  rintro ⟨m, hm, ⟨-, organisation, halias, -⟩ | ⟨-, form, hform, hid⟩, -⟩
  · cases halias
  · exact hnone m hm form hform hid

end Gatewayz.CrossReference
