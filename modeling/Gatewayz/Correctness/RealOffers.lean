import Gatewayz.Catalog.UniqueModels

/-!
# `Correctness.RealOffers` — what the catalog of unique models shows

An entry lists the offers that the tables map to its model (`mem_offersOf`), if their stored prices can be compared at all. The price of an
offer is that of its own row unless that is missing or zero; then one is looked up, and it may be another row's. The cheapest offer is a
numeric minimum of what is shown, where each price is known.
-/

namespace Gatewayz.UniqueModels

open Exec.Dictionary StoredPrices

/-! ## The claim -/

/-- A unique model is mapped to an active row of an active and enabled provider. -/
structure Offers (t : Tables) (um : UniqueModel) (p : Provider) (m : Model) : Prop where
  mapped : ∃ mapping ∈ t.mappings, mapping.uniqueModelId = some um.id ∧ mapping.providerId = p.id ∧ mapping.modelId = m.id
  model : m ∈ t.models
  modelActive : m.isActive = true
  provider : p ∈ t.providers
  providerActive : p.isActive = true
  named : p.slug ≠ ""
  enabled : t.enabled p.slug = true

def Model.promptPrice (m : Model) : Option ℚ :=
  match toFloat m.pricing.prompt with
  | .ok (.finite q) => some q
  | _ => none

/-- An entry shows the real offers of its model: each with the price of its own row, and the cheapest of those whose price is known. -/
structure ShowsRealOffers (t : Tables) (um : UniqueModel) (entry : ApiModel) : Prop where
  listed : ∀ shown ∈ entry.providers, ∃ p m, Offers t um p m ∧ shown.slug = p.slug ∧ shown.pricing = m.pricing.format
  complete : ∀ p m, Offers t um p m → ∃ shown ∈ entry.providers, shown.slug = p.slug ∧ shown.pricing = m.pricing.format
  cheapest : ∀ slug, entry.cheapestProvider = some slug → ∃ p m q, Offers t um p m ∧ p.slug = slug ∧ m.promptPrice = some q ∧
    entry.cheapestPromptPrice = some (.finite q) ∧ ∀ p' m' q', Offers t um p' m' → m'.promptPrice = some q' → q ≤ q'

/-- A provider of an entry is shown with the price of its own row, or with one that is looked up for a price that is missing or zero. -/
structure ShownAs (sources : PriceSources) (p : Provider) (m : Model) (shown : ApiProvider) : Prop where
  slug : shown.slug = p.slug
  pricing : shown.pricing = m.pricing.format ∨ hasRealPricing m.pricing.format = false ∧
    ((∃ key, sources.batch.lookup key = some shown.pricing) ∨ ∃ key, sources.manual p.slug key = some shown.pricing)

/-- What an entry shows, where each stored price is missing or the text of a number. -/
structure ShowsOffers (t : Tables) (sources : PriceSources) (um : UniqueModel) (entry : ApiModel) : Prop where
  listed : ∀ shown ∈ entry.providers, ∃ p m, Offers t um p m ∧ ShownAs sources p m shown
  complete : ∀ p m, Offers t um p m → ∃ shown ∈ entry.providers, ShownAs sources p m shown
  cheapest : (∀ p m, Offers t um p m → IsNumeral m.pricing.prompt) → ∃ shown ∈ entry.providers, ∃ q,
    entry.cheapestProvider = some shown.slug ∧ toFloat shown.pricing.prompt = .ok (.finite q) ∧
      entry.cheapestPromptPrice = some (.finite q) ∧ ∀ other ∈ entry.providers, ∀ q', toFloat other.pricing.prompt = .ok (.finite q') → q ≤ q'

def Comparable (t : Tables) (um : UniqueModel) : Prop :=
  ∀ p m, Offers t um p m → m.pricing.prompt = .none ∨ IsNumeral m.pricing.prompt

def CatalogShowsOffers (t : Tables) (sources : PriceSources) : Prop :=
  ∀ row ∈ transformUniqueModelsBatch t sources, Comparable t row.1 → ShowsOffers t sources row.1 row.2

/-! ## The join -/

section Join

variable {t : Tables} {um : UniqueModel} {p : Provider} {m : Model}

theorem find?_key_iff {A : Type} {key : A → Nat} {rows : List A} (h : (rows.map key).Nodup) {k : Nat} {a : A} :
    rows.find? (fun row => key row = k) = some a ↔ a ∈ rows ∧ key a = k := by
  constructor
  · intro hfind
    exact ⟨List.mem_of_find?_eq_some hfind, by simpa using List.find?_some hfind⟩
  · rintro ⟨hmem, hkey⟩
    cases hfind : rows.find? fun row => key row = k with
    | none => exact absurd (decide_eq_true hkey) (List.find?_eq_none.mp hfind a hmem)
    | some b =>
      have hb : key b = k := by simpa using List.find?_some hfind
      rw [List.inj_on_of_nodup_map h (List.mem_of_find?_eq_some hfind) hmem (hb.trans hkey.symm)]

theorem mem_listedProviders : p ∈ t.listedProviders ↔ p ∈ t.providers ∧ p.isActive = true ∧ p.slug ≠ "" ∧ t.enabled p.slug = true := by
  unfold Tables.listedProviders
  rw [List.mem_filter, Bool.and_eq_true, Bool.and_eq_true, decide_eq_true_eq, and_assoc]

theorem join_eq_some_iff {mapping : Mapping} {id : Nat} : t.join mapping = some (id, p, m) ↔ mapping.uniqueModelId = some id ∧ id ≠ 0 ∧
    (m ∈ t.models ∧ m.id = mapping.modelId) ∧ m.isActive = true ∧ p ∈ t.listedProviders ∧ p.id = mapping.providerId := by
  have hlisted : (t.listedProviders.map Provider.id).Nodup := t.providerKeys.sublist (List.filter_sublist.map _)
  unfold Tables.join
  constructor
  · intro h
    obtain ⟨id', hid, h⟩ := Option.bind_eq_some_iff.mp h
    obtain ⟨hid, hne⟩ := Option.filter_eq_some_iff.mp hid
    obtain ⟨m', hm, h⟩ := Option.bind_eq_some_iff.mp h
    split at h
    · next hactive =>
      obtain ⟨p', hp, heq⟩ := Option.map_eq_some_iff.mp h
      cases heq
      exact ⟨hid, of_decide_eq_true hne, (find?_key_iff t.modelKeys).mp hm, hactive, (find?_key_iff hlisted).mp hp⟩
    · exact absurd h nofun
  · rintro ⟨hid, hne, hm, hactive, hp⟩
    rw [hid, Option.filter_some, if_pos (decide_eq_true hne), Option.bind_some, (find?_key_iff t.modelKeys).mpr hm, Option.bind_some,
      if_pos hactive, (find?_key_iff hlisted).mpr hp, Option.map_some]

/-- The offers of a unique model are those that it is mapped to. -/
theorem mem_offersOf : (p, m) ∈ t.offersOf um.id ↔ um.id ≠ 0 ∧ Offers t um p m := by
  unfold Tables.offersOf
  rw [mem_sortOn]
  constructor
  · intro h
    obtain ⟨⟨id, offer⟩, hfilter, rfl⟩ := List.mem_map.mp h
    obtain ⟨hmem, hid⟩ := List.mem_filter.mp hfilter
    obtain rfl : id = um.id := of_decide_eq_true hid
    obtain ⟨mapping, hmapping, hjoin⟩ := List.mem_filterMap.mp hmem
    obtain ⟨hunique, hne, ⟨hm, hmodel⟩, hactive, hp, hprovider⟩ := join_eq_some_iff.mp hjoin
    obtain ⟨hp, hpactive, hnamed, henabled⟩ := mem_listedProviders.mp hp
    exact ⟨hne, ⟨mapping, hmapping, hunique, hprovider.symm, hmodel.symm⟩, hm, hactive, hp, hpactive, hnamed, henabled⟩
  · rintro ⟨hne, ⟨mapping, hmapping, hunique, hprovider, hmodel⟩, hm, hactive, hp, hpactive, hnamed, henabled⟩
    refine List.mem_map.mpr ⟨(um.id, p, m), List.mem_filter.mpr ⟨List.mem_filterMap.mpr ⟨mapping, hmapping, ?_⟩, decide_eq_true rfl⟩, rfl⟩
    exact join_eq_some_iff.mpr ⟨hunique, hne, ⟨hm, hmodel.symm⟩, hactive, mem_listedProviders.mpr ⟨hp, hpactive, hnamed, henabled⟩,
      hprovider.symm⟩

end Join

/-! ## An entry -/

section Entry

variable {um : UniqueModel} {offers : List (Provider × Model)} {sources : PriceSources}

theorem toFloat_of_isNumeral {v : PyValue} (h : IsNumeral v) : ∃ q, toFloat v = .ok (.finite q) := by
  obtain ⟨s, q, rfl, hparse⟩ := h
  exact ⟨q, by simp only [toFloat, hparse]⟩

theorem cheaper_some {cheapest : Option (PyValue × String)} {offer : Provider × Model}
    (hoffer : offer.2.pricing.prompt = .none ∨ IsNumeral offer.2.pricing.prompt) (hcheapest : ∀ best, cheapest = some best → IsNumeral best.1) :
    ∃ next, cheaper cheapest offer = some next ∧ ∀ best, next = some best → IsNumeral best.1 := by
  unfold cheaper
  rcases hoffer with hnone | hnumeral
  · rw [if_pos hnone]
    exact ⟨cheapest, rfl, hcheapest⟩
  · obtain ⟨s, q, hs, hparse⟩ := id hnumeral
    rw [if_neg (by rw [hs]; exact nofun)]
    cases cheapest with
    | none => exact ⟨_, rfl, fun best hbest => Option.some.inj hbest ▸ hnumeral⟩
    | some best =>
      obtain ⟨price, slug⟩ := best
      obtain ⟨s', q', hs', hparse'⟩ := hcheapest _ rfl
      dsimp only at hs' ⊢
      rw [hs, hs', lessThan, Option.map_some]
      split
      · exact ⟨_, rfl, fun best hbest => Option.some.inj hbest ▸ ⟨s, q, rfl, hparse⟩⟩
      · exact ⟨_, rfl, fun best hbest => Option.some.inj hbest ▸ ⟨s', q', rfl, hparse'⟩⟩

theorem foldlM_cheaper (hoffers : ∀ offer ∈ offers, offer.2.pricing.prompt = .none ∨ IsNumeral offer.2.pricing.prompt)
    {cheapest : Option (PyValue × String)} (hcheapest : ∀ best, cheapest = some best → IsNumeral best.1) :
    ∃ last, offers.foldlM cheaper cheapest = some last ∧ ∀ best, last = some best → IsNumeral best.1 := by
  induction offers generalizing cheapest with
  | nil => exact ⟨cheapest, rfl, hcheapest⟩
  | cons offer offers ih =>
    obtain ⟨next, hnext, hnumeral⟩ := cheaper_some (hoffers offer List.mem_cons_self) hcheapest
    rw [List.foldlM_cons, hnext]
    exact ih (fun other hother => hoffers other (List.mem_cons_of_mem offer hother)) hnumeral

/-- The entry of a unique model has all its offers. -/
theorem transform_providers (hoffers : ∀ offer ∈ offers, offer.2.pricing.prompt = .none ∨ IsNumeral offer.2.pricing.prompt) :
    (transformUniqueModelToApiFormat um offers).providers = offers.map ApiProvider.ofOffer := by
  have hstart : ∀ best, (none : Option (PyValue × String)) = some best → IsNumeral best.1 := nofun
  obtain ⟨last, hlast, hnumeral⟩ := foldlM_cheaper hoffers hstart
  unfold transformUniqueModelToApiFormat
  dsimp only
  rw [hlast, Option.bind_some]
  cases last with
  | none => rfl
  | some best =>
    obtain ⟨q, hq⟩ := toFloat_of_isNumeral (hnumeral best rfl)
    dsimp only
    rw [hq]
    rfl

theorem lookUp_eq_some {modelId : String} {provider : ApiProvider} {pricing : Pricing} (h : sources.lookUp modelId provider = some pricing) :
    (∃ key, sources.batch.lookup key = some pricing) ∨ ∃ key, sources.manual provider.slug key = some pricing := by
  unfold PriceSources.lookUp at h
  rcases Option.or_eq_some_iff.mp h with hbatch | ⟨-, hmanual⟩
  · obtain ⟨key, -, hkey⟩ := List.exists_of_findSome?_eq_some hbatch
    split at hkey
    · exact absurd hkey nofun
    · exact .inl ⟨key, hkey⟩
  · rcases Option.or_eq_some_iff.mp hmanual with hname | ⟨-, hid⟩
    · exact .inr ⟨_, hname⟩
    · exact .inr ⟨_, hid⟩

/-- What enrichment makes of an offer. -/
theorem shownAs_enrich (modelId : String) (offer : Provider × Model) :
    ShownAs sources offer.1 offer.2 (enrich sources modelId (ApiProvider.ofOffer offer)) := by
  unfold enrich
  cases hreal : hasRealPricing (ApiProvider.ofOffer offer).pricing with
  | true => exact ⟨rfl, .inl rfl⟩
  | false =>
    rw [if_neg Bool.false_ne_true]
    cases hlookUp : sources.lookUp modelId (ApiProvider.ofOffer offer) with
    | none => exact ⟨rfl, .inl rfl⟩
    | some pricing => exact ⟨rfl, .inr ⟨hreal, lookUp_eq_some hlookUp⟩⟩

theorem foldl_cheaperShown (providers : List ApiProvider) (least : ℚ) (slug : String)
    (hfinite : ∀ p ∈ providers, ∃ q, toFloat p.pricing.prompt = .ok (.finite q)) :
    ∃ q slug', providers.foldl cheaperShown (some (.finite least, slug)) = some (.finite q, slug') ∧ q ≤ least ∧
      (∀ p ∈ providers, ∀ q', toFloat p.pricing.prompt = .ok (.finite q') → q ≤ q') ∧
      (q = least ∧ slug' = slug ∨ ∃ p ∈ providers, p.slug = slug' ∧ toFloat p.pricing.prompt = .ok (.finite q)) := by
  induction providers generalizing least slug with
  | nil => exact ⟨least, slug, rfl, le_rfl, fun p hp => absurd hp List.not_mem_nil, .inl ⟨rfl, rfl⟩⟩
  | cons p providers ih =>
    obtain ⟨price, hprice⟩ := hfinite p List.mem_cons_self
    have hrest : ∀ p ∈ providers, ∃ q, toFloat p.pricing.prompt = .ok (.finite q) := fun p' hp' => hfinite p' (List.mem_cons_of_mem p hp')
    have hown : ∀ q', toFloat p.pricing.prompt = .ok (.finite q') → q' = price := by
      intro q' hq'
      rw [hprice] at hq'
      cases hq'
      rfl
    rw [List.foldl_cons]
    by_cases hless : price < least
    · have hstep : cheaperShown (some (.finite least, slug)) p = some (.finite price, p.slug) := by
        unfold cheaperShown
        rw [hprice]
        exact if_pos (decide_eq_true hless)
      rw [hstep]
      obtain ⟨q, slug', hfold, hle, hall, hfrom⟩ := ih price p.slug hrest
      refine ⟨q, slug', hfold, hle.trans hless.le, ?_, ?_⟩
      · intro p' hp' q' hq'
        rcases List.mem_cons.mp hp' with rfl | hp'
        · exact hown q' hq' ▸ hle
        · exact hall p' hp' q' hq'
      · rcases hfrom with ⟨rfl, rfl⟩ | ⟨p', hp', hslug, hq⟩
        · exact .inr ⟨p, List.mem_cons_self, rfl, hprice⟩
        · exact .inr ⟨p', List.mem_cons_of_mem p hp', hslug, hq⟩
    · have hstep : cheaperShown (some (.finite least, slug)) p = some (.finite least, slug) := by
        unfold cheaperShown
        rw [hprice]
        exact if_neg (by simpa [lessFloat] using hless)
      rw [hstep]
      obtain ⟨q, slug', hfold, hle, hall, hfrom⟩ := ih least slug hrest
      refine ⟨q, slug', hfold, hle, ?_, ?_⟩
      · intro p' hp' q' hq'
        rcases List.mem_cons.mp hp' with rfl | hp'
        · exact hown q' hq' ▸ hle.trans (not_lt.mp hless)
        · exact hall p' hp' q' hq'
      · exact hfrom.imp_right fun ⟨p', hp', h⟩ => ⟨p', List.mem_cons_of_mem p hp', h⟩

end Entry

/-! ## The whole claim -/

theorem providers_enrichEntry (sources : PriceSources) (entry : ApiModel) :
    (enrichEntry sources entry).providers = entry.providers.map (enrich sources (entry.id.getD "")) := by
  unfold enrichEntry
  dsimp only
  split
  · rfl
  · rfl

theorem isNumeral_of_shownAs {sources : PriceSources} {p : Provider} {m : Model} {shown : ApiProvider} (h : ShownAs sources p m shown)
    (hknown : IsNumeral m.pricing.prompt) : IsNumeral shown.pricing.prompt := by
  rcases h.pricing with hown | ⟨-, hlooked⟩
  · obtain ⟨s, q, hs, hparse⟩ := hknown
    refine ⟨s, q, ?_, hparse⟩
    rw [hown]
    change formatPrice m.pricing.prompt = .str s
    rw [hs]
    exact if_neg nofun
  · exact sources.numeric _ (hlooked.imp_right fun ⟨key, hkey⟩ => ⟨p.slug, key, hkey⟩)

/-- The cheapest provider that an entry names is one of those with the least price. -/
theorem enrichEntry_cheapest {sources : PriceSources} {entry : ApiModel} (hne : entry.providers ≠ [])
    (hfinite : ∀ shown ∈ (enrichEntry sources entry).providers, ∃ q, toFloat shown.pricing.prompt = .ok (.finite q))
    (hnamed : ∀ shown ∈ (enrichEntry sources entry).providers, shown.slug ≠ "") :
    ∃ shown ∈ (enrichEntry sources entry).providers, ∃ q, (enrichEntry sources entry).cheapestProvider = some shown.slug ∧
      toFloat shown.pricing.prompt = .ok (.finite q) ∧ (enrichEntry sources entry).cheapestPromptPrice = some (.finite q) ∧
        ∀ other ∈ (enrichEntry sources entry).providers, ∀ q', toFloat other.pricing.prompt = .ok (.finite q') → q ≤ q' := by
  have hproviders := providers_enrichEntry sources entry
  rw [hproviders] at hfinite hnamed
  obtain ⟨first, rest, hlist⟩ := List.exists_cons_of_ne_nil (List.map_eq_nil_iff.not.mpr hne : entry.providers.map (enrich sources (entry.id.getD "")) ≠ [])
  rw [hlist] at hproviders hfinite hnamed
  obtain ⟨price, hprice⟩ := hfinite first List.mem_cons_self
  have hstep : cheaperShown none first = some (.finite price, first.slug) := by
    unfold cheaperShown
    rw [hprice]
  obtain ⟨q, slug, hfold, hle, hall, hfrom⟩ :=
    foldl_cheaperShown rest price first.slug fun p hp => hfinite p (List.mem_cons_of_mem first hp)
  -- The one that is named is the first one or one of the others.
  obtain ⟨shown, hshown, hslug, hq⟩ : ∃ shown ∈ first :: rest, shown.slug = slug ∧ toFloat shown.pricing.prompt = .ok (.finite q) := by
    rcases hfrom with ⟨rfl, rfl⟩ | ⟨p, hp, hp'⟩
    · exact ⟨first, List.mem_cons_self, rfl, hprice⟩
    · exact ⟨p, List.mem_cons_of_mem first hp, hp'⟩
  have hcheapest : (enrichEntry sources entry).cheapestProvider = some slug ∧
      (enrichEntry sources entry).cheapestPromptPrice = some (.finite q) := by
    unfold enrichEntry
    dsimp only
    rw [hlist, List.foldl_cons, hstep, hfold, Option.filter_some, if_pos (decide_eq_true (hslug ▸ hnamed shown hshown))]
    exact ⟨rfl, rfl⟩
  rw [hproviders]
  refine ⟨shown, hshown, q, hslug ▸ hcheapest.1, hq, hcheapest.2, fun other hother q' hq' => ?_⟩
  rcases List.mem_cons.mp hother with rfl | hother
  · rw [hprice] at hq'
    cases hq'
    exact hle
  · exact hall other hother q' hq'

/-- **The entries show the offers.** -/
theorem catalog_shows_offers (t : Tables) (sources : PriceSources) : CatalogShowsOffers t sources := by
  intro row hrow hcomparable
  obtain ⟨⟨um, offers⟩, hget, rfl⟩ := List.mem_map.mp hrow
  obtain ⟨hmem, hne⟩ := List.mem_filter.mp hget
  obtain ⟨um', -, heq⟩ := List.mem_map.mp hmem
  cases heq
  dsimp only at hcomparable hne ⊢
  have hne' : t.offersOf um.id ≠ [] := of_decide_eq_true hne
  obtain ⟨first, hfirst⟩ := List.exists_mem_of_ne_nil _ hne'
  have hid : um.id ≠ 0 := (mem_offersOf.mp hfirst).1
  have hoffers : ∀ offer ∈ t.offersOf um.id, Offers t um offer.1 offer.2 := fun offer hoffer => (mem_offersOf.mp hoffer).2
  have htransform : (transformUniqueModelToApiFormat um (t.offersOf um.id)).providers = (t.offersOf um.id).map ApiProvider.ofOffer :=
    transform_providers fun offer hoffer => hcomparable _ _ (hoffers offer hoffer)
  generalize hentry : transformUniqueModelToApiFormat um (t.offersOf um.id) = entry at htransform ⊢
  have hproviders := providers_enrichEntry sources entry
  rw [htransform, List.map_map] at hproviders
  have hlisted : ∀ shown ∈ (enrichEntry sources entry).providers, ∃ p m, Offers t um p m ∧ ShownAs sources p m shown := by
    intro shown hshown
    rw [hproviders] at hshown
    obtain ⟨offer, hoffer, rfl⟩ := List.mem_map.mp hshown
    exact ⟨offer.1, offer.2, hoffers offer hoffer, shownAs_enrich _ offer⟩
  refine ⟨hlisted, ?_, ?_⟩
  · intro p m hoffer
    refine ⟨enrich sources (entry.id.getD "") (ApiProvider.ofOffer (p, m)), ?_, shownAs_enrich _ (p, m)⟩
    rw [hproviders]
    exact List.mem_map.mpr ⟨(p, m), mem_offersOf.mpr ⟨hid, hoffer⟩, rfl⟩
  · intro hknown
    refine enrichEntry_cheapest (by rw [htransform]; exact List.map_eq_nil_iff.not.mpr hne') ?_ ?_
    · intro shown hshown
      obtain ⟨p, m, hoffer, hshownAs⟩ := hlisted shown hshown
      exact toFloat_of_isNumeral (isNumeral_of_shownAs hshownAs (hknown p m hoffer))
    · intro shown hshown
      obtain ⟨p, m, hoffer, hshownAs⟩ := hlisted shown hshown
      rw [hshownAs.slug]
      exact hoffer.named

/-- One provider gives a model away; another row with its name has a price. -/
def freeTables : Tables where
  uniqueModels := [⟨1, "Llama", some "llama"⟩]
  mappings := [⟨some 1, 1, 1⟩]
  models := [⟨1, "Llama", ⟨.str "0", .str "0", .none, .none⟩, true, none⟩]
  providers := [⟨1, "novita", "Novita", true⟩]
  enabled := fun _ => true
  modelKeys := List.nodup_singleton 1
  providerKeys := List.nodup_singleton 1

def batchPrice : Pricing := ⟨.str "5", .str "5", .str "0", .str "0"⟩

def batchSources : PriceSources where
  batch := [("Llama", batchPrice)]
  manual := fun _ _ => none
  numeric := by
    rintro pricing (⟨key, hkey⟩ | ⟨slug, key, hkey⟩)
    · rw [List.lookup_cons] at hkey
      split at hkey
      · cases hkey
        exact ⟨"5", 5, rfl, by decide +kernel⟩
      · exact absurd hkey nofun
    · exact absurd hkey nofun

/-- **A price of zero** is replaced by one that stands under the name of the model. -/
theorem free_shown_priced : ¬∀ t sources, ∀ row ∈ transformUniqueModelsBatch t sources, ShowsRealOffers t row.1 row.2 := by
  intro h
  have hbatch : transformUniqueModelsBatch freeTables batchSources =
      [(⟨1, "Llama", some "llama"⟩, ⟨some "llama", "Llama", [⟨"novita", "Novita", batchPrice, none, "Llama"⟩], some "novita",
        some (.finite 5), none, none⟩)] := by
    decide +kernel
  obtain ⟨p, m, hoffer, -, hpricing⟩ := (h freeTables batchSources _ (hbatch ▸ List.mem_singleton_self _)).listed _ (List.mem_singleton_self _)
  obtain rfl : m = ⟨1, "Llama", ⟨.str "0", .str "0", .none, .none⟩, true, none⟩ := List.mem_singleton.mp hoffer.model
  exact absurd hpricing (by decide +kernel)

end Gatewayz.UniqueModels
