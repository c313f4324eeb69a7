import Gatewayz.Catalog.CanonicalModels

/-!
# `Correctness.CanonicalIdentity` — which registrations are of one model

Registrations that share a name are to be of one model, whatever the order they come in (`WellDefined`). A registration joins the first
model that one of its names leads to.

It does not bring models together that it has names of both. So identity is well defined just if nothing is to be brought together:
those that share a name with the same one share a name (`Cliques`).
-/

namespace Gatewayz.Canonical

open Exec CanonicalRegistry

/-! ## Names -/

/-- All names of a registration: slugs, aliases, the provider's id, and the id that the model would have. -/
def Registration.names (r : Registration) : List String := (r.slugCandidates ++ [r.defaultId]).filter (· ≠ "")

def Shares (r r' : Registration) : Prop := ∃ n ∈ r.names, n ∈ r'.names

instance (r r' : Registration) : Decidable (Shares r r') := inferInstanceAs (Decidable (∃ n ∈ r.names, n ∈ r'.names))

section Names

variable {r r' : Registration} {n : String}

theorem mem_names : n ∈ r.names ↔ n ∈ r.slugCandidates ++ [r.defaultId] ∧ n ≠ "" := by
  rw [Registration.names, List.mem_filter, decide_eq_true_iff]

theorem eq_of_not_mem_names {id : String} (hmem : n ∈ r.slugCandidates ++ [id]) (hne : n ≠ "") (h : n ∉ r.names) : n = id := by
  rcases List.mem_append.mp hmem with hcandidate | hlast
  · exact absurd (mem_names.mpr ⟨List.mem_append_left _ hcandidate, hne⟩) h
  · exact List.mem_singleton.mp hlast

theorem Shares.symm (h : Shares r r') : Shares r' r := by
  obtain ⟨n, hn, hn'⟩ := h
  exact ⟨n, hn', hn⟩

theorem defaultId_mem_names (h : r.defaultId ≠ "") : r.defaultId ∈ r.names :=
  mem_names.mpr ⟨List.mem_append_right _ List.mem_cons_self, h⟩

theorem shares_self (h : r.defaultId ≠ "") : Shares r r := ⟨r.defaultId, defaultId_mem_names h, defaultId_mem_names h⟩

end Names

/-! ## The claim -/

def Together (placed : List (Registration × String)) (r r' : Registration) : Prop :=
  ∀ m m', (r, m) ∈ placed → (r', m') ∈ placed → m = m'

def HasEntry (registry : CanonicalRegistry) (r : Registration) (id : String) : Prop :=
  ∃ model, registry.canonicalModels.lookup id = some model ∧ (model.providers.lookup r.provider.providerSlug).isSome = true

/-- Identity is well defined: every name leads to a model that there is, every registration has its entry in its model, those that
    share a name are of one model, and who is of one model does not depend on the order. -/
structure WellDefined (rs : List Registration) : Prop where
  indexed : ∀ slug id, (registerAll {} rs).1.canonicalSlugIndex.lookup slug = some id →
    ((registerAll {} rs).1.canonicalModels.lookup id).isSome = true
  entries : ∀ r id, (r, id) ∈ (registerAll {} rs).2 → HasEntry (registerAll {} rs).1 r id
  shared : ∀ r r', r ∈ rs → r' ∈ rs → Shares r r' → Together (registerAll {} rs).2 r r'
  ordered : ∀ rs', rs'.Perm rs → ∀ r r', Together (registerAll {} rs').2 r r' ↔ Together (registerAll {} rs).2 r r'

/-- Nothing is to be brought together: those that share a name with the same registration share a name. And no registration without
    any id shares a name with one that has one. -/
structure Cliques (rs : List Registration) : Prop where
  ids : ∀ r ∈ rs, ∀ r' ∈ rs, Shares r r' → r.defaultId = "" → r'.defaultId = ""
  transitive : ∀ a ∈ rs, ∀ b ∈ rs, ∀ c ∈ rs, b.defaultId ≠ "" → Shares a b → Shares b c → Shares a c

/-! ## What a registration changes -/

section Step

variable {registry : CanonicalRegistry} {r : Registration} {n id : String}

theorem lookup_updateSlugIndex (index : List (String × String)) (id : String) (slugs : List String) (n : String) :
    (updateSlugIndex index id slugs).lookup n = if n ≠ "" ∧ n ∈ slugs then some id else index.lookup n := by
  unfold updateSlugIndex
  induction slugs generalizing index with
  | nil => simp
  | cons slug slugs ih =>
    rw [List.foldl_cons, ih]
    by_cases hlater : n ≠ "" ∧ n ∈ slugs
    · rw [if_pos hlater, if_pos ⟨hlater.1, List.mem_cons_of_mem slug hlater.2⟩]
    · rw [if_neg hlater]
      by_cases hslug : n = slug
      · subst hslug
        by_cases hempty : n = ""
        · simp [hempty]
        · simp [hempty, Dictionary.lookup_put]
      · have hrest : ¬ (n ≠ "" ∧ n ∈ slug :: slugs) := by
          rintro ⟨hne, hmem⟩
          rcases List.mem_cons.mp hmem with hhere | hthere
          · exact hslug hhere
          · exact hlater ⟨hne, hthere⟩
        rw [if_neg hrest]
        split
        · rfl
        · rw [Dictionary.lookup_put, if_neg hslug]

theorem lookup_index (registry : CanonicalRegistry) (r : Registration) (n : String) :
    (registry.registerCanonicalProvider r).1.canonicalSlugIndex.lookup n =
      if n ≠ "" ∧ n ∈ r.slugCandidates ++ [registry.resolvedId r] then some (registry.resolvedId r)
      else registry.canonicalSlugIndex.lookup n :=
  lookup_updateSlugIndex ..

theorem lookup_models (registry : CanonicalRegistry) (r : Registration) (id : String) :
    (registry.registerCanonicalProvider r).1.canonicalModels.lookup id =
      if id = registry.resolvedId r then
        some (((registry.canonicalModels.lookup (registry.resolvedId r)).getD { id := registry.resolvedId r }).addProvider r.provider)
      else registry.canonicalModels.lookup id :=
  Dictionary.lookup_put ..

theorem lookupSlug_eq_some : registry.lookupSlug n = some id ↔ n ≠ "" ∧ registry.canonicalSlugIndex.lookup n = some id ∧ id ≠ "" := by
  unfold lookupSlug
  by_cases hempty : n = ""
  · simp [hempty]
  · rw [if_neg hempty, Option.filter_eq_some_iff]
    simp [hempty]

/-- Where a registration goes: to a model that one of its names leads to, or, if none does, to the one of its id. -/
theorem resolvedId_cases (registry : CanonicalRegistry) (r : Registration) :
    (∃ n ∈ r.names, registry.canonicalSlugIndex.lookup n = some (registry.resolvedId r) ∧ registry.resolvedId r ≠ "") ∨
      (∀ n ∈ r.names, ∀ id, registry.canonicalSlugIndex.lookup n = some id → id = "") ∧ registry.resolvedId r = r.defaultId := by
  unfold resolvedId resolveCanonicalId
  cases hfound : (r.slugCandidates ++ [r.defaultId]).findSome? registry.lookupSlug with
  | none =>
    refine .inr ⟨fun n hn id hid => ?_, rfl⟩
    have hnone := List.findSome?_eq_none_iff.mp hfound n (mem_names.mp hn).1
    by_contra hne
    rw [lookupSlug_eq_some.mpr ⟨(mem_names.mp hn).2, hid, hne⟩] at hnone
    cases hnone
  | some id =>
    obtain ⟨n, hn, hid⟩ := List.exists_of_findSome?_eq_some hfound
    obtain ⟨hne, hlookup, hid⟩ := lookupSlug_eq_some.mp hid
    exact .inl ⟨n, mem_names.mpr ⟨hn, hne⟩, hlookup, hid⟩

theorem lookup_addProvider {model : CanonicalModel} {provider : CanonicalModelProvider} {slug : String}
    (h : slug = provider.providerSlug ∨ (model.providers.lookup slug).isSome = true) :
    ((model.addProvider provider).providers.lookup slug).isSome = true := by
  unfold CanonicalModel.addProvider
  dsimp only
  rw [Dictionary.lookup_put]
  split
  · rfl
  · next hne => exact h.resolve_left hne

end Step

/-! ## What holds of every run -/

section Always

variable {registry : CanonicalRegistry} {placed : List (Registration × String)}

/-- The index leads to models, and the entries are there. -/
structure Sound (registry : CanonicalRegistry) (placed : List (Registration × String)) : Prop where
  indexed : ∀ slug id, registry.canonicalSlugIndex.lookup slug = some id → (registry.canonicalModels.lookup id).isSome = true
  entries : ∀ r id, (r, id) ∈ placed → HasEntry registry r id

theorem Sound.step (h : Sound registry placed) (r : Registration) :
    Sound (registry.registerCanonicalProvider r).1 (placed ++ [(r, registry.resolvedId r)]) where
  indexed slug id hslug := by
    rw [lookup_index] at hslug
    rw [lookup_models]
    split
    · rfl
    · next hne =>
      split at hslug
      · exact absurd (Option.some.inj hslug).symm hne
      · exact h.indexed slug id hslug
  entries q id hq := by
    unfold HasEntry
    rw [lookup_models]
    rcases List.mem_append.mp hq with hbefore | hnew
    · obtain ⟨model, hmodel, hentry⟩ := h.entries q id hbefore
      by_cases hid : id = registry.resolvedId r
      · rw [if_pos hid]
        refine ⟨_, rfl, lookup_addProvider (.inr ?_)⟩
        rw [← hid, hmodel]
        exact hentry
      · rw [if_neg hid]
        exact ⟨model, hmodel, hentry⟩
    · obtain ⟨rfl, rfl⟩ := Prod.mk.inj (List.mem_singleton.mp hnew)
      rw [if_pos rfl]
      exact ⟨_, rfl, lookup_addProvider (.inl rfl)⟩

theorem Sound.run (h : Sound registry placed) (rs : List Registration) :
    Sound (registerAll registry rs).1 (placed ++ (registerAll registry rs).2) := by
  induction rs generalizing registry placed with
  | nil =>
    rw [registerAll, List.append_nil]
    exact h
  | cons r rs ih =>
    have hrest := ih (h.step r)
    rw [List.append_assoc] at hrest
    exact hrest

theorem sound_empty : Sound {} [] where
  indexed _ _ h := by cases h
  entries _ _ h := by cases h

theorem sound_registerAll (rs : List Registration) : Sound (registerAll {} rs).1 (registerAll {} rs).2 := sound_empty.run rs

theorem map_fst_registerAll (registry : CanonicalRegistry) (rs : List Registration) : (registerAll registry rs).2.map Prod.fst = rs := by
  induction rs generalizing registry with
  | nil => rfl
  | cons r rs ih =>
    rw [registerAll, List.map_cons]
    exact congrArg (r :: ·) (ih _)

theorem mem_of_placed {rs : List Registration} {r : Registration} {id : String} (h : (r, id) ∈ (registerAll registry rs).2) : r ∈ rs :=
  map_fst_registerAll registry rs ▸ List.mem_map_of_mem (f := Prod.fst) h

theorem exists_placed (registry : CanonicalRegistry) {rs : List Registration} {r : Registration} (h : r ∈ rs) :
    ∃ id, (r, id) ∈ (registerAll registry rs).2 := by
  rw [← map_fst_registerAll registry rs] at h
  obtain ⟨⟨q, id⟩, hq, rfl⟩ := List.mem_map.mp h
  exact ⟨id, hq⟩

end Always

/-! ## Where nothing is to be brought together -/

section Founders

variable {all rs : List Registration} {registry : CanonicalRegistry} {placed : List (Registration × String)}

/-- Every model has a founder: a registration that it has its id from, and that shares a name with all of the model. All its names
    lead to the model. What else a name leads to, it does by a registration. -/
structure Founded (all : List Registration) (registry : CanonicalRegistry) (placed : List (Registration × String)) : Prop where
  within : ∀ r id, (r, id) ∈ placed → r ∈ all
  nameless : ∀ r id, (r, id) ∈ placed → r.defaultId = "" → id = ""
  founder : ∀ r id, (r, id) ∈ placed → r.defaultId ≠ "" → ∃ f, (f, id) ∈ placed ∧ f.defaultId = id ∧ f.defaultId ≠ "" ∧ Shares f r ∧
    ∀ n ∈ f.names, registry.canonicalSlugIndex.lookup n = some id
  known : ∀ n id, registry.canonicalSlugIndex.lookup n = some id → ∃ r, (r, id) ∈ placed ∧ n ∈ r.names

theorem Founded.id_iff (h : Founded all registry placed) (hcliques : Cliques all) {r : Registration} (hr : r ∈ all) {n id : String}
    (hn : n ∈ r.names) (hlookup : registry.canonicalSlugIndex.lookup n = some id) : r.defaultId = "" ↔ id = "" := by
  obtain ⟨q, hq, hqn⟩ := h.known n id hlookup
  have hall := h.within q id hq
  constructor
  · intro hempty
    exact h.nameless q id hq (hcliques.ids r hr q hall ⟨n, hn, hqn⟩ hempty)
  · rintro rfl
    by_contra hne
    have hqne : q.defaultId ≠ "" := fun hempty => hne (hcliques.ids q hall r hr ⟨n, hqn, hn⟩ hempty)
    obtain ⟨f, -, hid, hfne, -⟩ := h.founder q "" hq hqne
    exact hfne hid

theorem Cliques.ne (hcliques : Cliques all) {r r' : Registration} (hr : r ∈ all) (hr' : r' ∈ all) (h : Shares r r')
    (hne : r.defaultId ≠ "") : r'.defaultId ≠ "" := fun hempty => hne (hcliques.ids r' hr' r hr h.symm hempty)

/-- Those that share a name are of one model. -/
theorem Founded.eq_of_shares (h : Founded all registry placed) (hcliques : Cliques all) {q q' : Registration} {id id' : String}
    (hq : (q, id) ∈ placed) (hq' : (q', id') ∈ placed) (hne : q.defaultId ≠ "") (hshares : Shares q q') : id = id' := by
  have hall := h.within q id hq
  have hall' := h.within q' id' hq'
  have hne' := hcliques.ne hall hall' hshares hne
  obtain ⟨f, hf, -, -, hfq, hnames⟩ := h.founder q id hq hne
  obtain ⟨f', hf', -, -, hfq', hnames'⟩ := h.founder q' id' hq' hne'
  have hfall := h.within f id hf
  have hfall' := h.within f' id' hf'
  -- their founders share a name as well, and it leads to both models
  have hchain : Shares f q' := hcliques.transitive f hfall q hall q' hall' hne hfq hshares
  obtain ⟨n, hn, hn'⟩ := hcliques.transitive f hfall q' hall' f' hfall' hne' hchain hfq'.symm
  exact Option.some.inj ((hnames n hn).symm.trans (hnames' n hn'))

theorem Founded.lookup_kept (h : Founded all registry placed) (hcliques : Cliques all) {r : Registration} (hr : r ∈ all) {n id : String}
    (hid : id ≠ "") (hlookup : registry.canonicalSlugIndex.lookup n = some id) :
    (registry.registerCanonicalProvider r).1.canonicalSlugIndex.lookup n = some id := by
  rw [lookup_index]
  split
  · next hnew =>
    obtain ⟨hne, hmem⟩ := hnew
    congr 1
    obtain ⟨q, hq, hqn⟩ := h.known n id hlookup
    have hqall := h.within q id hq
    rcases resolvedId_cases registry r with ⟨n', hn', hlookup', hresolved⟩ | ⟨hunknown, hdefault⟩
    · obtain ⟨q', hq', hqn'⟩ := h.known n' _ hlookup'
      have hqall' := h.within q' _ hq'
      have hrne : r.defaultId ≠ "" := fun hempty => hresolved ((h.id_iff hcliques hr hn' hlookup').mp hempty)
      have hne' : q'.defaultId ≠ "" := hcliques.ne hr hqall' ⟨n', hn', hqn'⟩ hrne
      by_cases hrn : n ∈ r.names
      · have hshares : Shares q' q := hcliques.transitive q' hqall' r hr q hqall hrne ⟨n', hqn', hn'⟩ ⟨n, hrn, hqn⟩
        exact h.eq_of_shares hcliques hq' hq hne' hshares
      · -- it is the id of the model that the registration joins
        have heq : n = registry.resolvedId r := eq_of_not_mem_names hmem hne hrn
        obtain ⟨f, -, hfid, hfne, -, hnames⟩ := h.founder q' _ hq' hne'
        have hfounder := hnames f.defaultId (defaultId_mem_names hfne)
        rw [hfid, ← heq, hlookup] at hfounder
        rw [← heq]
        exact (Option.some.inj hfounder).symm
    · rw [hdefault] at hmem
      exact absurd (hunknown n (mem_names.mpr ⟨hmem, hne⟩) id hlookup) hid
  · exact hlookup

/-- The step. -/
theorem Founded.step (h : Founded all registry placed) (hcliques : Cliques all) {r : Registration} (hr : r ∈ all) :
    Founded all (registry.registerCanonicalProvider r).1 (placed ++ [(r, registry.resolvedId r)]) where
  within q id hq := by
    rcases List.mem_append.mp hq with hbefore | hnew
    · exact h.within q id hbefore
    · obtain ⟨rfl, rfl⟩ := Prod.mk.inj (List.mem_singleton.mp hnew)
      exact hr
  nameless q id hq hempty := by
    rcases List.mem_append.mp hq with hbefore | hnew
    · exact h.nameless q id hbefore hempty
    · obtain ⟨rfl, rfl⟩ := Prod.mk.inj (List.mem_singleton.mp hnew)
      rcases resolvedId_cases registry q with ⟨n, hn, hlookup, hne⟩ | ⟨-, hdefault⟩
      · exact absurd ((h.id_iff hcliques hr hn hlookup).mp hempty) hne
      · rw [hdefault, hempty]
  founder q id hq hne := by
    rcases List.mem_append.mp hq with hbefore | hnew
    · obtain ⟨f, hf, hid, hfne, hshares, hnames⟩ := h.founder q id hbefore hne
      refine ⟨f, List.mem_append_left _ hf, hid, hfne, hshares, fun n hn => ?_⟩
      exact h.lookup_kept hcliques hr (hid ▸ hfne) (hnames n hn)
    · obtain ⟨rfl, rfl⟩ := Prod.mk.inj (List.mem_singleton.mp hnew)
      rcases resolvedId_cases registry q with ⟨n, hn, hlookup, hresolved⟩ | ⟨-, hdefault⟩
      · -- it joins a model, and shares a name with the founder by way of whom the name is from
        obtain ⟨p, hp, hpn⟩ := h.known n _ hlookup
        have hpall := h.within p _ hp
        have hpne : p.defaultId ≠ "" := hcliques.ne hr hpall ⟨n, hn, hpn⟩ hne
        obtain ⟨f, hf, hid, hfne, hshares, hnames⟩ := h.founder p _ hp hpne
        have hfall := h.within f _ hf
        refine ⟨f, List.mem_append_left _ hf, hid, hfne, ?_, fun n' hn' => ?_⟩
        · exact hcliques.transitive f hfall p hpall q hr hpne hshares ⟨n, hpn, hn⟩
        · exact h.lookup_kept hcliques hr hresolved (hnames n' hn')
      · refine ⟨q, List.mem_append_right _ List.mem_cons_self, hdefault.symm, hne, shares_self hne, fun n hn => ?_⟩
        obtain ⟨hmem, hnne⟩ := mem_names.mp hn
        rw [lookup_index, if_pos ⟨hnne, hdefault.symm ▸ hmem⟩]
  known n id hlookup := by
    rw [lookup_index] at hlookup
    split at hlookup
    · next hnew =>
      obtain ⟨hne, hmem⟩ := hnew
      obtain rfl := Option.some.inj hlookup
      by_cases hrn : n ∈ r.names
      · exact ⟨r, List.mem_append_right _ List.mem_cons_self, hrn⟩
      · have heq : n = registry.resolvedId r := eq_of_not_mem_names hmem hne hrn
        rcases resolvedId_cases registry r with ⟨n', hn', hlookup', hresolved⟩ | ⟨-, hdefault⟩
        · obtain ⟨q, hq, hqn⟩ := h.known n' _ hlookup'
          have hrne : r.defaultId ≠ "" := fun hempty => hresolved ((h.id_iff hcliques hr hn' hlookup').mp hempty)
          obtain ⟨f, hf, hid, hfne, -⟩ := h.founder q _ hq (hcliques.ne hr (h.within q _ hq) ⟨n', hn', hqn⟩ hrne)
          refine ⟨f, List.mem_append_left _ hf, ?_⟩
          rw [heq, ← hid]
          exact defaultId_mem_names hfne
        · rw [heq, hdefault] at hrn hne
          exact absurd (defaultId_mem_names hne) hrn
    · obtain ⟨q, hq, hqn⟩ := h.known n id hlookup
      exact ⟨q, List.mem_append_left _ hq, hqn⟩

theorem Founded.run (h : Founded all registry placed) (hcliques : Cliques all) (hrs : ∀ r ∈ rs, r ∈ all) :
    Founded all (registerAll registry rs).1 (placed ++ (registerAll registry rs).2) := by
  induction rs generalizing registry placed with
  | nil =>
    rw [registerAll, List.append_nil]
    exact h
  | cons r rs ih =>
    have hrest := ih (h.step hcliques (hrs r List.mem_cons_self)) fun q hq => hrs q (List.mem_cons_of_mem r hq)
    rw [List.append_assoc] at hrest
    exact hrest

theorem founded_empty : Founded all {} [] where
  within _ _ h := by cases h
  nameless _ _ h := by cases h
  founder _ _ h := by cases h
  known _ _ h := by cases h

theorem founded_registerAll (hcliques : Cliques all) (hrs : ∀ r ∈ rs, r ∈ all) :
    Founded all (registerAll {} rs).1 (registerAll {} rs).2 := founded_empty.run hcliques hrs

/-- Who is of one model: those that share a name, and those without any id. -/
theorem Founded.eq_iff (h : Founded all registry placed) (hcliques : Cliques all) {q q' : Registration} {id id' : String}
    (hq : (q, id) ∈ placed) (hq' : (q', id') ∈ placed) :
    id = id' ↔ q.defaultId = "" ∧ q'.defaultId = "" ∨ q.defaultId ≠ "" ∧ Shares q q' := by
  have hall := h.within q id hq
  have hall' := h.within q' id' hq'
  by_cases hempty : q.defaultId = ""
  · have hid := h.nameless q id hq hempty
    by_cases hempty' : q'.defaultId = ""
    · exact iff_of_true (hid.trans (h.nameless q' id' hq' hempty').symm) (.inl ⟨hempty, hempty'⟩)
    · obtain ⟨f, -, hfid, hfne, -⟩ := h.founder q' id' hq' hempty'
      refine iff_of_false (fun heq => hfne (hfid.trans (heq.symm.trans hid))) ?_
      rintro (⟨-, h'⟩ | ⟨h', -⟩)
      · exact hempty' h'
      · exact h' hempty
  · constructor
    · rintro rfl
      obtain ⟨f, hf, hfid, hfne, hshares, -⟩ := h.founder q id hq hempty
      have hne' : q'.defaultId ≠ "" := fun hempty' => hfne (hfid.trans (h.nameless q' id hq' hempty'))
      obtain ⟨f', hf', hfid', hfne', hshares', -⟩ := h.founder q' id hq' hne'
      have hfall := h.within f id hf
      have hfall' := h.within f' id hf'
      -- founders of one model have its id in common
      have hfounders : Shares f f' :=
        ⟨f.defaultId, defaultId_mem_names hfne, (hfid.trans hfid'.symm) ▸ defaultId_mem_names hfne'⟩
      have hchain : Shares q f' := hcliques.transitive q hall f hfall f' hfall' hfne hshares.symm hfounders
      exact .inr ⟨hempty, hcliques.transitive q hall f' hfall' q' hall' hfne' hchain hshares'⟩
    · rintro (⟨hempty', -⟩ | ⟨-, hshares⟩)
      · exact absurd hempty' hempty
      · exact h.eq_of_shares hcliques hq hq' hempty hshares

theorem together_iff (hcliques : Cliques all) (hrs : ∀ r ∈ rs, r ∈ all) (q q' : Registration) :
    Together (registerAll {} rs).2 q q' ↔
      (q ∈ rs → q' ∈ rs → q.defaultId = "" ∧ q'.defaultId = "" ∨ q.defaultId ≠ "" ∧ Shares q q') := by
  have hfounded := founded_registerAll hcliques hrs
  constructor
  · intro htogether hq hq'
    obtain ⟨id, hid⟩ := exists_placed {} hq
    obtain ⟨id', hid'⟩ := exists_placed {} hq'
    exact (hfounded.eq_iff hcliques hid hid').mp (htogether id id' hid hid')
  · intro h id id' hid hid'
    exact (hfounded.eq_iff hcliques hid hid').mpr (h (mem_of_placed hid) (mem_of_placed hid'))

theorem Cliques.wellDefined (hcliques : Cliques rs) : WellDefined rs where
  indexed := (sound_registerAll rs).indexed
  entries := (sound_registerAll rs).entries
  shared r r' hr hr' hshares := by
    refine (together_iff hcliques (fun _ h => h) r r').mpr fun _ _ => ?_
    by_cases hempty : r.defaultId = ""
    · exact .inl ⟨hempty, hcliques.ids r hr r' hr' hshares hempty⟩
    · exact .inr ⟨hempty, hshares⟩
  ordered rs' hperm r r' := by
    rw [together_iff hcliques (fun q hq => hperm.subset hq), together_iff hcliques (fun _ h => h), hperm.mem_iff, hperm.mem_iff]

end Founders

/-! ## Where something is -/

section Necessary

variable {registry : CanonicalRegistry} {rs rest : List Registration} {a b : Registration}

theorem resolvedId_of_unknown {r : Registration} (h : ∀ n ∈ r.names, ∀ id, registry.canonicalSlugIndex.lookup n = some id → id = "") :
    registry.resolvedId r = r.defaultId := by
  rcases resolvedId_cases registry r with ⟨n, hn, hlookup, hne⟩ | ⟨-, hdefault⟩
  · exact absurd (h n hn _ hlookup) hne
  · exact hdefault

theorem resolvedId_empty (r : Registration) : ({} : CanonicalRegistry).resolvedId r = r.defaultId :=
  resolvedId_of_unknown fun _ _ _ h => by cases h

theorem placed_two (rest : List Registration) (h : ∀ n ∈ b.names, n ∈ a.names → a.defaultId = "") :
    (a, a.defaultId) ∈ (registerAll {} (a :: b :: rest)).2 ∧ (b, b.defaultId) ∈ (registerAll {} (a :: b :: rest)).2 := by
  have hfirst := resolvedId_empty a
  have hsecond : (({} : CanonicalRegistry).registerCanonicalProvider a).1.resolvedId b = b.defaultId := by
    refine resolvedId_of_unknown fun n hn id hlookup => ?_
    rw [lookup_index, hfirst] at hlookup
    split at hlookup
    · next hnew =>
      rw [← Option.some.inj hlookup]
      exact h n hn (mem_names.mpr ⟨hnew.2, hnew.1⟩)
    · cases hlookup
  rw [registerAll, registerAll, hfirst, hsecond]
  exact ⟨List.mem_cons_self, List.mem_cons_of_mem _ List.mem_cons_self⟩

theorem exists_perm (ha : a ∈ rs) (hb : b ∈ rs) (hne : a ≠ b) : ∃ rest, (a :: b :: rest).Perm rs := by
  have hb' : b ∈ rs.erase a := (List.mem_erase_of_ne hne.symm).mpr hb
  exact ⟨(rs.erase a).erase b, ((List.perm_cons_erase hb').symm.cons a).trans (List.perm_cons_erase ha).symm⟩

theorem WellDefined.defaultId_eq (h : WellDefined rs) (ha : a ∈ rs) (hb : b ∈ rs) (hne : a ≠ b)
    (htogether : Together (registerAll {} rs).2 a b) (hapart : ∀ n ∈ b.names, n ∈ a.names → a.defaultId = "") :
    a.defaultId = b.defaultId := by
  obtain ⟨rest, hperm⟩ := exists_perm ha hb hne
  obtain ⟨hfirst, hsecond⟩ := placed_two rest hapart
  exact (h.ordered _ hperm a b).mpr htogether _ _ hfirst hsecond

theorem WellDefined.cliques (h : WellDefined rs) : Cliques rs := by
  have hids : ∀ r ∈ rs, ∀ r' ∈ rs, Shares r r' → r.defaultId = "" → r'.defaultId = "" := by
    intro r hr r' hr' hshares hempty
    by_contra hne
    have hdiffer : r ≠ r' := fun heq => hne (heq ▸ hempty)
    exact hne ((h.defaultId_eq hr hr' hdiffer (h.shared r r' hr hr' hshares) fun _ _ _ => hempty).symm.trans hempty)
  refine ⟨hids, fun a ha b hb c hc hbne hab hbc => ?_⟩
  by_contra hac
  have hane : a.defaultId ≠ "" := fun hempty => hbne (hids a ha b hb hab hempty)
  have hdiffer : a ≠ c := fun heq => hac (heq ▸ shares_self hane)
  have htogether : Together (registerAll {} rs).2 a c := by
    intro ida idc hida hidc
    obtain ⟨idb, hidb⟩ := exists_placed {} hb
    exact (h.shared a b ha hb hab ida idb hida hidb).trans (h.shared b c hb hc hbc idb idc hidb hidc)
  have hsame : a.defaultId = c.defaultId :=
    h.defaultId_eq ha hc hdiffer htogether fun n hnc hna => absurd ⟨n, hna, hnc⟩ hac
  exact hac ⟨a.defaultId, defaultId_mem_names hane, hsame ▸ defaultId_mem_names (hsame ▸ hane)⟩

end Necessary

/-- **When identity is well defined**: if and only if nothing is to be brought together. -/
theorem wellDefined_iff (rs : List Registration) : WellDefined rs ↔ Cliques rs := ⟨WellDefined.cliques, Cliques.wellDefined⟩

def bridged : List Registration :=
  [{ provider := ⟨"first", "a", none, none⟩ }, { provider := ⟨"second", "b", none, none⟩ },
    { display := { aliases := ["a", "b"] }, provider := ⟨"third", "c", none, none⟩ }]

def forgotten : List Registration :=
  [{ canonicalId := some "x", provider := ⟨"first", "a", none, none⟩ }, { canonicalId := some "y", provider := ⟨"second", "a", none, none⟩ },
    { canonicalId := some "y", provider := ⟨"third", "b", none, none⟩ }]

/-- **Models that are not brought together**: the third registration shares a name with each of the others, and they stay apart. Those of
    one canonical id come apart as well. -/
theorem bridged_apart :
    ((registerAll {} bridged).2.map Prod.snd = ["a", "b", "a"] ∧ ¬ WellDefined bridged) ∧
      (registerAll {} forgotten).2.map Prod.snd = ["x", "x", "y"] ∧ ¬ WellDefined forgotten := by
  refine ⟨⟨by decide +kernel, fun h => ?_⟩, by decide +kernel, fun h => ?_⟩
  · have htogether := h.shared { display := { aliases := ["a", "b"] }, provider := ⟨"third", "c", none, none⟩ }
      { provider := ⟨"second", "b", none, none⟩ } (by decide +kernel) (by decide +kernel) (by decide +kernel)
    exact absurd (htogether "a" "b" (by decide +kernel) (by decide +kernel)) (by decide)
  · have htogether := h.shared { canonicalId := some "y", provider := ⟨"second", "a", none, none⟩ }
      { canonicalId := some "y", provider := ⟨"third", "b", none, none⟩ } (by decide +kernel) (by decide +kernel) (by decide +kernel)
    exact absurd (htogether "x" "y" (by decide +kernel) (by decide +kernel)) (by decide)

end Gatewayz.Canonical
