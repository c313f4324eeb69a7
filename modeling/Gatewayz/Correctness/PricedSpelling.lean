import Gatewayz.Chat.ModelIds

/-!
# `Correctness.PricedSpelling` — the price of a model and the spelling of its id

What is billed should not depend on which spelling of a model reaches the pricing code: to transform an id for a provider and to normalise
the result should be to normalise the id; normalising twice should change nothing more, nor should resolving an alias twice, nor
transforming what is a native id already. No tables keep all of it. Aliases are resolved for good unless a third link leads on from where
two have led (`aliasIdempotent_iff`); a provider finds the models of its mapping behind any organisation, and the reverse lookup none of
them, so that the transformation is undone for an empty mapping alone (`undone_iff`); and of several versions at the end of an id each
pass takes off one (`not_normalizeIdempotent`).
-/

namespace Gatewayz.ModelIds

open Exec.Dictionary

/-! ## Laws -/

section Laws

variable (t : MappingTables) (registry : Registry)

def AliasIdempotent : Prop := ∀ m, applyModelAlias t.alias? (applyModelAlias t.alias? m) = applyModelAlias t.alias? m

def NormalizeIdempotent : Prop := ∀ m, normalizeModelIdForPricing t (normalizeModelIdForPricing t m) = normalizeModelIdForPricing t m

/-- Normalisation undoes the transformation, wherever a provider serves a model through its mapping. -/
def Undone : Prop := ∀ m p native, (servedNative t registry m p).isSome → transformModelId t registry m p = .id native →
  normalizeModelIdForPricing t native = normalizeModelIdForPricing t m

def NativeFixed : Prop := ∀ p mapping m native, (p, mapping) ∈ t.providerMappings → (m, native) ∈ mapping →
  transformModelId t registry native p = .id native

/-- What is billed does not depend on the spelling. -/
structure Laws : Prop where
  undone : Undone t registry
  aliasIdempotent : AliasIdempotent t
  normalizeIdempotent : NormalizeIdempotent t
  nativeFixed : NativeFixed t registry

end Laws

/-! ## Loaded tables -/

/-- What loading guarantees: aliases, models and providers are in lower case, and nothing is empty. -/
structure Loaded (t : MappingTables) : Prop where
  aliases : ∀ e ∈ t.aliases, e.1 ≠ "" ∧ lower e.1 = e.1 ∧ e.2 ≠ ""
  providers : ∀ e ∈ t.providerMappings, e.1 ≠ "" ∧ lower e.1 = e.1 ∧ e.2 ≠ []
  models : ∀ e ∈ t.providerMappings, ∀ f ∈ e.2, lower f.1 = f.1

variable {V : Type} {d : List (String × V)} {key : String}

theorem forall_mem_put {P : String × V → Prop} {v : V} (hd : ∀ e ∈ d, P e) (hnew : P (key, v)) :
    ∀ e ∈ put d key v, P e := by
  intro e he
  rw [put] at he
  split at he
  · obtain ⟨f, hf, rfl⟩ := List.mem_map.mp he
    split
    · next hkey =>
      rw [hkey]
      exact hnew
    · exact hd f hf
  · rcases List.mem_append.mp he with he | he
    · exact hd e he
    · rw [List.mem_singleton.mp he]
      exact hnew

theorem put_ne_nil (d : List (String × V)) (key : String) (v : V) : put d key v ≠ [] := by
  intro hnil
  have hlookup := lookup_put d key key v
  rw [hnil, if_pos rfl] at hlookup
  cases hlookup

theorem mem_of_lookup {v : V} (h : d.lookup key = some v) : (key, v) ∈ d := by
  obtain ⟨before, after, hd, -⟩ := List.lookup_eq_some_iff.mp h
  rw [hd]
  exact List.mem_append_right before List.mem_cons_self

theorem loaded_aliases (rows : List AliasRow) : ∀ e ∈ rows.foldl addAlias [], e.1 ≠ "" ∧ lower e.1 = e.1 ∧ e.2 ≠ "" := by
  refine List.foldlRecOn rows addAlias (motive := fun d => ∀ e ∈ d, e.1 ≠ "" ∧ lower e.1 = e.1 ∧ e.2 ≠ "")
    (fun _ h => absurd h List.not_mem_nil) fun d hd row _ => ?_
  rw [addAlias]
  split
  · next h => exact forall_mem_put hd ⟨h.1, lower_lower _, h.2⟩
  · exact hd

def ProviderLoaded (e : String × List (String × String)) : Prop := e.1 ≠ "" ∧ lower e.1 = e.1 ∧ e.2 ≠ [] ∧ ∀ f ∈ e.2, lower f.1 = f.1

theorem loaded_mappings (rows : List MappingRow) : ∀ e ∈ rows.foldl addMapping [], ProviderLoaded e := by
  refine List.foldlRecOn rows addMapping (motive := fun d => ∀ e ∈ d, ProviderLoaded e) (fun _ h => absurd h List.not_mem_nil)
    fun d hd row _ => ?_
  rw [addMapping]
  split
  · next h =>
    refine forall_mem_put hd ⟨h.1, lower_lower _, put_ne_nil _ _ _, forall_mem_put (fun f hf => ?_) (lower_lower _)⟩
    cases hlookup : d.lookup (lower (row.provider.getD "")) with
    | none =>
      rw [hlookup] at hf
      cases hf
    | some mapping =>
      rw [hlookup] at hf
      exact (hd _ (mem_of_lookup hlookup)).2.2.2 f hf
  · exact hd

theorem loaded (aliasRows : List AliasRow) (mappingRows : List MappingRow) : Loaded (loadModelMappingsCache aliasRows mappingRows) where
  aliases := loaded_aliases aliasRows
  providers e he := ⟨(loaded_mappings mappingRows e he).1, (loaded_mappings mappingRows e he).2.1, (loaded_mappings mappingRows e he).2.2.1⟩
  models e he := (loaded_mappings mappingRows e he).2.2.2

/-! ## Aliases -/

section Aliases

variable {t : MappingTables} (ht : Loaded t)

include ht in
theorem alias?_spec {key canonical : String} (h : t.alias? key = some canonical) : key ≠ "" ∧ lower key = key ∧ canonical ≠ "" :=
  ht.aliases _ (mem_of_lookup h)

def resolve (t : MappingTables) (key canonical : String) : String :=
  if lower canonical = key then canonical else (t.alias? (lower canonical)).getD canonical

include ht in
theorem applyModelAlias_eq (m : String) : applyModelAlias t.alias? m = (t.alias? (lower m)).elim m (resolve t (lower m)) := by
  have hfilter : ∀ key, (t.alias? key).filter (· ≠ "") = t.alias? key := fun key => by
    cases h : t.alias? key with
    | none => rfl
    | some canonical => exact Option.filter_some_pos (decide_eq_true (alias?_spec ht h).2.2)
  rw [applyModelAlias]
  split
  · next hempty =>
    subst hempty
    cases h : t.alias? (lower "") with
    | none => rfl
    | some canonical => exact absurd rfl (alias?_spec ht h).1
  · simp only [hfilter]
    cases h : t.alias? (lower m) with
    | none => rfl
    | some canonical =>
      rw [Option.elim_some, resolve]

/-- Chains end: where two links have led on, the id is an alias of nothing else, or two further links lead back to it. -/
def ChainsEnd (t : MappingTables) : Prop :=
  ∀ key first second third, t.alias? key = some first → lower first ≠ key → t.alias? (lower first) = some second → second ≠ first →
    t.alias? (lower second) = some third → third ≠ second → lower third ≠ lower second ∧ t.alias? (lower third) = some second

include ht in
theorem applyModelAlias_second {second : String} : applyModelAlias t.alias? second = second ↔
    ∀ third, t.alias? (lower second) = some third → third ≠ second → lower third ≠ lower second ∧ t.alias? (lower third) = some second := by
  rw [applyModelAlias_eq ht]
  cases h : t.alias? (lower second) with
  | none => exact iff_of_true rfl fun _ h => (nomatch h)
  | some third =>
    have hthird : (∀ x, some third = some x → x ≠ second → lower x ≠ lower second ∧ t.alias? (lower x) = some second) ↔
        (third ≠ second → lower third ≠ lower second ∧ t.alias? (lower third) = some second) :=
      ⟨fun hall => hall third rfl, fun hone x hx => by cases hx; exact hone⟩
    rw [Option.elim_some, resolve, hthird]
    split
    · next hlower =>
      refine ⟨fun heq hne => absurd heq hne, fun hback => ?_⟩
      by_contra hne
      exact (hback hne).1 hlower
    · next hlower =>
      cases hnext : t.alias? (lower third) with
      | none => exact ⟨fun heq hne => absurd heq hne, fun hback => by_contra fun hne => (nomatch (hback hne).2)⟩
      | some fourth =>
        constructor
        · rintro rfl _
          exact ⟨hlower, rfl⟩
        · intro hback
          have hne : third ≠ second := fun heq => hlower (congrArg lower heq)
          exact Option.some.inj (hback hne).2

include ht in
/-- When resolving twice is resolving once: if all chains end. -/
theorem aliasIdempotent_iff : AliasIdempotent t ↔ ChainsEnd t := by
  constructor
  · intro hidem key first second third hfirst hlower hsecond hne
    have hkey := (alias?_spec ht hfirst).2.1
    have htwice : applyModelAlias t.alias? key = second := by
      rw [applyModelAlias_eq ht, hkey, hfirst, Option.elim_some, resolve, if_neg hlower, hsecond, Option.getD_some]
    have hfixed := hidem key
    rw [htwice] at hfixed
    exact (applyModelAlias_second ht).mp hfixed third
  · intro hchains m
    rw [applyModelAlias_eq ht m]
    cases hfirst : t.alias? (lower m) with
    | none =>
      rw [Option.elim_none, applyModelAlias_eq ht, hfirst, Option.elim_none]
    | some first =>
      rw [Option.elim_some, resolve]
      split
      · next hlower =>
        rw [applyModelAlias_eq ht, hlower, hfirst, Option.elim_some, resolve, if_pos hlower]
      · next hlower =>
        cases hsecond : t.alias? (lower first) with
        | none => rw [Option.getD_none, applyModelAlias_eq ht, hsecond, Option.elim_none]
        | some second =>
          rw [Option.getD_some]
          by_cases hne : second = first
          · subst hne
            rw [applyModelAlias_eq ht, hsecond, Option.elim_some, resolve, if_pos rfl]
          · exact (applyModelAlias_second ht).mpr fun third => hchains _ _ _ _ hfirst hlower hsecond hne

end Aliases

/-! ## Ids that no table has -/

theorem length_lower (s : String) : (lower s).length = s.length := by
  simp [lower, String.length_toList]

/-- All ids of the tables are shorter. -/
structure Shorter (t : MappingTables) (registry : Registry) (n : Nat) : Prop where
  aliases : ∀ e ∈ t.aliases, e.1.length < n
  registry : ∀ e ∈ registry, e.1.length < n
  models : ∀ e ∈ t.providerMappings, ∀ f ∈ e.2, f.1.length < n
  natives : ∀ e ∈ t.providerMappings, ∀ f ∈ e.2, f.2.length < n

theorem exists_bound {α : Type} (l : List α) (f : α → Nat) : ∃ n, ∀ m, n ≤ m → ∀ a ∈ l, f a < m := by
  induction l with
  | nil => exact ⟨0, fun _ _ _ h => (nomatch h)⟩
  | cons a l ih =>
    obtain ⟨n, hn⟩ := ih
    refine ⟨max n (f a + 1), fun m hm => List.forall_mem_cons.mpr ⟨?_, hn m ?_⟩⟩ <;> omega

theorem exists_shorter (t : MappingTables) (registry : Registry) : ∃ n, ∀ m, n ≤ m → Shorter t registry m := by
  obtain ⟨a, ha⟩ := exists_bound t.aliases (·.1.length)
  obtain ⟨r, hr⟩ := exists_bound registry (·.1.length)
  obtain ⟨k, hk⟩ := exists_bound (t.providerMappings.flatMap Prod.snd) (·.1.length)
  obtain ⟨v, hv⟩ := exists_bound (t.providerMappings.flatMap Prod.snd) (·.2.length)
  refine ⟨a + r + k + v, fun m hm => ⟨ha m (by omega), hr m (by omega), fun e he f hf => ?_, fun e he f hf => ?_⟩⟩
  · exact hk m (by omega) f (List.mem_flatMap.mpr ⟨e, he, hf⟩)
  · exact hv m (by omega) f (List.mem_flatMap.mpr ⟨e, he, hf⟩)

theorem lookup_of_longer (h : ∀ e ∈ d, e.1.length < key.length) : d.lookup key = none :=
  List.lookup_eq_none_iff.mpr fun e he => bne_iff_ne.mpr fun heq => by
    have hlength := h e he
    rw [heq] at hlength
    exact Nat.lt_irrefl _ hlength

section Fresh

variable {t : MappingTables} {registry : Registry} {s : String}

theorem alias?_of_longer (h : Shorter t registry s.length) : t.alias? (lower s) = none := by
  refine lookup_of_longer fun e he => ?_
  rw [length_lower]
  exact h.aliases e he

theorem applyModelAlias_of_longer (ht : Loaded t) (h : Shorter t registry s.length) : applyModelAlias t.alias? s = s := by
  rw [applyModelAlias_eq ht, alias?_of_longer h, Option.elim_none]

theorem lookup_foldl_addReverse {entries reverse : List (String × String)}
    (hentries : ∀ e ∈ entries, lower e.2 ≠ key) (hreverse : reverse.lookup key = none) :
    (entries.foldl addReverse reverse).lookup key = none := by
  induction entries generalizing reverse with
  | nil => exact hreverse
  | cons e entries ih =>
    refine ih (fun f hf => hentries f (List.mem_cons_of_mem e hf)) ?_
    have hput : (put reverse (lower e.2) e.1).lookup key = none := by
      rw [lookup_put, if_neg fun heq => hentries e List.mem_cons_self heq.symm, hreverse]
    simp only [addReverse]
    split
    · exact hreverse
    · split
      · exact hput
      · split
        · exact hput
        · exact hreverse

theorem reverse_of_longer (h : Shorter t registry s.length) : (buildReverseTransformLookup t).lookup (lower s) = none := by
  refine lookup_foldl_addReverse (fun f hf heq => ?_) rfl
  obtain ⟨e, he, hf⟩ := List.mem_flatMap.mp hf
  have hlength := congrArg String.length heq
  rw [length_lower, length_lower] at hlength
  have := h.natives e he f hf
  omega

/-- An id that no table has is normalised by the patterns alone, if what they leave is in no table either. -/
theorem normalize_of_longer (ht : Loaded t) (h : Shorter t registry s.length) (hstripped : Shorter t registry (stripPatterns s).length) :
    normalizeModelIdForPricing t s = stripPatterns s := by
  rw [normalizeModelIdForPricing]
  split
  · next hempty =>
    subst hempty
    rfl
  · rw [reverse_of_longer h, Option.filter_none]
    dsimp only
    rw [applyModelAlias_of_longer ht hstripped]
    exact ite_self _

end Fresh

/-! ## Versions -/

/-- An id that begins with the letter `z`, as none of the known paths does. -/
def BeginsWithZ (s : List Char) : Prop := s.head? = some 'z'

theorem startsWith_of_z {s : String} (hs : BeginsWithZ s.toList) {c : Char} {cs : List Char} (hc : c ≠ 'z') {head : String}
    (hhead : head.toList = c :: cs) : startsWith head s = false := by
  cases h : s.toList with
  | nil =>
    rw [BeginsWithZ, h] at hs
    cases hs
  | cons d ds =>
    rw [BeginsWithZ, h] at hs
    cases hs
    rw [startsWith, hhead, h, List.isPrefixOf, beq_false_of_ne hc]
    rfl

theorem lower_z {s : String} (hs : BeginsWithZ s.toList) : BeginsWithZ (lower s).toList := by
  rw [BeginsWithZ, lower, String.toList_ofList, List.head?_map, hs]
  rfl

theorem stripPath_of_z {s : String} (hs : BeginsWithZ s.toList) :
    stripPath s = if textContains "/models/" s && 3 ≤ s.toList.count '/' then stripClarifai s else s := by
  have hlower := lower_z hs
  rw [stripPath, startsWith_of_z hlower (by decide) rfl, startsWith_of_z hlower (by decide) rfl, startsWith_of_z hlower (by decide) rfl]
  rfl

theorem endsWith_of_last {s tail : String} {a b : Char} (hs : s.toList.getLast? = some a) (htail : tail.toList.getLast? = some b)
    (hne : b ≠ a) : endsWith s tail = false := by
  rw [endsWith, List.isSuffixOf]
  rw [← List.head?_reverse] at hs htail
  cases hs' : s.toList.reverse with
  | nil =>
    rw [hs'] at hs
    cases hs
  | cons c cs =>
    rw [hs'] at hs
    cases hs
    cases htail' : tail.toList.reverse with
    | nil =>
      rw [htail'] at htail
      cases htail
    | cons d ds =>
      rw [htail'] at htail
      cases htail
      rw [List.isPrefixOf, beq_false_of_ne hne]
      rfl

/-- The version at the end is taken off, and nothing else. -/
theorem stripPatterns_version {body : List Char} (hz : BeginsWithZ body) (hslash : '/' ∉ body) (hfree : endsWith (String.ofList body) ":free" = false) :
    stripPatterns (String.ofList (body ++ ['@', '1'])) = String.ofList body := by
  have hlist : (String.ofList (body ++ ['@', '1'])).toList = body ++ ['@', '1'] := String.toList_ofList
  have hbegins : BeginsWithZ (String.ofList (body ++ ['@', '1'])).toList := by
    rw [hlist, BeginsWithZ, List.head?_append, hz]
    rfl
  have hlast : (String.ofList (body ++ ['@', '1'])).toList.getLast? = some '1' := by
    rw [hlist, List.getLast?_append]
    rfl
  have hcount : (String.ofList (body ++ ['@', '1'])).toList.count '/' = 0 := by
    rw [hlist, List.count_append, List.count_eq_zero_of_not_mem hslash]
    rfl
  have hpath : stripPath (String.ofList (body ++ ['@', '1'])) = String.ofList (body ++ ['@', '1']) := by
    rw [stripPath_of_z hbegins, hcount]
    simp
  have hsuffix : stripProviderSuffix (String.ofList (body ++ ['@', '1'])) = String.ofList (body ++ ['@', '1']) := by
    rw [stripProviderSuffix, List.find?_cons, endsWith_of_last hlast (by rfl) (by decide), List.find?_cons,
      endsWith_of_last hlast (by rfl) (by decide), List.find?_cons, endsWith_of_last hlast (by rfl) (by decide)]
    rfl
  have hversion : versionPart (body ++ ['@', '1']) = ['1'] := by
    rw [versionPart, List.reverse_append]
    rfl
  have hstrip : stripVersion (String.ofList (body ++ ['@', '1'])) = String.ofList body := by
    have hcontains : (body ++ ['@', '1']).contains '@' = true := by simp
    rw [stripVersion, hlist, hcontains, hversion, if_pos (by decide), dropEnd, hlist, String.length_ofList]
    simp
  rw [stripPatterns, hpath, hsuffix, hstrip, stripFree, hfree]
  rfl

theorem normalize_version {t : MappingTables} {registry : Registry} (ht : Loaded t) {n : Nat} (hn : ∀ m, n ≤ m → Shorter t registry m)
    {body : List Char} (hlong : n ≤ body.length) (hz : BeginsWithZ body) (hslash : '/' ∉ body)
    (hfree : endsWith (String.ofList body) ":free" = false) :
    normalizeModelIdForPricing t (String.ofList (body ++ ['@', '1'])) = String.ofList body := by
  have hstrip := stripPatterns_version hz hslash hfree
  rw [normalize_of_longer ht (hn _ ?_) (hn _ ?_), hstrip]
  · rw [String.length_ofList, List.length_append]
    omega
  · rw [hstrip, String.length_ofList]
    exact hlong

/-- On no tables is normalising twice normalising once: of two versions each pass takes off one. -/
theorem not_normalizeIdempotent {t : MappingTables} (ht : Loaded t) : ¬ NormalizeIdempotent t := by
  intro hidem
  obtain ⟨n, hn⟩ := exists_shorter t []
  have hz : BeginsWithZ (List.replicate (n + 1) 'z') := rfl
  have hslash : '/' ∉ List.replicate (n + 1) 'z' := fun h => absurd (List.eq_of_mem_replicate h) (by decide)
  have hfree : endsWith (String.ofList (List.replicate (n + 1) 'z')) ":free" = false := by
    refine endsWith_of_last (a := 'z') ?_ (by rfl) (by decide)
    rw [String.toList_ofList, List.replicate_succ', List.getLast?_concat]
  have hone := normalize_version ht hn (by rw [List.length_replicate]; omega) hz hslash hfree
  have htwo : normalizeModelIdForPricing t (String.ofList (List.replicate (n + 1) 'z' ++ ['@', '1'] ++ ['@', '1'])) =
      String.ofList (List.replicate (n + 1) 'z' ++ ['@', '1']) := by
    refine normalize_version ht hn ?_ rfl ?_ ?_
    · rw [List.length_append, List.length_replicate]
      omega
    · simp [hslash]
    · refine endsWith_of_last (a := '1') ?_ (by rfl) (by decide)
      rw [String.toList_ofList, List.getLast?_append]
      rfl
  have hboth := hidem (String.ofList (List.replicate (n + 1) 'z' ++ ['@', '1'] ++ ['@', '1']))
  rw [htwo, hone] at hboth
  have hlength := congrArg String.length hboth
  rw [String.length_ofList, String.length_ofList, List.length_append] at hlength
  simp at hlength

/-! ## Organisations -/

def Keeps (n : Nat) (s : String) : Prop := List.replicate n 'z' <+: s.toList

theorem Keeps.le_length {n : Nat} {s : String} (h : Keeps n s) : n ≤ s.length := by
  have hlength := h.length_le
  rwa [List.length_replicate, String.length_toList] at hlength

theorem keeps_dropEnd {n : Nat} {s : String} (h : Keeps n s) {before after : List Char} {c : Char} (hs : s.toList = before ++ c :: after)
    (hc : c ≠ 'z') : Keeps n (dropEnd s (after.length + 1)) := by
  have hcut : s.toList.take (s.length - (after.length + 1)) = before := by
    rw [← String.length_toList, hs, List.length_append, List.length_cons, Nat.add_sub_cancel, List.take_left']
    rfl
  rw [Keeps, dropEnd, String.toList_ofList, hcut]
  have hbefore : before <+: s.toList := ⟨c :: after, hs.symm⟩
  obtain hle | hlt := Nat.lt_or_ge before.length n |>.symm
  · exact List.prefix_of_prefix_length_le h hbefore (by rwa [List.length_replicate])
  · -- the other letter would be one of the organisation
    exfalso
    obtain ⟨rest, hrest⟩ := h
    have hz : s.toList[before.length]? = some 'z' := by
      rw [← hrest, List.getElem?_append_left (by rwa [List.length_replicate]), List.getElem?_replicate, if_pos hlt]
    rw [hs, List.getElem?_append_right (Nat.le_refl _), Nat.sub_self] at hz
    exact hc (Option.some.inj hz)

theorem keeps_endsWith {n : Nat} {s tail : String} (h : Keeps n s) (htail : endsWith s tail = true) {c : Char} {cs : List Char}
    (hcs : tail.toList = c :: cs) (hc : c ≠ 'z') : Keeps n (dropEnd s tail.length) := by
  obtain ⟨before, hbefore⟩ := List.isSuffixOf_iff_suffix.mp htail
  rw [hcs] at hbefore
  have hlength : tail.length = cs.length + 1 := by
    rw [← String.length_toList, hcs, List.length_cons]
  rw [hlength]
  exact keeps_dropEnd h hbefore.symm hc

theorem segments_ne_nil (cs : List Char) : segments cs ≠ [] := by
  cases cs with
  | nil => exact List.cons_ne_nil _ _
  | cons c cs =>
    rw [segments]
    split
    · exact List.cons_ne_nil _ _
    · intro hnil
      rw [List.modifyHead_eq_nil_iff] at hnil
      exact segments_ne_nil cs hnil

theorem headD_segments (n : Nat) (cs : List Char) :
    (segments (List.replicate n 'z' ++ cs)).headD [] = List.replicate n 'z' ++ (segments cs).headD [] := by
  induction n with
  | zero => rfl
  | succ n ih =>
    rw [List.replicate_succ, List.cons_append, segments, if_neg (by decide), List.cons_append, ← ih]
    cases hrest : segments (List.replicate n 'z' ++ cs) with
    | nil => exact absurd hrest (segments_ne_nil _)
    | cons part parts => rfl

theorem keeps_stripClarifai {n : Nat} {s : String} (h : Keeps n s) : Keeps n (stripClarifai s) := by
  rw [stripClarifai]
  obtain ⟨rest, hrest⟩ := h
  dsimp only
  split
  · next part i hfound =>
    rw [Keeps, String.toList_ofList, ← hrest, headD_segments, List.append_assoc]
    exact List.prefix_append _ _
  · exact ⟨rest, hrest⟩

theorem Keeps.beginsWithZ {n : Nat} {s : String} (h : Keeps (n + 1) s) : BeginsWithZ s.toList := by
  obtain ⟨rest, hrest⟩ := h
  rw [BeginsWithZ, ← hrest, List.replicate_succ]
  rfl

/-- What comes behind the last `@`, and what before. -/
theorem versionPart_spec {s : List Char} (h : s.contains '@' = true) : ∃ before, s = before ++ '@' :: versionPart s := by
  have hsplit := List.takeWhile_append_dropWhile (p := (· ≠ '@')) (l := s.reverse)
  have hmem : '@' ∈ s.reverse := List.mem_reverse.mpr (List.contains_iff_mem.mp h)
  cases hrest : s.reverse.dropWhile (· ≠ '@') with
  | nil =>
    have hall := List.dropWhile_eq_nil_iff.mp hrest '@' hmem
    simp at hall
  | cons c before =>
    have hc : c = '@' := by
      have hhead := List.head?_dropWhile_not (· ≠ '@') s.reverse
      rw [hrest] at hhead
      simpa using hhead
    subst hc
    refine ⟨before.reverse, ?_⟩
    rw [hrest] at hsplit
    have hrev := congrArg List.reverse hsplit
    rw [List.reverse_reverse, List.reverse_append, List.reverse_cons, List.append_assoc] at hrev
    exact hrev.symm

/-- The patterns leave the organisation in front. -/
theorem keeps_stripPatterns {n : Nat} {s : String} (h : Keeps (n + 1) s) : Keeps (n + 1) (stripPatterns s) := by
  have hpath : Keeps (n + 1) (stripPath s) := by
    rw [stripPath_of_z h.beginsWithZ]
    split
    · exact keeps_stripClarifai h
    · exact h
  have hsuffix : ∀ x, Keeps (n + 1) x → Keeps (n + 1) (stripProviderSuffix x) := by
    intro x hx
    rw [stripProviderSuffix]
    split
    · next ending hfound =>
      have hends := List.find?_some hfound
      have hmem := List.mem_of_find?_eq_some hfound
      simp only [List.mem_cons, List.not_mem_nil, or_false] at hmem
      rcases hmem with rfl | rfl | rfl
      all_goals exact keeps_endsWith hx hends rfl (by decide)
    · exact hx
  have hversion : ∀ x, Keeps (n + 1) x → Keeps (n + 1) (stripVersion x) := by
    intro x hx
    rw [stripVersion]
    split
    · next hat =>
      obtain ⟨before, hbefore⟩ := versionPart_spec (Bool.and_eq_true_iff.mp hat).1
      exact keeps_dropEnd hx hbefore (by decide)
    · exact hx
  have hfree : ∀ x, Keeps (n + 1) x → Keeps (n + 1) (stripFree x) := by
    intro x hx
    rw [stripFree]
    split
    · next hends =>
      -- `dropEnd` by the length of `:free`
      have hcut := keeps_endsWith hx hends rfl (by decide)
      exact hcut
    · exact hx
  exact hfree _ (hversion _ (hsuffix _ hpath))

def withOrg (n : Nat) (model : String) : String := String.ofList (List.replicate n 'z' ++ '/' :: model.toList)

variable {provider : String}

section WithOrg

variable {n : Nat} {model : String}

theorem keeps_withOrg : Keeps n (withOrg n model) := by
  rw [Keeps, withOrg, String.toList_ofList]
  exact List.prefix_append _ _

theorem lower_withOrg (hmodel : lower model = model) : lower (withOrg n model) = withOrg n model := by
  have hlist : model.toList.map Char.toLower = model.toList := by
    have hlower := congrArg String.toList hmodel
    rwa [lower, String.toList_ofList] at hlower
  rw [lower, withOrg, String.toList_ofList, List.map_append, List.map_replicate, List.map_cons, hlist]
  rfl

theorem afterSlash_withOrg : afterSlash (withOrg n model) = some model := by
  have hcontains : (List.replicate n 'z' ++ '/' :: model.toList).contains '/' = true := by simp
  have hdrop : (List.replicate n 'z' ++ '/' :: model.toList).dropWhile (· ≠ '/') = '/' :: model.toList := by
    rw [List.dropWhile_append_of_pos fun c hc => by rw [List.eq_of_mem_replicate hc]; rfl]
    rfl
  rw [afterSlash, withOrg, String.toList_ofList, if_pos hcontains, hdrop, List.drop_one, List.tail_cons, String.ofList_toList]

/-- No rule before the mapping changes the id. -/
theorem prepare_withOrg (hmodel : lower model = model) :
    prepare provider (withOrg (n + 1) model) = .lookUp (withOrg (n + 1) model) := by
  have hz : BeginsWithZ (withOrg (n + 1) model).toList := keeps_withOrg.beginsWithZ
  have hauto : ¬ (lower (withOrg (n + 1) model) = "openrouter/auto" ∧ provider ≠ "openrouter") := by
    rintro ⟨hlower, -⟩
    rw [lower_withOrg hmodel] at hlower
    rw [hlower] at hz
    cases hz
  have hstrip : (stripPrefixProviders.lookup provider).bind (afterHead · (withOrg (n + 1) model)) = none := by
    cases hhead : stripPrefixProviders.lookup provider with
    | none => rfl
    | some head =>
      have hmem := mem_of_lookup hhead
      simp only [stripPrefixProviders, List.mem_cons, Prod.mk.injEq, List.not_mem_nil, or_false] at hmem
      rcases hmem with ⟨-, rfl⟩ | ⟨-, rfl⟩ | ⟨-, rfl⟩ | ⟨-, rfl⟩ | ⟨-, rfl⟩ | ⟨-, rfl⟩
      all_goals rw [Option.bind_some, afterHead, startsWith_of_z hz (by decide) rfl, if_neg Bool.false_ne_true]
  have hxai : (if provider = "xai" then afterHead "x-ai/" (withOrg (n + 1) model) else none) = none := by
    rw [afterHead, startsWith_of_z hz (by decide) rfl, if_neg Bool.false_ne_true, ite_self]
  have hown : withoutOwnName provider (withOrg (n + 1) model) = withOrg (n + 1) model := by
    rw [withoutOwnName]
    split
    · next hown =>
      have hmem := List.contains_iff_mem.mp (Bool.and_eq_true_iff.mp hown).1
      simp only [ownNameProviders, List.mem_cons, List.not_mem_nil, or_false] at hmem
      rcases hmem with rfl | rfl | rfl | rfl | rfl
      all_goals rw [afterHead, startsWith_of_z hz (by decide) rfl, if_neg Bool.false_ne_true, Option.getD_none]
    · rfl
  rw [prepare, if_neg hauto, lower_withOrg hmodel, hstrip]
  dsimp only
  rw [hxai]
  dsimp only
  rw [startsWith_of_z hz (by decide) rfl, startsWith_of_z hz (by decide) rfl, hown]
  rfl

end WithOrg

theorem lookup_mapValues {V W : Type} (f : V → W) (d : List (String × V)) (key : String) :
    (d.map fun e => (e.1, f e.2)).lookup key = (d.lookup key).map f := by
  induction d with
  | nil => rfl
  | cons e d ih =>
    rw [List.map_cons, List.lookup_cons, List.lookup_cons]
    cases key == e.1 with
    | false => exact ih
    | true => rfl

theorem getModelIdMapping_eq {t : MappingTables} {mapping : List (String × String)}
    (hne : provider ≠ "") (hlower : lower provider = provider)
    (hmapping : t.providerMappings.lookup provider = some mapping) :
    getModelIdMapping t provider = mapping.map fun e => (e.1, .id e.2) := by
  rw [getModelIdMapping, if_neg hne, hlower, hmapping, Option.getD_some]

/-- A provider finds a model of its mapping behind any organisation. -/
theorem served_withOrg {t : MappingTables} {registry : Registry} (ht : Loaded t) {n : Nat} {provider model native : String}
    {mapping : List (String × String)} (hmapping : t.providerMappings.lookup provider = some mapping)
    (hnative : mapping.lookup model = some native) (hn : Shorter t registry (withOrg (n + 1) model).length) :
    servedNative t registry (withOrg (n + 1) model) provider = some (.id native) ∧
      transformModelId t registry (withOrg (n + 1) model) provider = .id native := by
  obtain ⟨hprovider, hlower, -⟩ := ht.providers _ (mem_of_lookup hmapping)
  have hmodel := ht.models _ (mem_of_lookup hmapping) _ (mem_of_lookup hnative)
  have hne : withOrg (n + 1) model ≠ "" := by
    intro hempty
    have hlength := (@keeps_withOrg (n + 1) model).le_length
    rw [hempty] at hlength
    exact absurd hlength (Nat.not_succ_le_zero n)
  have hregistry : registry.nativeId (withOrg (n + 1) model) provider = none := by
    rw [Registry.nativeId, lookup_of_longer hn.registry]
    rfl
  have hfound : findNative (getModelIdMapping t provider) (withOrg (n + 1) model) = some (.id native) := by
    have hdirect : mapping.lookup (withOrg (n + 1) model) = none :=
      lookup_of_longer (hn.models _ (mem_of_lookup hmapping))
    rw [getModelIdMapping_eq hprovider hlower hmapping, findNative, lookup_mapValues, hdirect, Option.map_none]
    dsimp only
    rw [afterSlash_withOrg, Option.bind_some, lookup_mapValues, hnative, Option.map_some]
  constructor
  · rw [servedNative, if_neg hne]
    dsimp only
    rw [applyModelAlias_of_longer ht hn, hregistry, hlower, prepare_withOrg hmodel]
    exact hfound
  · rw [transformModelId, if_neg hne]
    dsimp only
    rw [applyModelAlias_of_longer ht hn, hregistry, hlower, prepare_withOrg hmodel]
    dsimp only
    rw [hfound, if_pos rfl]
    rfl

/-- When the transformation is undone: if no provider serves any model through its mapping. -/
theorem undone_iff {t : MappingTables} (ht : Loaded t) (registry : Registry) : Undone t registry ↔ t.providerMappings = [] := by
  constructor
  · intro hundone
    cases hmappings : t.providerMappings with
    | nil => rfl
    | cons e rest =>
      exfalso
      obtain ⟨provider, mapping⟩ := e
      have hmapping : t.providerMappings.lookup provider = some mapping := by
        rw [hmappings, List.lookup_cons_self]
      obtain ⟨⟨model, native⟩, more, hentry⟩ := List.exists_cons_of_ne_nil (ht.providers _ (mem_of_lookup hmapping)).2.2
      have hnative : mapping.lookup model = some native := by
        rw [show mapping = (model, native) :: more from hentry, List.lookup_cons_self]
      -- an organisation that is longer than what the native id is normalised to
      obtain ⟨n, hn⟩ := exists_shorter t registry
      have hlong : ∀ s, Keeps (n + (normalizeModelIdForPricing t native).length + 1) s → Shorter t registry s.length := by
        intro s hs
        have hlength := hs.le_length
        exact hn _ (by omega)
      have hkeeps := @keeps_withOrg (n + (normalizeModelIdForPricing t native).length + 1) model
      have hstripped := keeps_stripPatterns hkeeps
      obtain ⟨hserved, htransform⟩ := served_withOrg ht hmapping hnative (hlong _ hkeeps)
      have hsame := hundone _ _ _ (by rw [hserved]; rfl) htransform
      rw [normalize_of_longer ht (hlong _ hkeeps) (hlong _ hstripped)] at hsame
      have hlength := hstripped.le_length
      rw [← hsame] at hlength
      omega
  · intro hempty m p native hserved
    exfalso
    have hmapping : getModelIdMapping t (lower p) = [] := by
      rw [getModelIdMapping, hempty]
      exact ite_self _
    rw [servedNative] at hserved
    split at hserved
    · cases hserved
    · dsimp only at hserved
      split at hserved
      · cases hserved
      · split at hserved
        · cases hserved
        · rw [hmapping, findNative, List.lookup_nil] at hserved
          dsimp only at hserved
          cases hslash : afterSlash _ with
          | none =>
            rw [hslash] at hserved
            cases hserved
          | some name =>
            rw [hslash] at hserved
            cases hserved

/-- **No tables that can be loaded keep all the laws.** One by one: aliases are resolved for good if and only if all chains end, the transformation
    is undone if and only if there is nothing to undo, and normalising twice is never normalising once. -/
theorem laws_never (aliasRows : List AliasRow) (mappingRows : List MappingRow) (registry : Registry) :
    ¬ Laws (loadModelMappingsCache aliasRows mappingRows) registry ∧
      (AliasIdempotent (loadModelMappingsCache aliasRows mappingRows) ↔ ChainsEnd (loadModelMappingsCache aliasRows mappingRows)) ∧
      (Undone (loadModelMappingsCache aliasRows mappingRows) registry ↔
        (loadModelMappingsCache aliasRows mappingRows).providerMappings = []) ∧
      ¬ NormalizeIdempotent (loadModelMappingsCache aliasRows mappingRows) := by
  have ht := loaded aliasRows mappingRows
  exact ⟨fun h => not_normalizeIdempotent ht h.normalizeIdempotent, aliasIdempotent_iff ht, undone_iff ht registry, not_normalizeIdempotent ht⟩

/-- Three links: `a` is resolved to `c`, and `c` to `d`. -/
theorem chain_goes_on : ¬ Laws (loadModelMappingsCache
    [⟨some "a", some "b"⟩, ⟨some "b", some "c"⟩, ⟨some "c", some "d"⟩] []) [] := by
  intro h
  have hchain := h.aliasIdempotent "a"
  revert hchain
  decide

end Gatewayz.ModelIds
