import Gatewayz.Correctness.PaymentFailover

/-!
# `Correctness.ProviderLocks` — the models that only some providers have

What remains of a chain is part of it, and not empty if the chain is not. Of the models that are OpenRouter's, by their suffix or their
prefix, nobody but OpenRouter remains; of a vendor's models, the vendor and whom it shares them with.

The rules look at the model's name as aliases make it, in lower case. A suffix is what comes after the first colon: nothing is said here
of names with several colons (`xai_not_shared` has one).
-/

namespace Gatewayz

/-- OpenRouter's suffixes: the name ends in `:exacto`, `:free` or `:extended`. -/
def hasOpenrouterSuffix (modelId : String) : Bool :=
  openrouterSuffixLocks.any fun suffix => (':' :: suffix.toList).isSuffixOf modelId.toList

def hasOneColon (modelId : String) : Prop := modelId.toList.count ':' = 1

instance : DecidablePred hasOneColon := fun _ => inferInstanceAs (Decidable (_ = _))

/-- What the rules leave of a chain, for a model of this name. -/
structure Locked (normalized : String) (chain result : List String) : Prop where
  selection : result.Subperm chain
  nodup : chain.Nodup → result.Nodup
  nonempty : chain ≠ [] → result ≠ []
  suffix : hasOpenrouterSuffix normalized = true → hasOneColon normalized → "openrouter" ∈ chain → result = ["openrouter"]
  openrouter : startsWith "openrouter/" normalized = true → "openrouter" ∈ chain → result = ["openrouter"]
  native : ∀ pre native others, (pre, native, others) ∈ nativeProviderPrefixes → startsWith pre normalized = true →
    ¬ (hasOpenrouterSuffix normalized = true ∧ "openrouter" ∈ chain) → (∃ p ∈ chain, p ∈ native :: others) →
      result.Perm (chain.filter fun p => (native :: others).contains p) ∧ (native ∈ chain → result.head? = some native)

/-! ## Suffixes -/

section Suffixes

variable {modelId : String}

theorem suffixOf_of_eq {base rest : List Char} (hbase : ':' ∉ base) (h : modelId.toList = base ++ ':' :: rest) :
    suffixOf modelId = some (String.ofList rest) := by
  have hdrop : (base ++ ':' :: rest).dropWhile (· ≠ ':') = ':' :: rest := by
    rw [List.dropWhile_append_of_pos]
    · rfl
    · intro c hc
      have hne : c ≠ ':' := fun heq => hbase (heq ▸ hc)
      simpa using hne
  unfold suffixOf
  rw [h, if_pos (by simp), hdrop, List.drop_one, List.tail_cons]

theorem eq_of_suffixOf {suffix : String} (h : suffixOf modelId = some suffix) :
    ∃ base, modelId.toList = base ++ ':' :: suffix.toList := by
  have hcolon : ':' ∈ modelId.toList := by
    unfold suffixOf at h
    split at h
    · next hin => exact List.contains_iff_mem.mp hin
    · cases h
  obtain ⟨base, rest, heq, hbase⟩ := List.eq_append_cons_of_mem hcolon
  rw [suffixOf_of_eq hbase heq] at h
  refine ⟨base, ?_⟩
  rw [← Option.some.inj h, String.toList_ofList, heq]

theorem hasOpenrouterSuffix_of_suffixOf (h : (suffixOf modelId).any openrouterSuffixLocks.contains = true) :
    hasOpenrouterSuffix modelId = true := by
  obtain ⟨suffix, hsuffix, hlock⟩ := (Option.any_eq_true _ _).mp h
  obtain ⟨base, heq⟩ := eq_of_suffixOf hsuffix
  refine List.any_eq_true.mpr ⟨suffix, List.contains_iff_mem.mp hlock, ?_⟩
  rw [heq]
  exact List.isSuffixOf_iff_suffix.mpr (List.suffix_append base _)

theorem suffixOf_of_hasOpenrouterSuffix (h : hasOpenrouterSuffix modelId = true) (hone : hasOneColon modelId) :
    (suffixOf modelId).any openrouterSuffixLocks.contains = true := by
  obtain ⟨suffix, hlock, hends⟩ := List.any_eq_true.mp h
  obtain ⟨base, heq⟩ := List.isSuffixOf_iff_suffix.mp hends
  have hbase : ':' ∉ base := by
    intro hin
    have hcount : (base ++ ':' :: suffix.toList).count ':' = 1 := heq ▸ hone
    rw [List.count_append, List.count_cons_self] at hcount
    have hpos := List.count_pos_iff.mpr hin
    omega
  rw [suffixOf_of_eq hbase heq.symm, String.ofList_toList]
  exact List.contains_iff_mem.mpr hlock

end Suffixes

/-! ## Prefixes -/

section Prefixes

variable {modelId : String} {native native' : String × String × List String}

theorem startsWith_iff {p s : String} : startsWith p s = true ↔ p.toList <+: s.toList := List.isPrefixOf_iff_prefix

theorem native_unique (h : native ∈ nativeProviderPrefixes) (h' : native' ∈ nativeProviderPrefixes)
    (hstarts : startsWith native.1 modelId = true) (hstarts' : startsWith native'.1 modelId = true) : native = native' := by
  have hapart : ∀ a ∈ nativeProviderPrefixes, ∀ b ∈ nativeProviderPrefixes, a.1.toList <+: b.1.toList → a = b := by decide
  rcases List.prefix_or_prefix_of_prefix (startsWith_iff.mp hstarts) (startsWith_iff.mp hstarts') with hle | hle
  · exact hapart native h native' h' hle
  · exact (hapart native' h' native h hle).symm

theorem find_native (h : native ∈ nativeProviderPrefixes) (hstarts : startsWith native.1 modelId = true) :
    nativeProviderPrefixes.find? (fun native => startsWith native.1 modelId) = some native := by
  have hsome : (nativeProviderPrefixes.find? fun native => startsWith native.1 modelId).isSome = true := by
    rw [List.find?_isSome]
    exact ⟨native, h, hstarts⟩
  obtain ⟨found, hfound⟩ := Option.isSome_iff_exists.mp hsome
  have hstarts' : startsWith found.1 modelId = true := 
    List.find?_some (p := fun native : String × String × List String => startsWith native.1 modelId) hfound
  rw [hfound, native_unique (List.mem_of_find?_eq_some hfound) h hstarts' hstarts]

theorem find_native_openrouter (h : startsWith "openrouter/" modelId = true) :
    nativeProviderPrefixes.find? (fun native => startsWith native.1 modelId) = none := by
  have hapart : ∀ a ∈ nativeProviderPrefixes,
      ¬ a.1.toList <+: "openrouter/".toList ∧ ¬ "openrouter/".toList <+: a.1.toList := by
    decide
  refine List.find?_eq_none.mpr fun native hnative hstarts => ?_
  rcases List.prefix_or_prefix_of_prefix (startsWith_iff.mp hstarts) (startsWith_iff.mp h) with hle | hle
  · exact (hapart native hnative).1 hle
  · exact (hapart native hnative).2 hle

end Prefixes

/-! ## What each rule leaves -/

namespace Routing

variable {s : Routing} {modelId : String} {chain : List String} {native : String} {others : List String}

/-- What `enforce_model_failover_rules` looks at. -/
def normalized (s : Routing) (modelId : String) : String := lower (applyModelAlias s.aliases modelId)

def SuffixRule (s : Routing) (modelId : String) (chain : List String) : Prop :=
  (suffixOf (s.normalized modelId)).any openrouterSuffixLocks.contains = true ∧ chain.contains "openrouter" = true

theorem enforce_suffix (h : modelId ≠ "") (hsuffix : s.SuffixRule modelId chain) :
    s.enforceModelFailoverRules modelId chain = ["openrouter"] := by
  unfold enforceModelFailoverRules
  rw [if_neg h]
  exact if_pos hsuffix

theorem enforce_native (h : modelId ≠ "") (hsuffix : ¬ s.SuffixRule modelId chain) {pre : String}
    (hfind : nativeProviderPrefixes.find? (fun native => startsWith native.1 (s.normalized modelId)) = some (pre, native, others)) :
    s.enforceModelFailoverRules modelId chain =
      if chain.filter (fun p => (native :: others).contains p) = [] then chain
      else nativeFirst native (chain.filter fun p => (native :: others).contains p) := by
  unfold SuffixRule at hsuffix
  unfold normalized at hsuffix hfind
  unfold enforceModelFailoverRules
  rw [if_neg h]
  dsimp only
  rw [if_neg hsuffix, hfind]

theorem enforce_other (h : modelId ≠ "") (hsuffix : ¬ s.SuffixRule modelId chain)
    (hfind : nativeProviderPrefixes.find? (fun native => startsWith native.1 (s.normalized modelId)) = none) :
    s.enforceModelFailoverRules modelId chain =
      if startsWith "openrouter/" (s.normalized modelId) = true ∧ chain.contains "openrouter" = true then ["openrouter"] else chain := by
  unfold SuffixRule at hsuffix
  unfold normalized at hsuffix hfind
  unfold enforceModelFailoverRules
  rw [if_neg h]
  dsimp only
  rw [if_neg hsuffix, hfind]
  rfl

theorem perm_nativeFirst : (nativeFirst native chain).Perm chain := by
  unfold nativeFirst
  split
  · next h => exact (List.perm_cons_erase (List.contains_iff_mem.mp h.1)).symm
  · exact .refl chain

theorem head_nativeFirst (h : native ∈ chain) : (nativeFirst native chain).head? = some native := by
  unfold nativeFirst
  split
  · rfl
  · next hnot =>
    by_contra hhead
    exact hnot ⟨List.contains_iff_mem.mpr h, hhead⟩

theorem nativeFirst_of_head (h : chain.head? = some native) : nativeFirst native chain = chain :=
  if_neg fun hne => hne.2 h

theorem nativeFirst_nativeFirst : nativeFirst native (nativeFirst native chain) = nativeFirst native chain := by
  by_cases h : native ∈ chain
  · exact nativeFirst_of_head (head_nativeFirst h)
  · have hout : nativeFirst native chain = chain := if_neg fun hin => h (List.contains_iff_mem.mp hin.1)
    rw [hout, hout]

theorem enforce_empty : s.enforceModelFailoverRules "" chain = chain := if_pos rfl

/-- By which rule: a suffix, a vendor's prefix, or neither. -/
theorem enforce_cases (s : Routing) (modelId : String) (chain : List String) : s.SuffixRule modelId chain ∨
      (∃ pre native others, (pre, native, others) ∈ nativeProviderPrefixes ∧ startsWith pre (s.normalized modelId) = true ∧
        ¬ s.SuffixRule modelId chain ∧
          nativeProviderPrefixes.find? (fun native => startsWith native.1 (s.normalized modelId)) = some (pre, native, others)) ∨
      ¬ s.SuffixRule modelId chain ∧
        nativeProviderPrefixes.find? (fun native => startsWith native.1 (s.normalized modelId)) = none := by
  by_cases hsuffix : s.SuffixRule modelId chain
  · exact .inl hsuffix
  · cases hfind : nativeProviderPrefixes.find? fun native => startsWith native.1 (s.normalized modelId) with
    | none => exact .inr (.inr ⟨hsuffix, rfl⟩)
    | some found =>
      have hstarts : startsWith found.1 (s.normalized modelId) = true :=
        List.find?_some (p := fun native : String × String × List String => startsWith native.1 (s.normalized modelId)) hfind
      exact .inr (.inl ⟨found.1, found.2.1, found.2.2, List.mem_of_find?_eq_some hfind, hstarts, hsuffix, rfl⟩)

/-! ## What always holds of it -/

theorem normalized_empty : s.normalized "" = "" := by
  unfold normalized applyModelAlias
  rw [if_pos rfl]
  rfl

theorem singleton_of_contains (h : chain.contains "openrouter" = true) : ["openrouter"].Subperm chain :=
  List.singleton_subperm_iff.mpr (List.contains_iff_mem.mp h)

/-- What can become of a chain: it stays as it is, OpenRouter remains, or the vendor of the model and its others do. -/
theorem enforce_outcome (s : Routing) (modelId : String) (chain : List String) :
    s.enforceModelFailoverRules modelId chain = chain ∨
      (chain.contains "openrouter" = true ∧ s.enforceModelFailoverRules modelId chain = ["openrouter"]) ∨
      ∃ native others, chain.filter (fun p => (native :: others).contains p) ≠ [] ∧
        s.enforceModelFailoverRules modelId chain = nativeFirst native (chain.filter fun p => (native :: others).contains p) := by
  by_cases h : modelId = ""
  · exact .inl (h ▸ enforce_empty)
  · rcases enforce_cases s modelId chain with hsuffix | ⟨pre, native, others, -, -, hsuffix, hfind⟩ | ⟨hsuffix, hfind⟩
    · exact .inr (.inl ⟨hsuffix.2, enforce_suffix h hsuffix⟩)
    · rw [enforce_native h hsuffix hfind]
      split
      · exact .inl rfl
      · next hsome => exact .inr (.inr ⟨native, others, hsome, rfl⟩)
    · rw [enforce_other h hsuffix hfind]
      split
      · next hopenrouter => exact .inr (.inl ⟨hopenrouter.2, rfl⟩)
      · exact .inl rfl

theorem subperm_enforce (s : Routing) (modelId : String) (chain : List String) :
    (s.enforceModelFailoverRules modelId chain).Subperm chain := by
  rcases enforce_outcome s modelId chain with hsame | ⟨hin, hone⟩ | ⟨native, others, -, hnative⟩
  · rw [hsame]
  · rw [hone]
    exact singleton_of_contains hin
  · rw [hnative]
    exact perm_nativeFirst.subperm.trans List.filter_sublist.subperm

theorem enforce_ne_nil (hchain : chain ≠ []) : s.enforceModelFailoverRules modelId chain ≠ [] := by
  rcases enforce_outcome s modelId chain with hsame | ⟨-, hone⟩ | ⟨native, others, hsome, hnative⟩
  · rw [hsame]
    exact hchain
  · rw [hone]
    exact List.cons_ne_nil _ _
  · rw [hnative]
    exact fun hnil => hsome (hnil ▸ perm_nativeFirst).symm.eq_nil

/-- The rules change nothing the second time. -/
theorem enforce_enforce : s.enforceModelFailoverRules modelId (s.enforceModelFailoverRules modelId chain) =
    s.enforceModelFailoverRules modelId chain := by
  by_cases h : modelId = ""
  · rw [h, enforce_empty]
  · rcases enforce_cases s modelId chain with hsuffix | ⟨pre, native, others, -, -, hsuffix, hfind⟩ | ⟨hsuffix, hfind⟩
    · rw [enforce_suffix h hsuffix, enforce_suffix h ⟨hsuffix.1, rfl⟩]
    · rw [enforce_native h hsuffix hfind]
      split
      · next hnone => rw [enforce_native h hsuffix hfind, if_pos hnone]
      · next hsome =>
        -- who is in the result was in the chain, so the first rule does not come to apply
        have hagain : ¬ s.SuffixRule modelId (nativeFirst native (chain.filter fun p => (native :: others).contains p)) :=
          fun hrule => hsuffix ⟨hrule.1, List.contains_iff_mem.mpr
            (List.mem_of_mem_filter (perm_nativeFirst.mem_iff.mp (List.contains_iff_mem.mp hrule.2)))⟩
        have hall : (nativeFirst native (chain.filter fun p => (native :: others).contains p)).filter
            (fun p => (native :: others).contains p) = nativeFirst native (chain.filter fun p => (native :: others).contains p) :=
          List.filter_eq_self.mpr fun p hp => (List.mem_filter.mp (perm_nativeFirst.mem_iff.mp hp)).2
        rw [enforce_native h hagain hfind, hall, nativeFirst_nativeFirst, if_neg]
        exact fun hnil => hsome (hnil ▸ perm_nativeFirst).symm.eq_nil
    · rw [enforce_other h hsuffix hfind]
      split
      · next hopenrouter =>
        have hagain : ¬ s.SuffixRule modelId ["openrouter"] := fun hrule => hsuffix ⟨hrule.1, hopenrouter.2⟩
        rw [enforce_other h hagain hfind, if_pos ⟨hopenrouter.1, rfl⟩]
      · next hother => rw [enforce_other h hsuffix hfind, if_neg hother]

/-! ## Who remains -/

theorem ne_empty_of_suffix (h : hasOpenrouterSuffix (s.normalized modelId) = true) : modelId ≠ "" := by
  rintro rfl
  rw [normalized_empty] at h
  exact absurd h (by decide)

theorem enforce_of_suffix (h : hasOpenrouterSuffix (s.normalized modelId) = true) (hone : hasOneColon (s.normalized modelId))
    (hin : "openrouter" ∈ chain) : s.enforceModelFailoverRules modelId chain = ["openrouter"] :=
  enforce_suffix (ne_empty_of_suffix h) ⟨suffixOf_of_hasOpenrouterSuffix h hone, List.contains_iff_mem.mpr hin⟩

theorem enforce_of_openrouter (h : startsWith "openrouter/" (s.normalized modelId) = true) (hin : "openrouter" ∈ chain) :
    s.enforceModelFailoverRules modelId chain = ["openrouter"] := by
  have hne : modelId ≠ "" := by
    rintro rfl
    rw [normalized_empty] at h
    exact absurd h (by decide)
  by_cases hsuffix : s.SuffixRule modelId chain
  · exact enforce_suffix hne hsuffix
  · rw [enforce_other hne hsuffix (find_native_openrouter h), if_pos ⟨h, List.contains_iff_mem.mpr hin⟩]

theorem enforce_of_native {pre : String} (hnative : (pre, native, others) ∈ nativeProviderPrefixes)
    (hstarts : startsWith pre (s.normalized modelId) = true)
    (hother : ¬ (hasOpenrouterSuffix (s.normalized modelId) = true ∧ "openrouter" ∈ chain))
    (hsome : ∃ p ∈ chain, p ∈ native :: others) :
    s.enforceModelFailoverRules modelId chain = nativeFirst native (chain.filter fun p => (native :: others).contains p) := by
  have hne : modelId ≠ "" := by
    rintro rfl
    rw [normalized_empty] at hstarts
    have hnone : ∀ entry ∈ nativeProviderPrefixes, startsWith entry.1 "" = false := by decide
    exact absurd hstarts (by rw [hnone _ hnative]; decide)
  have hsuffix : ¬ s.SuffixRule modelId chain := fun hrule =>
    hother ⟨hasOpenrouterSuffix_of_suffixOf hrule.1, List.contains_iff_mem.mp hrule.2⟩
  obtain ⟨p, hp, hlock⟩ := hsome
  rw [enforce_native hne hsuffix (find_native hnative hstarts), if_neg]
  exact List.ne_nil_of_mem (List.mem_filter.mpr ⟨hp, List.contains_iff_mem.mpr hlock⟩)

theorem locked_enforce : Locked (s.normalized modelId) chain (s.enforceModelFailoverRules modelId chain) where
  selection := subperm_enforce s modelId chain
  nodup := fun h => by
    obtain ⟨part, hperm, hsub⟩ := subperm_enforce s modelId chain
    exact hperm.nodup_iff.mp (h.sublist hsub)
  nonempty := enforce_ne_nil
  suffix := enforce_of_suffix
  openrouter := enforce_of_openrouter
  native := fun pre native others hnative hstarts hother hsome => by
    rw [enforce_of_native hnative hstarts hother hsome]
    refine ⟨perm_nativeFirst, fun hin => head_nativeFirst (List.mem_filter.mpr ⟨hin, ?_⟩)⟩
    exact List.contains_iff_mem.mpr List.mem_cons_self

/-! ## Free models -/

theorem hasOneColon_lower : hasOneColon (lower modelId) ↔ hasOneColon modelId := by
  unfold hasOneColon lower
  rw [String.toList_ofList, List.count_eq_countP, List.countP_map, List.count_eq_countP]
  refine Eq.congr_left (List.countP_congr fun c _ => ?_)
  have hcolon : c.toLower = ':' ↔ c = ':' := toLower_eq_iff (by decide)
  simp [hcolon]

theorem hasOpenrouterSuffix_lower (h : isFreeId modelId = true) : hasOpenrouterSuffix (lower modelId) = true := by
  obtain ⟨base, heq⟩ := List.isSuffixOf_iff_suffix.mp h
  refine List.any_eq_true.mpr ⟨"free", by decide, List.isSuffixOf_iff_suffix.mpr ⟨base.map Char.toLower, ?_⟩⟩
  have hlower : ":free".toList.map Char.toLower = ':' :: "free".toList := by decide
  unfold lower
  rw [← heq, List.map_append, hlower]
  exact String.toList_ofList.symm

theorem normalized_of_no_alias (h : s.aliases (lower modelId) = none) : s.normalized modelId = lower modelId := by
  unfold normalized applyModelAlias
  split
  · rfl
  · rw [h]
    rfl

/-- **The rules lock what they are to lock**, with payment failover and without it, and whether OpenRouter's circuit is open or not. A
    model that is free is OpenRouter's, if it has no alias and no second colon. -/
theorem failover_rules_lock (s : Routing) (openrouterOpen : Option Bool) (modelId : String) (chain : List String)
    (allowPaymentFailover : Bool) :
    Locked (s.normalized modelId) chain (s.enforceFailoverRules openrouterOpen modelId chain allowPaymentFailover) ∧
      (∀ openrouterOpen' allowPaymentFailover', s.enforceFailoverRules openrouterOpen' modelId
        (s.enforceFailoverRules openrouterOpen modelId chain allowPaymentFailover) allowPaymentFailover' =
          s.enforceFailoverRules openrouterOpen modelId chain allowPaymentFailover) ∧
      (isFreeId modelId = true → s.aliases (lower modelId) = none → hasOneColon modelId → "openrouter" ∈ chain →
        s.enforceFailoverRules openrouterOpen modelId chain allowPaymentFailover = ["openrouter"]) := by
  simp only [enforceFailoverRules_eq]
  refine ⟨locked_enforce, fun _ _ => enforce_enforce, fun hfree halias hone hin => enforce_of_suffix ?_ ?_ hin⟩
  · rw [normalized_of_no_alias halias]
    exact hasOpenrouterSuffix_lower hfree
  · rw [normalized_of_no_alias halias]
    exact hasOneColon_lower.mpr hone

/-- **xAI's models are not shared with OpenRouter**: where it is in the chain without xAI, nobody is taken out. An alias decides before a
    suffix, and a free id with a second colon is nobody's in particular. -/
theorem xai_not_shared :
    (startsWith "x-ai/" "x-ai/grok-4" = true ∧
      ¬ ∀ p ∈ Routing.enforceFailoverRules {} none "x-ai/grok-4" ["openrouter", "cerebras"] false, p ∈ ["xai", "openrouter"]) ∧
    (isFreeId "fast:free" = true ∧
      Routing.enforceFailoverRules { aliases := fun _ => some "meta/fast" } none "fast:free" ["cerebras", "openrouter"] false =
        ["cerebras", "openrouter"]) ∧
    isFreeId "meta/fast:v1:free" = true ∧
      Routing.enforceFailoverRules {} none "meta/fast:v1:free" ["cerebras", "openrouter"] false = ["cerebras", "openrouter"] := by
  decide +kernel

end Routing

end Gatewayz
