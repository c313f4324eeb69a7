import Gatewayz.Health.ProviderSelector

/-!
# `Correctness.DisabledForGood` — who is disabled does not come back

The tracker forgets a disabled provider after its timeout. The registry does not: `disable_provider` clears a flag that nothing sets
again. So a provider that has reached the threshold is tried again only if its model lists it twice, for `get_provider_by_name`
finds the first one only (`disabled_returns_iff`).
-/

namespace Gatewayz.Selector

open Exec

/-! ## Entries of a name -/

def entries (registry : Registry) (modelId name : String) : List ProviderConfig :=
  ((registry modelId).getD []).filter fun p => p.name = name

def FirstDisabled (registry : Registry) (modelId name : String) : Prop :=
  ∀ p ∈ (entries registry modelId name).head?, p.enabled = false

section Entries

variable {registry : Registry} {modelId name : String}

theorem disableFirst_filter_self (name : String) (ps : List ProviderConfig) :
    (∀ p ∈ ((disableFirst name ps).filter fun p => p.name = name).head?, p.enabled = false) ∧
      ((disableFirst name ps).filter fun p => p.name = name).tail = (ps.filter fun p => p.name = name).tail := by
  induction ps with
  | nil => exact ⟨nofun, rfl⟩
  | cons p ps ih =>
    rw [disableFirst]
    by_cases hname : p.name = name
    · rw [if_pos hname, List.filter_cons_of_pos (by simpa using hname), List.filter_cons_of_pos (by simpa using hname)]
      refine ⟨fun q hq => ?_, rfl⟩
      obtain rfl : _ = q := Option.some.inj hq
      rfl
    · rw [if_neg hname, List.filter_cons_of_neg (by simpa using hname), List.filter_cons_of_neg (by simpa using hname)]
      exact ih

theorem disableFirst_filter_of_ne {name other : String} (h : other ≠ name) (ps : List ProviderConfig) :
    ((disableFirst name ps).filter fun p => p.name = other) = ps.filter fun p => p.name = other := by
  induction ps with
  | nil => rfl
  | cons p ps ih =>
    rw [disableFirst]
    by_cases hname : p.name = name
    · have hother : p.name ≠ other := fun heq => h (heq.symm.trans hname)
      rw [if_pos hname, List.filter_cons_of_neg (by simpa using hother), List.filter_cons_of_neg (by simpa using hother)]
    · rw [if_neg hname, List.filter_cons, List.filter_cons, ih]

theorem firstDisabled_disableProvider (registry : Registry) (modelId name : String) :
    FirstDisabled (registry.disableProvider modelId name) modelId name := by
  unfold FirstDisabled entries Registry.disableProvider
  rw [Function.update_self]
  cases registry modelId with
  | none => exact nofun
  | some ps => exact (disableFirst_filter_self name ps).1

theorem tail_disableProvider (registry : Registry) (modelId name : String) :
    (entries (registry.disableProvider modelId name) modelId name).tail = (entries registry modelId name).tail := by
  unfold entries Registry.disableProvider
  rw [Function.update_self]
  cases registry modelId with
  | none => rfl
  | some ps => exact (disableFirst_filter_self name ps).2

theorem entries_disableProvider_of_ne {m n : String} (h : ¬ (m = modelId ∧ n = name)) :
    entries (registry.disableProvider modelId name) m n = entries registry m n := by
  unfold entries Registry.disableProvider
  by_cases hm : m = modelId
  · subst hm
    have hn : n ≠ name := fun hn => h ⟨rfl, hn⟩
    rw [Function.update_self]
    cases registry m with
    | none => rfl
    | some ps => exact disableFirst_filter_of_ne hn ps
  · rw [Function.update_of_ne hm]

theorem FirstDisabled.disableProvider {m n : String} (h : FirstDisabled registry m n) :
    FirstDisabled (registry.disableProvider modelId name) m n := by
  by_cases heq : m = modelId ∧ n = name
  · obtain ⟨rfl, rfl⟩ := heq
    exact firstDisabled_disableProvider registry m n
  · unfold FirstDisabled
    rw [entries_disableProvider_of_ne heq]
    exact h

theorem tail_disableProvider_any (registry : Registry) (modelId name m n : String) :
    (entries (registry.disableProvider modelId name) m n).tail = (entries registry m n).tail := by
  by_cases heq : m = modelId ∧ n = name
  · obtain ⟨rfl, rfl⟩ := heq
    exact tail_disableProvider registry m n
  · rw [entries_disableProvider_of_ne heq]

end Entries

/-! ## The tracker -/

section Tracker

variable {V : Type} {f : String → String → V} {modelId providerName : String} {v : V}

@[simp] theorem assign_self : assign f modelId providerName v modelId providerName = v := by
  rw [assign, Function.update_self, Function.update_self]

theorem assign_of_ne {m n : String} (h : ¬ (m = modelId ∧ n = providerName)) : assign f modelId providerName v m n = f m n := by
  unfold assign
  by_cases hm : m = modelId
  · subst hm
    rw [Function.update_self, Function.update_of_ne fun hn => h ⟨rfl, hn⟩]
  · rw [Function.update_of_ne hm]

theorem assign_cases (f : String → String → V) (modelId providerName : String) (v : V) (m n : String) :
    (m = modelId ∧ n = providerName ∧ assign f modelId providerName v m n = v) ∨ assign f modelId providerName v m n = f m n := by
  by_cases h : m = modelId ∧ n = providerName
  · obtain ⟨rfl, rfl⟩ := h
    exact .inl ⟨rfl, rfl, assign_self⟩
  · exact .inr (assign_of_ne h)

end Tracker

/-! ## Calls -/

section Calls

variable {R : Type} {P : ProviderSelector → Prop} {ok : String → Prop} {call : FailoverCall R} {modelId : String}

def ProviderSelector.clear (s : ProviderSelector) (modelId providerName : String) : ProviderSelector :=
  { s with healthTracker := s.healthTracker.recordSuccess modelId providerName }

/-- What a call does to a model keeps `P`: providers are cleared, and those that are `ok` fail. -/
structure Kept (P : ProviderSelector → Prop) (ok : String → Prop) (modelId : String) : Prop where
  clear : ∀ s n, P s → P (s.clear modelId n)
  fail : ∀ s n now, ok n → P s → P (s.recordFailure modelId n now)

theorem Kept.isAvailable (hkept : Kept P ok modelId) {s : ProviderSelector} (h : P s) (n : String) (now : ℚ) :
    P { s with healthTracker := (s.healthTracker.isAvailable modelId n now).2 } := by
  unfold ProviderHealthTracker.isAvailable
  split
  · exact h
  · split
    · exact hkept.clear s n h
    · exact h

theorem Kept.available (hkept : Kept P ok modelId) (now : ℚ) (ps : List ProviderConfig) {s : ProviderSelector} (h : P s) :
    P { s with healthTracker := (ProviderHealthTracker.available modelId now ps s.healthTracker).2 } := by
  induction ps generalizing s with
  | nil => exact h
  | cons p ps ih =>
    rw [ProviderHealthTracker.available]
    exact ih (s := { s with healthTracker := (s.healthTracker.isAvailable modelId p.name now).2 }) (hkept.isAvailable h p.name now)

theorem attempts_begin_with (call : FailoverCall R) (i : ℕ) (ps : List ProviderConfig) (s : ProviderSelector) (attempts : List Attempt)
    (lastError : String) : attempts <+: (ProviderSelector.tryProviders call i ps s attempts lastError).1.attempts := by
  induction ps generalizing i s attempts lastError with
  | nil => exact List.prefix_rfl
  | cons p ps ih =>
    rw [ProviderSelector.tryProviders]
    split
    · exact List.prefix_append _ _
    · exact (List.prefix_append _ _).trans (ih _ _ _ _)

theorem Kept.tryProviders (hkept : Kept P ok call.modelId) (i : ℕ) (ps : List ProviderConfig) {s : ProviderSelector}
    (attempts : List Attempt) (lastError : String) (h : P s)
    (hok : ∀ a ∈ (ProviderSelector.tryProviders call i ps s attempts lastError).1.attempts, a.success = false → ok a.provider) :
    P (ProviderSelector.tryProviders call i ps s attempts lastError).2 := by
  induction ps generalizing i s attempts lastError with
  | nil => exact h
  | cons p ps ih =>
    rw [ProviderSelector.tryProviders] at hok ⊢
    split
    · exact hkept.clear s p.name h
    · next error herror =>
      rw [herror] at hok
      -- the failure is one of the attempts
      have hfailed : ok p.name := by
        refine hok ⟨p.name, p.modelId, p.priority, i + 1, false, none, some error⟩ ?_ rfl
        exact (attempts_begin_with call _ _ _ _ _).subset (List.mem_append_right _ List.mem_cons_self)
      exact ih _ _ _ (hkept.fail s p.name _ hfailed h) hok

/-- The rule of a call. -/
theorem Kept.execute (hkept : Kept P ok call.modelId) {s : ProviderSelector} (h : P s)
    (hok : ∀ a ∈ (s.executeWithFailover call).1.attempts, a.success = false → ok a.provider) : P (s.executeWithFailover call).2 := by
  unfold ProviderSelector.executeWithFailover at hok ⊢
  split
  · exact h
  · next hmodel =>
    rw [hmodel] at hok
    split
    · exact h
    · next primary hprimary =>
      rw [hprimary] at hok
      dsimp only at hok ⊢
      have havailable := hkept.available call.start
        (primary :: slice (s.registry.fallbackProviders call.modelId primary.name) (call.maxRetries - 1)) h
      split
      · exact havailable
      · next hsome =>
        rw [if_neg hsome] at hok
        exact hkept.tryProviders 0 _ [] "None" havailable hok

end Calls

/-! ## Candidates -/

/-- A provider of the name is enabled, and the tracker lets it pass: it is tried when its turn comes. -/
def Candidate (s : ProviderSelector) (modelId name : String) (now : ℚ) : Prop :=
  (∃ p ∈ enabledProviders ((s.registry modelId).getD []), p.name = name) ∧ (s.healthTracker.isAvailable modelId name now).1 = true

section Candidates

variable {R : Type} {s : ProviderSelector} {modelId name : String} {now : ℚ}

theorem isAvailable_isAvailable (tracker : ProviderHealthTracker) (modelId other name : String) (now : ℚ) :
    ((tracker.isAvailable modelId other now).2.isAvailable modelId name now).1 = (tracker.isAvailable modelId name now).1 := by
  by_cases hname : name = other
  · subst hname
    unfold ProviderHealthTracker.isAvailable
    cases hdisabled : tracker.disabledUntil modelId name with
    | none =>
      dsimp only
      rw [hdisabled]
    | some u =>
      dsimp only
      by_cases hover : u ≤ now
      · rw [if_pos hover]
        simp [ProviderHealthTracker.recordSuccess]
      · rw [if_neg hover, hdisabled]
        dsimp only
        rw [if_neg hover]
  · have hsame : (tracker.isAvailable modelId other now).2.disabledUntil modelId name = tracker.disabledUntil modelId name := by
      unfold ProviderHealthTracker.isAvailable
      split
      · rfl
      · split
        · exact assign_of_ne fun h => hname h.2
        · rfl
    unfold ProviderHealthTracker.isAvailable at hsame ⊢
    rw [hsame]
    cases tracker.disabledUntil modelId name with
    | none => rfl
    | some u =>
      dsimp only
      split <;> rfl

variable {p : ProviderConfig}

theorem mem_available {ps : List ProviderConfig} {tracker : ProviderHealthTracker}
    (h : p ∈ (ProviderHealthTracker.available modelId now ps tracker).1) :
    p ∈ ps ∧ (tracker.isAvailable modelId p.name now).1 = true := by
  induction ps generalizing tracker with
  | nil => cases h
  | cons q ps ih =>
    rw [ProviderHealthTracker.available] at h
    dsimp only at h
    split at h
    · next havailable =>
      rcases List.mem_cons.mp h with rfl | hrest
      · exact ⟨List.mem_cons_self, havailable⟩
      · obtain ⟨hmem, hp⟩ := ih hrest
        rw [isAvailable_isAvailable] at hp
        exact ⟨List.mem_cons_of_mem _ hmem, hp⟩
    · obtain ⟨hmem, hp⟩ := ih h
      rw [isAvailable_isAvailable] at hp
      exact ⟨List.mem_cons_of_mem _ hmem, hp⟩

theorem mem_slice {α : Type} {xs : List α} {k : ℤ} {x : α} (h : x ∈ slice xs k) : x ∈ xs := by
  unfold slice at h
  split at h
  · exact List.mem_of_mem_take h
  · exact List.mem_of_mem_take h

theorem attempts_tryProviders (call : FailoverCall R) (i : ℕ) (ps : List ProviderConfig) (s : ProviderSelector)
    (attempts : List Attempt) (lastError : String) {a : Attempt}
    (h : a ∈ (ProviderSelector.tryProviders call i ps s attempts lastError).1.attempts) :
    a ∈ attempts ∨ ∃ p ∈ ps, p.name = a.provider := by
  induction ps generalizing i s attempts lastError with
  | nil => exact .inl h
  | cons p ps ih =>
    have hlast : ∀ {b : Attempt}, a ∈ attempts ++ [b] → p.name = b.provider → a ∈ attempts ∨ ∃ q ∈ p :: ps, q.name = a.provider := by
      intro b hmem hb
      rcases List.mem_append.mp hmem with hbefore | hnew
      · exact .inl hbefore
      · rw [List.mem_singleton.mp hnew]
        exact .inr ⟨p, List.mem_cons_self, hb⟩
    rw [ProviderSelector.tryProviders] at h
    split at h
    · exact hlast h rfl
    · rcases ih _ _ _ _ h with hmem | ⟨q, hq, hname⟩
      · exact hlast hmem rfl
      · exact .inr ⟨q, List.mem_cons_of_mem _ hq, hname⟩

theorem mem_enabled_of_selectProvider {registry : Registry} {preferred : Option String}
    {features : List String} {maxCost : Option ℚ}
    (h : registry.selectProvider modelId preferred features maxCost = some p) :
    p ∈ enabledProviders ((registry modelId).getD []) := by
  unfold Registry.selectProvider at h
  cases hmodel : registry modelId with
  | none =>
    rw [hmodel] at h
    cases h
  | some ps =>
    rw [hmodel] at h
    dsimp only at h
    have hhead : ∀ {xs : List ProviderConfig}, xs.head? = some p → p ∈ xs := List.mem_of_mem_head?
    have hcandidates : p ∈ ((enabledProviders ps).filter fun p => features.all fun f => p.features.contains f).filter
        fun p => maxCost.all fun most => p.costPer1kInput.all fun cost => cost ≤ most := by
      split at h
      · rcases Option.or_eq_some_iff.mp h with hfound | ⟨-, hfirst⟩
        · exact List.mem_of_find?_eq_some hfound
        · exact hhead hfirst
      · exact hhead h
    exact List.mem_of_mem_filter (List.mem_of_mem_filter hcandidates)

theorem mem_enabled_of_fallback {registry : Registry} {exclude : String}
    (h : p ∈ registry.fallbackProviders modelId exclude) : p ∈ enabledProviders ((registry modelId).getD []) := by
  unfold Registry.fallbackProviders at h
  dsimp only at h
  split at h
  · exact h
  · exact List.mem_of_mem_filter h

/-- Only candidates are tried. -/
theorem candidate_of_attempt {call : FailoverCall R} {a : Attempt} (h : a ∈ (s.executeWithFailover call).1.attempts) :
    Candidate s call.modelId a.provider call.start := by
  unfold ProviderSelector.executeWithFailover at h
  split at h
  · cases h
  · split at h
    · cases h
    · next primary hprimary =>
      dsimp only at h
      split at h
      · cases h
      · rcases attempts_tryProviders _ _ _ _ _ _ h with hnone | ⟨p, hp, hname⟩
        · cases hnone
        · obtain ⟨hmem, havailable⟩ := mem_available hp
          refine ⟨⟨p, ?_, hname⟩, hname ▸ havailable⟩
          rcases List.mem_cons.mp hmem with rfl | hfallback
          · exact mem_enabled_of_selectProvider hprimary
          · exact mem_enabled_of_fallback (mem_slice hfallback)

end Candidates

/-! ## Runs -/

section Runs

variable {R : Type} {start s s' : ProviderSelector} {modelId name : String} {u : ℚ}

/-- What wears off, and what does not: behind the first of a name all is as it was, and who was disabled by the tracker is disabled
    in the registry. -/
structure Worn (start s : ProviderSelector) : Prop where
  rest : ∀ m n, (entries s.registry m n).tail = (entries start.registry m n).tail
  disabled : ∀ m n, s.healthTracker.disabledUntil m n ≠ none → FirstDisabled s.registry m n

theorem worn_kept (start : ProviderSelector) (modelId : String) : Kept (Worn start) (fun _ => True) modelId where
  clear := by
    intro s n h
    refine ⟨h.rest, fun m n' hdisabled => ?_⟩
    change assign s.healthTracker.disabledUntil modelId n none m n' ≠ none at hdisabled
    rcases assign_cases s.healthTracker.disabledUntil modelId n none m n' with ⟨-, -, hnone⟩ | hsame
    · exact absurd hnone hdisabled
    · rw [hsame] at hdisabled
      exact h.disabled m n' hdisabled
  fail := by
    intro s n now _ h
    unfold ProviderSelector.recordFailure ProviderHealthTracker.recordFailure
    dsimp only
    split
    · refine ⟨fun m n' => ?_, fun m n' hdisabled => ?_⟩
      · dsimp only
        rw [if_pos rfl, tail_disableProvider_any, h.rest]
      · dsimp only at hdisabled ⊢
        rw [if_pos rfl]
        rcases assign_cases s.healthTracker.disabledUntil modelId n (some (now + s.healthTracker.timeoutSeconds)) m n' with
          ⟨rfl, rfl, -⟩ | hsame
        · exact firstDisabled_disableProvider s.registry m n'
        · rw [hsame] at hdisabled
          exact (h.disabled m n' hdisabled).disableProvider
    · exact ⟨h.rest, h.disabled⟩

theorem worn_of_reach (hfresh : ∀ m n, start.healthTracker.disabledUntil m n = none)
    (h : (failoverMachine R start).Reach (fun _ _ => True) s) : Worn start s := by
  have hinit : Worn start start := ⟨fun _ _ => rfl, fun m n hdisabled => absurd (hfresh m n) hdisabled⟩
  refine Machine.reach_invariant hinit (fun s call s' result hs _ hstep => ?_) h
  cases hstep
  exact (worn_kept start call.modelId).execute hs fun _ _ _ => trivial

def NoFailure (R : Type) (modelId name : String) (s : ProviderSelector) (call : FailoverCall R) : Prop :=
  call.modelId = modelId → ∀ a ∈ (s.executeWithFailover call).1.attempts, a.provider = name → a.success = true

/-- Afterwards: the registry keeps the flag, the tracker its term. -/
structure Afterwards (start : ProviderSelector) (modelId name : String) (u : ℚ) (s : ProviderSelector) : Prop where
  rest : (entries s.registry modelId name).tail = (entries start.registry modelId name).tail
  first : FirstDisabled s.registry modelId name
  term : ∀ v ∈ s.healthTracker.disabledUntil modelId name, v = u

theorem afterwards_kept (start : ProviderSelector) (modelId name : String) (u : ℚ) (m : String) :
    Kept (Afterwards start modelId name u) (fun n => ¬ (m = modelId ∧ n = name)) m where
  clear := by
    intro s n h
    refine ⟨h.rest, h.first, fun v hv => ?_⟩
    change assign s.healthTracker.disabledUntil m n none modelId name = some v at hv
    rcases assign_cases s.healthTracker.disabledUntil m n none modelId name with ⟨-, -, hnone⟩ | hsame
    · rw [hnone] at hv
      cases hv
    · rw [hsame] at hv
      exact h.term v hv
  fail := by
    intro s n now hother h
    unfold ProviderSelector.recordFailure ProviderHealthTracker.recordFailure
    dsimp only
    split
    · refine ⟨?_, ?_, fun v hv => ?_⟩
      · dsimp only
        rw [if_pos rfl, tail_disableProvider_any, h.rest]
      · dsimp only
        rw [if_pos rfl]
        exact h.first.disableProvider
      · dsimp only at hv
        rw [assign_of_ne fun heq => hother ⟨heq.1.symm, heq.2.symm⟩] at hv
        exact h.term v hv
    · exact ⟨h.rest, h.first, h.term⟩

theorem afterwards_of_reach (hs : Afterwards start modelId name u s)
    (h : (failoverMachine R s).Reach (NoFailure R modelId name) s') : Afterwards start modelId name u s' := by
  refine Machine.reach_invariant hs (fun s call s' result hs hnone hstep => ?_) h
  cases hstep
  refine (afterwards_kept start modelId name u call.modelId).execute hs fun a ha hfailed heq => ?_
  rw [hnone heq.1 a ha heq.2] at hfailed
  cases hfailed

theorem Afterwards.enabled_iff (h : Afterwards start modelId name u s) :
    (∃ p ∈ enabledProviders ((s.registry modelId).getD []), p.name = name) ↔
      ∃ p ∈ (entries start.registry modelId name).tail, p.enabled = true := by
  have hentries : (∃ p ∈ enabledProviders ((s.registry modelId).getD []), p.name = name) ↔
      ∃ p ∈ entries s.registry modelId name, p.enabled = true := by
    unfold enabledProviders entries
    simp only [List.mem_filter, decide_eq_true_eq]
    constructor
    · rintro ⟨p, ⟨hmem, henabled⟩, hname⟩
      exact ⟨p, ⟨hmem, hname⟩, henabled⟩
    · rintro ⟨p, ⟨hmem, hname⟩, henabled⟩
      exact ⟨p, ⟨hmem, henabled⟩, hname⟩
  rw [hentries, ← h.rest]
  have hfirst := h.first
  unfold FirstDisabled at hfirst
  cases hall : entries s.registry modelId name with
  | nil => exact Iff.rfl
  | cons p ps =>
    rw [hall] at hfirst
    have hoff : p.enabled = false := hfirst p rfl
    constructor
    · rintro ⟨q, hq, henabled⟩
      rcases List.mem_cons.mp hq with rfl | hrest
      · rw [hoff] at henabled
        cases henabled
      · exact ⟨q, hrest, henabled⟩
    · rintro ⟨q, hq, henabled⟩
      exact ⟨q, List.mem_cons_of_mem _ hq, henabled⟩

/-- **Who is disabled comes back only if it is listed twice**: after its timeout a provider that had reached the threshold is a
    candidate just where its model has another enabled entry of its name behind the first. Where there is none, no call tries it. -/
theorem disabled_returns_iff (hfresh : ∀ m n, start.healthTracker.disabledUntil m n = none)
    (hs : (failoverMachine R start).Reach (fun _ _ => True) s) (hdisabled : s.healthTracker.disabledUntil modelId name = some u)
    (hs' : (failoverMachine R s).Reach (NoFailure R modelId name) s') :
    (∀ now, u ≤ now → (Candidate s' modelId name now ↔ ∃ p ∈ (entries start.registry modelId name).tail, p.enabled = true)) ∧
      ((¬ ∃ p ∈ (entries start.registry modelId name).tail, p.enabled = true) →
        ∀ call : FailoverCall R, call.modelId = modelId → ∀ a ∈ (s'.executeWithFailover call).1.attempts, a.provider ≠ name) := by
  have hworn := worn_of_reach hfresh hs
  have hbefore : Afterwards start modelId name u s := by
    refine ⟨hworn.rest modelId name, hworn.disabled modelId name (by rw [hdisabled]; nofun), fun v hv => ?_⟩
    rw [hdisabled] at hv
    exact (Option.some.inj hv).symm
  have hafter := afterwards_of_reach hbefore hs'
  constructor
  · intro now hover
    have havailable : (s'.healthTracker.isAvailable modelId name now).1 = true := by
      unfold ProviderHealthTracker.isAvailable
      cases hterm : s'.healthTracker.disabledUntil modelId name with
      | none => rfl
      | some v =>
        dsimp only
        rw [if_pos (by rw [hafter.term v hterm]; exact hover)]
    unfold Candidate
    rw [havailable, hafter.enabled_iff]
    exact and_iff_left rfl
  · rintro hnone call rfl a ha rfl
    exact hnone (hafter.enabled_iff.mp (candidate_of_attempt ha).1)

end Runs

def oneProvider : ProviderSelector where
  registry := fun m => if m = "m" then some [{ name := "p", modelId := "m" }] else none

def failingCall (now : ℚ) : FailoverCall ℕ where
  modelId := "m"
  start := now
  executeFn := fun _ _ _ => .error "down"
  finished := fun _ => now

def afterFive : ProviderSelector :=
  ([0, 1, 2, 3, 4] : List ℚ).foldl (fun s now => (s.executeWithFailover (failingCall now)).2) oneProvider

theorem afterFive_reached : (failoverMachine ℕ oneProvider).Reach (fun _ _ => True) afterFive := by
  have hstep : ∀ {s : ProviderSelector} (now : ℚ), (failoverMachine ℕ oneProvider).Reach (fun _ _ => True) s →
      (failoverMachine ℕ oneProvider).Reach (fun _ _ => True) (s.executeWithFailover (failingCall now)).2 :=
    fun now hs => .next hs trivial rfl
  exact hstep 4 (hstep 3 (hstep 2 (hstep 1 (hstep 0 .init))))

theorem disabled_returns_iff_five :
    afterFive.healthTracker.disabledUntil "m" "p" = some 304 ∧ ¬ Candidate afterFive "m" "p" 1000 := by
  have hdisabled : afterFive.healthTracker.disabledUntil "m" "p" = some 304 := by decide +kernel
  have hreturns := disabled_returns_iff (fun _ _ => rfl) afterFive_reached hdisabled (.init (M := failoverMachine ℕ afterFive))
  refine ⟨hdisabled, fun hcandidate => ?_⟩
  obtain ⟨p, hp, -⟩ := (hreturns.1 1000 (by norm_num)).mp hcandidate
  cases hp

/-- **Five failures leave the model without providers**: long after the timeout there is none. -/
theorem five_failures_for_good :
    afterFive.healthTracker.disabledUntil "m" "p" = some 304 ∧ ¬ Candidate afterFive "m" "p" 1000 ∧
      ((afterFive.executeWithFailover (failingCall 1000)).1.error = some "No suitable provider found for m") := by
  refine ⟨by decide +kernel, ?_, by decide +kernel⟩
  rintro ⟨⟨p, hp, -⟩, -⟩
  have hnone : enabledProviders ((afterFive.registry "m").getD []) = [] := by decide +kernel
  rw [hnone] at hp
  cases hp

end Gatewayz.Selector
