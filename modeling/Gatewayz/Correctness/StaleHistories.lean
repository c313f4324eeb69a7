import Gatewayz.Correctness.StalePass

/-!
# `Correctness.StaleHistories` — what a missing count and a stamp say of the past

A history is a list of syncs of one provider, with the time between them. An observer keeps a record of each: what the
provider listed, what of it the sync took for seen, and whether its stale pass completed.

The count of a row stays below the misses of its model as long as every sighting resets it, and its stamp above the times
of its listings as long as every listing moves it. Neither is a matter of course: a pass looks at active rows only, and not
after every sync.
-/

namespace Gatewayz.Catalog

open Exec Prices

/-! ## Records -/

structure SyncRecord where
  time : Time
  listed : List String
  /-- Those of them that the sync took for seen. -/
  seen : List String
  completed : Bool

abbrev History := List SyncRecord

def misses (pmid : String) : History → Nat
  | [] => 0
  | x :: earlier => if pmid ∈ x.seen then 0 else if x.completed then misses pmid earlier + 1 else misses pmid earlier

variable {pmid : String} {x : SyncRecord}

theorem misses_seen (h : pmid ∈ x.seen) (earlier : History) : misses pmid (x :: earlier) = 0 := if_pos h

theorem misses_completed (h : pmid ∉ x.seen) (hc : x.completed = true) (earlier : History) :
    misses pmid (x :: earlier) = misses pmid earlier + 1 := by
  rw [misses, if_neg h, if_pos hc]

theorem misses_not_completed (h : pmid ∉ x.seen) (hc : x.completed = false) (earlier : History) :
    misses pmid (x :: earlier) = misses pmid earlier := by
  rw [misses, if_neg h, hc]
  rfl

/-! ## Syncs -/

/-- A sync: the time since the one before it, the call, and what the link does with its statements. -/
structure SyncRun where
  elapsed : Nat
  call : SyncCall
  os : List (Outcome DbError)

section Syncs

variable (facts : ProviderFacts) (order : Nat → List ModelRow → List ModelRow)

namespace SyncCall

def offered (call : SyncCall) : List FetchedModel :=
  match call.provider, call.fetched with
  | some providerActive, .ok fetched => if !providerActive && !facts.isPriceReference then [] else fetched
  | _, _ => []

def listed (call : SyncCall) : List String := (call.offered facts).filterMap FetchedModel.pmid

def seen (call : SyncCall) : List String :=
  match call.provider with
  | none => []
  | some providerActive => seenIds (transformed facts providerActive (call.offered facts))

end SyncCall

namespace SyncRun

variable (run : SyncRun) (w : World)

def start : World := { w with now := w.now + run.elapsed }

/-- The sync up to its stale processing: what it came to, the outcomes that are left, and the world. -/
def untilStale : Except DbError (Except SyncResult Upserted) × List (Outcome DbError) × World :=
  (syncUntilStale facts run.call).run (World.exec order) run.os (run.start w)

def before : World := (run.untilStale facts order w).2.2

def fuel : Nat := (run.before facts order w).db.models.length + 1

def outcome : Except DbError SyncResult × List (Outcome DbError) × World :=
  (syncProviderModels facts (run.fuel facts order w) (w.now + run.elapsed) run.call).run (World.exec order) run.os
    (run.start w)

def after : World := (run.outcome facts order w).2.2

def completed : Bool :=
  match (run.outcome facts order w).1 with
  | .ok result => result.staleTracking.isSome
  | .error _ => false

def record : SyncRecord where
  time := w.now + run.elapsed
  listed := run.call.listed facts
  seen := run.call.seen facts
  completed := run.completed facts order w

def passRuns : Bool :=
  match (run.untilStale facts order w).1 with
  | .ok (.ok u) => u.passesGuard
  | _ => false

/-! ### What is claimed of a sync -/

/-- Deactivations are deserved: a row that the stale pass deactivates was missed by three completed passes in a row,
this one included, without a sighting in between. -/
def DeactivatesSoundly (earlier : History) : Prop :=
  ∀ r ∈ (run.before facts order w).db.models, r.key.providerId = facts.providerId → r.data.isActive = true →
    (∀ r' ∈ (run.after facts order w).db.models, r'.id = r.id → r'.data.isActive = false) →
    deactivationThreshold ≤ misses r.key.providerModelId (run.record facts order w :: earlier)

/-- Purges are deserved: the model of a row that the pass deletes was listed by no sync since the cutoff. -/
def PurgesSoundly (earlier : History) : Prop :=
  ∀ r ∈ (run.before facts order w).db.models, (∀ r' ∈ (run.after facts order w).db.models, r'.id ≠ r.id) →
    r.key.providerId = facts.providerId ∧ ∃ days, run.call.purgeAfterDays = some days ∧
      ∀ x ∈ run.record facts order w :: earlier, r.key.providerModelId ∈ x.listed →
        x.time < w.now + run.elapsed - days.toNat * day

/-! ### When it is so -/

/-- The pass reads all active rows, and none of its statements fails. -/
structure PassComplete : Prop where
  served : AllServed (run.untilStale facts order w).2.1
  reads : OneRead order ((run.before facts order w).db.select facts.providerId ModelData.isActive)

/-- A sync after which no count is too high: its pass, if it runs, completes, and it runs, over an active row, wherever
a model with a count is seen again. -/
structure CountSound : Prop where
  complete : run.passRuns facts order w = true → run.PassComplete facts order w
  resets : ∀ r ∈ (run.before facts order w).db.models, r.key.providerId = facts.providerId →
    r.key.providerModelId ∈ run.call.seen facts → 0 < r.data.consecutiveMissingCount →
    run.passRuns facts order w = true ∧ r.data.isActive = true

/-- A sync after which no stamp is too old: its pass, if it runs, completes, and it runs, over an active row that it
takes for seen, wherever a model is listed whose row has an older stamp. -/
structure StampSound : Prop where
  complete : run.passRuns facts order w = true → run.PassComplete facts order w
  stamps : ∀ r ∈ (run.before facts order w).db.models, r.key.providerId = facts.providerId →
    r.key.providerModelId ∈ run.call.listed facts → ∀ seen, r.data.lastSeenInProviderAt = some seen →
    seen < w.now + run.elapsed →
    run.passRuns facts order w = true ∧ r.data.isActive = true ∧ r.key.providerModelId ∈ run.call.seen facts

end SyncRun

end Syncs

/-! ## Up to the stale processing -/

/-- The statements before the stale processing. -/
def BeforeStale : Stmt → Prop
  | .upsertModels _ => True
  | .upsertPricing _ => True
  | .selectRows _ => True
  | .countActive _ => True
  | .deactivateProvider _ => True
  | _ => False

def Untouched (w : World) (r : ModelRow) : Prop :=
  (∃ r₀ ∈ w.db.models, r₀.key = r.key ∧ r₀.data.consecutiveMissingCount = r.data.consecutiveMissingCount ∧
      r₀.data.lastSeenInProviderAt = r.data.lastSeenInProviderAt) ∨
    r.data.consecutiveMissingCount = 0 ∧ r.data.lastSeenInProviderAt = some w.now

def AllUntouched (w w' : World) : Prop := w'.now = w.now ∧ ∀ r ∈ w'.db.models, Untouched w r

variable {s : Stmt}

section Before

variable {w : World}

theorem untouched_modify {db : CatalogDb} {f : ModelRow → ModelData} (h : ∀ r ∈ db.models, Untouched w r)
    (hf : ∀ r, (f r).consecutiveMissingCount = r.data.consecutiveMissingCount ∧
      (f r).lastSeenInProviderAt = r.data.lastSeenInProviderAt) : ∀ r ∈ (db.modify f).models, Untouched w r := by
  intro r hr
  obtain ⟨r', hr', rfl⟩ := db.mem_modify.mp hr
  obtain ⟨hcount, hseen⟩ := hf r'
  rcases h r' hr' with ⟨r₀, hr₀, hkey, hcount₀, hseen₀⟩ | ⟨hcount₀, hseen₀⟩
  · exact .inl ⟨r₀, hr₀, hkey, hcount₀.trans hcount.symm, hseen₀.trans hseen.symm⟩
  · exact .inr ⟨hcount.trans hcount₀, hseen.trans hseen₀⟩

theorem untouched_upsertOne {db : CatalogDb} (h : ∀ r ∈ db.models, Untouched w r) (m : UpsertRow) :
    ∀ r ∈ (db.upsertOne w.now m).models, Untouched w r := by
  unfold CatalogDb.upsertOne
  split
  · refine untouched_modify h fun r => ?_
    split
    · exact ⟨rfl, rfl⟩
    · exact ⟨rfl, rfl⟩
  · next hnone =>
    intro r hr
    rcases (db.mem_insert hnone).mp hr with hr | rfl
    · exact h r hr
    · exact .inr ⟨rfl, rfl⟩

theorem untouched_exec (order : Nat → List ModelRow → List ModelRow) (hs : BeforeStale s)
    {w' : World} (h : AllUntouched w w') : AllUntouched w (World.exec order s w').2 := by
  obtain ⟨hnow, hrows⟩ := h
  cases s with
  | upsertModels batch =>
    refine ⟨hnow, ?_⟩
    change ∀ r ∈ (batch.foldl (fun db m => db.upsertOne w'.now m) w'.db).models, Untouched w r
    rw [hnow]
    have hfold : ∀ (ms : List UpsertRow) (db : CatalogDb), (∀ r ∈ db.models, Untouched w r) →
        ∀ r ∈ (ms.foldl (fun db m => db.upsertOne w.now m) db).models, Untouched w r := by
      intro ms
      induction ms with
      | nil => exact fun db h => h
      | cons m ms ih => exact fun db h => ih _ (untouched_upsertOne h m)
    exact hfold batch w'.db hrows
  | upsertPricing rows =>
    rw [World.exec]
    split
    · refine ⟨hnow, ?_⟩
      have hfold : ∀ (ps : List PricingRow) (db : CatalogDb),
          (ps.foldl (fun db row => db.putPricing row.rounded) db).models = db.models := by
        intro ps
        induction ps with
        | nil => exact fun db => rfl
        | cons p ps ih => exact fun db => (ih _).trans (db.models_putPricing _)
      rw [World.write_db, hfold]
      exact hrows
    · exact ⟨hnow, hrows⟩
  | selectRows providerId => exact ⟨hnow, hrows⟩
  | countActive providerId => exact ⟨hnow, hrows⟩
  | deactivateProvider providerId =>
    refine ⟨hnow, untouched_modify hrows fun r => ?_⟩
    split
    · exact ⟨rfl, rfl⟩
    · exact ⟨rfl, rfl⟩
  | updateMetadata _ _ => exact hs.elim
  | selectActive _ _ => exact hs.elim
  | resetSeen _ _ => exact hs.elim
  | setMissingCount _ _ => exact hs.elim
  | deactivateStale _ _ => exact hs.elim
  | selectStale _ _ _ => exact hs.elim
  | deleteModels _ => exact hs.elim
  | markUnservable _ => exact hs.elim
  | clearMark _ => exact hs.elim
  | wait _ => exact hs.elim

theorem only_bulkUpsert (models : List ModelInput) : (bulkUpsertModels models).Only BeforeStale := by
  refine only_tryCatch ?_ fun e => trivial
  split
  · trivial
  · refine only_bind (only_forEach_of_mem fun _ _ => trivial) fun batches => ?_
    dsimp only
    split
    · trivial
    · refine only_bind (only_tryCatch ?_ fun e => trivial) fun _ => trivial
      exact only_bind (only_forEach_of_mem fun _ _ => trivial) fun _ => trivial

end Before

/-! ## The run of a sync -/

section Cases

variable (facts : ProviderFacts) (order : Nat → List ModelRow → List ModelRow) (run : SyncRun) (w : World)

theorem along_syncUntilStale (call : SyncCall) :
    (syncUntilStale facts call).Along (fun _ _ => True) BeforeStale fun a =>
      (∀ u, a = .ok u → u.seenIds = call.seen facts) ∧ ∀ result, a = .error result → result.staleTracking = none := by
  have hended : ∀ result : SyncResult, result.staleTracking = none →
      (∀ u, (.error result : Except SyncResult Upserted) = .ok u → u.seenIds = call.seen facts) ∧
        ∀ result', (.error result : Except SyncResult Upserted) = .error result' → result'.staleTracking = none := by
    intro result hnone
    refine ⟨fun u h => ?_, fun result' h => ?_⟩
    · cases h
    · cases h
      exact hnone
  unfold syncUntilStale
  cases hprovider : call.provider with
  | none => exact hended _ rfl
  | some providerActive =>
    dsimp only
    by_cases hinactive : (!providerActive && !facts.isPriceReference) = true
    · rw [if_pos hinactive]
      split
      · exact hended _ rfl
      · refine along_bind (along_any ?_ fun delisted => hended _ rfl)
        refine only_bind (only_attempt ((only_stmt _).mpr trivial)) fun r => ?_
        cases r <;> trivial
    · rw [if_neg hinactive]
      cases hfetched : call.fetched with
      | error e => trivial
      | ok fetched =>
        dsimp only
        by_cases hnone : fetched = []
        · rw [if_pos hnone]
          exact hended _ rfl
        rw [if_neg hnone]
        have hload : (loadUnservableModelIds facts.providerId).Only BeforeStale := by
          refine only_bind (only_attempt ((only_stmt _).mpr trivial)) fun r => ?_
          cases r <;> trivial
        refine along_bind (along_any hload fun unservable => ?_)
        split
        · exact hended _ rfl
        · split
          · exact hended _ rfl
          · refine along_bind (along_any (only_attempt ((only_stmt _).mpr trivial)) fun count => ?_)
            refine along_bind (along_any (only_bulkUpsert _) fun synced => ?_)
            refine ⟨fun u hu => ?_, fun result h => ?_⟩
            case refine_2 => cases h
            obtain rfl := Except.ok.inj hu
            have hoffered : call.offered facts = fetched := by
              rw [SyncCall.offered, hprovider, hfetched]
              exact if_neg hinactive
            rw [SyncCall.seen, hprovider, hoffered]

theorem before_untouched : AllUntouched (run.start w) (run.before facts order w) :=
  run_keeps_of_only (fun _ hs _ hst => untouched_exec order hs hst) (only_of_along (along_syncUntilStale facts run.call))
    run.os ⟨rfl, fun r hr => .inl ⟨r, hr, rfl, rfl, rfl⟩⟩

theorem untilStale_result (a : Except SyncResult Upserted) (h : (run.untilStale facts order w).1 = .ok a) :
    (∀ u, a = .ok u → u.seenIds = run.call.seen facts) ∧ ∀ result, a = .error result → result.staleTracking = none :=
  run_of_along (along_syncUntilStale facts run.call) run.os (run.start w) h

theorem outcome_eq : run.outcome facts order w =
    match run.untilStale facts order w with
    | (.ok (.ok u), os', w') =>
      match (staleTracking facts (run.fuel facts order w) run.call.purgeAfterDays (w.now + run.elapsed) u).run
        (World.exec order) os' w' with
      | (.ok stale, os'', w'') => (.ok { u.result with staleTracking := stale }, os'', w'')
      | (.error _, os'', w'') => (.ok { success := false }, os'', w'')
    | (.ok (.error result), os', w') => (.ok result, os', w')
    | (.error _, os', w') => (.ok { success := false }, os', w') := by
  rw [SyncRun.outcome, syncProviderModels, Prog.run_tryCatch, Prog.run_bind, SyncRun.untilStale]
  rcases (syncUntilStale facts run.call).run (World.exec order) run.os (run.start w) with ⟨r, os', w'⟩
  cases r with
  | error e => rfl
  | ok a =>
    cases a with
    | error result => rfl
    | ok u =>
      dsimp only
      rw [Prog.run_bind]
      rcases (staleTracking facts (run.fuel facts order w) run.call.purgeAfterDays (w.now + run.elapsed) u).run
        (World.exec order) os' w' with ⟨stale, os'', w''⟩
      cases stale <;> rfl

theorem after_of_not_passRuns (h : run.passRuns facts order w = false) :
    (run.after facts order w).db = (run.before facts order w).db ∧ run.completed facts order w = false := by
  have hout := outcome_eq facts order run w
  have hresult := untilStale_result facts order run w
  rw [SyncRun.passRuns] at h
  rw [SyncRun.after, SyncRun.before, SyncRun.completed, hout]
  revert h hresult
  rcases run.untilStale facts order w with ⟨r, os', w'⟩
  intro h hresult
  cases r with
  | error e => exact ⟨rfl, rfl⟩
  | ok a =>
    cases a with
    | error result =>
      refine ⟨rfl, ?_⟩
      dsimp only
      rw [(hresult _ rfl).2 result rfl]
      rfl
    | ok u =>
      have hguard : u.passesGuard = false := h
      dsimp only
      rw [staleTracking, if_neg (by rw [hguard]; exact Bool.false_ne_true)]
      exact ⟨rfl, rfl⟩

variable {order} (horder : ∀ t rows, (order t rows).Perm rows)

include horder in
theorem after_of_passRuns (h : run.passRuns facts order w = true) (hcomplete : run.PassComplete facts order w) :
    run.completed facts order w = true ∧
      (∀ r' ∈ (run.after facts order w).db.models, ∃ r ∈ (run.before facts order w).db.models,
        r' = { r with data := passed facts.providerId (run.call.seen facts) deactivationThreshold (w.now + run.elapsed) r }) ∧
      ∀ r ∈ (run.before facts order w).db.models,
        { r with data := passed facts.providerId (run.call.seen facts) deactivationThreshold (w.now + run.elapsed) r } ∈
            (run.after facts order w).db.models ∨
          Purgeable facts.providerId run.call.purgeAfterDays (w.now + run.elapsed)
            { r with data := passed facts.providerId (run.call.seen facts) deactivationThreshold (w.now + run.elapsed) r } := by
  obtain ⟨hserved, hread⟩ := hcomplete
  have hout := outcome_eq facts order run w
  have hresult := untilStale_result facts order run w
  have hpass := pass_rows horder facts.providerId (run.call.seen facts) deactivationThreshold run.call.purgeAfterDays
    (w.now + run.elapsed) (run.before facts order w) (Nat.lt_succ_self _) hread
  rw [SyncRun.passRuns] at h
  rw [SyncRun.after, SyncRun.completed, hout]
  have hfuel : run.fuel facts order w = (run.before facts order w).db.models.length + 1 := rfl
  rw [hfuel]
  revert h hserved hresult hpass
  rw [SyncRun.before]
  rcases run.untilStale facts order w with ⟨r, os', w'⟩
  intro h hserved hresult hpass
  cases r with
  | error e => cases h
  | ok a =>
    cases a with
    | error result => cases h
    | ok u =>
      have hguard : u.passesGuard = true := h
      have hseen := (hresult _ rfl).1 u rfl
      dsimp only at hpass hserved ⊢
      rw [staleTracking, if_pos hguard, hseen]
      obtain ⟨result, w'', hrun, hleft, hgone⟩ := hpass
      obtain ⟨hok, hstore⟩ := run_allServed (World.exec order) hserved
        (processStaleModels (w'.db.models.length + 1) facts.providerId (run.call.seen facts) deactivationThreshold
          run.call.purgeAfterDays (w.now + run.elapsed)) w'
      rw [hrun] at hok hstore
      rw [Prog.run_bind, run_attempt]
      revert hok hstore
      rcases (processStaleModels (w'.db.models.length + 1) facts.providerId (run.call.seen facts) deactivationThreshold
        run.call.purgeAfterDays (w.now + run.elapsed)).run (World.exec order) os' w' with ⟨r, os'', w₂⟩
      intro hok hstore
      obtain rfl : r = .ok result := hok
      obtain rfl : w₂ = w'' := hstore
      exact ⟨rfl, hleft, hgone⟩

/-! ### Counts -/

def CountsBelow (earlier : History) : Prop :=
  ∀ r ∈ w.db.models, r.key.providerId = facts.providerId →
    r.data.consecutiveMissingCount ≤ misses r.key.providerModelId earlier

variable (order) in
theorem countsBelow_before {earlier : History} (h : CountsBelow facts w earlier) :
    CountsBelow facts (run.before facts order w) earlier := by
  intro r hr hprovider
  rcases (before_untouched facts order run w).2 r hr with ⟨r₀, hr₀, hkey, hcount, -⟩ | ⟨hcount, -⟩
  · rw [← hcount, ← hkey]
    exact h r₀ hr₀ (by rw [hkey]; exact hprovider)
  · rw [hcount]
    exact Nat.zero_le _

theorem passed_count (providerId : Nat) (seen : List String) (now : Time) (r : ModelRow) :
    (passed providerId seen deactivationThreshold now r).consecutiveMissingCount ≤ r.data.consecutiveMissingCount + 1 ∧
      (r.key.providerModelId ∈ seen →
        (passed providerId seen deactivationThreshold now r).consecutiveMissingCount ≤ r.data.consecutiveMissingCount) ∧
      (r.key.providerModelId ∈ seen → r.key.providerId = providerId → r.data.isActive = true →
        (passed providerId seen deactivationThreshold now r).consecutiveMissingCount = 0) := by
  rw [passed]
  by_cases hactive : r.key.providerId = providerId ∧ r.data.isActive = true
  · rw [if_pos hactive, reclassify]
    by_cases hseen : r.key.providerModelId ∈ seen
    · rw [if_pos hseen]
      exact ⟨Nat.zero_le _, fun _ => Nat.zero_le _, fun _ _ _ => rfl⟩
    · rw [if_neg hseen]
      refine ⟨?_, fun h => absurd h hseen, fun h => absurd h hseen⟩
      split
      · exact le_refl _
      · next hlimit => exact not_lt.mp hlimit
  · rw [if_neg hactive]
    exact ⟨Nat.le_succ _, fun _ => le_refl _, fun _ hprovider hr => absurd ⟨hprovider, hr⟩ hactive⟩

theorem passed_inactive {providerId : Nat} {seen : List String} {now : Time} {r : ModelRow}
    (hprovider : r.key.providerId = providerId) (hactive : r.data.isActive = true)
    (h : (passed providerId seen deactivationThreshold now r).isActive = false) :
    r.key.providerModelId ∉ seen ∧ deactivationThreshold ≤ r.data.consecutiveMissingCount + 1 := by
  rw [passed, if_pos ⟨hprovider, hactive⟩, reclassify] at h
  split at h
  · rw [hactive] at h
    cases h
  · next hunseen =>
    split at h
    · rw [hactive] at h
      cases h
    · next hlimit => exact ⟨hunseen, not_lt.mp hlimit⟩

include horder in
/-- One sync keeps the counts below, and deactivates what deserves it. -/
theorem countsBelow_after {earlier : History} (h : CountsBelow facts w earlier) (hsound : run.CountSound facts order w) :
    CountsBelow facts (run.after facts order w) (run.record facts order w :: earlier) ∧
      run.DeactivatesSoundly facts order w earlier := by
  have hbefore := countsBelow_before facts order run w h
  cases hpass : run.passRuns facts order w with
  | false =>
    obtain ⟨hdb, hcompleted⟩ := after_of_not_passRuns facts order run w hpass
    refine ⟨fun r hr hprovider => ?_, fun r hr _ hactive hgone => ?_⟩
    · rw [hdb] at hr
      by_cases hseen : r.key.providerModelId ∈ run.call.seen facts
      · -- a model that is seen without a pass had no count
        rw [misses_seen hseen]
        by_contra hpos
        have hreset := hsound.resets r hr hprovider hseen (Nat.pos_of_ne_zero fun hzero => hpos (le_of_eq hzero))
        rw [hpass] at hreset
        exact absurd hreset.1 Bool.false_ne_true
      · rw [misses_not_completed hseen hcompleted]
        exact hbefore r hr hprovider
    · have hinactive := hgone r (by rw [hdb]; exact hr) rfl
      rw [hactive] at hinactive
      cases hinactive
  | true =>
    obtain ⟨hcompleted, hleft, hfound⟩ := after_of_passRuns facts run w horder hpass (hsound.complete hpass)
    refine ⟨fun r' hr' hprovider => ?_, fun r hr hprovider hactive hgone => ?_⟩
    · obtain ⟨r, hr, rfl⟩ := hleft r' hr'
      obtain ⟨hmore, hsame, hzero⟩ := passed_count facts.providerId (run.call.seen facts) (w.now + run.elapsed) r
      by_cases hseen : r.key.providerModelId ∈ run.call.seen facts
      · rw [misses_seen hseen]
        by_cases hcount : 0 < r.data.consecutiveMissingCount
        · exact le_of_eq (hzero hseen hprovider (hsound.resets r hr hprovider hseen hcount).2)
        · exact (hsame hseen).trans (not_lt.mp hcount)
      · rw [misses_completed hseen hcompleted]
        exact hmore.trans (Nat.succ_le_succ (hbefore r hr hprovider))
    · have hinactive : (passed facts.providerId (run.call.seen facts) deactivationThreshold (w.now + run.elapsed) r).isActive =
          false := by
        rcases hfound r hr with hstays | ⟨days, -, -, -, hstale⟩
        · exact hgone _ hstays rfl
        · rw [ModelData.staleBefore, Bool.and_eq_true, Bool.not_eq_true'] at hstale
          exact hstale.1
      obtain ⟨hunseen, henough⟩ := passed_inactive hprovider hactive hinactive
      rw [misses_completed hunseen hcompleted]
      exact henough.trans (Nat.succ_le_succ (hbefore r hr hprovider))

/-! ### Stamps -/

/-- Records are of the past, and no stamp is older than a listing of its model. -/
structure StampsAbove (earlier : History) : Prop where
  past : ∀ x ∈ earlier, x.time ≤ w.now
  above : ∀ r ∈ w.db.models, r.key.providerId = facts.providerId → ∀ seen, r.data.lastSeenInProviderAt = some seen →
    ∀ x ∈ earlier, r.key.providerModelId ∈ x.listed → x.time ≤ seen

theorem stampsAbove_before {earlier : History} (h : StampsAbove facts w earlier) {r : ModelRow}
    (hr : r ∈ (run.before facts order w).db.models) (hprovider : r.key.providerId = facts.providerId) {seen : Time}
    (hseen : r.data.lastSeenInProviderAt = some seen) (hx : x ∈ earlier)
    (hlisted : r.key.providerModelId ∈ x.listed) : x.time ≤ seen := by
  rcases (before_untouched facts order run w).2 r hr with ⟨r₀, hr₀, hkey, -, hstamp⟩ | ⟨-, hstamp⟩
  · rw [← hkey] at hprovider hlisted
    exact h.above r₀ hr₀ hprovider seen (hstamp.trans hseen) x hx hlisted
  · rw [hseen] at hstamp
    obtain rfl := Option.some.inj hstamp
    exact (h.past x hx).trans (Nat.le_add_right _ _)

theorem passed_stamp (providerId : Nat) (seen : List String) (now : Time) (r : ModelRow) :
    (passed providerId seen deactivationThreshold now r).lastSeenInProviderAt =
      if (r.key.providerId = providerId ∧ r.data.isActive = true) ∧ r.key.providerModelId ∈ seen then some now
      else r.data.lastSeenInProviderAt := by
  rw [passed]
  by_cases hactive : r.key.providerId = providerId ∧ r.data.isActive = true
  · rw [if_pos hactive, reclassify]
    by_cases hseen : r.key.providerModelId ∈ seen
    · rw [if_pos hseen, if_pos ⟨hactive, hseen⟩]
    · have hnot : ¬((r.key.providerId = providerId ∧ r.data.isActive = true) ∧ r.key.providerModelId ∈ seen) :=
        fun h => hseen h.2
      rw [if_neg hseen, if_neg hnot]
      split <;> rfl
  · have hnot : ¬((r.key.providerId = providerId ∧ r.data.isActive = true) ∧ r.key.providerModelId ∈ seen) :=
      fun h => hactive h.1
    rw [if_neg hactive, if_neg hnot]

/-! No statement of a sync lets time pass. -/

def Timeless (s : Stmt) : Prop := ∀ duration, s ≠ .wait duration

theorem timeless_exec (order : Nat → List ModelRow → List ModelRow) (hs : Timeless s) (w : World) :
    (World.exec order s w).2.now = w.now := by
  cases s with
  | upsertPricing rows =>
    rw [World.exec]
    split <;> rfl
  | wait duration => exact absurd rfl (hs duration)
  | _ => rfl

theorem timeless_of_beforeStale (h : BeforeStale s) : Timeless s := by
  rintro duration rfl
  exact h

/-- The statements of the stale processing. -/
def OfStalePass : Stmt → Prop
  | .selectActive _ _ => True
  | .resetSeen _ _ => True
  | .setMissingCount _ _ => True
  | .deactivateStale _ _ => True
  | .selectStale _ _ _ => True
  | .deleteModels _ => True
  | _ => False

theorem timeless_of_stalePass (h : OfStalePass s) : Timeless s := by
  rintro duration rfl
  exact h

theorem only_purge (fuel providerId : Nat) (purgeAfterDays : Option Int) (now : Time) :
    (purgeStaleDeactivated fuel providerId purgeAfterDays now).Only OfStalePass := by
  unfold purgeStaleDeactivated
  split
  · trivial
  · split
    · trivial
    · refine only_bind (only_readPages (fun offset => (only_stmt _).mpr trivial) _ _) fun stale => ?_
      split
      · trivial
      · exact only_bind (only_forEach_of_mem fun _ _ => trivial) fun _ => trivial

theorem only_processStaleModels (fuel providerId : Nat) (seen : List String) (threshold : Nat) (purgeAfterDays : Option Int)
    (now : Time) : (processStaleModels fuel providerId seen threshold purgeAfterDays now).Only OfStalePass := by
  refine only_bind (only_readPages (fun offset => (only_stmt _).mpr trivial) _ _) fun rows => ?_
  split
  · exact only_bind (only_purge fuel providerId purgeAfterDays now) fun _ => trivial
  · refine only_bind (only_forEach_of_mem fun _ _ => trivial) fun _ => ?_
    refine only_bind (only_forEach_of_mem fun _ _ => trivial) fun _ => ?_
    refine only_bind (only_forEach_of_mem fun _ _ => trivial) fun _ => ?_
    exact only_bind (only_purge fuel providerId purgeAfterDays now) fun _ => trivial

theorem only_staleTracking (fuel : Nat) (purgeAfterDays : Option Int) (now : Time) (u : Upserted) :
    (staleTracking facts fuel purgeAfterDays now u).Only OfStalePass := by
  unfold staleTracking
  split
  · refine only_bind (only_attempt (only_processStaleModels _ _ _ _ _ _)) fun r => ?_
    cases r <;> trivial
  · trivial

theorem only_syncProviderModels (fuel : Nat) (now : Time) (call : SyncCall) :
    (syncProviderModels facts fuel now call).Only Timeless := by
  refine only_tryCatch ?_ fun e => trivial
  have huntil := only_mono (fun s => timeless_of_beforeStale) (only_of_along (along_syncUntilStale facts call))
  refine only_bind huntil fun a => ?_
  cases a with
  | error result => trivial
  | ok u =>
    have hstale := only_staleTracking facts fuel call.purgeAfterDays now u
    exact only_bind (only_mono (fun s => timeless_of_stalePass) hstale) fun stale => trivial

theorem after_now : (run.after facts order w).now = w.now + run.elapsed := by
  have hstart : (run.start w).now = w.now + run.elapsed := rfl
  exact run_keeps_of_only (I := fun w' : World => w'.now = w.now + run.elapsed)
    (fun _ hs w' hw' => (timeless_exec order hs w').trans hw')
    (only_syncProviderModels facts (run.fuel facts order w) (w.now + run.elapsed) run.call) run.os hstart

include horder in
/-- One sync keeps the stamps above, and purges what deserves it. -/
theorem stampsAbove_after {earlier : History} (h : StampsAbove facts w earlier) (hsound : run.StampSound facts order w) :
    StampsAbove facts (run.after facts order w) (run.record facts order w :: earlier) ∧
      run.PurgesSoundly facts order w earlier := by
  have hpast : ∀ x ∈ run.record facts order w :: earlier, x.time ≤ w.now + run.elapsed := by
    intro x hx
    rcases List.mem_cons.mp hx with rfl | hx
    · exact le_refl _
    · exact (h.past x hx).trans (Nat.le_add_right _ _)
  have hbefore : ∀ r ∈ (run.before facts order w).db.models, r.key.providerId = facts.providerId →
      ∀ seen, r.data.lastSeenInProviderAt = some seen →
      (seen < w.now + run.elapsed → r.key.providerModelId ∉ run.call.listed facts) →
      ∀ x ∈ run.record facts order w :: earlier, r.key.providerModelId ∈ x.listed → x.time ≤ seen := by
    intro r hr hprovider seen hseen hlisted x hx hxlisted
    rcases List.mem_cons.mp hx with rfl | hx
    · by_contra hlate
      exact hlisted (not_le.mp hlate) hxlisted
    · exact stampsAbove_before facts run w h hr hprovider hseen hx hxlisted
  cases hpass : run.passRuns facts order w with
  | false =>
    obtain ⟨hdb, -⟩ := after_of_not_passRuns facts order run w hpass
    refine ⟨⟨fun x hx => ?_, fun r hr hprovider seen hseen => ?_⟩, fun r hr hgone => ?_⟩
    · rw [after_now]
      exact hpast x hx
    · rw [hdb] at hr
      refine hbefore r hr hprovider seen hseen fun hold hlisted => ?_
      have hmoved := (hsound.stamps r hr hprovider hlisted seen hseen hold).1
      rw [hpass] at hmoved
      cases hmoved
    · exact absurd rfl (hgone r (by rw [hdb]; exact hr))
  | true =>
    obtain ⟨-, hleft, hfound⟩ := after_of_passRuns facts run w horder hpass (hsound.complete hpass)
    have hmoves : ∀ r ∈ (run.before facts order w).db.models, r.key.providerId = facts.providerId → ∀ seen,
        (passed facts.providerId (run.call.seen facts) deactivationThreshold (w.now + run.elapsed) r).lastSeenInProviderAt =
          some seen → seen = w.now + run.elapsed ∨ r.data.lastSeenInProviderAt = some seen ∧
            (seen < w.now + run.elapsed → r.key.providerModelId ∉ run.call.listed facts) := by
      intro r hr hprovider seen hseen
      rw [passed_stamp] at hseen
      split at hseen
      · exact .inl (Option.some.inj hseen).symm
      · next hnot =>
        refine .inr ⟨hseen, fun hold hlisted => hnot ?_⟩
        obtain ⟨-, hactive, hmem⟩ := hsound.stamps r hr hprovider hlisted seen hseen hold
        exact ⟨⟨hprovider, hactive⟩, hmem⟩
    refine ⟨⟨fun x hx => ?_, fun r' hr' hprovider seen hseen x hx hlisted => ?_⟩, fun r hr hgone => ?_⟩
    · rw [after_now]
      exact hpast x hx
    · obtain ⟨r, hr, rfl⟩ := hleft r' hr'
      rcases hmoves r hr hprovider seen hseen with rfl | ⟨hsame, hunlisted⟩
      · exact hpast x hx
      · exact hbefore r hr hprovider seen hsame hunlisted x hx hlisted
    · rcases hfound r hr with hstays | ⟨days, hdays, hpos, hprovider, hstale⟩
      · exact (hgone _ hstays rfl).elim
      · refine ⟨hprovider, days, hdays, fun x hx hlisted => ?_⟩
        rw [ModelData.staleBefore, Bool.and_eq_true, Option.any_eq_true] at hstale
        obtain ⟨-, seen, hseen, hcutoff⟩ := hstale
        rw [decide_eq_true_eq] at hcutoff
        rcases hmoves r hr hprovider seen hseen with rfl | ⟨hsame, hunlisted⟩
        · exact absurd hcutoff (not_lt.mpr (Nat.sub_le _ _))
        · exact (hbefore r hr hprovider seen hsame hunlisted x hx hlisted).trans_lt hcutoff

end Cases

/-! ## Histories -/

section Histories

variable (facts : ProviderFacts) (order : Nat → List ModelRow → List ModelRow)

/-- Something holds of every sync of a list, in the world that the earlier ones have left and with their records. -/
def AlongSyncs (P : SyncRun → World → History → Prop) : List SyncRun → World → History → Prop
  | [], _, _ => True
  | run :: rest, w, earlier =>
    P run w earlier ∧ AlongSyncs P rest (run.after facts order w) (run.record facts order w :: earlier)

variable {order} (horder : ∀ t rows, (order t rows).Perm rows)

include horder

theorem deactivations_sound (runs : List SyncRun) (w : World) (earlier : History) (h : CountsBelow facts w earlier)
    (hsound : AlongSyncs facts order (fun run w _ => run.CountSound facts order w) runs w earlier) :
    AlongSyncs facts order (fun run w earlier => run.DeactivatesSoundly facts order w earlier) runs w earlier := by
  induction runs generalizing w earlier with
  | nil => trivial
  | cons run rest ih =>
    obtain ⟨hcounts, hdeactivates⟩ := countsBelow_after facts run w horder h hsound.1
    exact ⟨hdeactivates, ih _ _ hcounts hsound.2⟩

theorem purges_sound (runs : List SyncRun) (w : World) (earlier : History) (h : StampsAbove facts w earlier)
    (hsound : AlongSyncs facts order (fun run w _ => run.StampSound facts order w) runs w earlier) :
    AlongSyncs facts order (fun run w earlier => run.PurgesSoundly facts order w earlier) runs w earlier := by
  induction runs generalizing w earlier with
  | nil => trivial
  | cons run rest ih =>
    obtain ⟨hstamps, hpurges⟩ := stampsAbove_after facts run w horder h hsound.1
    exact ⟨hpurges, ih _ _ hstamps hsound.2⟩

/-- **Stale detection over whole histories**: where every sync resets what it sees, models are deactivated for misses only,
and where every sync stamps what is listed, rows are purged for silence only. -/
theorem stale_detection_sound (runs : List SyncRun) (w : World)
    (hfresh : ∀ r ∈ w.db.models, r.key.providerId = facts.providerId → r.data.consecutiveMissingCount = 0) :
    (AlongSyncs facts order (fun run w _ => run.CountSound facts order w) runs w [] →
        AlongSyncs facts order (fun run w earlier => run.DeactivatesSoundly facts order w earlier) runs w []) ∧
      (AlongSyncs facts order (fun run w _ => run.StampSound facts order w) runs w [] →
        AlongSyncs facts order (fun run w earlier => run.PurgesSoundly facts order w earlier) runs w []) := by
  refine ⟨deactivations_sound facts horder runs w [] fun r hr hprovider => ?_, purges_sound facts horder runs w [] ⟨?_, ?_⟩⟩
  · exact le_of_eq (hfresh r hr hprovider)
  · exact fun x hx => absurd hx List.not_mem_nil
  · exact fun r hr hprovider seen hseen x hx => absurd hx List.not_mem_nil

end Histories

/-! ## A model that is listed and purged -/

def perTokenProvider : ProviderFacts where
  providerId := 1
  providerSlug := "near"
  declared := fun _ => some "per_token"
  isPriceReference := false
  keep := fun _ => true

def pricedListing : FetchedModel := { id := some "a", name := some "A", pricing := { prompt := some (1 / 1000000) } }

def unpricedListing : FetchedModel := { id := some "b", name := some "B", pricing := {} }

def syncOf (elapsed : Nat) (fetched : List FetchedModel) : SyncRun where
  elapsed
  call := { provider := some true, fetched := .ok fetched, purgeAfterDays := some 30 }
  os := []

theorem emptyWorld_fresh (facts : ProviderFacts) :
    ∀ r ∈ emptyWorld.db.models, r.key.providerId = facts.providerId → r.data.consecutiveMissingCount = 0 :=
  fun _ h => absurd h List.not_mem_nil

theorem passComplete_of_fits {run : SyncRun} {w : World} (hos : run.os = [])
    (hfits : ((run.before perTokenProvider asStored w).db.select 1 ModelData.isActive).length < pageSize) :
    run.PassComplete perTokenProvider asStored w := by
  refine ⟨?_, .inl hfits⟩
  rw [SyncRun.untilStale, hos, run_nil]
  exact allServed_nil

/-- A priced model, synced twice. -/
theorem stale_detection_sound_twice :
    AlongSyncs perTokenProvider asStored
        (fun run w earlier => run.DeactivatesSoundly perTokenProvider asStored w earlier)
        [syncOf 0 [pricedListing], syncOf (31 * day) [pricedListing]] emptyWorld [] ∧
      AlongSyncs perTokenProvider asStored
        (fun run w earlier => run.PurgesSoundly perTokenProvider asStored w earlier)
        [syncOf 0 [pricedListing], syncOf (31 * day) [pricedListing]] emptyWorld [] := by
  have hsound := stale_detection_sound perTokenProvider asStored_perm
    [syncOf 0 [pricedListing], syncOf (31 * day) [pricedListing]] emptyWorld (emptyWorld_fresh _)
  refine ⟨hsound.1 ⟨⟨fun _ => passComplete_of_fits rfl (by decide +kernel), by decide +kernel⟩,
      ⟨fun _ => passComplete_of_fits rfl (by decide +kernel), by decide +kernel⟩, trivial⟩,
    hsound.2 ⟨⟨fun _ => passComplete_of_fits rfl (by decide +kernel), ?_⟩,
      ⟨fun _ => passComplete_of_fits rfl (by decide +kernel), fun r hr _ _ _ _ _ => ?_⟩, trivial⟩⟩
  · intro r hr _ _ seen _ hold
    exact absurd hold (Nat.not_lt_zero _)
  · have hall : ∀ r ∈ ((syncOf (31 * day) [pricedListing]).before perTokenProvider asStored
        ((syncOf 0 [pricedListing]).after perTokenProvider asStored emptyWorld)).db.models,
        (syncOf (31 * day) [pricedListing]).passRuns perTokenProvider asStored
            ((syncOf 0 [pricedListing]).after perTokenProvider asStored emptyWorld) = true ∧
          r.data.isActive = true ∧
            r.key.providerModelId ∈ (syncOf (31 * day) [pricedListing]).call.seen perTokenProvider := by
      decide +kernel
    exact hall r hr

/-- **A model is listed and purged.** It has no price, so its row is inactive and its stamp stays where it was inserted: a month
later the pass deletes the row of a model that the same sync has listed. -/
theorem listed_model_purged :
    ¬ AlongSyncs perTokenProvider asStored
      (fun run w earlier => run.PurgesSoundly perTokenProvider asStored w earlier)
      [syncOf 0 [pricedListing, unpricedListing], syncOf (31 * day) [pricedListing, unpricedListing]] emptyWorld [] := by
  rintro ⟨-, hpurges, -⟩
  have hbefore : ∃ r ∈ ((syncOf (31 * day) [pricedListing, unpricedListing]).before perTokenProvider asStored
      ((syncOf 0 [pricedListing, unpricedListing]).after perTokenProvider asStored emptyWorld)).db.models,
      r.key.providerModelId = "b" ∧
        ∀ r' ∈ ((syncOf (31 * day) [pricedListing, unpricedListing]).after perTokenProvider asStored
          ((syncOf 0 [pricedListing, unpricedListing]).after perTokenProvider asStored emptyWorld)).db.models,
          r'.id ≠ r.id := by
    decide +kernel
  obtain ⟨r, hr, hpmid, hgone⟩ := hbefore
  obtain ⟨-, days, -, hsilent⟩ := hpurges r hr hgone
  have hlisted := hsilent _ List.mem_cons_self (by rw [hpmid]; decide +kernel)
  exact absurd hlisted (not_lt.mpr (Nat.sub_le _ _))

end Gatewayz.Catalog
