import Gatewayz.Plans.Enforcement

/-!
# `Correctness.PlanLimitsExact` — when the plan limits are exact

The request counts see `SUPABASE_PAGE_SIZE` rows at most, and the token counts see the tokens of whichever rows the service
picks. The two queries are answered independently, so the four comparisons fail together on some answer unless one of them
fails on every answer of its own query: that is what the lightest page decides, and the heaviest page decides the other way.
-/

namespace Gatewayz.Plans

open Exec

section

variable {a : PlanAnswers} {now : Time} {caches : PlanCaches} {limits : PlanLimits}

/-- What the claim is about: neither admin query finds an admin plan, and the plan found is live, with these limits. -/
structure LivePlan (a : PlanAnswers) (now : Time) (caches : PlanCaches) (limits : PlanLimits) : Prop where
  notAdmin : isAdminTier a.adminTypes = false
  notAdminAgain : isAdminTier a.adminTypesAgain = false
  live : ∃ plan, getUserPlan a now caches.userPlan = some plan ∧ hasEnded now plan.endDate = false ∧
    plan.limits = limits.columns

def PlanAnswers.withUsage (a : PlanAnswers) (daily monthly : List UsageRecord) : PlanAnswers :=
  { a with dailyUsage := .ok daily, monthlyUsage := .ok monthly }

def Within (userId : Int) (now : Time) (records : List UsageRecord) (limits : PlanLimits) (tokensRequested : Int) :
    Prop :=
  ∀ w : Window, limits.Admits tokensRequested w (recorded userId now w records).length
    (tokensOf (recorded userId now w records))

def HeaviestAdmitted (userId : Int) (now : Time) (records : List UsageRecord) (limits : PlanLimits)
    (tokensRequested : Int) : Prop :=
  ∀ w : Window, limits.Admits tokensRequested w (min supabasePageSize (listed userId now w records).length : Nat)
    (tokensOf (heaviest supabasePageSize UsageRecord.tokensUsed (listed userId now w records)))

def LightestAdmitted (userId : Int) (now : Time) (records : List UsageRecord) (limits : PlanLimits)
    (tokensRequested : Int) : Prop :=
  ∀ w : Window, limits.Admits tokensRequested w (min supabasePageSize (listed userId now w records).length : Nat)
    (tokensOf (lightest supabasePageSize UsageRecord.tokensUsed (listed userId now w records)))

/-! ## One check -/

theorem enforce_live (h : LivePlan a now caches limits) (husage : caches.usage = none) (daily monthly : List UsageRecord)
    (tokensRequested : Int) (environmentTag : String) :
    enforcePlanLimits (a.withUsage daily monthly) now caches tokensRequested environmentTag =
      checkLimits environmentTag (effectiveLimits environmentTag limits) (usageOf "" limits daily monthly).usage
        tokensRequested := by
  obtain ⟨plan, hplan, hlive, hlimits⟩ := h.live
  have hentitled : (checkPlanEntitlements (a.withUsage daily monthly) now caches.userPlan none).limits =
      limits.columns := by
    rw [entitlements_live (a := a.withUsage daily monthly) h.notAdminAgain hplan hlive none, hlimits]
  have hfetched : getUserUsage (a.withUsage daily monthly) now caches =
      getUserUsageUncached (a.withUsage daily monthly) now caches := by
    rw [getUserUsage, husage]
    rfl
  have hadmin : isAdminTier (a.withUsage daily monthly).adminTypes = false := h.notAdmin
  rw [enforcePlanLimits, hadmin, hfetched, getUserUsageUncached]
  simp only [PlanAnswers.withUsage, Bool.false_eq_true, if_false] at hentitled ⊢
  rw [hentitled, PlanLimits.numbers_columns]
  rfl

theorem enforce_allowed (h : LivePlan a now caches limits) (husage : caches.usage = none)
    (daily monthly : List UsageRecord) (tokensRequested : Int) (environmentTag : String) :
    (enforcePlanLimits (a.withUsage daily monthly) now caches tokensRequested environmentTag).allowed = true ↔
      (effectiveLimits environmentTag limits).Admits tokensRequested .day daily.length (tokensOf daily) ∧
        (effectiveLimits environmentTag limits).Admits tokensRequested .month monthly.length (tokensOf monthly) := by
  rw [enforce_live h husage, checkLimits_allowed]
  rfl

/-! ## All answers -/

theorem PlanLimits.Admits.mono {l : PlanLimits} {t : Int} {w : Window} {requests tokens tokens' : Int}
    (h : l.Admits t w requests tokens) (hle : tokens' ≤ tokens) : l.Admits t w requests tokens' := by
  refine ⟨h.1, ?_⟩
  have htokens := h.2
  omega

variable {userId : Int} {records : List UsageRecord} {l : PlanLimits} {t : Int}

theorem all_pages_admitted (w : Window) :
    (∀ page, IsPage supabasePageSize (listed userId now w records) page → l.Admits t w page.length (tokensOf page)) ↔
      l.Admits t w (min supabasePageSize (listed userId now w records).length : Nat)
        (tokensOf (heaviest supabasePageSize UsageRecord.tokensUsed (listed userId now w records))) := by
  constructor
  · intro h
    have hheaviest := isPage_heaviest supabasePageSize UsageRecord.tokensUsed (listed userId now w records)
    have hadmits := h _ hheaviest
    rw [hheaviest.length_eq] at hadmits
    exact hadmits
  · intro h page hpage
    rw [hpage.length_eq]
    exact h.mono (total_le_heaviest hpage)

theorem some_page_admitted (w : Window) :
    (∃ page, IsPage supabasePageSize (listed userId now w records) page ∧ l.Admits t w page.length (tokensOf page)) ↔
      l.Admits t w (min supabasePageSize (listed userId now w records).length : Nat)
        (tokensOf (lightest supabasePageSize UsageRecord.tokensUsed (listed userId now w records))) := by
  constructor
  · rintro ⟨page, hpage, hadmits⟩
    rw [hpage.length_eq] at hadmits
    exact hadmits.mono (total_lightest_le hpage)
  · intro h
    have hlightest := isPage_lightest supabasePageSize UsageRecord.tokensUsed (listed userId now w records)
    refine ⟨_, hlightest, ?_⟩
    rw [hlightest.length_eq]
    exact h

/-- The limits are exact on every answer of the service exactly when the truncated counts decide as the full ones do:
where the windows have room, the heaviest pages have it too, and where one has not, the lightest pages have none either. -/
theorem plan_limits_exact_iff (h : LivePlan a now caches limits) (husage : caches.usage = none) (userId : Int)
    (records : List UsageRecord) (tokensRequested : Int) (environmentTag : String) :
    (∀ daily monthly, IsPage supabasePageSize (listed userId now .day records) daily →
      IsPage supabasePageSize (listed userId now .month records) monthly →
      ((enforcePlanLimits (a.withUsage daily monthly) now caches tokensRequested environmentTag).allowed = true ↔
        Within userId now records (effectiveLimits environmentTag limits) tokensRequested)) ↔
    (Within userId now records (effectiveLimits environmentTag limits) tokensRequested →
      HeaviestAdmitted userId now records (effectiveLimits environmentTag limits) tokensRequested) ∧
    (¬ Within userId now records (effectiveLimits environmentTag limits) tokensRequested →
      ¬ LightestAdmitted userId now records (effectiveLimits environmentTag limits) tokensRequested) := by
  simp only [enforce_allowed h husage]
  constructor
  · intro hexact
    refine ⟨fun hwithin w => ?_, fun hover hlightest => ?_⟩
    · -- both queries may be answered with their heaviest pages
      have hday := isPage_heaviest supabasePageSize UsageRecord.tokensUsed (listed userId now .day records)
      have hmonth := isPage_heaviest supabasePageSize UsageRecord.tokensUsed (listed userId now .month records)
      have hboth := (hexact _ _ hday hmonth).mpr hwithin
      rw [hday.length_eq, hmonth.length_eq] at hboth
      cases w with
      | day => exact hboth.1
      | month => exact hboth.2
    · obtain ⟨daily, hdaily, hday⟩ := (some_page_admitted .day).mpr (hlightest .day)
      obtain ⟨monthly, hmonthly, hmonth⟩ := (some_page_admitted .month).mpr (hlightest .month)
      exact hover ((hexact daily monthly hdaily hmonthly).mp ⟨hday, hmonth⟩)
  · rintro ⟨hheaviest, hlightest⟩ daily monthly hdaily hmonthly
    constructor
    · rintro ⟨hday, hmonth⟩
      by_contra hover
      refine hlightest hover (fun w => ?_)
      cases w with
      | day => exact (some_page_admitted .day).mp ⟨daily, hdaily, hday⟩
      | month => exact (some_page_admitted .month).mp ⟨monthly, hmonthly, hmonth⟩
    · intro hwithin
      have hroom := hheaviest hwithin
      exact ⟨(all_pages_admitted .day).mpr (hroom .day) daily hdaily,
        (all_pages_admitted .month).mpr (hroom .month) monthly hmonthly⟩

theorem exact_of_fits (hlisted : ∀ w, listed userId now w records = recorded userId now w records)
    (hfits : ∀ w, (recorded userId now w records).length ≤ supabasePageSize) :
    (Within userId now records l t → HeaviestAdmitted userId now records l t) ∧
      (¬ Within userId now records l t → ¬ LightestAdmitted userId now records l t) := by
  have hcount : ∀ w, min supabasePageSize (recorded userId now w records).length =
      (recorded userId now w records).length := fun w => by
    have := hfits w
    omega
  have hheaviest : ∀ w, tokensOf (heaviest supabasePageSize UsageRecord.tokensUsed (recorded userId now w records)) =
      tokensOf (recorded userId now w records) := fun w =>
    total_perm ((isPage_heaviest supabasePageSize UsageRecord.tokensUsed _).perm (hfits w))
  have hlightest : ∀ w, tokensOf (lightest supabasePageSize UsageRecord.tokensUsed (recorded userId now w records)) =
      tokensOf (recorded userId now w records) := fun w =>
    total_perm ((isPage_lightest supabasePageSize UsageRecord.tokensUsed _).perm (hfits w))
  constructor
  · intro hwithin w
    rw [hlisted, hcount, hheaviest]
    exact hwithin w
  · intro hover hadmitted
    refine hover (fun w => ?_)
    have hw := hadmitted w
    rw [hlisted, hcount, hlightest] at hw
    exact hw

end

/-! ## A crowded day -/

def crowdedLimits : PlanLimits where
  dailyRequestLimit := 1001
  monthlyRequestLimit := 30000
  dailyTokenLimit := 100000
  monthlyTokenLimit := 3000000

/-- The answers for a user on that plan. -/
def crowdedAnswers : PlanAnswers where
  adminTypes := .ok ["pro"]
  adminTypesAgain := .ok ["pro"]
  userPlans := .ok [⟨1, 7, 2, none⟩]
  plans _ := .ok [⟨2, "Pro", crowdedLimits.columns, []⟩]
  userPlansAgain := .ok []
  plansAgain _ := .ok []
  expire := .ok ()
  dailyUsage := .ok []
  monthlyUsage := .ok []

def crowdedNoon : Time := 1783252800

def crowdedRecord : UsageRecord := ⟨7, crowdedNoon, 1⟩

theorem crowded_live : LivePlan crowdedAnswers crowdedNoon {} crowdedLimits where
  notAdmin := rfl
  notAdminAgain := rfl
  live := ⟨⟨1, 2, "Pro", crowdedLimits.columns, [], none⟩, rfl, rfl, rfl⟩

theorem crowded_window (w : Window) : w.start crowdedNoon ≤ crowdedRecord.timestamp ∧
    w.Has crowdedNoon crowdedRecord.timestamp := by
  cases w <;> decide +kernel

theorem crowded_listed (n : Nat) (w : Window) :
    listed 7 crowdedNoon w (List.replicate n crowdedRecord) = List.replicate n crowdedRecord := by
  rw [listed, List.filter_replicate, if_pos]
  exact decide_eq_true ⟨rfl, (crowded_window w).1⟩

theorem crowded_recorded (n : Nat) (w : Window) :
    recorded 7 crowdedNoon w (List.replicate n crowdedRecord) = List.replicate n crowdedRecord := by
  rw [recorded, List.filter_replicate, if_pos]
  exact decide_eq_true ⟨rfl, (crowded_window w).2⟩

/-- The limits are exact after 500 requests on that day. -/
theorem plan_limits_exact_iff_quiet :
    ((Within 7 crowdedNoon (List.replicate 500 crowdedRecord) (effectiveLimits "live" crowdedLimits) 1 →
        HeaviestAdmitted 7 crowdedNoon (List.replicate 500 crowdedRecord) (effectiveLimits "live" crowdedLimits) 1) ∧
      (¬ Within 7 crowdedNoon (List.replicate 500 crowdedRecord) (effectiveLimits "live" crowdedLimits) 1 →
        ¬ LightestAdmitted 7 crowdedNoon (List.replicate 500 crowdedRecord) (effectiveLimits "live" crowdedLimits) 1)) ∧
    ∀ daily monthly,
      IsPage supabasePageSize (listed 7 crowdedNoon .day (List.replicate 500 crowdedRecord)) daily →
      IsPage supabasePageSize (listed 7 crowdedNoon .month (List.replicate 500 crowdedRecord)) monthly →
      ((enforcePlanLimits (crowdedAnswers.withUsage daily monthly) crowdedNoon {} 1 "live").allowed = true ↔
        Within 7 crowdedNoon (List.replicate 500 crowdedRecord) (effectiveLimits "live" crowdedLimits) 1) := by
  have hlisted : ∀ w, listed 7 crowdedNoon w (List.replicate 500 crowdedRecord) =
      recorded 7 crowdedNoon w (List.replicate 500 crowdedRecord) := fun w => by rw [crowded_listed, crowded_recorded]
  have hfits : ∀ w, (recorded 7 crowdedNoon w (List.replicate 500 crowdedRecord)).length ≤ supabasePageSize := by
    intro w
    rw [crowded_recorded, List.length_replicate]
    decide
  exact ⟨exact_of_fits hlisted hfits,
    (plan_limits_exact_iff crowded_live rfl 7 (List.replicate 500 crowdedRecord) 1 "live").mpr (exact_of_fits hlisted hfits)⟩

/-- After 1001 requests of one day the queries show a thousand, and the plan's 1001 requests never run out. -/
theorem admitted_beyond_limit : ∃ daily monthly,
    IsPage supabasePageSize (listed 7 crowdedNoon .day (List.replicate 1001 crowdedRecord)) daily ∧
    IsPage supabasePageSize (listed 7 crowdedNoon .month (List.replicate 1001 crowdedRecord)) monthly ∧
    (enforcePlanLimits (crowdedAnswers.withUsage daily monthly) crowdedNoon {} 1 "live").allowed = true ∧
    ¬ Within 7 crowdedNoon (List.replicate 1001 crowdedRecord) (effectiveLimits "live" crowdedLimits) 1 := by
  have hpage : IsPage supabasePageSize (List.replicate 1001 crowdedRecord) (List.replicate 1000 crowdedRecord) := by
    refine ⟨(List.replicate_sublist_replicate _ |>.mpr (by omega)).subperm, ?_⟩
    rw [List.length_replicate, List.length_replicate]
    rfl
  have htokens : tokensOf (List.replicate 1000 crowdedRecord) = 1000 := by
    rw [tokensOf, total, List.map_replicate, List.sum_replicate]
    rfl
  refine ⟨_, _, ?_, ?_, (enforce_allowed crowded_live rfl (List.replicate 1000 crowdedRecord)
    (List.replicate 1000 crowdedRecord) 1 "live").mpr ?_, ?_⟩
  · rw [crowded_listed]
    exact hpage
  · rw [crowded_listed]
    exact hpage
  · rw [htokens, List.length_replicate]
    decide
  · intro hwithin
    have hday := (hwithin .day).1
    rw [crowded_recorded, List.length_replicate] at hday
    exact absurd hday (by decide)

end Gatewayz.Plans
