import Gatewayz.Exec.Machine
import Gatewayz.Exec.Windows
import Gatewayz.Limits.SlidingWindow
import Mathlib.Data.Finset.Max
import Mathlib.Data.List.TakeWhile

/-!
# `Correctness.WindowLimits` — what the windows admit

Redis has a counter for each minute, hour and day of the calendar. The counters are never behind (`RedisHolds`), so no calendar
period is overfull; but a window that begins at the end of one day holds what two days admit.

The process has one deque, and looks back over `window_size_seconds` in it (`LocalHolds`). It knows of no hours and no days: a
longer window holds as many times the minute's limit as it has windows of that length, and no fewer (`exists_bursts`).
-/

namespace Gatewayz.Limits

open Exec

/-! ## Runs -/

/-- What was admitted of a key: requests, and tokens. -/
structure Admitted where
  requests : Log := []
  tokens : Log := []

/-- A call of `_check_sliding_window`. -/
structure WindowCall where
  apiKey : String
  tokensUsed : ℕ
  countRequest : Bool
  now : ℚ

def Admitted.add (a : Admitted) (c : WindowCall) (allowed : Bool) : Admitted :=
  if allowed then
    { requests := if c.countRequest then a.requests ++ [(c.now, 1)] else a.requests, tokens := a.tokens ++ [(c.now, c.tokensUsed)] }
  else a

/-- The limiter, the time, and what was admitted so far. -/
structure WindowRun where
  limiter : Limiter
  now : ℚ := 0
  admitted : String → Admitted := fun _ => {}

def WindowRun.call (config : RateLimitConfig) (s : WindowRun) (c : WindowCall) : WindowRun × Bool :=
  let (check, limiter) := s.limiter.checkSlidingWindow config c.apiKey c.tokensUsed c.countRequest c.now
  (⟨limiter, c.now, Function.update s.admitted c.apiKey ((s.admitted c.apiKey).add c check.allowed)⟩, check.allowed)

/-- Calls, one after the other, at moments that never go back. -/
def windowMachine (config : RateLimitConfig) (redisClient : Option Store) : Machine WindowRun WindowCall Bool where
  init := { limiter := { redisClient := redisClient } }
  step := fun s c => if s.now ≤ c.now then some (s.call config c) else none

abbrev WindowReach (config : RateLimitConfig) (redisClient : Option Store) : WindowRun → Prop :=
  (windowMachine config redisClient).Reach fun _ _ => True

/-! ## The contract -/

/-- No window is overfull, of a minute, an hour or a day, wherever it begins. -/
def Admitted.Sliding (config : RateLimitConfig) (a : Admitted) : Prop :=
  ∀ (p : Period) (start : ℚ),
    weight a.requests (fun t => start ≤ t ∧ t < start + p.length) ≤ p.requestLimit config ∧
      weight a.tokens (fun t => start ≤ t ∧ t < start + p.length) ≤ p.tokenLimit config

/-- … or only those of the calendar. -/
def Admitted.Calendar (config : RateLimitConfig) (a : Admitted) : Prop :=
  ∀ (p : Period) (i : ℤ),
    weight a.requests (fun t => p.index t = i) ≤ p.requestLimit config ∧
      weight a.tokens (fun t => p.index t = i) ≤ p.tokenLimit config

theorem Period.length_pos (p : Period) : 0 < p.length := by
  cases p <;> decide

theorem Period.index_eq_iff (p : Period) (i : ℤ) (t : ℚ) : p.index t = i ↔ i * p.length ≤ t ∧ t < i * p.length + p.length := by
  have hpos := p.length_pos
  rw [Period.index, Int.floor_eq_iff, le_div_iff₀ hpos, div_lt_iff₀ hpos]
  constructor
  · rintro ⟨hle, hlt⟩
    exact ⟨hle, by linarith⟩
  · rintro ⟨hle, hlt⟩
    exact ⟨hle, by linarith⟩

theorem Admitted.Sliding.calendar {config : RateLimitConfig} {a : Admitted} (h : a.Sliding config) : a.Calendar config := by
  intro p i
  obtain ⟨hrequests, htokens⟩ := h p (i * p.length)
  have hwindow : ∀ t, p.index t = i → i * p.length ≤ t ∧ t < i * p.length + p.length := fun t => (p.index_eq_iff i t).mp
  refine ⟨?_, ?_⟩
  · exact le_trans (weight_mono fun e _ he => hwindow e.1 he) hrequests
  · exact le_trans (weight_mono fun e _ he => hwindow e.1 he) htokens

/-! ## In the process -/

section Process

variable {config : RateLimitConfig} {now : ℚ} {w : Window} {a : Admitted}

def Window.requestLog (w : Window) : Log := w.requests.map fun t => (t, 1)

/-- The deque holds what was admitted, but for what is older than the window; and no window of its length is overfull. -/
structure LocalHolds (config : RateLimitConfig) (now : ℚ) (w : Window) (a : Admitted) : Prop where
  requests : ∃ old : Log, a.requests = old ++ w.requestLog ∧ ∀ e ∈ old, e.1 < now - config.windowSizeSeconds
  tokens : ∃ old : Log, a.tokens = old ++ w.tokens ∧ ∀ e ∈ old, e.1 < now - config.windowSizeSeconds
  requestBound : ∀ s e : ℚ, e - s ≤ config.windowSizeSeconds →
    weight a.requests (fun t => s ≤ t ∧ t ≤ e) ≤ config.requestsPerMinute
  tokenBound : ∀ s e : ℚ, e - s ≤ config.windowSizeSeconds → weight a.tokens (fun t => s ≤ t ∧ t ≤ e) ≤ config.tokensPerMinute

theorem localHolds_init : LocalHolds config now {} {} where
  requests := ⟨[], rfl, nofun⟩
  tokens := ⟨[], rfl, nofun⟩
  requestBound := fun _ _ _ => Nat.zero_le _
  tokenBound := fun _ _ _ => Nat.zero_le _

theorem LocalHolds.later {later : ℚ} (h : LocalHolds config now w a) (hlater : now ≤ later) : LocalHolds config later w a := by
  obtain ⟨oldRequests, hrequests, hold⟩ := h.requests
  obtain ⟨oldTokens, htokens, hold'⟩ := h.tokens
  exact ⟨⟨oldRequests, hrequests, fun e he => by linarith [hold e he]⟩,
    ⟨oldTokens, htokens, fun e he => by linarith [hold' e he]⟩, h.requestBound, h.tokenBound⟩

theorem LocalHolds.clean {later : ℚ} (h : LocalHolds config now w a) (hlater : now ≤ later) :
    LocalHolds config later (w.clean (later - config.windowSizeSeconds)) a := by
  obtain ⟨oldRequests, hrequests, hold⟩ := h.requests
  obtain ⟨oldTokens, htokens, hold'⟩ := h.tokens
  refine ⟨⟨oldRequests ++ (w.requests.takeWhile fun t => t < later - config.windowSizeSeconds).map fun t => (t, 1), ?_, ?_⟩,
    ⟨oldTokens ++ w.tokens.takeWhile fun e => e.1 < later - config.windowSizeSeconds, ?_, ?_⟩, h.requestBound, h.tokenBound⟩
  · rw [hrequests, List.append_assoc]
    unfold Window.requestLog Window.clean
    rw [← List.map_append, List.takeWhile_append_dropWhile]
  · intro e he
    rcases List.mem_append.mp he with hbefore | hdropped
    · linarith [hold e hbefore]
    · obtain ⟨t, ht, rfl⟩ := List.mem_map.mp hdropped
      have hbefore := List.mem_takeWhile_imp ht
      exact of_decide_eq_true hbefore
  · rw [htokens, List.append_assoc]
    unfold Window.clean
    rw [List.takeWhile_append_dropWhile]
  · intro e he
    rcases List.mem_append.mp he with hbefore | hdropped
    · linarith [hold' e hbefore]
    · have hbefore := List.mem_takeWhile_imp hdropped
      exact of_decide_eq_true hbefore

theorem LocalHolds.requests_le (h : LocalHolds config now w a) :
    weight a.requests (fun t => now - config.windowSizeSeconds ≤ t) ≤ w.requests.length := by
  obtain ⟨old, hrequests, hold⟩ := h.requests
  rw [hrequests, weight_append, weight_eq_zero fun e he => not_le.mpr (hold e he), Nat.zero_add]
  refine le_trans weight_le_sum ?_
  unfold Window.requestLog
  rw [List.map_map]
  show (w.requests.map fun _ => 1).sum ≤ _
  simp

theorem LocalHolds.tokens_le (h : LocalHolds config now w a) :
    weight a.tokens (fun t => now - config.windowSizeSeconds ≤ t) ≤ (w.tokens.map Prod.snd).sum := by
  obtain ⟨old, htokens, hold⟩ := h.tokens
  rw [htokens, weight_append, weight_eq_zero fun e he => not_le.mpr (hold e he), Nat.zero_add]
  exact weight_le_sum

theorem requests_lt_of_allowed {tokensUsed : ℕ} {countRequest : Bool}
    (h : (localWindow config tokensUsed countRequest now w).1.allowed = true) :
    (w.clean (now - config.windowSizeSeconds)).requests.length < config.requestsPerMinute := by
  unfold localWindow at h
  dsimp only at h
  split at h
  · cases h
  · next hfree => exact not_le.mp hfree

/-- The process keeps the deque right: the step. -/
theorem LocalHolds.step (h : LocalHolds config now w a) (c : WindowCall) (hlater : now ≤ c.now) :
    LocalHolds config c.now (localWindow config c.tokensUsed c.countRequest c.now w).2
      (a.add c (localWindow config c.tokensUsed c.countRequest c.now w).1.allowed) := by
  have hclean := h.clean hlater
  unfold localWindow
  dsimp only
  split
  · exact hclean
  · next hrequests =>
    split
    · exact hclean
    · next htokens =>
      obtain ⟨oldRequests, holdRequests, hold⟩ := hclean.requests
      obtain ⟨oldTokens, holdTokens, hold'⟩ := hclean.tokens
      rw [Admitted.add, if_pos rfl]
      refine ⟨?_, ⟨oldTokens, ?_, hold'⟩, ?_, ?_⟩
      · cases c.countRequest with
        | false => exact ⟨oldRequests, holdRequests, hold⟩
        | true =>
          refine ⟨oldRequests, ?_, hold⟩
          show a.requests ++ [(c.now, 1)] = oldRequests ++ ((w.clean _).requests ++ [c.now]).map _
          rw [holdRequests, List.map_append, List.append_assoc]
          rfl
      · show a.tokens ++ _ = _
        rw [holdTokens, List.append_assoc]
      · cases c.countRequest with
        | false => exact hclean.requestBound
        | true =>
          intro s e hlength
          refine weight_window_append hclean.requestBound ?_ hlength
          have hcount := hclean.requests_le
          omega
      · intro s e hlength
        refine weight_window_append hclean.tokenBound ?_ hlength
        have hcount := hclean.tokens_le
        omega

end Process

theorem WindowRun.call_local {config : RateLimitConfig} {s : WindowRun} (hclient : s.limiter.redisClient = none) (c : WindowCall) :
    s.call config c =
      (⟨{ s.limiter with
          localCache := Function.update s.limiter.localCache c.apiKey
            (localWindow config c.tokensUsed c.countRequest c.now (s.limiter.localCache c.apiKey)).2 },
        c.now, Function.update s.admitted c.apiKey ((s.admitted c.apiKey).add c
          (localWindow config c.tokensUsed c.countRequest c.now (s.limiter.localCache c.apiKey)).1.allowed)⟩,
        (localWindow config c.tokensUsed c.countRequest c.now (s.limiter.localCache c.apiKey)).1.allowed) := by
  obtain ⟨⟨client, concurrentRequests, bursts, localCache⟩, now, admitted⟩ := s
  obtain rfl : client = none := hclient
  rfl

theorem call_of_step {config : RateLimitConfig} {redisClient : Option Store} {s s' : WindowRun} {c : WindowCall} {allowed : Bool}
    (h : (windowMachine config redisClient).step s c = some (s', allowed)) : s.now ≤ c.now ∧ s' = (s.call config c).1 := by
  change (if s.now ≤ c.now then some (s.call config c) else none) = some (s', allowed) at h
  by_cases hlater : s.now ≤ c.now
  · rw [if_pos hlater] at h
    exact ⟨hlater, (congrArg Prod.fst (Option.some.inj h)).symm⟩
  · rw [if_neg hlater] at h
    cases h

theorem WindowReach.call {config : RateLimitConfig} {redisClient : Option Store} {s : WindowRun}
    (hs : WindowReach config redisClient s) {c : WindowCall} (hlater : s.now ≤ c.now) :
    WindowReach config redisClient (s.call config c).1 := by
  refine .next (o := (s.call config c).2) hs trivial (e := c) ?_
  show (if s.now ≤ c.now then some (s.call config c) else none) = _
  rw [if_pos hlater]

/-- Every deque of every run is right. -/
theorem localHolds_of_reach {config : RateLimitConfig} {s : WindowRun} (h : WindowReach config none s) (apiKey : String) :
    s.limiter.redisClient = none ∧ LocalHolds config s.now (s.limiter.localCache apiKey) (s.admitted apiKey) := by
  refine Machine.reach_invariant (M := windowMachine config none)
    (I := fun s => s.limiter.redisClient = none ∧ LocalHolds config s.now (s.limiter.localCache apiKey) (s.admitted apiKey))
    ⟨rfl, localHolds_init⟩ ?_ h
  rintro s c s' allowed ⟨hclient, hholds⟩ - hstep
  obtain ⟨hlater, rfl⟩ := call_of_step hstep
  rw [WindowRun.call_local hclient]
  refine ⟨hclient, ?_⟩
  dsimp only
  by_cases hkey : apiKey = c.apiKey
  · subst hkey
    rw [Function.update_self, Function.update_self]
    exact hholds.step c hlater
  · rw [Function.update_of_ne hkey, Function.update_of_ne hkey]
    exact hholds.later hlater

/-! ### The exact condition -/

/-- The minute's limits suffice for all windows: a longer window has room for those of all windows of the deque's length in it.
    (Or nothing is admitted.) -/
def RateLimitConfig.MinuteSuffices (config : RateLimitConfig) : Prop :=
  config.requestsPerMinute = 0 ∨
    0 < config.windowSizeSeconds ∧ ∀ p : Period,
      ⌈p.length / config.windowSizeSeconds⌉₊ * config.requestsPerMinute ≤ p.requestLimit config ∧
        ⌈p.length / config.windowSizeSeconds⌉₊ * config.tokensPerMinute ≤ p.tokenLimit config

section Exact

variable {config : RateLimitConfig} {s : WindowRun}

theorem localWindow_of_zero (h : config.requestsPerMinute = 0) (tokensUsed : ℕ) (countRequest : Bool) (now : ℚ) (w : Window) :
    (localWindow config tokensUsed countRequest now w).1.allowed = false := by
  unfold localWindow
  dsimp only
  rw [if_pos (by omega)]

theorem admitted_of_zero (h : config.requestsPerMinute = 0) (hs : WindowReach config none s) (apiKey : String) :
    s.admitted apiKey = {} := by
  have hall := Machine.reach_invariant (M := windowMachine config none)
    (I := fun s => s.limiter.redisClient = none ∧ s.admitted apiKey = {}) ⟨rfl, rfl⟩ ?_ hs
  · exact hall.2
  · rintro s c s' allowed ⟨hclient, hnone⟩ - hstep
    obtain ⟨-, rfl⟩ := call_of_step hstep
    rw [WindowRun.call_local hclient]
    refine ⟨hclient, ?_⟩
    dsimp only
    rw [localWindow_of_zero h, Admitted.add, if_neg Bool.false_ne_true]
    by_cases hkey : apiKey = c.apiKey
    · subst hkey
      rw [Function.update_self, hnone]
    · rw [Function.update_of_ne hkey, hnone]

theorem sliding_of_minuteSuffices (h : config.MinuteSuffices) (hs : WindowReach config none s) (apiKey : String) :
    (s.admitted apiKey).Sliding config := by
  intro p start
  rcases h with hzero | ⟨hpos, hlimits⟩
  · rw [admitted_of_zero hzero hs]
    exact ⟨Nat.zero_le _, Nat.zero_le _⟩
  · obtain ⟨-, hholds⟩ := localHolds_of_reach hs apiKey
    have hW : (0 : ℚ) < config.windowSizeSeconds := by exact_mod_cast hpos
    exact ⟨le_trans (weight_period_le hW hholds.requestBound p.length start) (hlimits p).1,
      le_trans (weight_period_le hW hholds.tokenBound p.length start) (hlimits p).2⟩

theorem exists_admitted (hs : WindowReach config none s) (apiKey : String) (tokensUsed : ℕ) {now : ℚ} (hnow : s.now ≤ now)
    (hrequests : ((s.limiter.localCache apiKey).clean (now - config.windowSizeSeconds)).requests.length < config.requestsPerMinute)
    (htokens : (((s.limiter.localCache apiKey).clean (now - config.windowSizeSeconds)).tokens.map Prod.snd).sum + tokensUsed ≤
      config.tokensPerMinute) :
    ∃ s', WindowReach config none s' ∧ s'.now = now ∧
      s'.limiter.localCache apiKey =
        ⟨((s.limiter.localCache apiKey).clean (now - config.windowSizeSeconds)).requests ++ [now],
          ((s.limiter.localCache apiKey).clean (now - config.windowSizeSeconds)).tokens ++ [(now, tokensUsed)]⟩ ∧
      s'.admitted apiKey = ⟨(s.admitted apiKey).requests ++ [(now, 1)], (s.admitted apiKey).tokens ++ [(now, tokensUsed)]⟩ := by
  obtain ⟨hclient, -⟩ := localHolds_of_reach hs apiKey
  have hallowed : (localWindow config tokensUsed true now (s.limiter.localCache apiKey)).1.allowed = true ∧
      (localWindow config tokensUsed true now (s.limiter.localCache apiKey)).2 =
        ⟨((s.limiter.localCache apiKey).clean (now - config.windowSizeSeconds)).requests ++ [now],
          ((s.limiter.localCache apiKey).clean (now - config.windowSizeSeconds)).tokens ++ [(now, tokensUsed)]⟩ := by
    unfold localWindow
    dsimp only
    rw [if_neg (not_le.mpr hrequests), if_neg (not_lt.mpr htokens)]
    exact ⟨rfl, rfl⟩
  refine ⟨_, hs.call (c := ⟨apiKey, tokensUsed, true, now⟩) hnow, ?_⟩
  rw [WindowRun.call_local hclient]
  dsimp only
  rw [hallowed.1, hallowed.2]
  exact ⟨rfl, Function.update_self _ _ _, Function.update_self _ _ _⟩

theorem exists_burst (hs : WindowReach config none s) {apiKey : String} {now : ℚ} (hnow : s.now ≤ now)
    (hempty : (s.limiter.localCache apiKey).clean (now - config.windowSizeSeconds) = {}) :
    ∀ n < config.requestsPerMinute, ∃ s', WindowReach config none s' ∧ s'.now = now ∧
      s'.limiter.localCache apiKey =
        ⟨.replicate (n + 1) now, .replicate n (now, 0) ++ [(now, if n + 1 = config.requestsPerMinute then config.tokensPerMinute else 0)]⟩ ∧
      s'.admitted apiKey =
        ⟨(s.admitted apiKey).requests ++ .replicate (n + 1) (now, 1),
          (s.admitted apiKey).tokens ++
            (.replicate n (now, 0) ++ [(now, if n + 1 = config.requestsPerMinute then config.tokensPerMinute else 0)])⟩ := by
  intro n
  induction n with
  | zero =>
    intro hn
    have htokens : (if 0 + 1 = config.requestsPerMinute then config.tokensPerMinute else 0) ≤ config.tokensPerMinute := by
      split <;> omega
    obtain ⟨s', hs', hnow', hcache, hadmitted⟩ :=
      exists_admitted hs apiKey (if 0 + 1 = config.requestsPerMinute then config.tokensPerMinute else 0) hnow
        (by rw [hempty]; exact hn) (by rw [hempty]; simpa using htokens)
    rw [hempty] at hcache
    exact ⟨s', hs', hnow', hcache, hadmitted⟩
  | succ n ih =>
    intro hn
    obtain ⟨s', hs', hnow', hcache, hadmitted⟩ := ih (by omega)
    rw [if_neg (by omega)] at hcache hadmitted
    -- nothing of this moment is old
    have hkept : (s'.limiter.localCache apiKey).clean (now - config.windowSizeSeconds) =
        ⟨.replicate (n + 1) now, .replicate (n + 1) (now, 0)⟩ := by
      rw [hcache, Window.clean, ← List.replicate_succ', List.dropWhile_replicate, List.dropWhile_replicate,
        if_neg (by simp), if_neg (by simp)]
    have htokens : (if n + 1 + 1 = config.requestsPerMinute then config.tokensPerMinute else 0) ≤ config.tokensPerMinute := by
      split <;> omega
    obtain ⟨t, ht, hnow'', hcache', hadmitted'⟩ :=
      exists_admitted hs' apiKey (if n + 1 + 1 = config.requestsPerMinute then config.tokensPerMinute else 0) hnow'.le
        (by rw [hkept]; simpa using hn) (by rw [hkept]; simpa using htokens)
    refine ⟨t, ht, hnow'', ?_, ?_⟩
    · rw [hcache', hkept, ← List.replicate_succ']
    · rw [hadmitted', hadmitted]
      simp only [List.append_assoc, ← List.replicate_succ']

/-- After `n` full bursts, `δ` apart, from the epoch on. -/
structure Bursts (config : RateLimitConfig) (apiKey : String) (δ : ℚ) (n : ℕ) (s : WindowRun) : Prop where
  reach : WindowReach config none s
  now : s.now ≤ n * δ
  cachedRequests : ∀ t ∈ (s.limiter.localCache apiKey).requests, t + δ ≤ n * δ
  cachedTokens : ∀ e ∈ (s.limiter.localCache apiKey).tokens, e.1 + δ ≤ n * δ
  requests : ∀ e ∈ (s.admitted apiKey).requests, 0 ≤ e.1 ∧ e.1 + δ ≤ n * δ
  tokens : ∀ e ∈ (s.admitted apiKey).tokens, 0 ≤ e.1 ∧ e.1 + δ ≤ n * δ
  requestSum : ((s.admitted apiKey).requests.map Prod.snd).sum = n * config.requestsPerMinute
  tokenSum : ((s.admitted apiKey).tokens.map Prod.snd).sum = n * config.tokensPerMinute

theorem Bursts.next (hpos : 0 < config.requestsPerMinute) {δ : ℚ} (hδ : config.windowSizeSeconds < δ) {apiKey : String} {n : ℕ}
    (h : Bursts config apiKey δ n s) : ∃ s', Bursts config apiKey δ (n + 1) s' := by
  have hW : (0 : ℚ) ≤ config.windowSizeSeconds := Nat.cast_nonneg _
  have hstart : (0 : ℚ) ≤ n * δ := mul_nonneg (Nat.cast_nonneg n) (by linarith)
  have hlast : (n * δ : ℚ) + δ = (n + 1 : ℕ) * δ := by
    push_cast
    ring
  have hempty : (s.limiter.localCache apiKey).clean (n * δ - config.windowSizeSeconds) = {} := by
    have hrequests : (s.limiter.localCache apiKey).requests.dropWhile (fun t => t < n * δ - config.windowSizeSeconds) = [] := by
      refine List.dropWhile_eq_nil_iff.mpr fun t ht => decide_eq_true ?_
      linarith [h.cachedRequests t ht]
    have htokens : (s.limiter.localCache apiKey).tokens.dropWhile (fun e => e.1 < n * δ - config.windowSizeSeconds) = [] := by
      refine List.dropWhile_eq_nil_iff.mpr fun e he => decide_eq_true ?_
      linarith [h.cachedTokens e he]
    rw [Window.clean, hrequests, htokens]
  obtain ⟨s', hreach, hnow, hcache, hadmitted⟩ :=
    exists_burst h.reach h.now hempty (config.requestsPerMinute - 1) (by omega)
  have hcount : config.requestsPerMinute - 1 + 1 = config.requestsPerMinute := by omega
  rw [if_pos hcount, hcount] at hcache hadmitted
  -- what the burst adds is all of one moment
  have hmoment : ∀ e ∈ List.replicate (config.requestsPerMinute - 1) (n * δ, 0) ++ [(n * δ, config.tokensPerMinute)], e.1 = n * δ := by
    intro e he
    rcases List.mem_append.mp he with hzero | hfull
    · rw [(List.mem_replicate.mp hzero).2]
    · rw [List.mem_singleton.mp hfull]
  refine ⟨s', hreach, ?_, ?_, ?_, ?_, ?_, ?_, ?_⟩
  · rw [hnow]
    linarith
  · intro t ht
    rw [hcache] at ht
    rw [(List.mem_replicate.mp ht).2, hlast]
  · intro e he
    rw [hcache] at he
    rw [hmoment e he, hlast]
  · intro e he
    rw [hadmitted] at he
    rcases List.mem_append.mp he with hbefore | hnew
    · obtain ⟨hnonneg, hle⟩ := h.requests e hbefore
      exact ⟨hnonneg, by linarith⟩
    · rw [(List.mem_replicate.mp hnew).2]
      exact ⟨hstart, hlast.le⟩
  · intro e he
    rw [hadmitted] at he
    rcases List.mem_append.mp he with hbefore | hnew
    · obtain ⟨hnonneg, hle⟩ := h.tokens e hbefore
      exact ⟨hnonneg, by linarith⟩
    · rw [hmoment e hnew]
      exact ⟨hstart, hlast.le⟩
  · rw [hadmitted, List.map_append, List.sum_append, h.requestSum, List.map_replicate, List.sum_replicate, Nat.succ_mul]
    simp
  · rw [hadmitted, List.map_append, List.sum_append, h.tokenSum, Nat.succ_mul]
    simp

theorem exists_bursts (hpos : 0 < config.requestsPerMinute) {δ : ℚ} (hδ : config.windowSizeSeconds < δ) (apiKey : String) (n : ℕ) :
    ∃ s, Bursts config apiKey δ n s := by
  induction n with
  | zero =>
    have hzero : (0 : ℚ) ≤ (0 : ℕ) * δ := by simp
    exact ⟨_, .init, hzero, nofun, nofun, nofun, nofun, (Nat.zero_mul _).symm, (Nat.zero_mul _).symm⟩
  | succ n ih =>
    obtain ⟨s, hs⟩ := ih
    exact hs.next hpos hδ

theorem bursts_le (hcalendar : ∀ s, WindowReach config none s → ∀ apiKey, (s.admitted apiKey).Calendar config)
    (hpos : 0 < config.requestsPerMinute) {δ : ℚ} (hδ : config.windowSizeSeconds < δ) (p : Period) (n : ℕ)
    (hfit : n * δ < p.length + δ) :
    n * config.requestsPerMinute ≤ p.requestLimit config ∧ n * config.tokensPerMinute ≤ p.tokenLimit config := by
  obtain ⟨s, hs⟩ := exists_bursts hpos hδ "" n
  obtain ⟨hrequests, htokens⟩ := hcalendar s hs.reach "" p 0
  have hin : ∀ t : ℚ, 0 ≤ t ∧ t + δ ≤ n * δ → p.index t = 0 := by
    rintro t ⟨hnonneg, hle⟩
    rw [Period.index_eq_iff]
    constructor
    · simpa using hnonneg
    · push_cast
      linarith
  rw [weight_eq_sum fun e he => hin e.1 (hs.requests e he), hs.requestSum] at hrequests
  rw [weight_eq_sum fun e he => hin e.1 (hs.tokens e he), hs.tokenSum] at htokens
  exact ⟨hrequests, htokens⟩

/-- The limits of the minute have to suffice. -/
theorem minuteSuffices_of_calendar (hcalendar : ∀ s, WindowReach config none s → ∀ apiKey, (s.admitted apiKey).Calendar config) :
    config.MinuteSuffices := by
  by_cases hzero : config.requestsPerMinute = 0
  · exact .inl hzero
  right
  have hpos : 0 < config.requestsPerMinute := Nat.pos_of_ne_zero hzero
  -- two bursts in one minute are too many
  have hminute : 60 ≤ config.windowSizeSeconds := by
    by_contra hshort
    have hlt : (config.windowSizeSeconds : ℚ) < 60 := by exact_mod_cast not_le.mp hshort
    obtain ⟨htwice, -⟩ := bursts_le hcalendar hpos (δ := (config.windowSizeSeconds + 60) / 2) (by linarith) .minute 2 (by
      change _ < (60 : ℚ) + _
      push_cast
      linarith)
    change _ ≤ config.requestsPerMinute at htwice
    omega
  have hW : (0 : ℚ) < config.windowSizeSeconds := by exact_mod_cast (by omega : 0 < config.windowSizeSeconds)
  refine ⟨by omega, fun p => ?_⟩
  have hP := p.length_pos
  generalize hn : ⌈p.length / (config.windowSizeSeconds : ℚ)⌉₊ = n
  have hfits : ((n : ℚ) - 1) * config.windowSizeSeconds < p.length := by
    have hlt : (n : ℚ) < p.length / config.windowSizeSeconds + 1 := by
      rw [← hn]
      exact Nat.ceil_lt_add_one (div_nonneg hP.le hW.le)
    rw [← lt_div_iff₀ hW]
    linarith
  -- a little later than a window, and the last one is still in time
  obtain ⟨δ, hδ, hlast⟩ : ∃ δ : ℚ, config.windowSizeSeconds < δ ∧ ((n : ℚ) - 1) * δ < p.length := by
    by_cases hone : n ≤ 1
    · have hnone : (n : ℚ) - 1 ≤ 0 := by
        have hcast : (n : ℚ) ≤ 1 := by exact_mod_cast hone
        linarith
      exact ⟨config.windowSizeSeconds + 1, by linarith, by nlinarith⟩
    · have hmany : (0 : ℚ) < (n : ℚ) - 1 := by
        have hcast : (1 : ℚ) < n := by exact_mod_cast not_le.mp hone
        linarith
      obtain ⟨δ, hδ, hlt⟩ := exists_between ((lt_div_iff₀' hmany).mpr hfits)
      exact ⟨δ, hδ, (lt_div_iff₀' hmany).mp hlt⟩
  exact bursts_le hcalendar hpos hδ p n (by linarith)

end Exact

/-! ## In Redis -/

section Redis

variable {config : RateLimitConfig} {now : ℚ} {counters : Counters} {a : Admitted} {s : WindowRun}

def Admitted.log (a : Admitted) : Quantity → Log
  | .requests => a.requests
  | .tokens => a.tokens

/-- A counter is not behind: it has what was admitted in its period, and outlives the period. -/
def CounterHolds (log : Log) (k : CounterKey) : Option Counter → Prop
  | none => weight log (fun t => k.period.index t = k.index) = 0
  | some c => c.value = weight log (fun t => k.period.index t = k.index) ∧
      ∃ e, c.expiresAt = some e ∧ (k.index + 1) * k.period.length ≤ e

def RedisHolds (counters : Counters) (a : Admitted) : Prop := ∀ k, CounterHolds (a.log k.unit) k (counters k)

theorem Period.lt_reset (p : Period) (now : ℚ) : now < p.reset now := by
  have hperiod := ((p.index_eq_iff (p.index now) now).mp rfl).2
  unfold Period.reset
  linarith

theorem CounterHolds.live {log : Log} {k : CounterKey} (h : CounterHolds log k (counters k)) (hnow : k.period.index now = k.index) :
    counters.live now k = counters k := by
  unfold Counters.live
  cases hk : counters k with
  | none => rfl
  | some c =>
    rw [hk] at h
    obtain ⟨-, e, he, hle⟩ := h
    have hreset := k.period.lt_reset now
    rw [Period.reset, hnow] at hreset
    have hlive : now < e := lt_of_lt_of_le hreset hle
    simp [Option.filter, he, hlive]

theorem CounterHolds.get {log : Log} {k : CounterKey} (h : CounterHolds log k (counters k)) (hnow : k.period.index now = k.index) :
    counters.get now k = weight log (fun t => k.period.index t = k.index) := by
  rw [Counters.get, h.live hnow]
  cases hk : counters k with
  | none =>
    rw [hk] at h
    exact h.symm
  | some c =>
    rw [hk] at h
    exact h.1

theorem CounterHolds.congr {log log' : Log} {k : CounterKey} {c : Option Counter} (h : CounterHolds log k c)
    (hlog : weight log' (fun t => k.period.index t = k.index) = weight log (fun t => k.period.index t = k.index)) :
    CounterHolds log' k c := by
  cases c with
  | none => exact hlog.trans h
  | some c =>
    obtain ⟨hvalue, hexpiry⟩ := h
    exact ⟨hvalue.trans hlog.symm, hexpiry⟩

/-! ### Counting -/

theorem Counters.live_congr {counters counters' : Counters} {k : CounterKey} (h : counters k = counters' k) :
    counters.live now k = counters'.live now k := by
  unfold Counters.live
  rw [h]

theorem Counters.incrby_of_ne {k k' : CounterKey} (h : k' ≠ k) (n : ℕ) : counters.incrby now k n k' = counters k' :=
  Function.update_of_ne h _ _

theorem Counters.expire_of_ne {k k' : CounterKey} (h : k' ≠ k) (ttl : ℚ) : counters.expire now k ttl k' = counters k' :=
  Function.update_of_ne h _ _

theorem Counters.expire_self (k : CounterKey) (ttl : ℚ) :
    counters.expire now k ttl k = (counters.live now k).map fun c => { c with expiresAt := some (now + ttl) } :=
  Function.update_self _ _ _

theorem Counters.live_incrby (k : CounterKey) (n : ℕ) :
    (counters.incrby now k n).live now k = some ⟨counters.get now k + n, (counters.live now k).bind Counter.expiresAt⟩ := by
  have hlive : ((counters.live now k).bind Counter.expiresAt).all (fun t => now < t) = true := by
    unfold Counters.live
    cases counters k with
    | none => rfl
    | some c =>
      rw [Option.filter_some]
      split
      · next h => exact h
      · rfl
  rw [Counters.live, Counters.incrby, Function.update_self, Option.filter_some, if_pos hlive]

theorem Period.reset_le_expiry (p : Period) (now : ℚ) : p.reset now ≤ now + p.ttl := by
  have hperiod := ((p.index_eq_iff (p.index now) now).mp rfl).1
  have httl : p.ttl = 2 * p.length := by
    cases p <;> norm_num [Period.ttl, Period.length]
  have hpos := p.length_pos
  rw [Period.reset, httl]
  linarith

theorem weight_add_entry (log : Log) {k : CounterKey} (hnow : k.period.index now = k.index) (n : ℕ) :
    weight (log ++ [(now, n)]) (fun t => k.period.index t = k.index) = weight log (fun t => k.period.index t = k.index) + n := by
  rw [weight_append, weight_singleton, if_pos hnow]

theorem weight_other_entry (log : Log) {k : CounterKey} (hnow : k.period.index now ≠ k.index) (n : ℕ) :
    weight (log ++ [(now, n)]) (fun t => k.period.index t = k.index) = weight log (fun t => k.period.index t = k.index) := by
  rw [weight_append, weight_singleton, if_neg hnow, Nat.add_zero]

theorem CounterHolds.counted {log : Log} {k : CounterKey} (h : CounterHolds log k (counters k)) (hnow : k.period.index now = k.index)
    (n : ℕ) : CounterHolds (log ++ [(now, n)]) k ((counters.incrby now k n).expire now k k.period.ttl k) := by
  rw [Counters.expire_self, Counters.live_incrby, h.get hnow]
  refine ⟨(weight_add_entry log hnow n).symm, now + k.period.ttl, rfl, ?_⟩
  rw [← hnow]
  exact k.period.reset_le_expiry now

theorem CounterHolds.kept {log : Log} {k : CounterKey} (h : CounterHolds log k (counters k)) (hnow : k.period.index now = k.index) :
    CounterHolds log k (counters.expire now k k.period.ttl k) := by
  rw [Counters.expire_self, h.live hnow]
  cases hk : counters k with
  | none =>
    rw [hk] at h
    exact h
  | some c =>
    rw [hk] at h
    refine ⟨h.1, now + k.period.ttl, rfl, ?_⟩
    rw [← hnow]
    exact k.period.reset_le_expiry now

theorem Counters.incrby_congr {counters counters' : Counters} {k : CounterKey} (h : counters k = counters' k) (n : ℕ) :
    counters.incrby now k n k = counters'.incrby now k n k := by
  unfold Counters.incrby Counters.get
  rw [Function.update_self, Function.update_self, Counters.live_congr h]

theorem Counters.expire_congr {counters counters' : Counters} {k : CounterKey} (h : counters k = counters' k) (ttl : ℚ) :
    counters.expire now k ttl k = counters'.expire now k ttl k := by
  rw [Counters.expire_self, Counters.expire_self, Counters.live_congr h]

section CountPeriod

variable {tokensUsed : ℕ} {countRequest : Bool} {p : Period} {k : CounterKey}

theorem countPeriod_other (h : ¬ (k.period = p ∧ k.index = p.index now)) :
    countPeriod tokensUsed countRequest now p counters k = counters k := by
  have hrequests : k ≠ ⟨.requests, p, p.index now⟩ := fun hk => h (hk ▸ ⟨rfl, rfl⟩)
  have htokens : k ≠ ⟨.tokens, p, p.index now⟩ := fun hk => h (hk ▸ ⟨rfl, rfl⟩)
  unfold countPeriod
  rw [Counters.expire_of_ne htokens, Counters.expire_of_ne hrequests, Counters.incrby_of_ne htokens]
  cases countRequest with
  | false => rfl
  | true => exact Counters.incrby_of_ne hrequests 1

theorem countPeriod_requests : countPeriod tokensUsed countRequest now p counters ⟨.requests, p, p.index now⟩ =
      ((if countRequest then counters.incrby now ⟨.requests, p, p.index now⟩ 1 else counters).expire now
        ⟨.requests, p, p.index now⟩ p.ttl) ⟨.requests, p, p.index now⟩ := by
  have hne : (⟨.requests, p, p.index now⟩ : CounterKey) ≠ ⟨.tokens, p, p.index now⟩ := nofun
  unfold countPeriod
  rw [Counters.expire_of_ne hne]
  exact Counters.expire_congr (Counters.incrby_of_ne hne _) _

theorem countPeriod_tokens : countPeriod tokensUsed countRequest now p counters ⟨.tokens, p, p.index now⟩ =
      ((counters.incrby now ⟨.tokens, p, p.index now⟩ tokensUsed).expire now ⟨.tokens, p, p.index now⟩ p.ttl)
        ⟨.tokens, p, p.index now⟩ := by
  have hne : (⟨.tokens, p, p.index now⟩ : CounterKey) ≠ ⟨.requests, p, p.index now⟩ := nofun
  unfold countPeriod
  refine Counters.expire_congr ((Counters.expire_of_ne hne _).trans (Counters.incrby_congr ?_ _)) _
  cases countRequest with
  | false => rfl
  | true => exact Counters.incrby_of_ne hne 1

end CountPeriod

theorem Admitted.log_add (a : Admitted) (c : WindowCall) (unit : Quantity) :
    (a.add c true).log unit = a.log unit ∨ ∃ n, (a.add c true).log unit = a.log unit ++ [(c.now, n)] := by
  cases unit with
  | tokens => exact .inr ⟨c.tokensUsed, rfl⟩
  | requests =>
    cases hcount : c.countRequest with
    | false =>
      left
      simp [Admitted.add, Admitted.log, hcount]
    | true =>
      right
      exact ⟨1, by simp [Admitted.add, Admitted.log, hcount]⟩

/-- The counters of a period keep up. -/
theorem countPeriod_holds (c : WindowCall) {p : Period} (h : ∀ k, k.period = p → CounterHolds (a.log k.unit) k (counters k))
    {k : CounterKey} (hk : k.period = p) :
    CounterHolds ((a.add c true).log k.unit) k (countPeriod c.tokensUsed c.countRequest c.now p counters k) := by
  by_cases hnow : k.period.index c.now = k.index
  · obtain ⟨unit, period, index⟩ := k
    obtain rfl : period = p := hk
    obtain rfl : period.index c.now = index := hnow
    cases unit with
    | tokens =>
      rw [countPeriod_tokens]
      exact (h ⟨.tokens, period, _⟩ rfl).counted rfl c.tokensUsed
    | requests =>
      rw [countPeriod_requests]
      have hbefore := h ⟨.requests, period, period.index c.now⟩ rfl
      cases hcount : c.countRequest with
      | false =>
        have hlog : (a.add c true).log .requests = a.log .requests := by simp [Admitted.add, Admitted.log, hcount]
        rw [hlog, if_neg Bool.false_ne_true]
        exact hbefore.kept rfl
      | true =>
        have hlog : (a.add c true).log .requests = a.log .requests ++ [(c.now, 1)] := by simp [Admitted.add, Admitted.log, hcount]
        rw [hlog, if_pos rfl]
        exact hbefore.counted rfl 1
  · rw [countPeriod_other fun hcurrent => hnow (by rw [hcurrent.1, hcurrent.2])]
    refine (h k hk).congr ?_
    rcases a.log_add c k.unit with hsame | ⟨n, hmore⟩
    · rw [hsame]
    · rw [hmore, weight_other_entry _ hnow]

/-- All counters keep up. -/
theorem RedisHolds.counted (h : RedisHolds counters a) (c : WindowCall) :
    RedisHolds ([Period.minute, .hour, .day].foldl (fun counters p => countPeriod c.tokensUsed c.countRequest c.now p counters) counters)
      (a.add c true) := by
  have hother : ∀ {p : Period} {k : CounterKey} (counters : Counters), k.period ≠ p →
      countPeriod c.tokensUsed c.countRequest c.now p counters k = counters k :=
    fun counters hne => countPeriod_other fun hcurrent => hne hcurrent.1
  intro k
  rw [List.foldl_cons, List.foldl_cons, List.foldl_cons, List.foldl_nil]
  cases hk : k.period with
  | minute =>
    rw [hother _ (by rw [hk]; nofun), hother _ (by rw [hk]; nofun)]
    exact countPeriod_holds c (fun k _ => h k) hk
  | hour =>
    rw [hother _ (by rw [hk]; nofun)]
    refine countPeriod_holds c (fun k hk => ?_) hk
    rw [hother _ (by rw [hk]; nofun)]
    exact h k
  | day =>
    refine countPeriod_holds c (fun k hk => ?_) hk
    rw [hother _ (by rw [hk]; nofun), hother _ (by rw [hk]; nofun)]
    exact h k

/-! ### Admission -/

def Admitted.Room (config : RateLimitConfig) (a : Admitted) (tokensUsed : ℕ) (now : ℚ) (p : Period) : Prop :=
  weight a.requests (fun t => p.index t = p.index now) < p.requestLimit config ∧
    weight a.tokens (fun t => p.index t = p.index now) + tokensUsed ≤ p.tokenLimit config

theorem redisRefusal_none_iff (config : RateLimitConfig) (h : RedisHolds counters a) (tokensUsed : ℕ) (now : ℚ) (ps : List Period) :
    redisRefusal config tokensUsed now counters ps = none ↔ ∀ p ∈ ps, a.Room config tokensUsed now p := by
  induction ps with
  | nil => exact ⟨fun _ p hp => absurd hp List.not_mem_nil, fun _ => rfl⟩
  | cons p ps ih =>
    have hrequests : counters.get now ⟨.requests, p, p.index now⟩ = weight a.requests (fun t => p.index t = p.index now) :=
      (h ⟨.requests, p, p.index now⟩).get rfl
    have htokens : counters.get now ⟨.tokens, p, p.index now⟩ = weight a.tokens (fun t => p.index t = p.index now) :=
      (h ⟨.tokens, p, p.index now⟩).get rfl
    rw [redisRefusal, hrequests, htokens, List.forall_mem_cons, ← ih]
    unfold Admitted.Room
    split
    · next hfull => exact ⟨fun hnone => absurd hnone (Option.some_ne_none _), fun hroom => absurd hroom.1.1 (not_lt.mpr hfull)⟩
    · next hfree =>
      split
      · next hover =>
        exact ⟨fun hnone => absurd hnone (Option.some_ne_none _), fun hroom => absurd hroom.1.2 (not_le.mpr hover)⟩
      · next hunder => exact ⟨fun hrest => ⟨⟨not_le.mp hfree, not_lt.mp hunder⟩, hrest⟩, fun hroom => hroom.2⟩

theorem redisRefusal_refuses {tokensUsed : ℕ} {ps : List Period} {refusal : WindowCheck}
    (h : redisRefusal config tokensUsed now counters ps = some refusal) : refusal.allowed = false := by
  induction ps with
  | nil => cases h
  | cons p ps ih =>
    unfold redisRefusal at h
    dsimp only at h
    split at h
    · cases h
      rfl
    · split at h
      · cases h
        rfl
      · exact ih h

/-- Redis admits a call just where every period has room for it. -/
theorem redisWindow_allowed_iff (h : RedisHolds counters a) (tokensUsed : ℕ) (countRequest : Bool) (now : ℚ) :
    (redisWindow config tokensUsed countRequest now counters).1.allowed = true ↔ ∀ p, a.Room config tokensUsed now p := by
  have hnone := redisRefusal_none_iff config h tokensUsed now [.minute, .hour, .day]
  have hall : (∀ p ∈ [Period.minute, .hour, .day], a.Room config tokensUsed now p) ↔ ∀ p, a.Room config tokensUsed now p :=
    ⟨fun hroom p => hroom p (by cases p <;> simp), fun hroom p _ => hroom p⟩
  rw [← hall, ← hnone]
  unfold redisWindow
  cases hrefusal : redisRefusal config tokensUsed now counters [.minute, .hour, .day] with
  | none => exact ⟨fun _ => rfl, fun _ => rfl⟩
  | some refusal =>
    refine ⟨fun hallowed => ?_, nofun⟩
    rw [redisRefusal_refuses hrefusal] at hallowed
    cases hallowed

/-- Redis keeps the counters right: the step. -/
theorem RedisHolds.step (h : RedisHolds counters a) (c : WindowCall) :
    RedisHolds (redisWindow config c.tokensUsed c.countRequest c.now counters).2
      (a.add c (redisWindow config c.tokensUsed c.countRequest c.now counters).1.allowed) := by
  unfold redisWindow
  cases hrefusal : redisRefusal config c.tokensUsed c.now counters [.minute, .hour, .day] with
  | some refusal =>
    dsimp only
    rw [redisRefusal_refuses hrefusal]
    exact h
  | none => exact h.counted c

theorem Admitted.Calendar.add (hcalendar : a.Calendar config) (c : WindowCall) (hroom : ∀ p, a.Room config c.tokensUsed c.now p) :
    (a.add c true).Calendar config := by
  intro p i
  obtain ⟨hrequests, htokens⟩ := hcalendar p i
  have hentry : ∀ n, weight [(c.now, n)] (fun t => p.index t = i) = if p.index c.now = i then n else 0 := fun n => weight_singleton
  constructor
  · cases hcount : c.countRequest with
    | false =>
      rw [Admitted.add, if_pos rfl, if_neg (by rw [hcount]; nofun)]
      exact hrequests
    | true =>
      rw [Admitted.add, if_pos rfl, if_pos hcount, weight_append, hentry]
      by_cases hi : p.index c.now = i
      · subst hi
        rw [if_pos rfl]
        exact (hroom p).1
      · rw [if_neg hi]
        exact hrequests
  · rw [Admitted.add, if_pos rfl, weight_append, hentry]
    by_cases hi : p.index c.now = i
    · subst hi
      rw [if_pos rfl]
      exact (hroom p).2
    · rw [if_neg hi]
      exact htokens

end Redis

theorem WindowRun.call_redis {config : RateLimitConfig} {s : WindowRun} {store : Store} (hclient : s.limiter.redisClient = some store)
    (c : WindowCall) : s.call config c =
      (⟨{ s.limiter with
          redisClient := some
            { store with
              counters := Function.update store.counters c.apiKey
                (redisWindow config c.tokensUsed c.countRequest c.now (store.counters c.apiKey)).2 } },
        c.now, Function.update s.admitted c.apiKey ((s.admitted c.apiKey).add c
          (redisWindow config c.tokensUsed c.countRequest c.now (store.counters c.apiKey)).1.allowed)⟩,
        (redisWindow config c.tokensUsed c.countRequest c.now (store.counters c.apiKey)).1.allowed) := by
  obtain ⟨⟨client, concurrentRequests, bursts, localCache⟩, now, admitted⟩ := s
  obtain rfl : client = some store := hclient
  rfl

/-- All counters of every run are right, and no period of the calendar is overfull. -/
theorem redisHolds_of_reach {config : RateLimitConfig} {s : WindowRun} (h : WindowReach config (some {}) s) (apiKey : String) :
    ∃ store, s.limiter.redisClient = some store ∧ RedisHolds (store.counters apiKey) (s.admitted apiKey) ∧
      (s.admitted apiKey).Calendar config := by
  refine Machine.reach_invariant (M := windowMachine config (some {}))
    (I := fun s => ∃ store, s.limiter.redisClient = some store ∧ RedisHolds (store.counters apiKey) (s.admitted apiKey) ∧
      (s.admitted apiKey).Calendar config)
    ⟨{}, rfl, ?_, ?_⟩ ?_ h
  · rintro ⟨unit, period, index⟩
    cases unit <;> exact weight_nil
  · exact fun _ _ => ⟨Nat.zero_le _, Nat.zero_le _⟩
  · rintro s c s' allowed ⟨store, hclient, hholds, hcalendar⟩ - hstep
    obtain ⟨-, rfl⟩ := call_of_step hstep
    rw [WindowRun.call_redis hclient]
    refine ⟨_, rfl, ?_⟩
    dsimp only
    by_cases hkey : apiKey = c.apiKey
    · subst hkey
      rw [Function.update_self, Function.update_self]
      refine ⟨hholds.step c, ?_⟩
      cases hallowed : (redisWindow config c.tokensUsed c.countRequest c.now (store.counters c.apiKey)).1.allowed with
      | false => exact hcalendar
      | true => exact hcalendar.add c ((redisWindow_allowed_iff hholds _ _ _).mp hallowed)
    · rw [Function.update_of_ne hkey, Function.update_of_ne hkey]
      exact ⟨hholds, hcalendar⟩

/-! ### Windows that begin anywhere -/

section Anywhere

variable {config : RateLimitConfig} {s : WindowRun}

theorem redis_admitted_of_zero {p : Period} (hzero : p.requestLimit config = 0) (h : WindowReach config (some {}) s) (apiKey : String) :
    s.admitted apiKey = {} := by
  induction h with
  | init => rfl
  | @next s s' c allowed hs hok hstep ih =>
    obtain ⟨-, rfl⟩ := call_of_step hstep
    obtain ⟨store, hclient, hholds, -⟩ := redisHolds_of_reach hs c.apiKey
    rw [WindowRun.call_redis hclient]
    dsimp only
    by_cases hkey : apiKey = c.apiKey
    · subst hkey
      have hrefused : (redisWindow config c.tokensUsed c.countRequest c.now (store.counters c.apiKey)).1.allowed ≠ true := by
        intro hallowed
        have hroom := ((redisWindow_allowed_iff hholds _ _ _).mp hallowed p).1
        omega
      rw [Function.update_self, ih, Admitted.add, if_neg hrefused]
    · rw [Function.update_of_ne hkey, ih]

theorem exists_redis_burst (hs : WindowReach config (some {}) s) (apiKey : String) {now : ℚ} (hnow : s.now ≤ now)
    (hfresh : ∀ p : Period, weight (s.admitted apiKey).requests (fun t => p.index t = p.index now) = 0)
    (htokens : ((s.admitted apiKey).tokens.map Prod.snd).sum = 0) (n : ℕ) (hn : ∀ p : Period, n ≤ p.requestLimit config) :
    ∃ s', WindowReach config (some {}) s' ∧ s'.now ≤ now ∧
      (s'.admitted apiKey).requests = (s.admitted apiKey).requests ++ .replicate n (now, 1) ∧
      ((s'.admitted apiKey).tokens.map Prod.snd).sum = 0 := by
  induction n with
  | zero => exact ⟨s, hs, hnow, (List.append_nil _).symm, htokens⟩
  | succ n ih =>
    obtain ⟨s', hs', hnow', hrequests', htokens'⟩ := ih fun p => le_trans (Nat.le_succ n) (hn p)
    obtain ⟨store, hclient, hholds, -⟩ := redisHolds_of_reach hs' apiKey
    have hroom : ∀ p, (s'.admitted apiKey).Room config 0 now p := by
      intro p
      have hall : ∀ e ∈ List.replicate n (now, 1), p.index e.1 = p.index now := by
        intro e he
        rw [(List.mem_replicate.mp he).2]
      refine ⟨?_, ?_⟩
      · rw [hrequests', weight_append, hfresh, weight_eq_sum hall, List.map_replicate, List.sum_replicate_nat, mul_one,
          zero_add]
        exact hn p
      · have hnone : weight (s'.admitted apiKey).tokens (fun t => p.index t = p.index now) ≤ 0 := htokens' ▸ weight_le_sum
        omega
    refine ⟨_, hs'.call (c := ⟨apiKey, 0, true, now⟩) hnow', ?_⟩
    rw [WindowRun.call_redis hclient]
    dsimp only
    rw [Function.update_self, (redisWindow_allowed_iff hholds _ _ _).mpr hroom]
    refine ⟨le_refl _, ?_, ?_⟩
    · show (s'.admitted apiKey).requests ++ [(now, 1)] = _
      rw [hrequests', List.append_assoc, ← List.replicate_succ']
    · show (((s'.admitted apiKey).tokens ++ [(now, 0)]).map Prod.snd).sum = 0
      rw [List.map_append, List.sum_append, htokens']
      rfl

theorem Period.exists_min (config : RateLimitConfig) : ∃ p : Period, ∀ q : Period, p.requestLimit config ≤ q.requestLimit config := by
  let periods : Finset Period := {.minute, .hour, .day}
  have hall : ∀ q : Period, q ∈ periods := by
    intro q
    cases q <;> decide
  obtain ⟨p, -, hp⟩ := periods.exists_min_image (fun p => p.requestLimit config) ⟨.minute, hall _⟩
  exact ⟨p, fun q => hp q (hall q)⟩

/-- At the turn of a day, two periods meet: what fills the one is followed by what fills the other. -/
theorem exists_zero_limit (hsliding : ∀ s, WindowReach config (some {}) s → ∀ apiKey, (s.admitted apiKey).Sliding config) :
    ∃ p : Period, p.requestLimit config = 0 := by
  obtain ⟨p, hp⟩ := Period.exists_min config
  have hmorning : (0 : ℚ) ≤ 86399 := by norm_num
  obtain ⟨s, hs, hnow, hrequests, htokens⟩ :=
    exists_redis_burst (.init (M := windowMachine config (some {}))) "" hmorning (fun _ => rfl) rfl (p.requestLimit config) hp
  have hevening : (s.admitted "").requests = .replicate (p.requestLimit config) (86399, 1) := hrequests
  have hmidnight : ∀ q : Period, weight (s.admitted "").requests (fun t => q.index t = q.index 86400) = 0 := by
    intro q
    refine weight_eq_zero fun e he => ?_
    rw [hevening] at he
    rw [(List.mem_replicate.mp he).2]
    cases q <;> decide +kernel
  obtain ⟨s', hs', -, hrequests', -⟩ :=
    exists_redis_burst hs "" (by linarith) hmidnight htokens (p.requestLimit config) hp
  rw [hevening] at hrequests'
  obtain ⟨hlimit, -⟩ := hsliding s' hs' "" p 86399
  have hin : ∀ e ∈ (s'.admitted "").requests, 86399 ≤ e.1 ∧ e.1 < 86399 + p.length := by
    have hlength : 60 ≤ p.length := by cases p <;> norm_num [Period.length]
    intro e he
    rw [hrequests'] at he
    rcases List.mem_append.mp he with hfirst | hsecond
    · rw [(List.mem_replicate.mp hfirst).2]
      exact ⟨le_refl _, by linarith⟩
    · rw [(List.mem_replicate.mp hsecond).2]
      exact ⟨by norm_num, by linarith⟩
  rw [weight_eq_sum hin, hrequests', List.map_append, List.sum_append, List.map_replicate, List.map_replicate, List.sum_replicate_nat,
    mul_one] at hlimit
  exact ⟨p, by omega⟩

end Anywhere

/-! ## Both -/

/-- **The two windows are held to one contract.** Redis keeps it, if the periods are those of the calendar; if they may begin
    anywhere, it does not, unless it admits nothing. The process keeps either just where the minute's limits suffice. -/
theorem window_limits (config : RateLimitConfig) :
    (∀ s, WindowReach config (some {}) s → ∀ apiKey, (s.admitted apiKey).Calendar config) ∧
      ((∀ s, WindowReach config (some {}) s → ∀ apiKey, (s.admitted apiKey).Sliding config) ↔
        ∃ p : Period, p.requestLimit config = 0) ∧
      ((∀ s, WindowReach config none s → ∀ apiKey, (s.admitted apiKey).Calendar config) ↔ config.MinuteSuffices) ∧
      ((∀ s, WindowReach config none s → ∀ apiKey, (s.admitted apiKey).Sliding config) ↔ config.MinuteSuffices) := by
  refine ⟨?_, ⟨exists_zero_limit, ?_⟩, ⟨minuteSuffices_of_calendar, ?_⟩, ⟨?_, ?_⟩⟩
  · intro s hs apiKey
    obtain ⟨-, -, -, hcalendar⟩ := redisHolds_of_reach hs apiKey
    exact hcalendar
  · rintro ⟨p, hzero⟩ s hs apiKey
    rw [redis_admitted_of_zero hzero hs]
    exact fun _ _ => ⟨Nat.zero_le _, Nat.zero_le _⟩
  · exact fun hsuffices s hs apiKey => (sliding_of_minuteSuffices hsuffices hs apiKey).calendar
  · exact fun hsliding => minuteSuffices_of_calendar fun s hs apiKey => (hsliding s hs apiKey).calendar
  · exact fun hsuffices s hs apiKey => sliding_of_minuteSuffices hsuffices hs apiKey

def onePerHour : RateLimitConfig := { requestsPerMinute := 1, requestsPerHour := 1 }

/-- **In the process there are no hours**: the second request of the hour is admitted, where Redis refuses it. -/
theorem process_knows_no_hour :
    ((((WindowRun.mk {} 0 fun _ => {}).call onePerHour ⟨"k", 5, true, 0⟩).1.call onePerHour ⟨"k", 5, true, 120⟩).2 = true ∧
      (((WindowRun.mk { redisClient := some {} } 0 fun _ => {}).call onePerHour ⟨"k", 5, true, 0⟩).1.call onePerHour
        ⟨"k", 5, true, 120⟩).2 = false) ∧
      ¬ ∀ s, WindowReach onePerHour none s → ∀ apiKey, (s.admitted apiKey).Calendar onePerHour := by
  refine ⟨⟨by decide +kernel, by decide +kernel⟩, fun hcalendar => ?_⟩
  have hfirst := WindowReach.call (.init (M := windowMachine onePerHour none)) (c := ⟨"k", 5, true, 0⟩) (by decide +kernel)
  have hsecond := hfirst.call (c := ⟨"k", 5, true, 120⟩) (by decide +kernel)
  exact absurd (hcalendar _ hsecond "k" .hour 0).1 (by decide +kernel)

end Gatewayz.Limits
