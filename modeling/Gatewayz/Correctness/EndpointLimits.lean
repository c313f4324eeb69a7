import Gatewayz.Limits.Endpoints
import Mathlib.Data.List.TakeWhile

/-!
# `Correctness.EndpointLimits` — what the limiters of single endpoints let through

The limiter of sign-ins looks back from each attempt: no window holds more attempts than its limit, and whoever waits as long as he is
told finds room (`auth_limits`). The limiter of an endpoint counts in windows of the clock: less than a window lets through twice its
limit at most, and whoever waits a second longer than he is told finds an empty bucket (`endpoint_limits`).
-/

namespace Gatewayz.Limits

open Exec

/-! ## Attempts to sign in -/

theorem int_of_nonneg {x : ℚ} (h : 0 ≤ x) : int x = ⌊x⌋ := if_pos h

def stamps (timestamps : List ℚ) : Log := timestamps.map fun t => (t, 1)

/-- What is kept of an address are its attempts of the last window and perhaps older ones, in order, and no window holds more than
    the limit. -/
structure AuthHolds (limit window : ℕ) (now : ℚ) (timestamps : List ℚ) (log : Log) : Prop where
  kept : ∃ old : Log, log = old ++ stamps timestamps ∧ ∀ e ∈ old, e.1 < now - window
  sorted : timestamps.Pairwise (· ≤ ·)
  past : ∀ t ∈ timestamps, t ≤ now
  bound : ∀ a b : ℚ, b - a ≤ window → weight log (fun t => a ≤ t ∧ t ≤ b) ≤ limit

section Attempts

variable {limit window : ℕ} {now later : ℚ} {timestamps : List ℚ} {log : Log}

theorem authHolds_nil (limit window : ℕ) (now : ℚ) : AuthHolds limit window now [] [] :=
  ⟨⟨[], rfl, nofun⟩, .nil, nofun, fun _ _ _ => Nat.zero_le _⟩

theorem AuthHolds.clean (h : AuthHolds limit window now timestamps log) (hlater : now ≤ later) :
    AuthHolds limit window later (timestamps.dropWhile fun ts => ts < later - window) log := by
  obtain ⟨old, hlog, hold⟩ := h.kept
  refine ⟨⟨old ++ stamps (timestamps.takeWhile fun ts => ts < later - window), ?_, fun e he => ?_⟩,
    h.sorted.sublist (List.dropWhile_sublist _), fun t ht => ?_, h.bound⟩
  · rw [hlog, List.append_assoc, stamps, stamps, stamps, ← List.map_append, List.takeWhile_append_dropWhile]
  · rcases List.mem_append.mp he with hbefore | hdropped
    · linarith [hold e hbefore]
    · obtain ⟨t, ht, rfl⟩ := List.mem_map.mp hdropped
      simpa using List.mem_takeWhile_imp ht
  · exact le_trans (h.past t ((List.dropWhile_sublist _).subset ht)) hlater

theorem le_of_mem_dropWhile {c t : ℚ} (hsorted : timestamps.Pairwise (· ≤ ·))
    (ht : t ∈ timestamps.dropWhile fun ts => ts < c) : c ≤ t := by
  induction timestamps with
  | nil => cases ht
  | cons x xs ih =>
    rw [List.pairwise_cons] at hsorted
    by_cases hx : x < c
    · rw [List.dropWhile_cons_of_pos (by simpa using hx)] at ht
      exact ih hsorted.2 ht
    · rw [List.dropWhile_cons_of_neg (by simpa using hx)] at ht
      rcases List.mem_cons.mp ht with rfl | hmem
      · exact not_lt.mp hx
      · exact le_trans (not_lt.mp hx) (hsorted.1 t hmem)

theorem weight_stamps {p : ℚ → Prop} [DecidablePred p] (h : ∀ t ∈ timestamps, p t) : weight (stamps timestamps) p = timestamps.length := by
  rw [weight_eq_sum, stamps, List.map_map]
  · simp [Function.comp_def]
  · intro e he
    obtain ⟨t, ht, rfl⟩ := List.mem_map.mp he
    exact h t ht

/-- After the cleanup, what is kept are the attempts of the last window. -/
theorem AuthHolds.recent (h : AuthHolds limit window now timestamps log) (hlater : now ≤ later) :
    weight log (fun t => later - window ≤ t) = (timestamps.dropWhile fun ts => ts < later - window).length := by
  obtain ⟨old, hlog, hold⟩ := (h.clean hlater).kept
  rw [hlog, weight_append, weight_eq_zero fun e he => not_le.mpr (hold e he), Nat.zero_add,
    weight_stamps fun t ht => le_of_mem_dropWhile h.sorted ht]

theorem AuthHolds.length_le (h : AuthHolds limit window now timestamps log) (hlater : now ≤ later) :
    (timestamps.dropWhile fun ts => ts < later - window).length ≤ limit := by
  have hclean := h.clean hlater
  obtain ⟨old, hlog, -⟩ := hclean.kept
  have hbound := h.bound (later - window) later (by linarith)
  rw [hlog, weight_append, weight_stamps fun t ht => ⟨le_of_mem_dropWhile h.sorted ht, hclean.past t ht⟩] at hbound
  omega

/-- Step: an attempt that is let through. -/
theorem AuthHolds.admit (h : AuthHolds limit window now timestamps log) (hlater : now ≤ later)
    (hroom : (timestamps.dropWhile fun ts => ts < later - window).length < limit) :
    AuthHolds limit window later ((timestamps.dropWhile fun ts => ts < later - window) ++ [later]) (log ++ [(later, 1)]) := by
  have hclean := h.clean hlater
  obtain ⟨old, hlog, hold⟩ := hclean.kept
  refine ⟨⟨old, ?_, hold⟩, ?_, fun t ht => ?_, fun a b hlength => ?_⟩
  · rw [hlog, List.append_assoc, stamps, stamps, List.map_append]
    rfl
  · exact List.pairwise_append.mpr ⟨hclean.sorted, List.pairwise_singleton _ _, fun t ht u hu =>
      List.mem_singleton.mp hu ▸ hclean.past t ht⟩
  · rcases List.mem_append.mp ht with ht | ht
    · exact hclean.past t ht
    · exact le_of_eq (List.mem_singleton.mp ht)
  · exact weight_window_append h.bound (by rw [h.recent hlater]; omega) hlength

/-- Whoever waits as long as he is told is no longer behind the oldest attempt of a full window. -/
theorem AuthHolds.hint (h : AuthHolds limit window now timestamps log) {oldest : ℚ} (hmem : timestamps.head? = some oldest)
    (hoff : oldest < later - window) (hfull : timestamps.length ≤ limit) (hlater : now ≤ later) :
    weight log (fun t => later - window ≤ t) < limit := by
  rw [h.recent hlater]
  cases timestamps with
  | nil => cases hmem
  | cons x xs =>
    cases hmem
    rw [List.dropWhile_cons_of_pos (by simpa using hoff)]
    exact lt_of_le_of_lt (List.dropWhile_sublist _).length_le hfull

theorem AuthHolds.wait (h : AuthHolds limit window now timestamps log) (hlater : now ≤ later) :
    AuthHolds limit window later timestamps log := by
  obtain ⟨old, hlog, hold⟩ := h.kept
  exact ⟨⟨old, hlog, fun e he => by linarith [hold e he]⟩, h.sorted, fun t ht => le_trans (h.past t ht) hlater, h.bound⟩

/-- Step: what one check makes of the attempts of an address. -/
theorem AuthHolds.check (h : AuthHolds limit window now timestamps log) (limitType : AuthRateLimitType) (record : Bool) (hlater : now ≤ later) :
    AuthHolds limit window later (localCheck limit window limitType record later timestamps).2
      (log ++ if record && (localCheck limit window limitType record later timestamps).1.any fun r => r.allowed then [(later, 1)] else []) := by
  have hclean := h.clean hlater
  unfold localCheck
  dsimp only
  split
  · rw [Option.any_map, if_neg (by cases record <;> simp), List.append_nil]
    exact hclean
  · next hroom =>
    cases record with
    | true => exact h.admit hlater (not_le.mp hroom)
    | false =>
      simpa only [Bool.false_and, Bool.false_eq_true, if_false, List.append_nil] using hclean

end Attempts

/-- The limiter keeps its limit and its word: no window holds more attempts than the limit; an attempt is let through if and only if
    the window before it has room, and told how much room is left; and whoever is refused finds room once he has waited as told. -/
structure AuthLimited (limit window : ℕ) (limitType : AuthRateLimitType) (since : ℚ) (timestamps : List ℚ) (log : Log) : Prop where
  windows : ∀ a b : ℚ, b - a ≤ window → weight log (fun t => a ≤ t ∧ t ≤ b) ≤ limit
  allowed : ∀ record now, since ≤ now → weight log (fun t => now - window ≤ t) < limit →
    (localCheck limit window limitType record now timestamps).1 = some
      { allowed := true, remaining := (limit : ℤ) - weight log (fun t => now - window ≤ t) - if record then 1 else 0, limitType := limitType }
  refused : ∀ record now, since ≤ now → limit ≤ weight log (fun t => now - window ≤ t) → 0 < limit →
    ∃ result hint, (localCheck limit window limitType record now timestamps).1 = some result ∧ result.allowed = false ∧
      result.retryAfter = some hint ∧ 1 ≤ hint ∧
      ∀ later : ℚ, now + hint ≤ later → weight log (fun t => later - window ≤ t) < limit

theorem AuthHolds.limited {limit window : ℕ} {now : ℚ} {timestamps : List ℚ} {log : Log}
    (h : AuthHolds limit window now timestamps log) (limitType : AuthRateLimitType) :
    AuthLimited limit window limitType now timestamps log where
  windows := h.bound
  allowed := fun record later hlater hroom => by
    rw [h.recent hlater] at hroom ⊢
    unfold localCheck
    dsimp only
    rw [if_neg (not_le.mpr hroom)]
    have hone : (if record then (1 : ℤ) else 0) ≤ 1 := by split <;> decide
    rw [max_eq_right (by omega)]
  refused := fun record later hlater hfull hpos => by
    have hclean := h.clean hlater
    have hlength := h.recent hlater
    unfold localCheck
    dsimp only
    rw [← hlength, if_pos hfull]
    cases hkept : timestamps.dropWhile fun ts => ts < later - window with
    | nil => -- not with a limit of one or more
      rw [hkept, List.length_nil] at hlength
      omega
    | cons oldest rest =>
      refine ⟨_, _, rfl, rfl, rfl, le_max_left _ _, fun next hnext => ?_⟩
      have hwithin : later - window ≤ oldest :=
        le_of_mem_dropWhile h.sorted (hkept ▸ List.mem_cons_self)
      -- `int` cuts the rest off, and the second added makes up for it
      have hhint : oldest + window - later < ((max 1 (int (oldest + window - later) + 1) : ℤ) : ℚ) := by
        have hfloor := Int.lt_floor_add_one (oldest + window - later)
        have hmax : ((int (oldest + window - later) + 1 : ℤ) : ℚ) ≤ ((max 1 (int (oldest + window - later) + 1) : ℤ) : ℚ) :=
          Int.cast_le.mpr (le_max_right _ _)
        rw [int_of_nonneg (by linarith)] at hmax ⊢
        push_cast at hmax ⊢
        linarith
      refine hclean.hint (by rw [hkept]; rfl) (by linarith) (h.length_le hlater) ?_
      have hone : (1 : ℚ) ≤ ((max 1 (int (oldest + window - later) + 1) : ℤ) : ℚ) := by exact_mod_cast le_max_left _ _
      linarith

/-- Run. -/
theorem authHolds_run {config : AuthRateLimitConfig} {s : AuthRateLimiter} (h : (authMachine config).Reach (fun _ _ => True) s)
    (key : AuthRateLimitType × String) :
    AuthHolds (config.configFor key.1).1 (config.configFor key.1).2 s.now (s.buckets key) (s.admitted key) := by
  refine Machine.reach_invariant (M := authMachine config) (I := fun s =>
    AuthHolds (config.configFor key.1).1 (config.configFor key.1).2 s.now (s.buckets key) (s.admitted key))
    (authHolds_nil _ _ _) (fun s c s' reply hI _ hstep => ?_) h
  change (if s.now ≤ c.now then some (s.call config c) else none) = some (s', reply) at hstep
  split at hstep
  · next hlater =>
    obtain rfl : (s.call config c).1 = s' := congrArg Prod.fst (Option.some.inj hstep)
    by_cases hkey : key = (c.limitType, c.identifier)
    · subst hkey
      unfold AuthRateLimiter.call
      cases c.action with
      | checkRateLimit =>
        have hcheck := hI.check c.limitType true hlater
        simpa only [Function.update_self, Bool.true_and] using hcheck
      | getRemaining =>
        have hcheck := hI.check c.limitType false hlater
        simpa only [Function.update_self, Bool.false_and, Bool.false_eq_true, if_false, List.append_nil] using hcheck
      | reset => simpa only [Function.update_self] using authHolds_nil _ _ c.now
    · -- another key: its attempts stay, only time has passed
      unfold AuthRateLimiter.call
      cases c.action <;> simpa only [Function.update_of_ne hkey] using hI.wait hlater
  · cases hstep

section Buckets

variable {window : ℕ} {a b now : ℚ} {k : ℤ}

theorem le_bucketId_iff (hwindow : 0 < window) (ha : 0 ≤ a) : k ≤ bucketId window a ↔ (k : ℚ) * window ≤ a := by
  rw [bucketId, int_of_nonneg ha, Int.le_ediv_iff_mul_le (by exact_mod_cast hwindow), Int.le_floor]
  push_cast
  rfl

theorem bucketId_mono (hwindow : 0 < window) (ha : 0 ≤ a) (hab : a ≤ b) : bucketId window a ≤ bucketId window b :=
  (le_bucketId_iff hwindow (le_trans ha hab)).mpr (le_trans ((le_bucketId_iff hwindow ha).mp (le_refl _)) hab)

theorem lt_windowEnd (hwindow : 0 < window) (ha : 0 ≤ a) : a < ((bucketId window a : ℚ) + 1) * window := by
  have hnext : ¬ bucketId window a + 1 ≤ bucketId window a := by omega
  rw [le_bucketId_iff hwindow ha, not_le] at hnext
  push_cast at hnext
  exact hnext

/-- Less than a window later it is the same bucket or the next one. -/
theorem bucketId_le_next (hwindow : 0 < window) (ha : 0 ≤ a) (hab : a ≤ b) (hlength : b - a < window) :
    bucketId window b ≤ bucketId window a + 1 := by
  have hend := lt_windowEnd hwindow ha
  by_contra hfar
  have hstart := (le_bucketId_iff (k := bucketId window a + 1 + 1) hwindow (le_trans ha hab)).mp (by omega)
  push_cast at hstart
  linarith

theorem cleanup_store {buckets : EndpointBuckets} (apiKey : String) (hk : bucketId window now ≤ k) :
    (cleanupStaleBuckets window now buckets).store (apiKey, k) = buckets.store (apiKey, k) := by
  unfold cleanupStaleBuckets
  split
  · rfl
  · cases hcount : buckets.store (apiKey, k) <;> simp [hcount, hk]

end Buckets

def inBucket (window : ℕ) (log : List ℚ) (k : ℤ) : ℕ := log.countP fun t => bucketId window t = k

/-- The counters are right from the current bucket on, whatever was cleaned up, and no bucket is overfull. -/
structure EndpointHolds (maxRequests window : ℕ) (s : Endpoint) : Prop where
  clock : 0 ≤ s.now
  past : ∀ apiKey, ∀ t ∈ s.admitted apiKey, 0 ≤ t ∧ t ≤ s.now
  exact : ∀ apiKey k, bucketId window s.now ≤ k → (s.buckets.store (apiKey, k)).getD 0 = inBucket window (s.admitted apiKey) k
  bound : ∀ apiKey k, inBucket window (s.admitted apiKey) k ≤ maxRequests

section Endpoints

variable {maxRequests window : ℕ} {s s' : Endpoint} {apiKey : String} {c : EndpointCall} {verdict : EndpointVerdict}

theorem inBucket_update (admitted : String → List ℚ) (key apiKey : String) (now : ℚ) (k : ℤ) :
    inBucket window (Function.update admitted key (admitted key ++ [now]) apiKey) k =
      inBucket window (admitted apiKey) k + if (apiKey, k) = (key, bucketId window now) then 1 else 0 := by
  by_cases hkey : apiKey = key
  · subst hkey
    simp [inBucket, List.countP_append, List.countP_singleton, eq_comm]
  · simp [hkey]

/-- Step. -/
theorem EndpointHolds.step (hwindow : 0 < window) (h : EndpointHolds maxRequests window s)
    (hstep : (endpointMachine maxRequests window).step s c = some (s', verdict)) : EndpointHolds maxRequests window s' := by
  obtain ⟨hclock, hpast, hexact, hbound⟩ := h
  simp only [endpointMachine] at hstep
  split at hstep
  · next hmoments =>
    obtain ⟨hnow, hcleanup⟩ := hmoments
    have hmono := bucketId_mono hwindow hclock hnow
    have hmono' := bucketId_mono hwindow (le_trans hclock hnow) hcleanup
    have hpast' : ∀ apiKey, ∀ t ∈ s.admitted apiKey, 0 ≤ t ∧ t ≤ c.cleanupAt := fun apiKey t ht =>
      ⟨(hpast apiKey t ht).1, by linarith [(hpast apiKey t ht).2]⟩
    have hcount := hexact c.apiKey _ hmono
    unfold checkEndpoint at hstep
    dsimp only at hstep
    split at hstep
    · cases hstep
      exact ⟨by linarith, hpast', fun apiKey k hk => hexact apiKey k (by dsimp only at hk; omega), hbound⟩
    · next hroom =>
      cases hstep
      refine ⟨by linarith, fun apiKey t ht => ?_, fun apiKey k hk => ?_, fun apiKey k => ?_⟩
      · by_cases hkey : apiKey = c.apiKey
        · subst hkey
          simp only [if_true, Function.update_self, List.mem_append, List.mem_singleton] at ht
          rcases ht with ht | rfl
          · exact hpast' _ t ht
          · exact ⟨by linarith, hcleanup⟩
        · simp only [if_true, Function.update_of_ne hkey] at ht
          exact hpast' _ t ht
      · -- the clean-up leaves the buckets from the current one on as they are
        simp only [if_true, inBucket_update, cleanup_store apiKey hk]
        split
        · next hown =>
          cases hown
          rw [Function.update_self, Option.getD_some, hcount]
        · next hother =>
          rw [Function.update_of_ne hother]
          exact hexact apiKey k (by dsimp only at hk; omega)
      · simp only [if_true, inBucket_update]
        split
        · next hown =>
          cases hown
          omega
        · exact hbound apiKey k
  · cases hstep

/-- Run. -/
theorem endpointHolds_run (hwindow : 0 < window) (h : (endpointMachine maxRequests window).Reach (fun _ _ => True) s) :
    EndpointHolds maxRequests window s :=
  Machine.reach_invariant (I := EndpointHolds maxRequests window)
    ⟨le_refl (0 : ℚ), fun _ _ ht => absurd ht List.not_mem_nil, fun _ _ _ => rfl, fun _ _ => Nat.zero_le _⟩
    (fun _ _ _ _ hI _ hstep => hI.step hwindow hstep) h

/-- Less than a window touches two buckets at most. -/
theorem EndpointHolds.twice (hwindow : 0 < window) (h : EndpointHolds maxRequests window s) (apiKey : String) {a b : ℚ} (ha : 0 ≤ a)
    (hlength : b - a < window) : ((s.admitted apiKey).countP fun t => a ≤ t ∧ t ≤ b) ≤ 2 * maxRequests := by
  have hsplit : ((s.admitted apiKey).countP fun t => a ≤ t ∧ t ≤ b) ≤
      inBucket window (s.admitted apiKey) (bucketId window a) + inBucket window (s.admitted apiKey) (bucketId window a + 1) := by
    unfold inBucket
    -- on the requests: one that lies between counts in one of the two buckets
    induction s.admitted apiKey with
    | nil => exact Nat.zero_le _
    | cons t ts ih =>
      rw [List.countP_cons, List.countP_cons, List.countP_cons]
      by_cases hin : a ≤ t ∧ t ≤ b
      · have hlow := bucketId_mono hwindow ha hin.1
        have hhigh := bucketId_le_next hwindow ha hin.1 (by linarith [hin.2])
        rcases (by omega : bucketId window t = bucketId window a ∨ bucketId window t = bucketId window a + 1) with hk | hk
        · simp only [hin, hk, and_self, decide_true, if_true]
          omega
        · simp only [hin, hk, and_self, decide_true, if_true]
          omega
      · simp only [hin, decide_false, Bool.false_eq_true, if_false]
        omega
  have hfirst := h.bound apiKey (bucketId window a)
  have hsecond := h.bound apiKey (bucketId window a + 1)
  omega

/-- **Requests to an endpoint are limited by the windows of the clock**: less than a window lets through twice the limit at most; a
    request is let through if and only if its bucket has room, whatever has been cleaned up, and told how much room is left; and a second
    after the time that a refusal names, the bucket is another one, and empty. -/
theorem endpoint_limits (hwindow : 0 < window) (h : (endpointMachine maxRequests window).Reach (fun _ _ => True) s) (apiKey : String) :
    (∀ a b : ℚ, 0 ≤ a → b - a < window → ((s.admitted apiKey).countP fun t => a ≤ t ∧ t ≤ b) ≤ 2 * maxRequests) ∧
      ∀ now cleanupAt : ℚ, s.now ≤ now →
        let count := inBucket window (s.admitted apiKey) (bucketId window now)
        let verdict := (checkEndpoint maxRequests window apiKey now cleanupAt s.buckets).1
        (count < maxRequests → verdict = ⟨true, maxRequests - count - 1, 0⟩) ∧
          (maxRequests ≤ count → verdict.allowed = false ∧ 1 ≤ verdict.retryAfter ∧
            ∀ later : ℚ, now + verdict.retryAfter + 1 ≤ later → inBucket window (s.admitted apiKey) (bucketId window later) = 0) := by
  have hholds := endpointHolds_run hwindow h
  refine ⟨fun a b ha hlength => hholds.twice hwindow apiKey ha hlength, fun now cleanupAt hnow => ?_⟩
  have hcount := hholds.exact apiKey _ (bucketId_mono hwindow hholds.clock hnow)
  have hpos : 0 ≤ now := le_trans hholds.clock hnow
  dsimp only
  unfold checkEndpoint
  dsimp only
  rw [hcount]
  refine ⟨fun hroom => by rw [if_neg (not_le.mpr hroom)], fun hfull => ?_⟩
  rw [if_pos hfull]
  refine ⟨rfl, le_max_left _ _, fun later hlater => ?_⟩
  have hend := lt_windowEnd hwindow hpos
  have hhint : ((bucketId window now : ℚ) + 1) * window ≤ later := by
    have hfloor := Int.lt_floor_add_one (((bucketId window now : ℚ) + 1) * window - now)
    have hmax : ((int (((bucketId window now : ℚ) + 1) * window - now) : ℤ) : ℚ) ≤
        ((max 1 (int (((bucketId window now : ℚ) + 1) * window - now)) : ℤ) : ℚ) := Int.cast_le.mpr (le_max_right _ _)
    rw [int_of_nonneg (by linarith)] at hmax hlater
    linarith
  -- `later` is in a bucket behind every request so far
  have hover : bucketId window now + 1 ≤ bucketId window later :=
    (le_bucketId_iff hwindow (by linarith)).mpr (by push_cast; exact hhint)
  refine List.countP_eq_zero.mpr fun t ht => ?_
  have hbefore := bucketId_mono hwindow (hholds.past apiKey t ht).1 (le_trans (hholds.past apiKey t ht).2 hnow)
  simp only [decide_eq_true_eq]
  omega

end Endpoints

/-- An endpoint that lets one request of a key through in a minute, after the first one. -/
def onceAMinute : Endpoint where
  buckets := (checkEndpoint 1 60 "gw_live_a" 59 59 {}).2
  now := 59
  admitted := Function.update (fun _ => []) "gw_live_a" [59]

theorem endpoint_limits_onceAMinute :
    let verdict := (checkEndpoint 1 60 "gw_live_a" (119 / 2) (119 / 2) onceAMinute.buckets).1
    verdict.allowed = false ∧ 1 ≤ verdict.retryAfter ∧ ∀ later : ℚ, 119 / 2 + verdict.retryAfter + 1 ≤ later →
      inBucket 60 (onceAMinute.admitted "gw_live_a") (bucketId 60 later) = 0 := by
  have hreach : (endpointMachine 1 60).Reach (fun _ _ => True) onceAMinute :=
    .next (e := ⟨"gw_live_a", 59, 59⟩) .init trivial
      (show (if (0 : ℚ) ≤ 59 ∧ (59 : ℚ) ≤ 59 then some _ else none) = some _ from if_pos (by norm_num))
  have hcount : 1 ≤ inBucket 60 (onceAMinute.admitted "gw_live_a") (bucketId 60 (119 / 2)) := by decide +kernel
  exact ((endpoint_limits (by decide) hreach "gw_live_a").2 (119 / 2) (119 / 2) (by norm_num [onceAMinute])).2 hcount

end Gatewayz.Limits
