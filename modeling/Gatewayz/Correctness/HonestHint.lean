import Gatewayz.Exec.Machine
import Gatewayz.Limits.SlidingWindowCheck

/-!
# `Correctness.HonestHint` — the sliding window of `sliding_window_check`

The sorted set of a key holds one member for each call that was allowed within the window (`Tracks`): no member is written over,
because a second call of one millisecond finds the first one counted and takes another name.
-/

namespace Gatewayz.Limits

open Exec

/-! ## Names -/

theorem memberName_inj {t c t' c' : ℕ} (h : memberName t c = memberName t' c') : t = t' ∧ c = c' := by
  have hcolon : ∀ n : ℕ, ':' ∉ Nat.toDigits 10 n := fun n hmem =>
    absurd (Nat.isDigit_of_mem_toDigits (by decide) (by decide) hmem) (by decide)
  have hdigits : ∀ n n' : ℕ, Nat.toDigits 10 n = Nat.toDigits 10 n' → n = n' := fun n n' heq => by
    rw [← Nat.ofDigitChars_ten_toDigits (n := n), heq, Nat.ofDigitChars_ten_toDigits]
  have hlists : Nat.toDigits 10 t ++ ':' :: Nat.toDigits 10 c = Nat.toDigits 10 t' ++ ':' :: Nat.toDigits 10 c' := by
    have heq := congrArg String.toList h
    simpa [memberName, Nat.toString_eq_repr, Nat.toList_repr] using heq
  obtain ⟨htime, -, hcount⟩ := (List.append_cons_inj_of_notMem (hcolon t) (hcolon c)).mp hlists
  exact ⟨hdigits _ _ htime, hdigits _ _ hcount⟩

/-! ## Redis -/

namespace Redis

variable {r : Redis} {key : String} {now : ℕ}

def held (r : Redis) (key : String) : List (String × ℕ) := (r.get key).members

theorem live_put {value : SortedSet String ℕ} {expiresAt : Option ℕ} (hvalue : value.card ≠ 0)
    (halive : expiresAt.all fun t => r.clock ≤ t) : (r.put key value expiresAt).live key = some ⟨value, expiresAt⟩ := by
  unfold live put
  dsimp only
  rw [Function.update_self, if_neg hvalue, Option.filter_some, if_pos]
  exact halive

theorem held_put {value : SortedSet String ℕ} {expiresAt : Option ℕ} (halive : expiresAt.all fun t => r.clock ≤ t) :
    (r.put key value expiresAt).held key = value.members := by
  by_cases hvalue : value.card = 0
  · have hmembers : value.members = [] := List.eq_nil_of_length_eq_zero hvalue
    unfold held get live put
    dsimp only
    rw [Function.update_self, if_pos hvalue, hmembers]
    rfl
  · unfold held get
    rw [live_put hvalue halive]
    rfl

theorem live_alive : ((r.live key).bind StoredSet.expiresAt).all fun t => r.clock ≤ t := by
  unfold live
  cases hstored : r.sets key with
  | none => rfl
  | some stored =>
    rw [Option.filter_some]
    cases halive : stored.alive r.clock with
    | false => rfl
    | true => exact halive

theorem held_zremrangebyscore {low high : ℤ} :
    (r.zremrangebyscore key low high).held key = (r.held key).filter fun m => !(decide (low ≤ m.2) && decide ((m.2 : ℤ) ≤ high)) :=
  held_put live_alive

variable {member : String} {score : ℕ}

theorem card_add_ne_zero {s : SortedSet String ℕ} : (s.add member score).card ≠ 0 := by
  unfold SortedSet.card SortedSet.add
  dsimp only
  rw [List.orderedInsert_length]
  exact Nat.succ_ne_zero _

theorem sets_expire_zadd {score seconds : ℕ} : ((r.zadd key member score).expire key seconds).sets key =
      some ⟨(r.get key).add member score, some (r.clock + 1000 * seconds)⟩ := by
  have hlive : (r.zadd key member score).live key =
      some ⟨(r.get key).add member score, (r.live key).bind StoredSet.expiresAt⟩ := live_put card_add_ne_zero live_alive
  unfold expire
  dsimp only
  rw [Function.update_self, hlive]
  rfl

theorem held_expire_zadd {score seconds : ℕ} :
    ((r.zadd key member score).expire key seconds).held key = ((r.get key).add member score).members := by
  have halive : ((r.zadd key member score).expire key seconds).live key =
      some ⟨(r.get key).add member score, some (r.clock + 1000 * seconds)⟩ := by
    unfold live
    rw [sets_expire_zadd, Option.filter_some, if_pos]
    exact decide_eq_true (Nat.le_add_right r.clock _)
  unfold held get
  rw [halive]
  rfl

theorem held_later (key : String) (h : r.clock ≤ now) : { r with clock := now }.held key = r.held key ∨
      { r with clock := now }.held key = [] ∧ ∃ stored t, r.sets key = some stored ∧ stored.expiresAt = some t ∧ t < now := by
  unfold held get live
  dsimp only
  cases hstored : r.sets key with
  | none => exact .inl rfl
  | some stored =>
    rw [Option.filter_some, Option.filter_some]
    unfold StoredSet.alive
    cases hexpires : stored.expiresAt with
    | none => exact .inl rfl
    | some t =>
      rw [Option.all_some, Option.all_some]
      by_cases hlater : now ≤ t
      · rw [if_pos (decide_eq_true hlater), if_pos (decide_eq_true (le_trans h hlater))]
        exact .inl rfl
      · rw [if_neg (by simpa using hlater)]
        exact .inr ⟨rfl, stored, t, rfl, hexpires, not_le.mp hlater⟩

end Redis

/-! ## Calls one after the other -/

/-- Redis after some calls, and when a call was allowed. -/
structure SlidingRun where
  redis : Redis := {}
  allowed : List ℕ := []

/-- A call at a moment. The clock does not go back. -/
def slidingMachine (failOpen : Bool) (key : String) (limit windowSeconds : ℕ) : Machine SlidingRun ℕ SlidingVerdict where
  init := {}
  step s now :=
    if now < s.redis.clock then none
    else
      match (slidingWindowCheck (ξ := Empty) failOpen now key limit windowSeconds).run Redis.exec [] { s.redis with clock := now } with
      | (.ok verdict, _, redis) => some (⟨redis, if verdict.allowed then s.allowed ++ [now] else s.allowed⟩, verdict)
      | (.error _, _, _) => none

def inWindow (windowSeconds : ℕ) (allowed : List ℕ) (now : ℕ) : List ℕ := allowed.filter fun t => now < t + 1000 * windowSeconds

/-- A call with Redis, as a function of what is there. -/
theorem run_check (failOpen : Bool) (now : ℕ) (key : String) (limit windowSeconds : ℕ) {r : Redis} (hclient : r.client = true) :
    (slidingWindowCheck (ξ := Empty) failOpen now key limit windowSeconds).run Redis.exec [] r =
      let trimmed := r.zremrangebyscore key 0 ((now : ℤ) - windowSeconds * 1000)
      if limit ≤ trimmed.zcard key then
        (.ok ⟨false, 0, some (retryHint windowSeconds now (trimmed.get key).lowest)⟩, [], trimmed)
      else
        (.ok ⟨true, limit - trimmed.zcard key - 1, none⟩, [],
          (trimmed.zadd key (memberName now (trimmed.zcard key)) now).expire key (windowSeconds + 1)) := by
  unfold slidingWindowCheck
  rw [Prog.run_bind]
  have hask : ((askRedis .getRedisClient).attempt : Prog Empty RedisStmt RedisRes (Except Empty Bool)).run Redis.exec [] r =
      (.ok (.ok r.client), [], r) := rfl
  rw [hask, hclient]
  dsimp only
  rw [Prog.run_tryCatch, Prog.run_bind]
  have htrim : (askRedis (.trimAndCount key ((now : ℤ) - windowSeconds * 1000)) : Prog Empty RedisStmt RedisRes ℕ).run Redis.exec
      [] r = (.ok ((r.zremrangebyscore key 0 ((now : ℤ) - windowSeconds * 1000)).zcard key), [],
        r.zremrangebyscore key 0 ((now : ℤ) - windowSeconds * 1000)) := rfl
  rw [htrim]
  dsimp only
  by_cases hfull : limit ≤ (r.zremrangebyscore key 0 ((now : ℤ) - windowSeconds * 1000)).zcard key
  · rw [if_pos hfull, if_pos hfull]
    rfl
  · rw [if_neg hfull, if_neg hfull]
    rfl

/-! ## What the set holds -/

section Tracks

variable {failOpen : Bool} {key : String} {limit windowSeconds : ℕ} {s s' : SlidingRun} {now later : ℕ}

theorem inWindow_append {allowed : List ℕ} {t : ℕ} :
    inWindow windowSeconds (allowed ++ [t]) now = inWindow windowSeconds allowed now ++ inWindow windowSeconds [t] now :=
  List.filter_append ..

theorem inWindow_inWindow (allowed : List ℕ) (h : now ≤ later) :
    inWindow windowSeconds (inWindow windowSeconds allowed now) later = inWindow windowSeconds allowed later := by
  unfold inWindow
  rw [List.filter_filter]
  refine List.filter_congr fun t _ => ?_
  rw [Bool.eq_iff_iff, Bool.and_eq_true, decide_eq_true_eq, decide_eq_true_eq]
  omega

def SlidingRun.scores (s : SlidingRun) (key : String) : List ℕ := (s.redis.held key).map Prod.snd

/-- The set holds what was allowed: in the window the scores are the moments, each under a name of its own. -/
structure Tracks (key : String) (windowSeconds : ℕ) (s : SlidingRun) : Prop where
  client : s.redis.client = true
  past : ∀ t ∈ s.allowed, t ≤ s.redis.clock
  expiry : ∀ stored, s.redis.sets key = some stored →
    ∃ e, stored.expiresAt = some e ∧ ∀ t ∈ s.allowed, t + 1000 * windowSeconds ≤ e
  scores : (inWindow windowSeconds (s.scores key) s.redis.clock).Perm (inWindow windowSeconds s.allowed s.redis.clock)
  names : ∀ m ∈ s.redis.held key, s.redis.clock < m.2 + 1000 * windowSeconds →
    m.2 ≤ s.redis.clock ∧ ∃ c, m.1 = memberName m.2 c ∧
      (m.2 = s.redis.clock → c < (inWindow windowSeconds s.allowed s.redis.clock).length)

def trimmed (key : String) (windowSeconds : ℕ) (s : SlidingRun) (now : ℕ) : Redis :=
  { s.redis with clock := now }.zremrangebyscore key 0 ((now : ℤ) - windowSeconds * 1000)

theorem held_trimmed : (trimmed key windowSeconds s now).held key =
    ({ s.redis with clock := now }.held key).filter fun m => now < m.2 + 1000 * windowSeconds := by
  unfold trimmed
  rw [Redis.held_zremrangebyscore]
  refine List.filter_congr fun m _ => ?_
  rw [Bool.eq_iff_iff, Bool.not_eq_true', Bool.and_eq_false_iff, decide_eq_false_iff_not, decide_eq_false_iff_not,
    decide_eq_true_eq]
  omega

/-- What a call counts is what was allowed. -/
theorem Tracks.scores_trimmed (h : Tracks key windowSeconds s) (hnow : s.redis.clock ≤ now) :
    (((trimmed key windowSeconds s now).held key).map Prod.snd).Perm (inWindow windowSeconds s.allowed now) := by
  have hmap : ((trimmed key windowSeconds s now).held key).map Prod.snd =
      inWindow windowSeconds (({ s.redis with clock := now }.held key).map Prod.snd) now := by
    rw [held_trimmed]
    unfold inWindow
    rw [List.filter_map]
    rfl
  rw [hmap]
  rcases Redis.held_later key hnow with hkept | ⟨hgone, stored, e, hstored, hexpires, hlate⟩
  · rw [hkept, ← inWindow_inWindow ((s.redis.held key).map Prod.snd) hnow,
      ← inWindow_inWindow s.allowed hnow]
    exact h.scores.filter _
  · -- the key has expired, and so has all that was in it
    obtain ⟨e', hexpires', hall⟩ := h.expiry stored hstored
    obtain rfl : e = e' := Option.some.inj (hexpires.symm.trans hexpires')
    have hnone : inWindow windowSeconds s.allowed now = [] := by
      refine List.filter_eq_nil_iff.mpr fun t ht => ?_
      rw [decide_eq_true_eq]
      have := hall t ht
      omega
    rw [hgone, hnone]
    exact .nil

theorem Tracks.zcard_trimmed (h : Tracks key windowSeconds s) (hnow : s.redis.clock ≤ now) :
    (trimmed key windowSeconds s now).zcard key = (inWindow windowSeconds s.allowed now).length := by
  rw [← (h.scores_trimmed hnow).length_eq, List.length_map]
  rfl

theorem mem_held_of_trimmed (hnow : s.redis.clock ≤ now) {m : String × ℕ} (hm : m ∈ (trimmed key windowSeconds s now).held key) :
    m ∈ s.redis.held key ∧ now < m.2 + 1000 * windowSeconds := by
  rw [held_trimmed, List.mem_filter, decide_eq_true_eq] at hm
  rcases Redis.held_later key hnow with hkept | ⟨hgone, -⟩
  · rw [hkept] at hm
    exact hm
  · rw [hgone] at hm
    exact absurd hm.1 List.not_mem_nil

theorem Tracks.name_of_trimmed (h : Tracks key windowSeconds s) (hnow : s.redis.clock ≤ now) {m : String × ℕ}
    (hm : m ∈ (trimmed key windowSeconds s now).held key) :
    m.2 ≤ now ∧ ∃ c, m.1 = memberName m.2 c ∧ (m.2 = now → c < (inWindow windowSeconds s.allowed now).length) := by
  obtain ⟨hheld, hlive⟩ := mem_held_of_trimmed hnow hm
  obtain ⟨hpast, c, hc, hlt⟩ := h.names m hheld (by omega)
  refine ⟨le_trans hpast hnow, c, hc, fun htime => ?_⟩
  have hclock : s.redis.clock = now := le_antisymm hnow (htime ▸ hpast)
  have hcount := hlt (by omega)
  rw [hclock] at hcount
  exact hcount

theorem Tracks.name_free (h : Tracks key windowSeconds s) (hnow : s.redis.clock ≤ now) :
    memberName now ((trimmed key windowSeconds s now).zcard key) ∉ ((trimmed key windowSeconds s now).held key).map Prod.fst := by
  intro hmem
  obtain ⟨m, hm, hname⟩ := List.mem_map.mp hmem
  obtain ⟨-, c, hc, hlt⟩ := h.name_of_trimmed hnow hm
  obtain ⟨htime, hcount⟩ := memberName_inj (hname.symm.trans hc)
  rw [h.zcard_trimmed hnow] at hcount
  have hbefore := hlt htime.symm
  omega

theorem Tracks.refused (h : Tracks key windowSeconds s) (hnow : s.redis.clock ≤ now) :
    Tracks key windowSeconds ⟨trimmed key windowSeconds s now, s.allowed⟩ where
  client := h.client
  past := fun t ht => le_trans (h.past t ht) hnow
  expiry := by
    intro stored hstored
    unfold trimmed Redis.zremrangebyscore Redis.put at hstored
    dsimp only at hstored
    rw [Function.update_self] at hstored
    split at hstored
    · cases hstored
    next hcard =>
      cases hstored
      -- what has members was there before, and has its expiry from there
      cases hlive : { s.redis with clock := now }.live key with
      | none =>
        refine absurd ?_ hcard
        unfold Redis.get
        rw [hlive]
        rfl
      | some stored =>
        exact h.expiry stored (Option.filter_eq_some_iff.mp hlive).1
  scores := by
    refine ((h.scores_trimmed hnow).filter _).trans ?_
    show (inWindow windowSeconds (inWindow windowSeconds s.allowed now) now).Perm _
    rw [inWindow_inWindow _ (le_refl now)]
    exact .refl _
  names := fun _ hm _ => h.name_of_trimmed hnow hm

theorem Tracks.added (h : Tracks key windowSeconds s) (hnow : s.redis.clock ≤ now) : Tracks key windowSeconds
      ⟨((trimmed key windowSeconds s now).zadd key (memberName now ((trimmed key windowSeconds s now).zcard key)) now).expire key
        (windowSeconds + 1), s.allowed ++ [now]⟩ where
  client := h.client
  past := by
    intro t ht
    rcases List.mem_append.mp ht with ht | ht
    · exact le_trans (h.past t ht) hnow
    · exact le_of_eq (List.mem_singleton.mp ht)
  expiry := by
    intro stored hstored
    rw [Redis.sets_expire_zadd] at hstored
    cases hstored
    refine ⟨_, rfl, fun t ht => ?_⟩
    have hpast : t ≤ now := by
      rcases List.mem_append.mp ht with ht | ht
      · exact le_trans (h.past t ht) hnow
      · exact le_of_eq (List.mem_singleton.mp ht)
    show t + 1000 * windowSeconds ≤ now + 1000 * (windowSeconds + 1)
    omega
  scores := by
    have hperm := (SortedSet.perm_add now (h.name_free hnow)).map Prod.snd
    unfold SlidingRun.scores
    rw [Redis.held_expire_zadd]
    refine (hperm.filter _).trans ?_
    show (inWindow windowSeconds ([now] ++ ((trimmed key windowSeconds s now).held key).map Prod.snd) now).Perm
      (inWindow windowSeconds (s.allowed ++ [now]) now)
    have hrest := (h.scores_trimmed hnow).filter fun t => now < t + 1000 * windowSeconds
    rw [inWindow_append]
    refine List.Perm.trans ?_ List.perm_append_comm
    unfold inWindow at *
    rw [List.filter_append]
    refine List.Perm.append_left _ (hrest.trans ?_)
    rw [List.filter_filter]
    simp
  names := by
    intro m hm hlive
    rw [Redis.held_expire_zadd] at hm
    have hlive' : now < m.2 + 1000 * windowSeconds := hlive
    have hlength : (inWindow windowSeconds (s.allowed ++ [now]) now).length =
        (inWindow windowSeconds s.allowed now).length + (inWindow windowSeconds [now] now).length := by
      rw [inWindow_append, List.length_append]
    rcases List.mem_cons.mp ((SortedSet.perm_add now (h.name_free hnow)).mem_iff.mp hm) with rfl | hm
    · refine ⟨le_refl now, _, rfl, fun _ => ?_⟩
      show _ < (inWindow windowSeconds (s.allowed ++ [now]) now).length
      have hself : inWindow windowSeconds [now] now = [now] := List.filter_eq_self.mpr fun t ht => by
        rw [List.mem_singleton.mp ht]
        exact decide_eq_true hlive'
      rw [hlength, h.zcard_trimmed hnow, hself]
      exact Nat.lt_succ_self _
    · obtain ⟨hpast, c, hc, hlt⟩ := h.name_of_trimmed hnow hm
      refine ⟨hpast, c, hc, fun htime => ?_⟩
      have hcount := hlt htime
      show c < (inWindow windowSeconds (s.allowed ++ [now]) now).length
      omega

theorem Tracks.hint (h : Tracks key windowSeconds s) (hnow : s.redis.clock ≤ now)
    (hfull : 0 < (inWindow windowSeconds s.allowed now).length) : ∃ t ∈ inWindow windowSeconds s.allowed now,
      (t : ℤ) + 1000 * windowSeconds < now + 1000 * retryHint windowSeconds now ((trimmed key windowSeconds s now).get key).lowest := by
  cases hlowest : ((trimmed key windowSeconds s now).get key).lowest with
  | none =>
    have hcard := SortedSet.lowest_eq_none hlowest
    have hcount := h.zcard_trimmed hnow
    unfold Redis.zcard at hcount
    omega
  | some oldest =>
    obtain ⟨hmem, -⟩ := SortedSet.lowest_le hlowest
    have hwindow := (h.scores_trimmed hnow).mem_iff.mp (List.mem_map_of_mem hmem)
    refine ⟨oldest.2, hwindow, ?_⟩
    have hlive : now < oldest.2 + 1000 * windowSeconds := of_decide_eq_true (List.mem_filter.mp hwindow).2
    unfold retryHint
    dsimp only
    have hdiv := Int.tdiv_eq_ediv_of_nonneg (a := (oldest.2 : ℤ) + windowSeconds * 1000 - now) (b := 1000) (by omega)
    rw [hdiv]
    omega

/-- A call: it is allowed just if the window has room, and a refusal says when some of it will have left. -/
theorem step_spec (failOpen : Bool) (h : Tracks key windowSeconds s) (hlimit : 1 ≤ limit) (hnow : s.redis.clock ≤ now) :
    ∃ s' verdict, (slidingMachine failOpen key limit windowSeconds).step s now = some (s', verdict) ∧
      Tracks key windowSeconds s' ∧ s'.redis.clock = now ∧
      ((inWindow windowSeconds s.allowed now).length < limit → verdict.allowed = true ∧ s'.allowed = s.allowed ++ [now]) ∧
      (limit ≤ (inWindow windowSeconds s.allowed now).length → verdict.allowed = false ∧ s'.allowed = s.allowed ∧
        ∃ retry, verdict.retryAfter = some retry ∧
          ∃ t ∈ inWindow windowSeconds s.allowed now, (t : ℤ) + 1000 * windowSeconds < now + 1000 * retry) := by
  have hstep := run_check failOpen now key limit windowSeconds (r := { s.redis with clock := now }) h.client
  change _ = (if limit ≤ (trimmed key windowSeconds s now).zcard key then _ else _) at hstep
  have hcount := h.zcard_trimmed hnow
  by_cases hfull : limit ≤ (inWindow windowSeconds s.allowed now).length
  · rw [if_pos (by rw [hcount]; exact hfull)] at hstep
    refine ⟨⟨trimmed key windowSeconds s now, s.allowed⟩,
      ⟨false, 0, some (retryHint windowSeconds now ((trimmed key windowSeconds s now).get key).lowest)⟩, ?_, h.refused hnow, rfl,
      fun hroom => absurd hfull (not_le.mpr hroom), fun _ => ⟨rfl, rfl, _, rfl, h.hint hnow (by omega)⟩⟩
    simp only [slidingMachine]
    rw [if_neg (not_lt.mpr hnow), hstep]
    rfl
  · rw [if_neg (by rw [hcount]; exact hfull)] at hstep
    refine ⟨_, ⟨true, limit - (trimmed key windowSeconds s now).zcard key - 1, none⟩, ?_, h.added hnow, rfl,
      fun _ => ⟨rfl, rfl⟩, fun hroom => absurd hroom hfull⟩
    simp only [slidingMachine]
    rw [if_neg (not_lt.mpr hnow), hstep]
    rfl

end Tracks

/-! ## All calls -/

/-- No window is over the limit, wherever it begins. -/
def WithinLimit (limit windowSeconds : ℕ) (allowed : List ℕ) : Prop :=
  ∀ a, allowed.countP (fun t => a ≤ t ∧ t < a + 1000 * windowSeconds) ≤ limit

/-- The set has lost nothing that was allowed within the window: as many members as calls, of each moment. -/
def NoneOverwritten (key : String) (windowSeconds : ℕ) (s : SlidingRun) : Prop :=
  ∀ t, s.redis.clock < t + 1000 * windowSeconds → (s.scores key).count t = s.allowed.count t

def HonestHint (failOpen : Bool) (key : String) (limit windowSeconds : ℕ) (s : SlidingRun) : Prop :=
  ∀ now s' verdict, (slidingMachine failOpen key limit windowSeconds).step s now = some (s', verdict) → verdict.allowed = false →
    ∃ retry later : ℕ, verdict.retryAfter = some (retry : ℤ) ∧ later = now + 1000 * retry ∧
      ∃ s'' verdict', (slidingMachine failOpen key limit windowSeconds).step s' later = some (s'', verdict') ∧
        verdict'.allowed = true

section Runs

variable {failOpen : Bool} {key : String} {limit windowSeconds : ℕ} {s : SlidingRun} {now : ℕ}

theorem tracks_init : Tracks key windowSeconds {} where
  client := rfl
  past := fun _ ht => absurd ht List.not_mem_nil
  expiry := fun _ h => absurd h.symm (Option.some_ne_none _)
  scores := .nil
  names := fun _ hm => absurd hm List.not_mem_nil

theorem length_inWindow_le (h : Tracks key windowSeconds s) (hwithin : WithinLimit limit windowSeconds s.allowed)
    (hnow : s.redis.clock ≤ now) : (inWindow windowSeconds s.allowed now).length ≤ limit := by
  refine le_trans ?_ (hwithin (now + 1 - 1000 * windowSeconds))
  rw [inWindow, ← List.countP_eq_length_filter]
  refine List.countP_mono_left fun t ht hlive => ?_
  have hpast := h.past t ht
  rw [decide_eq_true_eq] at hlive ⊢
  omega

theorem WithinLimit.append (hwithin : WithinLimit limit windowSeconds s.allowed)
    (hroom : (inWindow windowSeconds s.allowed now).length < limit) : WithinLimit limit windowSeconds (s.allowed ++ [now]) := by
  intro a
  rw [List.countP_append, List.countP_singleton]
  split
  · next hin =>
    rw [decide_eq_true_eq] at hin
    have hle : s.allowed.countP (fun t => a ≤ t ∧ t < a + 1000 * windowSeconds) ≤
        (inWindow windowSeconds s.allowed now).length := by
      rw [inWindow, ← List.countP_eq_length_filter]
      refine List.countP_mono_left fun t _ ht => ?_
      rw [decide_eq_true_eq] at ht ⊢
      omega
    omega
  · exact hwithin a

theorem Tracks.noneOverwritten (h : Tracks key windowSeconds s) : NoneOverwritten key windowSeconds s := by
  intro t hlive
  have hcounted : ∀ moments : List ℕ, (inWindow windowSeconds moments s.redis.clock).count t = moments.count t :=
    fun moments => List.count_filter (decide_eq_true hlive)
  have hcount := h.scores.count_eq t
  rwa [hcounted, hcounted] at hcount

theorem Tracks.honestHint (h : Tracks key windowSeconds s) (hlimit : 1 ≤ limit)
    (hwithin : WithinLimit limit windowSeconds s.allowed) : HonestHint failOpen key limit windowSeconds s := by
  intro now s' verdict hstep hrefused
  have hnow : s.redis.clock ≤ now := by
    by_contra hback
    simp only [slidingMachine] at hstep
    rw [if_pos (not_le.mp hback)] at hstep
    cases hstep
  obtain ⟨s₁, v₁, hstep₁, htracks, hclock, hroom, hfull⟩ := step_spec failOpen h hlimit hnow
  obtain ⟨rfl, rfl⟩ := Prod.mk.inj (Option.some.inj (hstep.symm.trans hstep₁))
  have hcount : limit ≤ (inWindow windowSeconds s.allowed now).length := by
    by_contra hless
    rw [(hroom (not_le.mp hless)).1] at hrefused
    cases hrefused
  obtain ⟨-, hallowed, retry, hretry, t, ht, hleft⟩ := hfull hcount
  have hlive : now < t + 1000 * windowSeconds := of_decide_eq_true (List.mem_filter.mp ht).2
  obtain ⟨n, rfl⟩ := Int.eq_ofNat_of_zero_le (a := retry) (by omega)
  refine ⟨n, now + 1000 * n, hretry, rfl, ?_⟩
  obtain ⟨s₂, v₂, hstep₂, -, -, hroom₂, -⟩ := step_spec failOpen htracks hlimit (show s'.redis.clock ≤ now + 1000 * n by omega)
  refine ⟨s₂, v₂, hstep₂, (hroom₂ ?_).1⟩
  -- one of at most `limit` has left
  have hfewer : (inWindow windowSeconds (inWindow windowSeconds s.allowed now) (now + 1000 * n)).length <
      (inWindow windowSeconds s.allowed now).length := by
    refine List.length_filter_lt_length_iff_exists.mpr ⟨t, ht, ?_⟩
    rw [decide_eq_true_eq]
    omega
  rw [inWindow_inWindow _ (Nat.le_add_right _ _)] at hfewer
  rw [hallowed]
  exact lt_of_lt_of_le hfewer (length_inWindow_le h hwithin hnow)

end Runs

/-- **`sliding_window_check`**, in every run of calls on a key: no window is over its limit, no allowed call is written over, and
every refusal says when to come back. -/
theorem sliding_window_honest (failOpen : Bool) (key : String) {limit : ℕ} (hlimit : 1 ≤ limit) (windowSeconds : ℕ) {s : SlidingRun}
    (h : (slidingMachine failOpen key limit windowSeconds).Reach (fun _ _ => True) s) :
    WithinLimit limit windowSeconds s.allowed ∧ NoneOverwritten key windowSeconds s ∧
      HonestHint failOpen key limit windowSeconds s := by
  have hinv : Tracks key windowSeconds s ∧ WithinLimit limit windowSeconds s.allowed := by
    refine Machine.reach_invariant (I := fun s => Tracks key windowSeconds s ∧ WithinLimit limit windowSeconds s.allowed)
      ⟨tracks_init, fun a => Nat.zero_le _⟩ ?_ h
    rintro s now s' verdict ⟨htracks, hwithin⟩ - hstep
    have hnow : s.redis.clock ≤ now := by
      by_contra hback
      simp only [slidingMachine] at hstep
      rw [if_pos (not_le.mp hback)] at hstep
      cases hstep
    obtain ⟨s₁, v₁, hstep₁, htracks', -, hroom, hfull⟩ := step_spec failOpen htracks hlimit hnow
    obtain ⟨rfl, rfl⟩ := Prod.mk.inj (Option.some.inj (hstep.symm.trans hstep₁))
    refine ⟨htracks', ?_⟩
    by_cases hcount : limit ≤ (inWindow windowSeconds s.allowed now).length
    · rw [(hfull hcount).2.1]
      exact hwithin
    · rw [(hroom (not_le.mp hcount)).2]
      exact hwithin.append (not_le.mp hcount)
  exact ⟨hinv.2, hinv.1.noneOverwritten, hinv.1.honestHint hlimit hinv.2⟩

/-- Two calls of one millisecond fill a window of a minute; the third is told to wait, and is let in then. -/
def threeArrivals : List ℕ := [5000, 5000, 5400, 66400]

def arrived (arrivals : List ℕ) : SlidingRun :=
  (((slidingMachine true "k" 2 60).run {} arrivals).map Prod.fst).getD {}

example : ((slidingMachine true "k" 2 60).run {} threeArrivals).map Prod.snd =
    some [⟨true, 1, none⟩, ⟨true, 0, none⟩, ⟨false, 0, some 60⟩, ⟨true, 1, none⟩] := by
  decide +kernel

theorem sliding_window_honest_arrivals :
    WithinLimit 2 60 (arrived threeArrivals).allowed ∧ NoneOverwritten "k" 60 (arrived threeArrivals) ∧
      HonestHint true "k" 2 60 (arrived threeArrivals) := by
  have hreach : (slidingMachine true "k" 2 60).Reach (fun _ _ => True) (arrived threeArrivals) := by
    obtain ⟨p, hp⟩ : ∃ p, (slidingMachine true "k" 2 60).run {} threeArrivals = some p :=
      Option.isSome_iff_exists.mp (by decide +kernel)
    have harrived : arrived threeArrivals = p.1 := by
      unfold arrived
      rw [hp]
      rfl
    rw [harrived]
    exact Machine.reach_of_run .init threeArrivals p.2 (by decide +kernel) hp
  exact sliding_window_honest true "k" (by decide) 60 hreach

end Gatewayz.Limits
