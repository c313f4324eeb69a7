import Gatewayz.Correctness.AnonymousLimit
import Gatewayz.Keys.Rules
import Gatewayz.Middleware.Security

/-!
# `Correctness.PeerLimit` — how often one peer is served without a key

The middleware takes a request for one of the first address in `X-Forwarded-For`, which the client has written, and does not count
it at all if its `Authorization` looks like a key. So a peer is bounded only as long as it does neither (`Honest`), and as long as
one counter sees all of its minute: the minute is a minute of the clock, Redis answers all its requests or none, and no cleanup
that another address sets off takes the local counter away.
-/

namespace Gatewayz.Security

open Exec

/-! ## One counter -/

namespace Limiter

variable {s s' : Limiter} {K fullKey : LimitKey} {now : ℚ} {link : RedisLink} {limit : Nat}
variable {redis : LimitKey → Option Counter}

def countsLocally (s : Limiter) (link : RedisLink) (fullKey : LimitKey) (now : ℚ) : Bool :=
  match s.redis with
  | none => true
  | some redis => link.incr ≠ .served || ((incr redis fullKey now).count = 1 && link.expire ≠ .served)

def cleans (s : Limiter) (fullKey : LimitKey) (now : ℚ) : Bool :=
  (s.localCache fullKey).isNone && 300 < (⌊now⌋ : ℚ) - s.lastCleanup

/-- The cleanup, if there is one, takes no counter `K` away. -/
def Spares (s : Limiter) (K fullKey : LimitKey) (now : ℚ) : Prop :=
  s.cleans fullKey now = true → kept fullKey.key K = true ∨ s.localCache K = none

instance : Decidable (s.Spares K fullKey now) := inferInstanceAs (Decidable (_ → _))

theorem kept_self (fullKey : LimitKey) : kept fullKey.key fullKey = true := by
  have hleading := List.prefix_refl (fullKey.key ++ ":").toList
  exact List.isPrefixOf_iff_prefix.mpr hleading

theorem opened_redis : (s.opened fullKey now).redis = s.redis := by
  unfold opened
  dsimp only
  split
  · rfl
  · rfl

theorem opened_self : (s.opened fullKey now).localCache fullKey = some 0 := by
  unfold opened
  dsimp only
  split
  · show (if kept fullKey.key fullKey = true then Function.update s.localCache fullKey (some 0) fullKey else none) = some 0
    rw [if_pos (kept_self fullKey), Function.update_self]
  · exact Function.update_self _ _ _

theorem opened_of_ne (hnone : s.localCache fullKey = none) (hne : K ≠ fullKey) (hspares : s.Spares K fullKey now) :
    (s.opened fullKey now).localCache K = s.localCache K := by
  unfold opened
  dsimp only
  split
  · next hlate =>
    have hcleans : s.cleans fullKey now = true := by
      rw [cleans, hnone, decide_eq_true hlate]
      rfl
    show (if kept fullKey.key K = true then Function.update s.localCache fullKey (some 0) K else none) = _
    rw [Function.update_of_ne hne]
    rcases hspares hcleans with hkept | hgone
    · rw [if_pos hkept]
    · rw [hgone, ite_self]
  · exact Function.update_of_ne hne _ _

theorem countLocally_redis : (s.countLocally fullKey limit now).2.redis = s.redis := by
  show (if (s.localCache fullKey).isNone then s.opened fullKey now else s).redis = s.redis
  split
  · exact opened_redis
  · rfl

/-- The local counter of the request is one higher, and decides. -/
theorem countLocally_self : (s.countLocally fullKey limit now).2.localCache fullKey = some ((s.localCache fullKey).getD 0 + 1) ∧
    (s.countLocally fullKey limit now).1 = decide ((s.localCache fullKey).getD 0 + 1 ≤ limit) := by
  have hcount : ((if (s.localCache fullKey).isNone then s.opened fullKey now else s).localCache fullKey).getD 0 =
      (s.localCache fullKey).getD 0 := by
    split
    · next hnone =>
      rw [opened_self, Option.isNone_iff_eq_none.mp hnone]
      rfl
    · rfl
  unfold countLocally
  dsimp only
  rw [hcount]
  exact ⟨Function.update_self _ _ _, rfl⟩

theorem countLocally_of_ne (hne : K ≠ fullKey) (hspares : s.Spares K fullKey now) :
    (s.countLocally fullKey limit now).2.localCache K = s.localCache K := by
  unfold countLocally
  dsimp only
  rw [Function.update_of_ne hne]
  split
  · next hnone => exact opened_of_ne (Option.isNone_iff_eq_none.mp hnone) hne hspares
  · rfl

/-! ## Redis -/

def Dated (K : LimitKey) (s : Limiter) : Prop :=
  ∀ redis c t, s.redis = some redis → redis K = some c → c.expiresAt = some t → (60 * K.bucket + 120 : ℚ) ≤ t

theorem minute_le (now : ℚ) : (60 * minuteOf now : ℚ) ≤ now := by
  have hfloor : (⌊now⌋ : ℚ) ≤ now := Int.floor_le now
  have hdiv : 60 * minuteOf now ≤ ⌊now⌋ := by
    unfold minuteOf
    omega
  have hcast : ((60 * minuteOf now : ℤ) : ℚ) ≤ (⌊now⌋ : ℚ) := Int.cast_le.mpr hdiv
  push_cast at hcast
  linarith

theorem lt_minute (now : ℚ) : now < 60 * minuteOf now + 60 := by
  have hfloor : now < (⌊now⌋ : ℚ) + 1 := Int.lt_floor_add_one now
  have hdiv : ⌊now⌋ + 1 ≤ 60 * minuteOf now + 60 := by
    unfold minuteOf
    omega
  have hcast : ((⌊now⌋ + 1 : ℤ) : ℚ) ≤ ((60 * minuteOf now + 60 : ℤ) : ℚ) := Int.cast_le.mpr hdiv
  push_cast at hcast
  linarith

theorem found_eq (hdated : s.Dated ⟨fullKey.key, minuteOf now⟩) (hredis : s.redis = some redis)
    (hbucket : fullKey.bucket = minuteOf now) : found redis fullKey now = redis fullKey := by
  obtain ⟨key, bucket⟩ := fullKey
  obtain rfl : bucket = minuteOf now := hbucket
  rw [found]
  cases hc : redis ⟨key, minuteOf now⟩ with
  | none => rfl
  | some c =>
    have hall : c.expiresAt.all (fun t => decide (now < t)) = true := by
      cases ht : c.expiresAt with
      | none => rfl
      | some t =>
        have hlasts := hdated redis c t hredis hc ht
        have hlt := lt_minute now
        dsimp only at hlasts
        exact decide_eq_true (by linarith)
    rw [Option.filter_some, if_pos hall]

theorem incr_count (hdated : s.Dated ⟨fullKey.key, minuteOf now⟩) (hredis : s.redis = some redis)
    (hbucket : fullKey.bucket = minuteOf now) :
    (incr redis fullKey now).count = (redis fullKey).elim 0 Counter.count + 1 := by
  rw [incr, found_eq hdated hredis hbucket]
  cases redis fullKey with
  | none => rfl
  | some c => rfl

def Raised (s : Limiter) (fullKey : LimitKey) (now : ℚ) (s' : Limiter) : Prop :=
  ∃ redis c, s.redis = some redis ∧ c.count = (incr redis fullKey now).count ∧
    (c.expiresAt = (incr redis fullKey now).expiresAt ∨ c.expiresAt = some (now + 120)) ∧ s' = s.put redis fullKey c

/-- What `_check_limit` does. -/
theorem checkLimit_cases (s : Limiter) (link : RedisLink) (key : String) (limit : Nat) (now : ℚ) :
    (s.countsLocally link ⟨key, minuteOf now⟩ now = false ∧ Raised s ⟨key, minuteOf now⟩ now (s.checkLimit link key limit now).2 ∧
      ∃ redis, s.redis = some redis ∧
        (s.checkLimit link key limit now).1 = decide ((incr redis ⟨key, minuteOf now⟩ now).count ≤ limit)) ∨
    (s.countsLocally link ⟨key, minuteOf now⟩ now = true ∧ ∃ s', (s' = s ∨ Raised s ⟨key, minuteOf now⟩ now s') ∧
      s.checkLimit link key limit now = s'.countLocally ⟨key, minuteOf now⟩ limit now) := by
  obtain ⟨incrLink, expireLink⟩ := link
  have hraised : ∀ redis c, s.redis = some redis → c.count = (incr redis ⟨key, minuteOf now⟩ now).count →
      c.expiresAt = (incr redis ⟨key, minuteOf now⟩ now).expiresAt ∨ c.expiresAt = some (now + 120) →
      Raised s ⟨key, minuteOf now⟩ now (s.put redis ⟨key, minuteOf now⟩ c) :=
    fun redis c hredis hcount hexpires => ⟨redis, c, hredis, hcount, hexpires, rfl⟩
  unfold checkLimit countsLocally
  cases hredis : s.redis with
  | none => exact .inr ⟨rfl, s, .inl rfl, rfl⟩
  | some redis =>
    have hsame := hraised redis (incr redis ⟨key, minuteOf now⟩ now) hredis rfl (.inl rfl)
    have hnew := hraised redis { incr redis ⟨key, minuteOf now⟩ now with expiresAt := some (now + 120) } hredis rfl (.inr rfl)
    cases incrLink with
    | dropped e => exact .inr ⟨rfl, s, .inl rfl, rfl⟩
    | lost e => exact .inr ⟨rfl, _, .inr hsame, rfl⟩
    | served =>
      dsimp only
      by_cases hfirst : (incr redis ⟨key, minuteOf now⟩ now).count = 1
      · rw [if_neg (not_not.mpr hfirst)]
        cases expireLink with
        | served => exact .inl ⟨by simp, hnew, redis, rfl, rfl⟩
        | dropped e => exact .inr ⟨by simp [hfirst], _, .inr hsame, rfl⟩
        | lost e => exact .inr ⟨by simp [hfirst], _, .inr hnew, rfl⟩
      · rw [if_pos hfirst]
        exact .inl ⟨by simp [hfirst], hsame, redis, rfl, rfl⟩

/-! ## Both -/

def count (viaRedis : Bool) (K : LimitKey) (s : Limiter) : Nat :=
  if viaRedis then (s.redis.bind fun redis => redis K).elim 0 Counter.count else (s.localCache K).getD 0

theorem count_local (K : LimitKey) (s : Limiter) : count false K s = (s.localCache K).getD 0 := rfl

theorem count_redis (hredis : s.redis = some redis) : count true K s = (redis K).elim 0 Counter.count := by
  rw [count, if_pos rfl, hredis]
  rfl

theorem Raised.localCache (h : Raised s fullKey now s') : s'.localCache = s.localCache := by
  obtain ⟨redis, c, -, -, -, rfl⟩ := h
  rfl

theorem Raised.lastCleanup (h : Raised s fullKey now s') : s'.lastCleanup = s.lastCleanup := by
  obtain ⟨redis, c, -, -, -, rfl⟩ := h
  rfl

theorem Raised.count_of_ne (h : Raised s fullKey now s') (hne : K ≠ fullKey) : count true K s' = count true K s := by
  obtain ⟨redis, c, hredis, -, -, rfl⟩ := h
  rw [count_redis hredis, count_redis (s := s.put redis fullKey c) rfl, Function.update_of_ne hne]

theorem Raised.count_self (h : Raised s ⟨K.key, minuteOf now⟩ now s') (hdated : s.Dated K) (hbucket : K.bucket = minuteOf now) :
    count true K s' = count true K s + 1 := by
  obtain ⟨key, bucket⟩ := K
  obtain rfl : bucket = minuteOf now := hbucket
  obtain ⟨redis, c, hredis, hc, -, rfl⟩ := h
  rw [count_redis hredis, count_redis (s := s.put redis _ c) rfl, Function.update_self, ← incr_count hdated hredis rfl, ← hc]
  rfl

theorem Raised.dated (h : Raised s fullKey now s') (hbucket : fullKey.bucket = minuteOf now) (hdated : s.Dated K) :
    s'.Dated K := by
  obtain ⟨redis, c, hredis, -, hexpires, rfl⟩ := h
  intro redis' c' t hredis' hc' ht
  obtain rfl : Function.update redis fullKey (some c) = redis' := Option.some.inj hredis'
  by_cases hK : K = fullKey
  · subst hK
    rw [Function.update_self] at hc'
    cases hc'
    rcases hexpires with hsame | hnew
    · rw [hsame, incr] at ht
      cases hfound : found redis K now with
      | none =>
        rw [hfound] at ht
        cases ht
      | some old =>
        rw [hfound] at ht
        rw [found] at hfound
        exact hdated redis old t hredis (Option.filter_eq_some_iff.mp hfound).1 ht
    · rw [hnew] at ht
      cases ht
      have hle := minute_le now
      rw [hbucket]
      linarith
  · rw [Function.update_of_ne hK] at hc'
    exact hdated redis c' t hredis hc' ht

theorem Dated.of_redis (h : s.Dated K) (hredis : s'.redis = s.redis) : s'.Dated K := by
  intro redis c t hr
  exact h redis c t (hredis ▸ hr)

/-- A counter under a check: it never goes down, and the one that the request is counted under goes up and decides. -/
theorem checkLimit_count (link : RedisLink) (key : String) (limit : Nat) (now : ℚ) (viaRedis : Bool) (hdated : s.Dated K)
    (hspares : s.countsLocally link ⟨key, minuteOf now⟩ now = true → s.Spares K ⟨key, minuteOf now⟩ now) :
    (s.checkLimit link key limit now).2.Dated K ∧
      count viaRedis K s ≤ count viaRedis K (s.checkLimit link key limit now).2 ∧
      (K = ⟨key, minuteOf now⟩ → s.countsLocally link K now = !viaRedis →
        count viaRedis K (s.checkLimit link key limit now).2 = count viaRedis K s + 1 ∧
        (s.checkLimit link key limit now).1 = decide (count viaRedis K s + 1 ≤ limit)) := by
  have hraised_count : ∀ {s'}, Raised s ⟨key, minuteOf now⟩ now s' → count true K s ≤ count true K s' := by
    intro s' h
    by_cases hK : K = ⟨key, minuteOf now⟩
    · subst hK
      rw [h.count_self hdated rfl]
      exact Nat.le_succ _
    · rw [h.count_of_ne hK]
  rcases checkLimit_cases s link key limit now with ⟨hremote, hraised, redis, hredis, hallowed⟩ | ⟨hlocal, s', hs', heq⟩
  · refine ⟨hraised.dated rfl hdated, ?_, fun hK hvia => ?_⟩
    · cases viaRedis with
      | true => exact hraised_count hraised
      | false => rw [count_local, count_local, hraised.localCache]
    · subst hK
      rw [hremote] at hvia
      obtain rfl : viaRedis = true := by simpa using hvia.symm
      refine ⟨hraised.count_self hdated rfl, ?_⟩
      rw [hallowed, count_redis hredis, incr_count hdated hredis rfl]
  · have hcache : s'.localCache = s.localCache := by
      rcases hs' with rfl | hraised
      · rfl
      · exact hraised.localCache
    have hspares' : s'.Spares K ⟨key, minuteOf now⟩ now := by
      rcases hs' with rfl | hraised
      · exact hspares hlocal
      · have h := hspares hlocal
        unfold Spares cleans at h ⊢
        rwa [hraised.localCache, hraised.lastCleanup]
    have hdated' : s'.Dated K := by
      rcases hs' with rfl | hraised
      · exact hdated
      · exact hraised.dated rfl hdated
    rw [heq]
    refine ⟨hdated'.of_redis countLocally_redis, ?_, fun hK hvia => ?_⟩
    · cases viaRedis with
      | true =>
        have hsame : count true K (s'.countLocally ⟨key, minuteOf now⟩ limit now).2 = count true K s' := by
          unfold count
          rw [countLocally_redis]
          rfl
        rw [hsame]
        rcases hs' with rfl | hraised
        · exact le_refl _
        · exact hraised_count hraised
      | false =>
        rw [count_local, count_local, ← hcache]
        by_cases hK : K = ⟨key, minuteOf now⟩
        · subst hK
          rw [countLocally_self.1]
          exact Nat.le_succ _
        · rw [countLocally_of_ne hK hspares']
    · subst hK
      rw [hlocal] at hvia
      obtain rfl : viaRedis = false := by simpa using hvia.symm
      rw [count_local, count_local, countLocally_self.1, countLocally_self.2, hcache]
      exact ⟨rfl, rfl⟩

end Limiter

/-! ## One request -/

section Requests

variable {config : Config} {io : Surroundings} {r : Request} {now : ℚ} {w : World}

theorem effectiveLimit_le (v : Velocity) (now : ℚ) (userTier : Option String) :
    v.effectiveLimit now defaultIpLimit userTier ≤ defaultIpLimit := by
  have hlisted : ∀ entry ∈ velocityTierMultipliers, entry.2 ≤ 1 := by decide +kernel
  have hmultiplier : (velocityTierMultipliers.lookup userTier).getD (1 / 2) ≤ 1 := by
    cases hlookup : velocityTierMultipliers.lookup userTier with
    | none =>
      rw [Option.getD_none]
      norm_num
    | some multiplier =>
      obtain ⟨l₁, l₂, heq, -⟩ := List.lookup_eq_some_iff.mp hlookup
      refine hlisted (userTier, multiplier) ?_
      rw [heq]
      exact List.mem_append_right l₁ List.mem_cons_self
  unfold Velocity.effectiveLimit
  split
  · refine max_le (by decide) (Nat.floor_le_of_le ?_)
    exact mul_le_of_le_one_right (Nat.cast_nonneg _) hmultiplier
  · exact le_refl _

theorem inbound_unlimited (h : limited config io r = false) : (inbound config io now r w).2 = w := by
  unfold limited at h
  unfold inbound
  dsimp only
  split
  · rfl
  · next hpath =>
    split
    · rfl
    · next htype =>
      split
      · rfl
      · next hlisted =>
        split
        · rfl
        · next hexempt =>
          exfalso
          rw [Bool.or_eq_true, not_or, Bool.not_eq_true, Bool.not_eq_true] at hexempt
          rw [Bool.not_eq_true] at hpath htype hlisted
          rw [hpath, htype, hlisted, hexempt.1, hexempt.2] at h
          cases h

theorem inbound_limited (now : ℚ) (w : World) (h : limited config io r = true) : inbound config io now r w =
      ((w.limiter.checkLimit io.redis (ipKey (getClientIp r))
          (w.velocity.effectiveLimit now defaultIpLimit (getUserTier io.userTier r.authorization)) now).1,
        { w with
          limiter := (w.limiter.checkLimit io.redis (ipKey (getClientIp r))
            (w.velocity.effectiveLimit now defaultIpLimit (getUserTier io.userTier r.authorization)) now).2 }) := by
  unfold limited at h
  simp only [Bool.and_eq_true, Bool.not_eq_true'] at h
  obtain ⟨⟨⟨⟨hpath, htype⟩, hlisted⟩, htesting⟩, hshape⟩ := h
  unfold inbound
  dsimp only
  rw [hpath, if_neg Bool.false_ne_true, htype, if_neg Bool.false_ne_true, hlisted, if_neg Bool.false_ne_true, htesting, hshape,
    Bool.or_false, if_neg Bool.false_ne_true]

end Requests

/-! ## A peer -/

section Peer

variable (config : Config) (peer : String) (start : ℚ) (viaRedis : Bool)

/-- An honest request: it has chosen no header that the middleware believes, and nothing else exempts it. -/
structure Honest (io : Surroundings) (r : Request) : Prop where
  address : getClientIp r = r.peer
  header : isAuthenticatedRequest r.authorization = false
  path : exemptPaths.contains r.path = false
  unlisted : (io.whitelisted.any fun listed => listed r.peer) = false
  testing : config.testing = false

def peerKey (peer : String) (start : ℚ) : LimitKey := ⟨ipKey peer, minuteOf start⟩

def Watched (r : Request) (now : ℚ) (io : Surroundings) : Prop :=
  r.peer = peer ∧ start ≤ now ∧ now < start + 60 ∧ anonymous config io r = true ∧ unsupportedMediaType r = false

/-- What is asked of an event: a watched request is honest, falls into the one minute of the clock, and is counted where the
    others are; and no request sets off a cleanup that takes the peer's counter away. -/
def Proper (w : World) : Event → Prop
  | .outcome _ _ _ => True
  | .arrive r now io =>
    (Watched config peer start r now io →
      Honest config io r ∧ minuteOf now = minuteOf start ∧
        w.limiter.countsLocally io.redis (peerKey peer start) now = !viaRedis) ∧
    (limited config io r = true → w.limiter.countsLocally io.redis ⟨ipKey (getClientIp r), minuteOf now⟩ now = true →
      w.limiter.Spares (peerKey peer start) ⟨ipKey (getClientIp r), minuteOf now⟩ now)

def AllProper : List Event → World → Prop
  | [], _ => True
  | e :: es, w => Proper config peer start viaRedis w e ∧ AllProper es (w.step config e).2

/-- The invariant: so many have been served, and no more than were counted. -/
structure Bounded (n : Nat) (w : World) : Prop where
  dated : w.limiter.Dated (peerKey peer start)
  counted : n ≤ Limiter.count viaRedis (peerKey peer start) w.limiter
  within : n ≤ defaultIpLimit

variable {config peer start viaRedis} {io : Surroundings} {r : Request} {now : ℚ} {w : World} {n : Nat}

theorem Honest.limited (h : Honest config io r) (htype : unsupportedMediaType r = false) : limited config io r = true := by
  obtain ⟨haddress, hheader, hpath, hunlisted, htesting⟩ := h
  unfold Security.limited
  rw [haddress, hunlisted, hheader, hpath, htype, htesting]
  rfl

theorem Honest.clientIp (h : Honest config io r) (hpeer : r.peer ≠ "") : Anon.clientIp (some (chatPeer r)) = r.peer := by
  have hforwarded : r.forwarded ≠ "" := by
    intro hempty
    unfold Request.forwarded at hempty
    split at hempty
    · exact hpeer hempty
    · next value _ =>
      have hlength := congrArg String.length hempty
      rw [String.length_append, String.length_append] at hlength
      have hsep : (", " : String).length = 2 := by decide
      have hzero : ("" : String).length = 0 := by decide
      omega
  have haddress := h.address
  unfold getClientIp at haddress
  rw [if_pos hforwarded] at haddress
  unfold Anon.clientIp chatPeer
  dsimp only
  rw [if_neg hforwarded, haddress, if_neg hpeer, if_neg hpeer]

theorem watched_of_served (hfrom : (Event.arrive r now io).from peer start = true)
    (hserved : (w.step config (.arrive r now io)).1 = true) : Watched config peer start r now io := by
  have hpassed : (inbound config io now r w).1 = true := by
    by_contra hrefused
    unfold World.step at hserved
    dsimp only at hserved
    rw [if_neg hrefused] at hserved
    cases hserved
  have hanonymous : anonymous config io r = true := by
    by_contra hkey
    unfold World.step at hserved
    dsimp only at hserved
    rw [if_pos hpassed] at hserved
    unfold answered at hserved
    rw [Bool.not_eq_true] at hkey
    rw [hkey] at hserved
    cases hserved
  have htype : unsupportedMediaType r = false ∨ exemptPaths.contains r.path = true := by
    by_contra hrefused
    rw [not_or, Bool.not_eq_false] at hrefused
    unfold inbound at hpassed
    rw [if_neg hrefused.2, if_pos hrefused.1] at hpassed
    cases hpassed
  unfold Event.from at hfrom
  simp only [Bool.and_eq_true, decide_eq_true_eq] at hfrom
  refine ⟨hfrom.1.1, hfrom.1.2, hfrom.2, hanonymous, ?_⟩
  rcases htype with htype | hexempt
  · exact htype
  · -- an exempt path is not under `/v1/`
    have hmem : r.path ∈ exemptPaths := by simpa using hexempt
    have hpath : startsWith "/v1/" r.path = false := by
      unfold exemptPaths at hmem
      simp only [List.mem_cons, List.not_mem_nil, or_false] at hmem
      rcases hmem with h | h | h | h
      all_goals
        rw [h]
        decide
    unfold unsupportedMediaType
    rw [hpath]
    simp

theorem step_limiter : (w.step config (.arrive r now io)).2.limiter = (inbound config io now r w).2.limiter := by
  unfold World.step
  dsimp only
  split
  · rfl
  · rfl

/-- One event. -/
theorem bounded_step (e : Event) (h : Bounded peer start viaRedis n w) (he : Proper config peer start viaRedis w e) :
    Bounded peer start viaRedis (n + if e.from peer start && (w.step config e).1 then 1 else 0) (w.step config e).2 := by
  cases e with
  | outcome now status duration => exact ⟨h.dated, h.counted, h.within⟩
  | arrive r now io =>
    obtain ⟨hwatched, hspares⟩ := he
    cases hlimited : limited config io r with
    | false =>
      -- nobody honest
      have hnot : ((Event.arrive r now io).from peer start && (w.step config (.arrive r now io)).1) = false := by
        by_contra hserved
        rw [Bool.not_eq_false, Bool.and_eq_true] at hserved
        have hwatch := watched_of_served hserved.1 hserved.2
        have hcounted := (hwatched hwatch).1.limited hwatch.2.2.2.2
        rw [hlimited] at hcounted
        cases hcounted
      rw [hnot, if_neg Bool.false_ne_true, Nat.add_zero]
      have hsame : (w.step config (.arrive r now io)).2.limiter = w.limiter := by
        rw [step_limiter, inbound_unlimited hlimited]
      exact ⟨hsame ▸ h.dated, hsame ▸ h.counted, h.within⟩
    | true =>
      have hinbound := inbound_limited now w hlimited
      obtain ⟨hdated, hle, hself⟩ := Limiter.checkLimit_count io.redis (ipKey (getClientIp r))
        (w.velocity.effectiveLimit now defaultIpLimit (getUserTier io.userTier r.authorization)) now viaRedis h.dated
        (hspares hlimited)
      have hlimiter : (w.step config (.arrive r now io)).2.limiter = (w.limiter.checkLimit io.redis (ipKey (getClientIp r))
          (w.velocity.effectiveLimit now defaultIpLimit (getUserTier io.userTier r.authorization)) now).2 := by
        rw [step_limiter, hinbound]
      rw [← hlimiter] at hdated hle hself
      split
      · next hserved =>
        rw [Bool.and_eq_true] at hserved
        have hwatch := watched_of_served hserved.1 hserved.2
        obtain ⟨honest, hminute, hvia⟩ := hwatched hwatch
        have hkey : peerKey peer start = ⟨ipKey (getClientIp r), minuteOf now⟩ := by
          rw [peerKey, honest.address, hwatch.1, hminute]
        obtain ⟨hcount, hallowed⟩ := hself hkey hvia
        have hpassed : (inbound config io now r w).1 = true := by
          by_contra hrefused
          have hserved' := hserved.2
          unfold World.step at hserved'
          dsimp only at hserved'
          rw [if_neg hrefused] at hserved'
          cases hserved'
        rw [hinbound] at hpassed
        have hlimit := of_decide_eq_true (hallowed.symm.trans hpassed)
        have hdefault := effectiveLimit_le w.velocity now (getUserTier io.userTier r.authorization)
        have hcounted := h.counted
        refine ⟨hdated, ?_, ?_⟩
        · rw [hcount]
          omega
        · omega
      · exact ⟨hdated, le_trans h.counted hle, h.within⟩

theorem bounded_run (es : List Event) (h : Bounded peer start viaRedis n w) (hes : AllProper config peer start viaRedis es w) :
    n + servedIn config peer start es w ≤ defaultIpLimit := by
  induction es generalizing n w with
  | nil => exact h.within
  | cons e es ih =>
    rw [servedIn, ← Nat.add_assoc]
    exact ih (bounded_step e h hes.1) hes.2

/-- **A peer is bounded** in every run of proper events, from whatever counters there are: its requests that are served without a
    valid key in a minute are no more than the limit, and each of them is counted, under the true address; so it is in the limit
    of a day that the chat route keeps. -/
theorem peer_bounded (config : Config) (peer : String) (start : ℚ) (viaRedis : Bool) (es : List Event) (w : World)
    (hdated : w.limiter.Dated (peerKey peer start)) (hes : AllProper config peer start viaRedis es w) :
    servedIn config peer start es w ≤ defaultIpLimit ∧
      ∀ r now io, .arrive r now io ∈ es → Watched config peer start r now io →
        limited config io r = true ∧ (⟨ipKey (getClientIp r), minuteOf now⟩ : LimitKey) = peerKey peer start ∧
          (peer ≠ "" → Anon.clientIp (some (chatPeer r)) = peer) := by
  have hzero : Bounded peer start viaRedis 0 w := ⟨hdated, Nat.zero_le _, Nat.zero_le _⟩
  have hbound := bounded_run es hzero hes
  rw [Nat.zero_add] at hbound
  refine ⟨hbound, fun r now io hmem hwatch => ?_⟩
  clear hbound hzero hdated
  induction es generalizing w with
  | nil => exact absurd hmem List.not_mem_nil
  | cons e es ih =>
    rcases List.mem_cons.mp hmem with rfl | hrest
    · obtain ⟨honest, hminute, -⟩ := hes.1.1 hwatch
      refine ⟨honest.limited hwatch.2.2.2.2, ?_, fun hpeer => ?_⟩
      · rw [peerKey, honest.address, hwatch.1, hminute]
      · rw [← hwatch.1] at hpeer ⊢
        exact honest.clientIp hpeer
    · exact ih _ hes.2 hrest

end Peer

/-! ## A client and its headers -/

section Example

instance (config : Config) (io : Surroundings) (r : Request) : Decidable (Honest config io r) :=
  decidable_of_iff
    (getClientIp r = r.peer ∧ isAuthenticatedRequest r.authorization = false ∧ exemptPaths.contains r.path = false ∧
      (io.whitelisted.any fun listed => listed r.peer) = false ∧ config.testing = false)
    ⟨fun ⟨h₁, h₂, h₃, h₄, h₅⟩ => ⟨h₁, h₂, h₃, h₄, h₅⟩, fun ⟨h₁, h₂, h₃, h₄, h₅⟩ => ⟨h₁, h₂, h₃, h₄, h₅⟩⟩

instance (config : Config) (peer : String) (start : ℚ) (r : Request) (now : ℚ) (io : Surroundings) :
    Decidable (Watched config peer start r now io) :=
  inferInstanceAs (Decidable (_ ∧ _))

instance (config : Config) (peer : String) (start : ℚ) (viaRedis : Bool) (w : World) :
    (e : Event) → Decidable (Proper config peer start viaRedis w e)
  | .outcome _ _ _ => .isTrue trivial
  | .arrive _ _ _ => inferInstanceAs (Decidable ((_ → _ ∧ _ ∧ _) ∧ (_ → _ → _)))

instance decidableAllProper (config : Config) (peer : String) (start : ℚ) (viaRedis : Bool) :
    ∀ es w, Decidable (AllProper config peer start viaRedis es w)
  | [], _ => .isTrue trivial
  | e :: es, w =>
    have := decidableAllProper config peer start viaRedis es (w.step config e).2
    inferInstanceAs (Decidable (_ ∧ _))

def barePlain : Config where
  crypto := Keys.plainCrypto
  net := ⟨fun _ _ => .ok false, fun _ => .ok none⟩
  anonymous := Anon.limitedConfig

def noKeys : Surroundings where
  keys := { keys := { rows := [], unique := by decide } }
  chat := Anon.freeEnv

def freshWorld : World where
  limiter := { redis := some fun _ => none }
  usage := Anon.emptyStore

theorem freshWorld_dated (K : LimitKey) : freshWorld.limiter.Dated K := by
  intro redis c t hredis hc
  cases hredis
  cases hc

def catalogRequest (forwardedFor : Option String) (authorization : String) : Request where
  peer := "203.0.113.7"
  forwardedFor := forwardedFor
  authorization := authorization

def plainRequests : List Event :=
  [.arrive (catalogRequest none "") 0 noKeys, .outcome 1 200 1, .arrive (catalogRequest none "Bearer wrong") 2 noKeys,
    .arrive (catalogRequest none "") 59 noKeys]

theorem peer_bounded_plain :
    servedIn barePlain "203.0.113.7" 0 plainRequests freshWorld = 3 ∧
      servedIn barePlain "203.0.113.7" 0 plainRequests freshWorld ≤ defaultIpLimit ∧
      ∀ r now io, .arrive r now io ∈ plainRequests → Watched barePlain "203.0.113.7" 0 r now io →
        limited barePlain io r = true ∧ (⟨ipKey (getClientIp r), minuteOf now⟩ : LimitKey) = peerKey "203.0.113.7" 0 ∧
          ("203.0.113.7" ≠ "" → Anon.clientIp (some (chatPeer r)) = "203.0.113.7") :=
  ⟨by decide +kernel,
    peer_bounded barePlain "203.0.113.7" 0 true plainRequests freshWorld (freshWorld_dated _) (by decide +kernel)⟩

theorem servedIn_replicate {config : Config} {peer : String} {start : ℚ} {e : Event} {w : World} (hfrom : e.from peer start = true)
    (hstep : w.step config e = (true, w)) (n : Nat) : servedIn config peer start (List.replicate n e) w = n := by
  induction n with
  | zero => rfl
  | succ n ih =>
    rw [List.replicate_succ, servedIn, hstep, hfrom, ih, Bool.and_self, if_pos rfl, Nat.add_comm]

def bogus : Event := .arrive (catalogRequest none "Bearer not-a-key-of-anyone") 0 noKeys

theorem bogus_step : freshWorld.step barePlain bogus = (true, freshWorld) := by
  have hpassed : inbound barePlain noKeys 0 (catalogRequest none "Bearer not-a-key-of-anyone") freshWorld = (true, freshWorld) := by
    unfold inbound
    dsimp only
    rw [if_neg (by decide), if_neg (by decide), if_neg (by decide), if_pos (by decide)]
  have hanswered : answered barePlain noKeys (catalogRequest none "Bearer not-a-key-of-anyone") freshWorld.usage =
      (true, freshWorld.usage) := by
    have hanonymous : anonymous barePlain noKeys (catalogRequest none "Bearer not-a-key-of-anyone") = true := by decide +kernel
    unfold answered
    rw [hanonymous]
    rfl
  unfold World.step bogus
  dsimp only
  rw [hpassed]
  dsimp only
  rw [if_pos rfl, hanswered]

/-- **A header decides whether a request is counted, and under whose address**: with a key of nobody's, one peer is served 301 times
    in a second; and what it writes into `X-Forwarded-For` is the address it is counted under. -/
theorem peer_unbounded :
    servedIn barePlain "203.0.113.7" 0 (List.replicate 301 bogus) freshWorld = 301 ∧
      ¬ servedIn barePlain "203.0.113.7" 0 (List.replicate 301 bogus) freshWorld ≤ defaultIpLimit ∧
      ipKey (getClientIp (catalogRequest (some "198.51.100.1") "")) = "ip:198.51.100.1" ∧
      ipKey (getClientIp (catalogRequest (some "198.51.100.2") "")) = "ip:198.51.100.2" := by
  have hfrom : bogus.from "203.0.113.7" 0 = true := by decide +kernel
  have hserved := servedIn_replicate hfrom bogus_step 301
  refine ⟨hserved, ?_, by decide +kernel, by decide +kernel⟩
  rw [hserved]
  decide

end Example

end Gatewayz.Security
