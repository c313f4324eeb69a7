import Gatewayz.Chat.Anonymous

/-!
# `Correctness.AnonymousLimit` — an anonymous client is served three times a day

The limit is checked when a request is let in, and a request is counted by a task that `stream_generator` leaves behind after
its last event. So what is served is counted only if it is a stream that the client hears out: a response in one piece is
never counted, nor is a stream that the watchdog, the provider or the client breaks off.
-/

namespace Gatewayz.Anon

open Exec

/-! ## Runs -/

@[reducible] def anonRuns (env : Env) (allow : Env → Stmt → Outcome ChatErr → World → Prop) :
    Setting ChatErr Stmt Res Unit World where
  exec := step env
  note := fun _ _ _ _ _ => ()
  allow := fun _ s o w => allow env s o w

structure Turn where
  req : Request
  env : Env
  link : List (Outcome ChatErr) := []

def Turn.From (t : Turn) (ip : String) (day : Nat) : Prop := clientIp t.req.peer = ip ∧ ∀ n, t.env.clock n / 86400 = day

section Runs

variable (config : Config)

def Turn.handled (t : Turn) (store : UsageStore) : World := ((serve config t.req).run (step t.env) t.link { store := store }).2.2

/-- How many of the requests are served, one after the other. -/
def servedIn : List Turn → UsageStore → Nat
  | [], _ => 0
  | t :: ts, store => (if (t.handled config store).served then 1 else 0) + servedIn ts (t.handled config store).store

def Within (allow : Env → Stmt → Outcome ChatErr → World → Prop) : List Turn → UsageStore → Prop
  | [], _ => True
  | t :: ts, store =>
    (serve config t.req).Admits (anonRuns t.env allow) t.link () { store := store } ∧
      Within allow ts (t.handled config store).store

end Runs

/-- The usage store is available: its steps succeed, and so does reading the clock. -/
def StoreAvailable (_ : Env) (s : Stmt) (o : Outcome ChatErr) (_ : World) : Prop :=
  match s with
  | .now => o = .served
  | .redisClient => o = .served
  | .redisGet _ => o = .served
  | .redisIncr _ => o = .served
  | .memoryCount _ => o = .served
  | .memoryIncrement _ => o = .served
  | _ => True

/-- Steps that may raise without any harm: a `try` is around them. -/
def Stmt.tolerated : Stmt → Bool
  | .task .closeStream => true
  | .task .inferenceMetricsAndHealth => true
  | .task .captureModelHealth => true
  | _ => false

/-- `except Exception` deals with it. -/
def Caught : Outcome ChatErr → Prop
  | .served => True
  | .dropped (.exception _) => True
  | .lost (.exception _) => True
  | _ => False

/-- Clients hear out what they are served: the store is available, nothing is served in one piece, and once a client has
    got a chunk, no step fails that a `try` of its own does not save, and the watchdog does not bite. -/
def HeardOut (env : Env) (s : Stmt) (o : Outcome ChatErr) (w : World) : Prop :=
  StoreAvailable env s o w ∧
    match s with
    | .respond _ => ∃ e, o = .dropped e
    | .send (.chunk _) => o = .served ∨ w.served = false ∧ ∃ e, o = .dropped e
    | .pastDeadline => w.served = true → o = .served ∧ env.answers w.moment .pastDeadline = false
    | s => w.served = true → if s.tolerated = true then Caught o else o = .served

/-! ## The store -/

def UsageStore.count (store : UsageStore) (key : UsageKey) : Nat :=
  match store.redis with
  | some redis => ((redis key).map RedisCount.count).getD 0
  | none => ((store.memory key.ipHash).filter fun entry => entry.1 = key.today).elim 0 Prod.snd

/-- Counters of the day live to its end. Those that are written on the day do. -/
def UsageStore.Dated (store : UsageStore) (key : UsageKey) (day : Nat) : Prop :=
  ∀ redis c expiry, store.redis = some redis → redis key = some c → c.expiresAt = some expiry → (day + 1) * 86400 ≤ expiry

section Store

variable {store : UsageStore} {redis : UsageKey → Option RedisCount} {key : UsageKey} {day now : Nat}

theorem count_redis (hredis : store.redis = some redis) :
    store.count key = ((redis key).map RedisCount.count).getD 0 := by
  simp only [UsageStore.count, hredis]

theorem count_memory (hredis : store.redis = none) :
    store.count key = ((store.memory key.ipHash).filter fun entry => entry.1 = key.today).elim 0 Prod.snd := by
  simp only [UsageStore.count, hredis]

theorem redisGet_eq (h : store.Dated key day) (hredis : store.redis = some redis) (hnow : now / 86400 = day) :
    (redisGet redis key now).getD 0 = store.count key := by
  rw [count_redis hredis, redisGet]
  cases hc : redis key with
  | none => rfl
  | some c =>
    have halive : c.expiresAt.all (now < ·) = true := by
      cases he : c.expiresAt with
      | none => rfl
      | some expiry =>
        have hexpiry := h redis c expiry hredis hc he
        simp only [Option.all_some, decide_eq_true_eq]
        omega
    rw [Option.bind_some, if_pos halive]
    rfl

theorem redisIncr_self :
    (redisIncr redis key now).2 key = some ⟨(redisGet redis key now).getD 0 + 1, some (now + 86400)⟩ :=
  Function.update_self ..

theorem redisIncr_eq (h : store.Dated key day) (hredis : store.redis = some redis) (hnow : now / 86400 = day) :
    UsageStore.count { store with redis := some (redisIncr redis key now).2 } key = store.count key + 1 ∧
      UsageStore.Dated { store with redis := some (redisIncr redis key now).2 } key day := by
  constructor
  · rw [count_redis rfl, redisIncr_self, ← redisGet_eq h hredis hnow]
    rfl
  · intro redis' c expiry hredis' hc hexpiry
    injection hredis' with hredis'
    subst hredis'
    rw [redisIncr_self] at hc
    injection hc with hc
    subst hc
    injection hexpiry with hexpiry
    omega

theorem cleanup_redis : (cleanupMemoryCache store now).redis = store.redis := by
  unfold cleanupMemoryCache
  split <;> rfl

theorem cleanup_entry (htoday : key.today = dateOf now) :
    ((cleanupMemoryCache store now).memory key.ipHash).filter (fun entry => entry.1 = key.today) =
      (store.memory key.ipHash).filter fun entry => entry.1 = key.today := by
  unfold cleanupMemoryCache
  split
  · rfl
  · rw [Option.filter_filter, htoday]
    simp

theorem cleanup_count (htoday : key.today = dateOf now) : (cleanupMemoryCache store now).count key = store.count key := by
  cases hredis : store.redis with
  | some redis => rw [count_redis hredis, count_redis (cleanup_redis.trans hredis)]
  | none => rw [count_memory hredis, count_memory (cleanup_redis.trans hredis), cleanup_entry htoday]

theorem cleanup_dated (h : store.Dated key day) : (cleanupMemoryCache store now).Dated key day := by
  intro redis c expiry hredis
  rw [cleanup_redis] at hredis
  exact h redis c expiry hredis

theorem memoryCount_eq (hredis : store.redis = none) (htoday : key.today = dateOf now) :
    (memoryCount store key now).1 = store.count key := by
  rw [count_memory hredis, ← cleanup_entry htoday]
  rfl

theorem memoryIncrement_eq (hredis : store.redis = none) (htoday : key.today = dateOf now) :
    (memoryIncrement store key now).2.count key = store.count key + 1 := by
  have hnone : (memoryIncrement store key now).2.redis = none := cleanup_redis.trans hredis
  have hself : (memoryIncrement store key now).2.memory key.ipHash = some (key.today, (memoryCount store key now).1 + 1) :=
    Function.update_self ..
  rw [count_memory hnone, hself, memoryCount_eq hredis htoday, Option.filter_some, if_pos (decide_eq_true rfl)]
  rfl

theorem memoryIncrement_dated (h : store.Dated key day) : (memoryIncrement store key now).2.Dated key day :=
  @cleanup_dated store key day now h

end Store

/-! ## Steps that do not count -/

/-- Steps that leave the usage store alone and hand nothing of a provider's to the client. -/
def Stmt.neutral : Stmt → Bool
  | .redisIncr _ => false
  | .memoryCount _ => false
  | .memoryIncrement _ => false
  | .send (.chunk _) => false
  | .respond _ => false
  | _ => true

/-- … and may not raise either. -/
def Stmt.calm (s : Stmt) : Bool := s.neutral && !s.tolerated

theorem Stmt.neutral_of_calm {s : Stmt} (hs : s.calm = true) : s.neutral = true := Bool.and_elim_left hs

/-- The count of the day is `c`. -/
def Counted (key : UsageKey) (day c : Nat) (w : World) : Prop := w.store.count key = c ∧ w.store.Dated key day

/-- … and nothing has been served. -/
def Unserved (key : UsageKey) (day c : Nat) (w : World) : Prop := Counted key day c w ∧ w.served = false

section Neutral

variable {α β : Type} {env : Env} {key : UsageKey} {day c : Nat} {w : World} {s : Stmt}

theorem served_append {e : Event} (he : e.isChunk = false) :
    World.served { w.tick with events := w.events ++ [e] } = w.served := by
  show (w.response.isSome || (w.events ++ [e]).any Event.isChunk) = w.served
  rw [List.any_append, List.any_cons, he, List.any_nil, Bool.or_false, Bool.or_false]
  rfl

theorem neutral_step (env : Env) (w : World) (hs : s.neutral = true) :
    (step env s w).2.store = w.store ∧ (step env s w).2.served = w.served ∧ ∃ a, (step env s w).1 = .ok a := by
  unfold step
  split
  · exact ⟨rfl, rfl, _, rfl⟩
  · exact ⟨rfl, rfl, _, rfl⟩
  · exact ⟨rfl, rfl, _, rfl⟩
  · cases hs
  · cases hs
  · cases hs
  · next e =>
    cases e with
    | chunk c => cases hs
    | error errorType => exact ⟨rfl, served_append rfl, _, rfl⟩
    | done => exact ⟨rfl, served_append rfl, _, rfl⟩
  · cases hs
  · exact ⟨rfl, rfl, _, rfl⟩

theorem neutral_answer (env : Env) (w : World) (hs : s.neutral = true) (o : Outcome ChatErr) :
    (answer (step env) s o w).2.store = w.store ∧ (answer (step env) s o w).2.served = w.served := by
  obtain ⟨hstore, hserved, -⟩ := neutral_step env w hs
  cases o with
  | served => exact ⟨hstore, hserved⟩
  | dropped e => exact ⟨rfl, rfl⟩
  | lost e => exact ⟨hstore, hserved⟩

theorem HeardOut.undisturbed {o : Outcome ChatErr} (h : HeardOut env s o w) (hs : s.calm = true)
    (hserved : w.served = true) : o = .served := by
  obtain ⟨havailable, hheard⟩ := h
  cases s with
  | task t =>
    cases t with
    | closeStream => cases hs
    | inferenceMetricsAndHealth => cases hs
    | captureModelHealth => cases hs
    | _ => exact hheard hserved
  | send e =>
    cases e with
    | chunk c => cases hs
    | error errorType => exact hheard hserved
    | done => exact hheard hserved
  | respond r => cases hs
  | pastDeadline => exact (hheard hserved).1
  | redisIncr key => cases hs
  | memoryCount key => cases hs
  | memoryIncrement key => cases hs
  | _ => exact hheard hserved

theorem counted_answer (h : Counted key day c w) (hs : s.neutral = true) (o : Outcome ChatErr) :
    Counted key day c (answer (step env) s o w).2 := by
  unfold Counted
  rw [(neutral_answer env w hs o).1]
  exact h

theorem wp_unserved {p : AnonProg α} (hp : p.Only fun s => s.neutral = true) (h : Unserved key day c w) :
    p.wp (anonRuns env HeardOut) .alone (fun _ _ => Unserved key day c) (fun _ _ => Unserved key day c) () w := by
  have hrely : ∀ (_ : Unit) (w w' : World), w = w' → Unserved key day c w → Unserved key day c w' := fun _ _ _ hr h => hr ▸ h
  refine wp_of_only (J := fun _ => Unserved key day c) hrely (fun s hs g o w _ ha h => ?_) hp h
  refine ⟨trivial, trivial, counted_answer h.1 hs o, ?_⟩
  rw [(neutral_answer env w hs o).2]
  exact h.2

theorem only_call {s : Stmt} (hs : s.neutral = true) : (call s).Only fun s => s.neutral = true := (only_stmt s).mpr hs

theorem only_exceptException {p : AnonProg α} {handler : Exc → AnonProg α} (hp : p.Only fun s => s.neutral = true)
    (hh : ∀ e, (handler e).Only fun s => s.neutral = true) : (exceptException p handler).Only fun s => s.neutral = true := by
  refine only_tryCatch hp fun e => ?_
  cases e with
  | exception e => exact hh e
  | cancelled => exact only_fail _
  | generatorExit => exact only_fail _

theorem only_quietly {p : AnonProg Unit} (hp : p.Only fun s => s.neutral = true) :
    (quietly p).Only fun s => s.neutral = true := only_exceptException hp fun _ => only_ret _

def Calm (p : AnonProg α) : Prop := ∀ F, p.Stays (fun s => s.calm = true) F

theorem Calm.only {p : AnonProg α} (hp : Calm p) : p.Only fun s => s.neutral = true :=
  only_mono (fun _ => Stmt.neutral_of_calm) (hp fun _ => True).only

/-- A calm program leaves count and client as they are, and it does not raise for a client that has been served. -/
theorem wp_calm {p : AnonProg α} (hp : Calm p) (h : Counted key day c w) :
    p.wp (anonRuns env HeardOut) .alone (fun _ _ w' => Counted key day c w' ∧ w'.served = w.served)
      (fun _ _ => Unserved key day c) () w := by
  cases hserved : w.served with
  | false =>
    refine wp_post (fun _ _ _ h => ?_) (wp_unserved hp.only ⟨h, hserved⟩)
    exact h
  | true =>
    have hrely : ∀ (_ : Unit) (w w' : World), w = w' → Counted key day c w ∧ w.served = true →
        Counted key day c w' ∧ w'.served = true := fun _ _ _ hr h => hr ▸ h
    have hstep := wp_of_stays (C := anonRuns env HeardOut) (K := .alone) (F := fun _ => False)
      (J := fun _ w' => Counted key day c w' ∧ w'.served = true) hrely
      (fun s hs g o w _ ha h => ?_) (hp fun _ => False) (g := ()) ⟨h, hserved⟩
    · exact wp_mono (fun _ _ _ h => h) (fun _ _ _ h => h.2.elim) hstep
    · obtain rfl := HeardOut.undisturbed ha hs h.2
      have hneutral := Stmt.neutral_of_calm hs
      refine ⟨trivial, trivial, ⟨counted_answer h.1 hneutral .served, ?_⟩, fun e he => ?_⟩
      · rw [(neutral_answer env w hneutral .served).2]
        exact h.2
      · obtain ⟨-, -, a, ha⟩ := neutral_step env w hneutral
        rw [answer_served, ha] at he
        cases he

theorem calm_ret (a : α) : Calm (.ret a) := fun _ => trivial

theorem calm_call (hs : s.calm = true) : Calm (call s) := fun _ => stays_stmt hs

theorem calm_bind {p : AnonProg α} {f : α → AnonProg β} (hp : Calm p) (hf : ∀ a, Calm (f a)) : Calm (p >>= f) :=
  fun F => stays_bind (hp F) fun a => hf a F

theorem calm_exceptException {p : AnonProg α} {handler : Exc → AnonProg α} (hp : Calm p) (hh : ∀ e, Calm (handler e)) :
    Calm (exceptException p handler) := by
  intro F
  -- what is caught is anything, what is not is what a step has raised
  refine stays_tryCatch (F := F) ?_ fun e he => ?_
  · exact hp F
  · cases e with
    | exception e => exact hh e F
    | cancelled => exact he
    | generatorExit => exact he

theorem calm_quietly {p : AnonProg Unit} (hp : Calm p) : Calm (quietly p) := calm_exceptException hp fun _ => calm_ret ()

end Neutral

/-! ## Steps that count -/

def clientKey (config : Config) (ip : String) (day : Nat) : UsageKey := ⟨config.hashIp ip, civilFromDays day⟩

section Counting

variable {α : Type} {config : Config} {ip : String} {env : Env} {day c : Nat} {w : World}
variable {Q : α → Unit → World → Prop} {E : ChatErr → Unit → World → Prop}

theorem wp_exceptException {p : AnonProg α} {handler : Exc → AnonProg α} {C : Setting ChatErr Stmt Res Unit World}
    (h : p.wp C .alone Q (fun e g w => (∀ x, e = .exception x → (handler x).wp C .alone Q E g w) ∧
      ((∀ x, e ≠ .exception x) → E e g w)) () w) :
    (exceptException p handler).wp C .alone Q E () w := by
  unfold exceptException
  rw [wp_tryCatch]
  refine wp_mono (fun _ _ _ h => h) (fun e g w he => ?_) h
  cases e with
  | exception e => exact he.1 e rfl
  | cancelled => exact he.2 fun x hx => by cases hx
  | generatorExit => exact he.2 fun x hx => by cases hx

theorem wp_quietly {C : Setting ChatErr Stmt Res Unit World} {p : AnonProg Unit} {J : World → Prop}
    (h : p.wp C .alone (fun _ _ => J) (fun _ _ => J) () w) :
    (quietly p).wp C .alone (fun _ _ => J) (fun _ _ => J) () w :=
  wp_exceptException (wp_mono (fun _ _ _ h => h) (fun _ _ _ h => ⟨fun _ _ => h, fun _ => h⟩) h)

theorem wp_available {s : Stmt} (hs : ∀ o w, HeardOut env s o w → o = .served) {Q : Res s → Unit → World → Prop} {a : Res s}
    (ha : (step env s w).1 = .ok a) (h : Q a () (step env s w).2) :
    (call s).wp (anonRuns env HeardOut) .alone Q E () w := by
  refine wp_alone_stmt (C := anonRuns env HeardOut) fun o ho => ?_
  obtain rfl := hs o w ho
  show Answered _ _ (step env s w).1
  rw [ha]
  exact h

variable (henv : ∀ n, env.clock n / 86400 = day)
include henv

theorem dateOf_clock (n : Nat) : dateOf (env.clock n) = civilFromDays day := by
  unfold dateOf
  rw [henv]

theorem wp_usageKey {Q : UsageKey → Unit → World → Prop} (h : Q (clientKey config ip day) () w.tick) :
    (usageKey config ip).wp (anonRuns env HeardOut) .alone Q E () w := by
  unfold usageKey
  rw [wp_bind]
  refine wp_available (s := .now) (fun o w ho => ho.1) rfl ?_
  show Q ⟨config.hashIp ip, dateOf (env.clock w.moment)⟩ () w.tick
  rw [dateOf_clock henv]
  exact h

theorem wp_getAnonymousUsageCount (h : Counted (clientKey config ip day) day c w) :
    (getAnonymousUsageCount config ip).wp (anonRuns env HeardOut) .alone
      (fun n _ w' => n = c ∧ Counted (clientKey config ip day) day c w' ∧ w'.served = w.served) E () w := by
  obtain ⟨hcount, hdated⟩ := h
  unfold getAnonymousUsageCount
  rw [wp_bind]
  refine wp_usageKey henv ?_
  rw [wp_bind]
  refine wp_available (s := .redisClient) (fun o w ho => ho.1) rfl ?_
  cases hredis : w.store.redis with
  | some redis =>
    have hsome : (World.tick w).store.redis.isSome = true := Option.isSome_iff_exists.mpr ⟨redis, hredis⟩
    rw [if_pos hsome]
    refine wp_exceptException ?_
    rw [wp_bind]
    refine wp_available (s := .redisGet _) (fun o w ho => ho.1) rfl ?_
    refine ⟨?_, ⟨hcount, hdated⟩, rfl⟩
    show (w.store.redis.bind fun redis => redisGet redis _ _).getD 0 = c
    rw [hredis, Option.bind_some, redisGet_eq hdated hredis (henv _), hcount]
  | none =>
    have hnone : ¬ (World.tick w).store.redis.isSome = true := Option.not_isSome_iff_eq_none.mpr hredis
    rw [if_neg hnone]
    refine wp_available (s := .memoryCount _) (fun o w ho => ho.1) rfl ?_
    have htoday : (clientKey config ip day).today = dateOf (env.clock (w.moment + 2)) := (dateOf_clock henv _).symm
    refine ⟨(memoryCount_eq hredis htoday).trans hcount, ⟨?_, cleanup_dated hdated⟩, rfl⟩
    exact (cleanup_count htoday).trans hcount

theorem wp_incrementAnonymousUsage (h : Counted (clientKey config ip day) day c w) :
    (incrementAnonymousUsage config ip).wp (anonRuns env HeardOut) .alone
      (fun _ _ w' => Counted (clientKey config ip day) day (c + 1) w' ∧ w'.served = w.served) E () w := by
  obtain ⟨hcount, hdated⟩ := h
  unfold incrementAnonymousUsage
  rw [wp_bind]
  refine wp_usageKey henv ?_
  rw [wp_bind]
  refine wp_available (s := .redisClient) (fun o w ho => ho.1) rfl ?_
  cases hredis : w.store.redis with
  | some redis =>
    have hsome : (World.tick w).store.redis.isSome = true := Option.isSome_iff_exists.mpr ⟨redis, hredis⟩
    rw [if_pos hsome]
    refine wp_exceptException ?_
    have hexec : step env (.redisIncr (clientKey config ip day)) w.tick.tick =
        (.ok (redisIncr redis (clientKey config ip day) (env.clock (w.moment + 2))).1,
          { w.tick.tick.tick with
            store := { w.store with
              redis := some (redisIncr redis (clientKey config ip day) (env.clock (w.moment + 2))).2 } }) := by
      show (match w.store.redis with | some redis => _ | none => _) = _
      rw [hredis]
      rfl
    refine wp_available (s := .redisIncr _) (fun o w ho => ho.1) (congrArg Prod.fst hexec) ?_
    have hclient : (step env .redisClient w.tick).2 = w.tick.tick := rfl
    rw [hclient, hexec]
    obtain ⟨hmore, hlater⟩ := redisIncr_eq hdated hredis (henv (w.moment + 2))
    exact ⟨⟨hmore.trans (by rw [hcount]), hlater⟩, rfl⟩
  | none =>
    have hnone : ¬ (World.tick w).store.redis.isSome = true := Option.not_isSome_iff_eq_none.mpr hredis
    rw [if_neg hnone]
    refine wp_available (s := .memoryIncrement _) (fun o w ho => ho.1) rfl ?_
    have htoday : (clientKey config ip day).today = dateOf (env.clock (w.moment + 2)) := (dateOf_clock henv _).symm
    refine ⟨⟨?_, memoryIncrement_dated hdated⟩, rfl⟩
    exact (memoryIncrement_eq hredis htoday).trans (by rw [hcount])

theorem wp_recordAnonymousRequest (h : Counted (clientKey config ip day) day c w) :
    (recordAnonymousRequest config ip).wp (anonRuns env HeardOut) .alone
      (fun _ _ w' => Counted (clientKey config ip day) day (c + 1) w' ∧ w'.served = w.served) E () w := by
  unfold recordAnonymousRequest
  rw [wp_bind]
  exact wp_incrementAnonymousUsage henv h

end Counting

/-! ## The stream -/

/-- What a request leaves behind: nothing is uncounted, and if it was served, it found fewer than three and is counted. -/
structure Settled (key : UsageKey) (day c : Nat) (w : World) : Prop where
  dated : w.store.Dated key day
  kept : c ≤ w.store.count key
  counted : w.served = true → c < anonymousDailyLimit ∧ c < w.store.count key

section Stream

variable {config : Config} {messages : ChatMessages} {ip model : String} {env : Env} {day c : Nat} {w : World}

theorem calm_onlyIf {b : Prop} [Decidable b] {p : AnonProg Unit} (hp : Calm p) : Calm (onlyIf b p) := by
  unfold onlyIf
  split
  · exact hp
  · exact calm_ret ()

theorem calm_apologize (errorType : String) : Calm (apologize errorType) :=
  calm_bind (calm_call rfl) fun _ => calm_call rfl

theorem wp_calm_bind {α β : Type} {key : UsageKey} {p : AnonProg α} {f : α → AnonProg β} (hp : Calm p)
    (h : Counted key day c w) {Q : β → Unit → World → Prop} {E : ChatErr → Unit → World → Prop}
    (hE : ∀ e w', Unserved key day c w' → E e () w')
    (hf : ∀ a w', Counted key day c w' → w'.served = w.served → (f a).wp (anonRuns env HeardOut) .alone Q E () w') :
    (p >>= f).wp (anonRuns env HeardOut) .alone Q E () w := by
  rw [wp_bind]
  exact wp_mono (fun a _ w' hw => hf a w' hw.1 hw.2) (fun e _ w' hw => hE e w' hw) (wp_calm hp h)

theorem wp_passOn {key : UsageKey} (chunk : Chunk) (h : Counted key day c w) :
    (passOn chunk).wp (anonRuns env HeardOut) .alone (fun _ _ => Counted key day c) (fun _ _ => Unserved key day c) ()
      w := by
  unfold passOn
  split
  · refine wp_alone_stmt (C := anonRuns env HeardOut) fun o ho => ?_
    rcases ho.2 with rfl | ⟨hserved, e, rfl⟩
    · exact h
    · exact ⟨h, hserved⟩
  · exact h

theorem wp_pastDeadline {key : UsageKey} (h : Counted key day c w) :
    (call .pastDeadline).wp (anonRuns env HeardOut) .alone
      (fun late _ w' => Counted key day c w' ∧ (late = true → w'.served = false)) (fun _ _ => Unserved key day c) () w := by
  refine wp_alone_stmt (C := anonRuns env HeardOut) fun o ho => ?_
  cases hserved : w.served with
  | true =>
    obtain ⟨rfl, hanswer⟩ := ho.2 hserved
    refine ⟨h, fun hlate => ?_⟩
    have hlate : env.answers w.moment .pastDeadline = true := hlate
    rw [hanswer] at hlate
    cases hlate
  | false =>
    cases o with
    | served => exact ⟨h, fun _ => hserved⟩
    | dropped e => exact ⟨h, hserved⟩
    | lost e => exact ⟨h, hserved⟩

/-- The loop: by induction on the chunks. It ends early, without a chunk or with an exception, only for a client that has got
    nothing. -/
theorem wp_streamLoop {key : UsageKey} (cs : List Chunk) (st : Seen) (h : Counted key day c w)
    (hnothing : st.chunks = 0 → w.served = false) : (streamLoop st cs).wp (anonRuns env HeardOut) .alone
      (fun seen _ w' => Counted key day c w' ∧ ((seen.map Seen.chunks).getD 0 = 0 → w'.served = false))
      (fun _ _ => Unserved key day c) () w := by
  induction cs generalizing st w with
  | nil =>
    unfold streamLoop
    refine wp_calm_bind (calm_call rfl) h (fun _ _ h => h) fun _ w' h hsame => ⟨h, fun hzero => ?_⟩
    rw [hsame]
    exact hnothing hzero
  | cons chunk cs ih =>
    unfold streamLoop
    refine wp_calm_bind (calm_call rfl) h (fun _ _ h => h) fun _ w₁ h hsame₁ => ?_
    refine wp_calm_bind (calm_call rfl) h (fun _ _ h => h) fun disconnected w₂ h hsame₂ => ?_
    split
    · refine ⟨h, fun hzero => ?_⟩
      rw [hsame₂, hsame₁]
      exact hnothing hzero
    · refine wp_seq (wp_pastDeadline h) fun late _ w hlate => ?_
      obtain ⟨h, hlate⟩ := hlate
      split
      · next hbite =>
        refine wp_calm_bind (calm_apologize _) h (fun _ _ h => h) fun _ w' h hsame => ⟨h, fun _ => ?_⟩
        rw [hsame]
        exact hlate hbite
      · refine wp_calm_bind (calm_onlyIf (calm_call rfl)) h (fun _ _ h => h) fun _ w h _ => ?_
        refine wp_seq (wp_passOn chunk h) fun _ _ w h => ih (st.after chunk) h fun hzero => ?_
        exact absurd hzero (Nat.succ_ne_zero st.chunks)

theorem wp_closeStream {key : UsageKey} (h : Counted key day c w) :
    (quietly (call (.task .closeStream))).wp (anonRuns env HeardOut) .alone
      (fun _ _ w' => Counted key day c w' ∧ w'.served = w.served) (fun _ _ => Unserved key day c) () w := by
  refine wp_exceptException (wp_alone_stmt (C := anonRuns env HeardOut) fun o ho => ?_)
  have hraised : ∀ e, (o = .dropped e ∨ o = .lost e) → (∀ x, e ≠ .exception x) → w.served = false := by
    intro e he hother
    cases hserved : w.served with
    | false => rfl
    | true =>
      have hcaught : Caught o := ho.2 hserved
      cases e with
      | exception x => exact absurd rfl (hother x)
      | cancelled => rcases he with rfl | rfl <;> cases hcaught
      | generatorExit => rcases he with rfl | rfl <;> cases hcaught
  cases o with
  | served => exact ⟨h, rfl⟩
  | dropped e => exact ⟨fun _ _ => ⟨h, rfl⟩, fun hother => ⟨h, hraised e (.inl rfl) hother⟩⟩
  | lost e => exact ⟨fun _ _ => ⟨h, rfl⟩, fun hother => ⟨h, hraised e (.inr rfl) hother⟩⟩

theorem settled_of_counted {n : Nat} (hlimit : c < anonymousDailyLimit) (hn : c < n)
    (h : Counted (clientKey config ip day) day n w) : Settled (clientKey config ip day) day c w where
  dated := h.2
  kept := by rw [h.1]; omega
  counted := fun _ => ⟨hlimit, by rw [h.1]; exact hn⟩

theorem settled_of_unserved {n : Nat} (hn : c ≤ n) (h : Unserved (clientKey config ip day) day n w) :
    Settled (clientKey config ip day) day c w where
  dated := h.1.2
  kept := by rw [h.1.1]; exact hn
  counted := fun hserved => by
    rw [h.2] at hserved
    cases hserved

theorem wp_settled {α : Type} {key : UsageKey} {p : AnonProg α} (hp : p.Only fun s => s.neutral = true)
    (h : Settled key day c w) :
    p.wp (anonRuns env HeardOut) .alone (fun _ _ => Settled key day c) (fun _ _ => Settled key day c) () w := by
  have hrely : ∀ (_ : Unit) (w w' : World), w = w' → Settled key day c w → Settled key day c w' := fun _ _ _ hr h => hr ▸ h
  refine wp_of_only (J := fun _ => Settled key day c) hrely (fun s hs g o w _ ha h => ⟨trivial, trivial, ?_⟩) hp h
  obtain ⟨hstore, hserved⟩ := neutral_answer env w hs o
  exact ⟨by rw [hstore]; exact h.dated, by rw [hstore]; exact h.kept, by rw [hstore, hserved]; exact h.counted⟩

variable (henv : ∀ n, env.clock n / 86400 = day) (hip : ip ≠ "") (hlimit : c < anonymousDailyLimit)
include henv hip hlimit

/-- The task that is left behind counts the request. -/
theorem wp_streamCompletion (prompt completion : Nat) (h : Counted (clientKey config ip day) day c w) :
    (streamCompletion config ip model prompt completion).wp (anonRuns env HeardOut) .alone
      (fun _ _ => Settled (clientKey config ip day) day c) (fun _ _ => Settled (clientKey config ip day) day c) () w := by
  have hbefore : ∀ (_ : ChatErr) w, Unserved (clientKey config ip day) day c w → Settled (clientKey config ip day) day c w :=
    fun _ _ h => settled_of_unserved (le_refl c) h
  unfold streamCompletion
  refine wp_quietly ?_
  refine wp_calm_bind (calm_call rfl) h hbefore fun _ w h _ => ?_
  refine wp_calm_bind (calm_call rfl) h hbefore fun _ w h _ => ?_
  have hrecord : (onlyIf (ip ≠ "") (quietly (recordAnonymousRequest config ip >>= fun _ => pure ()))).wp
      (anonRuns env HeardOut) .alone (fun _ _ => Counted (clientKey config ip day) day (c + 1))
      (fun _ _ => Settled (clientKey config ip day) day c) () w := by
    rw [onlyIf, if_pos hip]
    refine wp_exceptException ?_
    exact wp_seq (wp_recordAnonymousRequest henv h) fun _ _ _ h => h.1
  refine wp_seq hrecord fun _ _ w h => ?_
  -- what follows may fail
  refine wp_settled ?_ (settled_of_counted hlimit (Nat.lt_succ_self c) h)
  exact only_bind (only_call rfl) fun _ => only_bind (only_quietly (only_call rfl)) fun _ => only_quietly (only_call rfl)

theorem wp_afterStream (st : Seen) (h : Counted (clientKey config ip day) day c w)
    (hempty : st.chunks = 0 → w.served = false) :
    (afterStream config messages ip model st).wp (anonRuns env HeardOut) .alone
      (fun _ _ => Settled (clientKey config ip day) day c) (fun _ _ => Settled (clientKey config ip day) day c) () w := by
  have hbefore : ∀ (_ : ChatErr) w, Unserved (clientKey config ip day) day c w → Settled (clientKey config ip day) day c w :=
    fun _ _ h => settled_of_unserved (le_refl c) h
  unfold afterStream
  refine wp_calm_bind (calm_onlyIf (calm_call rfl)) h hbefore fun _ w₁ h hsame => ?_
  split
  · next hzero =>
    refine wp_mono (fun _ _ w hw => ?_) (fun e _ w h => hbefore e w h) (wp_calm (calm_apologize _) h)
    refine settled_of_unserved (le_refl c) ⟨hw.1, ?_⟩
    rw [hw.2, hsame]
    exact hempty hzero
  · have hestimate : Calm (countedTokens messages st) := by
      unfold countedTokens
      split
      · exact calm_call rfl
      · exact calm_ret _
    refine wp_calm_bind hestimate h hbefore fun counts w h _ => ?_
    refine wp_calm_bind (calm_call rfl) h hbefore fun _ w h _ => ?_
    exact wp_streamCompletion henv hip hlimit counts.1 counts.2 h

/-- The stream as a whole. -/
theorem wp_streamGenerator (cs : List Chunk) (h : Unserved (clientKey config ip day) day c w) :
    (streamGenerator config messages ip model cs).wp (anonRuns env HeardOut) .alone
      (fun _ _ => Settled (clientKey config ip day) day c) (fun _ _ => Settled (clientKey config ip day) day c) () w := by
  have hbefore : ∀ w, Unserved (clientKey config ip day) day c w → Settled (clientKey config ip day) day c w :=
    fun _ h => settled_of_unserved (le_refl c) h
  have hapology : Calm (do
      quietly (call (.task .captureProviderError))
      quietly (call (.task .saveFailedRequest))
      apologize "stream_error") :=
    calm_bind (calm_quietly (calm_call rfl)) fun _ => calm_bind (calm_quietly (calm_call rfl)) fun _ => calm_apologize _
  unfold streamGenerator
  refine wp_exceptException ?_
  -- whatever is raised, what is settled stays settled
  suffices hbody : Prog.wp (anonRuns env HeardOut) .alone (fun _ _ => Settled (clientKey config ip day) day c)
      (fun _ _ => Settled (clientKey config ip day) day c) _ () w from
    wp_mono (fun _ _ _ h => h) (fun e _ w h => ⟨fun x _ => wp_settled hapology.only h, fun _ => h⟩) hbody
  rw [wp_bind, wp_andFinally]
  refine wp_mono (fun seen _ w hseen => ?_) (fun e _ w h => ?_) (wp_streamLoop cs {} h.1 fun _ => h.2)
  · obtain ⟨h, hempty⟩ := hseen
    refine wp_mono (fun _ _ w hw => ?_) (fun _ _ w h => hbefore w h) (wp_closeStream h)
    cases seen with
    | some st =>
      refine wp_afterStream henv hip hlimit st hw.1 fun hzero => ?_
      rw [hw.2]
      exact hempty hzero
    | none => exact hbefore w ⟨hw.1, hw.2.trans (hempty rfl)⟩
  · exact wp_settled (only_quietly (only_call rfl)) (hbefore w h)

end Stream

/-! ## Letting a request in -/

section Admission

variable {α : Type} {config : Config} {req : Request} {ip model : String} {env : Env} {day c : Nat} {w : World}

theorem only_isModelAllowed : (isModelAllowedForAnonymous model).Only fun s => s.neutral = true := by
  unfold isModelAllowedForAnonymous
  split
  · exact only_ret _
  · exact only_exceptException (only_call rfl) fun _ => only_ret _

theorem only_allowedModelsSample (n : Nat) : (anonymousAllowedModelsSample n).Only fun s => s.neutral = true :=
  only_exceptException (only_bind (only_call rfl) fun _ => only_ret _) fun _ => only_ret _

theorem wp_validateAnonymousRequest (henv : ∀ n, env.clock n / 86400 = day)
    (h : Unserved (clientKey config ip day) day c w) :
    (validateAnonymousRequest config ip model).wp (anonRuns env HeardOut) .alone
      (fun v _ w' => Unserved (clientKey config ip day) day c w' ∧ (v.allowed = true → c < anonymousDailyLimit))
      (fun _ _ => Unserved (clientKey config ip day) day c) () w := by
  unfold validateAnonymousRequest
  refine wp_seq (wp_unserved only_isModelAllowed h) fun modelAllowed _ w h => ?_
  split
  · refine wp_seq (wp_unserved (only_allowedModelsSample 3) h) fun _ _ w h => ?_
    exact ⟨h, fun hallowed => by cases hallowed⟩
  · unfold checkAnonymousRateLimit
    rw [wp_bind, wp_bind]
    refine wp_post (fun n _ w' hn => ?_) (wp_getAnonymousUsageCount henv h.1)
    obtain ⟨rfl, hcounted, hsame⟩ := hn
    have hunserved : Unserved (clientKey config ip day) day n w' := ⟨hcounted, hsame.trans h.2⟩
    split
    · exact ⟨hunserved, fun hallowed => by cases hallowed⟩
    · next hfew => exact ⟨hunserved, fun _ => Nat.lt_of_not_le hfew⟩

/-- The loop of a streamed request: by induction on the chain. What it answers is `streamGenerator`, not yet begun. -/
theorem wp_dispatchStreaming {key : UsageKey} (messages : ChatMessages) (chain : List String) (last : Option Exc)
    (h : Unserved key day c w) :
    (dispatchStreaming config messages ip model chain last).wp (anonRuns env HeardOut) .alone
      (fun body _ w' => Unserved key day c w' ∧ ∃ m cs, body = streamGenerator config messages ip m cs)
      (fun _ _ => Unserved key day c) () w := by
  induction chain generalizing last w with
  | nil => exact h
  | cons provider rest ih =>
    unfold dispatchStreaming
    refine wp_seq (wp_unserved (only_call rfl) h) fun attemptModel _ w h => ?_
    refine wp_exceptException ?_
    rw [wp_bind]
    refine wp_mono (fun stream _ w h => ?_) (fun e _ w h => ?_) (wp_unserved (only_call rfl) h)
    · exact ⟨h, attemptModel, stream, rfl⟩
    · refine ⟨fun x _ => ?_, fun _ => h⟩
      refine wp_seq (wp_unserved (only_quietly (only_call rfl)) h) fun _ _ w h => ?_
      show Prog.wp _ _ _ _ (ite _ _ _) _ _
      split
      · exact ih (w := w) _ h
      · split
        · exact h
        · exact h

theorem only_requestLoop {extend : Exc → AnonProg (Processed × String × String)}
    (hextend : ∀ e, (extend e).Only fun s => s.neutral = true) (chain : List String) (last : Option Exc) :
    (requestLoop model extend chain last).Only fun s => s.neutral = true := by
  induction chain generalizing last with
  | nil => exact only_fail _
  | cons provider rest ih =>
    unfold requestLoop
    refine only_bind (only_call rfl) fun attemptModel => only_exceptException ?_ fun e => ?_
    · exact only_bind (only_call rfl) fun _ => only_bind (only_call rfl) fun _ => only_ret _
    · show Prog.Only _ (ite _ _ _)
      split
      · exact ih _
      · split
        · exact hextend _
        · exact only_fail _

theorem only_dispatchNonStreaming (provider : String) (n : Nat) (tried chain : List String) :
    (dispatchNonStreaming model provider n tried chain).Only fun s => s.neutral = true := by
  induction n generalizing tried chain with
  | zero => exact only_requestLoop (fun _ => only_fail _) _ _
  | succ n ih =>
    refine only_requestLoop (fun httpExc => only_bind (only_call rfl) fun extended => ?_) _ _
    show Prog.Only _ (ite _ _ _)
    split
    · exact only_fail _
    · exact ih _ _

theorem only_finish (processed : Processed) : (finish processed model).Only fun s => s.neutral = true := by
  refine only_bind (only_call rfl) fun _ => only_bind (only_quietly (only_call rfl)) fun _ => only_bind ?_ fun _ => only_ret _
  refine only_exceptException (only_bind (only_call rfl) fun _ => only_ret _) fun e => ?_
  show Prog.Only _ (ite _ _ _)
  split
  · exact only_ret _
  · exact only_fail _

/-- What the route hands to the server: nothing has been served, and a stream is one of a client with fewer than three. -/
def HandedOver (config : Config) (messages : ChatMessages) (ip : String) (day c : Nat) : Response → World → Prop
  | .json _, w => Unserved (clientKey config ip day) day c w
  | .stream body, w =>
    Unserved (clientKey config ip day) day c w ∧ c < anonymousDailyLimit ∧
      ∃ m cs, body = streamGenerator config messages ip m cs

theorem wp_dispatch (hlimit : c < anonymousDailyLimit) (h : Unserved (clientKey config ip day) day c w) :
    (dispatch config req ip).wp (anonRuns env HeardOut) .alone
      (fun response _ => HandedOver config req.messages ip day c response)
      (fun _ _ => Unserved (clientKey config ip day) day c) () w := by
  unfold dispatch
  refine wp_seq (wp_unserved (only_call rfl) h) fun _ _ w h => ?_
  refine wp_seq (wp_unserved (only_call rfl) h) fun plan _ w h => ?_
  refine wp_seq (wp_unserved (only_quietly (only_call rfl)) h) fun _ _ w h => ?_
  split
  · refine wp_seq (wp_dispatchStreaming req.messages _ none h) fun body _ w hbody => ?_
    exact ⟨hbody.1, hlimit, hbody.2⟩
  · refine wp_seq (wp_unserved (only_dispatchNonStreaming _ _ _ _) h) fun processed _ w h => ?_
    rw [wp_bind]
    exact wp_unserved (only_finish _) h

theorem wp_chatCompletions (henv : ∀ n, env.clock n / 86400 = day) (hip : clientIp req.peer = ip)
    (h : Unserved (clientKey config ip day) day c w) : (chatCompletions config req).wp (anonRuns env HeardOut) .alone
      (fun response _ => HandedOver config req.messages ip day c response)
      (fun _ _ => Unserved (clientKey config ip day) day c) () w := by
  unfold chatCompletions
  rw [hip]
  split
  · exact h
  · refine wp_seq (wp_unserved (only_call rfl) h) fun _ _ w h => ?_
    refine wp_exceptException ?_
    have hfailed : ∀ (e : Exc) w, Unserved (clientKey config ip day) day c w →
        Prog.wp (anonRuns env HeardOut) .alone (fun response _ => HandedOver config req.messages ip day c response)
          (fun _ _ => Unserved (clientKey config ip day) day c)
          (do
            quietly (call (.task .saveFailedRequest))
            if e.httpStatus?.isSome then raise e else raise (.httpException 500 "Internal server error")) () w := by
      intro e w h
      refine wp_seq (wp_unserved (only_quietly (only_call rfl)) h) fun _ _ w h => ?_
      split
      · exact h
      · exact h
    suffices hpart : Prog.wp (anonRuns env HeardOut) .alone
        (fun response _ => HandedOver config req.messages ip day c response)
        (fun _ _ => Unserved (clientKey config ip day) day c) _ () w from
      wp_mono (fun _ _ _ h => h) (fun e _ w h => ⟨fun x _ => hfailed x w h, fun _ => h⟩) hpart
    refine wp_seq (wp_validateAnonymousRequest henv h) fun v _ w hv => ?_
    obtain ⟨h, hlimit⟩ := hv
    cases hallowed : v.allowed with
    | false =>
      show Prog.wp _ _ _ _ (refuse v) _ _
      unfold refuse
      split
      · exact h
      · rw [wp_bind]
        exact wp_unserved (only_allowedModelsSample 5) h
    | true => exact wp_dispatch (hlimit hallowed) h

/-- A request, served. -/
theorem wp_serve (henv : ∀ n, env.clock n / 86400 = day) (hfrom : clientIp req.peer = ip) (hip : ip ≠ "")
    (h : Unserved (clientKey config ip day) day c w) :
    (serve config req).wp (anonRuns env HeardOut) .alone (fun _ _ => Settled (clientKey config ip day) day c)
      (fun _ _ => Settled (clientKey config ip day) day c) () w := by
  have hbefore : ∀ w, Unserved (clientKey config ip day) day c w → Settled (clientKey config ip day) day c w :=
    fun _ h => settled_of_unserved (le_refl c) h
  unfold serve
  rw [wp_bind]
  refine wp_mono (fun response _ w h => ?_) (fun _ _ w h => hbefore w h) (wp_chatCompletions henv hfrom h)
  cases response with
  | json r =>
    show Prog.wp _ _ _ _ (call (.respond r) >>= fun _ => _) _ _
    rw [wp_bind]
    -- the client has gone: nothing is served in one piece
    refine wp_alone_stmt (C := anonRuns env HeardOut) fun o ho => ?_
    obtain ⟨-, e, rfl⟩ := ho
    exact hbefore w h
  | stream body =>
    obtain ⟨h, hlimit, m, cs, rfl⟩ := h
    show Prog.wp _ _ _ _ (call (.task .startResponse) >>= fun _ => _) _ _
    rw [wp_bind]
    refine wp_mono (fun _ _ w h => ?_) (fun _ _ w h => hbefore w h) (wp_unserved (only_call rfl) h)
    exact wp_streamGenerator henv hip hlimit cs h

end Admission

/-! ## A day -/

section Day

variable {config : Config} {ip : String} {day : Nat} {t : Turn} {store : UsageStore}

/-- Step: what a request leaves behind. -/
theorem handled_settled (hturn : t.From ip day) (hip : ip ≠ "") (hstore : store.Dated (clientKey config ip day) day)
    (hgoes : (serve config t.req).Admits (anonRuns t.env HeardOut) t.link () { store := store }) :
    Settled (clientKey config ip day) day (store.count (clientKey config ip day)) (t.handled config store) := by
  have hunserved : Unserved (clientKey config ip day) day (store.count (clientKey config ip day)) { store := store } :=
    ⟨⟨rfl, hstore⟩, rfl⟩
  have hserve := wp_serve hturn.2 hturn.1 hip hunserved
  obtain ⟨-, hanswer⟩ := wp_run_alone hserve hgoes
  unfold Turn.handled
  cases hr : ((serve config t.req).run (step t.env) t.link { store := store }).1 with
  | ok a =>
    rw [hr] at hanswer
    exact hanswer
  | error e =>
    rw [hr] at hanswer
    exact hanswer

/-- Run: a client is served no more often than there is room, by induction on the requests. -/
theorem servedIn_le (ts : List Turn) (store : UsageStore) (hturns : ∀ t ∈ ts, t.From ip day) (hip : ip ≠ "")
    (hstore : store.Dated (clientKey config ip day) day) (hgoes : Within config HeardOut ts store) :
    servedIn config ts store ≤ anonymousDailyLimit - store.count (clientKey config ip day) := by
  induction ts generalizing store with
  | nil => exact Nat.zero_le _
  | cons t ts ih =>
    obtain ⟨hdated, hkept, hcounted⟩ := handled_settled (hturns t List.mem_cons_self) hip hstore hgoes.1
    have hrest := ih (t.handled config store).store (fun t' ht => hturns t' (List.mem_cons_of_mem t ht)) hdated hgoes.2
    unfold servedIn
    split
    · next hserved =>
      obtain ⟨hfew, hmore⟩ := hcounted hserved
      omega
    · omega

/-- **The daily limit holds** for clients that hear out what they are served. -/
theorem anonymous_daily_limit (config : Config) (ip : String) (day : Nat) (ts : List Turn) (store : UsageStore)
    (hip : ip ≠ "") (hturns : ∀ t ∈ ts, t.From ip day) (hstore : store.Dated (clientKey config ip day) day)
    (hgoes : Within config HeardOut ts store) : servedIn config ts store ≤ anonymousDailyLimit :=
  (servedIn_le ts store hturns hip hstore hgoes).trans (Nat.sub_le _ _)

end Day

/-! ## Four requests -/

instance {o : Outcome ChatErr} : Decidable (∃ e, o = .dropped e) :=
  match o with
  | .served => .isFalse fun h => by cases h with | intro e he => cases he
  | .dropped e => .isTrue ⟨e, rfl⟩
  | .lost e => .isFalse fun h => by cases h with | intro e' he => cases he

instance : DecidablePred Caught := fun o => by
  unfold Caught
  split <;> infer_instance

instance decidableStoreAvailable (env : Env) (s : Stmt) (o : Outcome ChatErr) (w : World) :
    Decidable (StoreAvailable env s o w) := by
  unfold StoreAvailable
  split <;> infer_instance

instance decidableHeardOut (env : Env) (s : Stmt) (o : Outcome ChatErr) (w : World) : Decidable (HeardOut env s o w) := by
  unfold HeardOut
  exact @instDecidableAnd _ _ _ (by split <;> infer_instance)

instance decidableWithin (config : Config) (allow : Env → Stmt → Outcome ChatErr → World → Prop)
    [∀ env s o w, Decidable (allow env s o w)] : ∀ ts store, Decidable (Within config allow ts store)
  | [], _ => .isTrue trivial
  | t :: ts, store =>
    have := decidableWithin config allow ts (t.handled config store).store
    inferInstanceAs (Decidable (_ ∧ _))

def emptyStore : UsageStore := { redis := some fun _ => none }

theorem emptyStore_dated (key : UsageKey) (day : Nat) : emptyStore.Dated key day := by
  intro redis c expiry hredis hc
  injection hredis with hredis
  subst hredis
  cases hc

/-- A free model at a provider that streams two chunks. -/
def freeEnv : Env where
  clock := fun _ => 1750000000
  answers := fun _ s =>
    match s with
    | .task _ => ()
    | .now => 0
    | .redisClient => true
    | .redisGet _ => none
    | .redisIncr _ => 0
    | .memoryCount _ => 0
    | .memoryIncrement _ => 0
    | .isFreeModel _ => true
    | .freeModels => []
    | .estimateTokens _ _ => (1, 1)
    | .calculateCost _ _ _ => 0
    | .getModelPricing _ => { prompt := 0, completion := 0 }
    | .prepareUpstreamRequest _ => ⟨"openrouter", ["openrouter"]⟩
    | .transformModelId model _ => model
    | .request _ _ => ⟨"Hello", 1, 1⟩
    | .openStream _ _ => [{ normalized := some ⟨"Hel", "Hel"⟩ }, { normalized := some ⟨"lo", "lo"⟩ }]
    | .extendedChain _ _ => []
    | .isDisconnected => false
    | .pastDeadline => false
    | .send _ => ()
    | .respond _ => ()

theorem freeEnv_clock (n : Nat) : freeEnv.clock n / 86400 = 20254 := by
  show 1750000000 / 86400 = 20254
  norm_num

def limitedConfig : Config := { hashIp := id }

def freeRequest (stream : Bool) : Request where
  model := "google/gemma-2-9b-it:free"
  messages := ⟨5, 2⟩
  stream := stream
  peer := some { forwardedFor := "203.0.113.7, 10.0.0.1", host := some "10.0.0.1" }

theorem anonymous_daily_limit_heardOut :
    servedIn limitedConfig (List.replicate 5 ⟨freeRequest true, freeEnv, []⟩) emptyStore ≤ anonymousDailyLimit :=
  anonymous_daily_limit limitedConfig "203.0.113.7" 20254 (List.replicate 5 ⟨freeRequest true, freeEnv, []⟩) emptyStore
    (by decide) (fun t ht => by
      obtain rfl := List.eq_of_mem_replicate ht
      exact ⟨by decide +kernel, freeEnv_clock⟩)
    (emptyStore_dated _ _) (by decide +kernel)

def lateEnv : Env where
  clock := freeEnv.clock
  answers := fun moment s =>
    match s with
    | .pastDeadline => decide (18 ≤ moment)
    | s => freeEnv.answers moment s

/-- Four requests of a client on a day: an answer in one piece, and streams that the client, the provider and the watchdog end
    after the first chunk. -/
def brokenOff : List Turn :=
  [⟨freeRequest false, freeEnv, []⟩,
    ⟨freeRequest true, freeEnv, List.replicate 15 .served ++ [.lost .generatorExit]⟩,
    ⟨freeRequest true, freeEnv, List.replicate 16 .served ++ [.dropped (.exception (.py ⟨.other, "connection reset"⟩))]⟩,
    ⟨freeRequest true, lateEnv, []⟩]

/-- Of what is broken off or comes in one piece nothing is counted: the client may go on. -/
theorem more_served_than_allowed :
    Within limitedConfig StoreAvailable (brokenOff ++ brokenOff) emptyStore ∧
      (∀ t ∈ brokenOff ++ brokenOff, t.From "203.0.113.7" 20254) ∧
      anonymousDailyLimit < servedIn limitedConfig (brokenOff ++ brokenOff) emptyStore ∧
      servedIn limitedConfig (brokenOff ++ brokenOff) emptyStore = 8 := by
  refine ⟨by decide +kernel, fun t ht => ?_, by decide +kernel, by decide +kernel⟩
  rcases List.mem_append.mp ht with ht | ht
  all_goals
    simp only [brokenOff, List.mem_cons, List.not_mem_nil, or_false] at ht
    rcases ht with rfl | rfl | rfl | rfl <;> exact ⟨by decide +kernel, freeEnv_clock⟩

end Gatewayz.Anon
