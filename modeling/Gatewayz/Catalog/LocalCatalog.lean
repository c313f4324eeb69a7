import Gatewayz.Exec.Pool

/-!
# `Catalog.LocalCatalog` — the catalogs in a worker's memory, and the epoch that invalidates them

Every worker process keeps catalogs in its own memory (`LocalMemoryCache`). A deleted Redis key does not reach them, so an
entry carries the **epoch** it was stored under, invalidations increment a counter in Redis, and an entry of another epoch
is a miss. The epoch is read from Redis every five seconds at most and only moves forward.

A Redis command can fail, or be carried out with its answer lost; the sections of a worker cannot.

What an observer needs is kept along: the world remembers which invalidation made which increment and which invalidations
have completed, a catalog those that had completed when its data was fetched, and a worker those that had completed when it
last read the epoch. No function reads it.
-/

namespace Gatewayz.Local

open Exec

/-! ## Entries and workers -/

/-- A catalog, with the invalidations that had completed when its data was fetched. -/
structure Catalog (ι : Type) where
  models : List String
  after : List ι
  deriving DecidableEq

/-- `CacheEntry`, for a catalog stamped with an epoch. -/
structure CacheEntry (ι : Type) where
  stampedEpoch : Nat
  catalog : Catalog ι
  expiresAt : Nat
  staleExpiresAt : Nat

/-- The entries of a `LocalMemoryCache`, the least recently used first. -/
abbrev Entries (ι : Type) := List (String × CacheEntry ι)

def maxEntries : Nat := 500

def second : Nat := 1000

/-- `_EPOCH_RECHECK_SECONDS`. -/
def epochRecheck : Nat := 5 * second

/-- A worker process: its epoch, when it was checked, its catalogs. -/
structure Worker (ι : Type) where
  epochValue : Nat := 0
  epochCheckedAt : Nat := 0
  entries : Entries ι := []
  /-- The invalidations that had completed when the epoch was last read. -/
  reread : List ι := []

section Cache

variable {ι : Type}

def lookup (key : String) : Entries ι → Option (CacheEntry ι)
  | [] => none
  | (k, e) :: rest => if k = key then some e else lookup key rest

/-- `del self._cache[key]`. -/
def erase (key : String) (entries : Entries ι) : Entries ι := entries.filter (fun x => x.1 ≠ key)

/-- `LocalMemoryCache.get`: the entry and whether it is stale; an entry past its grace is removed, any other moves to the
end. -/
def cacheGet (key : String) (now : Nat) (entries : Entries ι) : Option (CacheEntry ι × Bool) × Entries ι :=
  match lookup key entries with
  | none => (none, entries)
  | some e =>
    if now > e.staleExpiresAt then (none, erase key entries)
    else (some (e, decide (now > e.expiresAt)), erase key entries ++ [(key, e)])

/-- `LocalMemoryCache.set`: the oldest entries give way, the new one comes last. -/
def cacheSet (key : String) (e : CacheEntry ι) (entries : Entries ι) : Entries ι :=
  erase key (entries.drop (entries.length - (maxEntries - 1))) ++ [(key, e)]

variable {key : String} {entries : Entries ι} {e : CacheEntry ι}

theorem mem_lookup (h : lookup key entries = some e) : (key, e) ∈ entries := by
  induction entries with
  | nil => cases h
  | cons x rest ih =>
    obtain ⟨k, e'⟩ := x
    rw [lookup] at h
    split at h
    · next hk =>
      cases h
      subst hk
      exact List.mem_cons_self
    · exact List.mem_cons_of_mem _ (ih h)

variable {x : String × CacheEntry ι}

theorem mem_erase (h : x ∈ erase key entries) : x ∈ entries :=
  List.mem_of_mem_filter h

theorem mem_cacheGet {now : Nat} (h : x ∈ (cacheGet key now entries).2) : x ∈ entries := by
  unfold cacheGet at h
  cases hl : lookup key entries with
  | none =>
    rw [hl] at h
    exact h
  | some e =>
    rw [hl] at h
    dsimp only at h
    split at h
    · exact mem_erase h
    · rcases List.mem_append.mp h with h | h
      · exact mem_erase h
      · rw [List.mem_singleton.mp h]
        exact mem_lookup hl

theorem cacheGet_entry {now : Nat} {stale : Bool}
    (h : (cacheGet key now entries).1 = some (e, stale)) : (key, e) ∈ entries := by
  unfold cacheGet at h
  cases hl : lookup key entries with
  | none =>
    rw [hl] at h
    cases h
  | some e' =>
    rw [hl] at h
    dsimp only at h
    split at h
    · cases h
    · cases h
      exact mem_lookup hl

theorem mem_cacheSet (h : x ∈ cacheSet key e entries) : x ∈ entries ∨ x = (key, e) := by
  rcases List.mem_append.mp h with h | h
  · exact .inl (List.mem_of_mem_drop (mem_erase h))
  · exact .inr (List.mem_singleton.mp h)

end Cache

/-! ## The world and its steps -/

/-- Redis, as far as catalogs and their epoch go, the workers, and what the observer remembers. -/
structure World (ω ι : Type) where
  now : Nat
  /-- `CATALOG_EPOCH_KEY`. -/
  epoch : Option Nat
  catalogKeys : List String
  workers : ω → Worker ι
  /-- Which invalidation made which increment. -/
  bumps : List (Nat × ι) := []
  completed : List ι := []

/-- `redis.RedisError`, and a Redis that is not available. -/
inductive RedisError where
  | raised
  deriving DecidableEq

inductive Stmt (ω ι : Type) where
  /-- The check of the Redis client. -/
  | redisAvailable (w : ω)
  | redisGetEpoch
  /-- `INCR`, on behalf of an invalidation. -/
  | redisIncrEpoch (id : ι)
  | redisDelete (keys : List String)
  /-- The keys of a family, by `SCAN`. -/
  | redisScan (family : String)
  /-- `_epoch_value`, read without the lock. -/
  | peekEpoch (w : ω)
  /-- The first section of `get_catalog_epoch`: the known value, and whether it is this caller who reads Redis. -/
  | claimEpoch (w : ω) (force : Bool)
  /-- Its last section; `seen` is the observer's. -/
  | noteEpoch (w : ω) (observed : Nat) (seen : List ι)
  /-- The section of `bump_catalog_epoch`. -/
  | noteBump (w : ω) (newEpoch : Nat) (seen : List ι)
  | cacheGet (w : ω) (key : String)
  | cacheSet (w : ω) (key : String) (stampedEpoch : Nat) (catalog : Catalog ι) (ttl staleTtl : Nat)
  | cacheDelete (w : ω) (key : String)
  /-- A catalog is read, from Redis or from the database. -/
  | fetch (models : List String)
  /-- The observer notes that an invalidation has returned, and reported success. -/
  | completed (id : ι)
  | wait (duration : Nat)
  | loseEpoch

/-- What a step answers. -/
abbrev Res {ω ι : Type} : Stmt ω ι → Type
  | .redisAvailable _ => Unit
  | .redisGetEpoch => Option Nat × List ι
  | .redisIncrEpoch _ => Nat × List ι
  | .redisDelete _ => Nat
  | .redisScan _ => List String
  | .peekEpoch _ => Nat
  | .claimEpoch _ _ => Nat × Bool
  | .noteEpoch _ _ _ => Nat
  | .noteBump _ _ _ => Nat
  | .cacheGet _ _ => Option (CacheEntry ι × Bool)
  | .cacheSet _ _ _ _ _ _ => Unit
  | .cacheDelete _ _ => Unit
  | .fetch _ => Catalog ι
  | .completed _ => Unit
  | .wait _ => Unit
  | .loseEpoch => Unit

namespace World

variable {ω ι : Type} [DecidableEq ω]

/-- The counter as `INCR` and `get_catalog_epoch` read it: an absent key is zero. -/
def counter (st : World ω ι) : Nat := st.epoch.getD 0

def setWorker (st : World ω ι) (w : ω) (k : Worker ι) : World ω ι :=
  { st with workers := Function.update st.workers w k }

/-- `_epoch_value = max(_epoch_value, observed)`. -/
def advance (st : World ω ι) (w : ω) (observed : Nat) (seen : List ι) : World ω ι :=
  st.setWorker w { st.workers w with
    epochValue := max (st.workers w).epochValue observed
    reread := seen ++ (st.workers w).reread }

/-- Does this call of `get_catalog_epoch` go to Redis? -/
def due (st : World ω ι) (w : ω) (force : Bool) : Bool :=
  force || decide (epochRecheck ≤ st.now - (st.workers w).epochCheckedAt)

def exec : (s : Stmt ω ι) → World ω ι → Except RedisError (Res s) × World ω ι
  | .redisAvailable _, st => (.ok (), st)
  | .redisGetEpoch, st => (.ok (st.epoch, st.completed), st)
  | .redisIncrEpoch id, st =>
    (.ok (st.counter + 1, st.completed),
      { st with epoch := some (st.counter + 1), bumps := (st.counter + 1, id) :: st.bumps })
  | .redisDelete keys, st =>
    (.ok (st.catalogKeys.countP (keys.contains ·)),
      { st with catalogKeys := st.catalogKeys.filter (fun k => !keys.contains k) })
  | .redisScan family, st => (.ok (st.catalogKeys.filter ((family ++ ":").isPrefixOf ·)), st)
  | .peekEpoch w, st => (.ok (st.workers w).epochValue, st)
  | .claimEpoch w force, st =>
    (.ok ((st.workers w).epochValue, st.due w force),
      if st.due w force then st.setWorker w { st.workers w with epochCheckedAt := st.now } else st)
  | .noteEpoch w observed seen, st =>
    (.ok ((max (st.workers w).epochValue observed : Nat)), st.advance w observed seen)
  | .noteBump w newEpoch seen, st =>
    (.ok ((max (st.workers w).epochValue newEpoch : Nat)),
      (st.setWorker w { st.workers w with epochCheckedAt := st.now }).advance w newEpoch seen)
  | .cacheGet w key, st =>
    (.ok (cacheGet key st.now (st.workers w).entries).1,
      st.setWorker w { st.workers w with entries := (cacheGet key st.now (st.workers w).entries).2 })
  | .cacheSet w key stampedEpoch catalog ttl staleTtl, st =>
    (.ok (), st.setWorker w { st.workers w with
      entries := cacheSet key ⟨stampedEpoch, catalog, st.now + ttl, st.now + ttl + staleTtl⟩ (st.workers w).entries })
  | .cacheDelete w key, st =>
    (.ok (), st.setWorker w { st.workers w with entries := erase key (st.workers w).entries })
  | .fetch models, st => (.ok ⟨models, st.completed⟩, st)
  | .completed id, st => (.ok (), { st with completed := id :: st.completed })
  | .wait duration, st => (.ok (), { st with now := st.now + duration })
  | .loseEpoch, st => (.ok (), { st with epoch := none })

end World

/-! ## The functions -/

section Functions

variable {ω ι : Type}

abbrev LocalM (ω ι : Type) := Prog RedisError (Stmt ω ι) Res

def ask (s : Stmt ω ι) : LocalM ω ι (Res s) := Prog.stmt s

def isRedisAvailable (w : ω) : LocalM ω ι Bool := do
  let answered ← (ask (.redisAvailable w) : LocalM ω ι Unit).attempt
  return answered.isOk

/-- `get_catalog_epoch`: known when it was checked lately, or when Redis does not answer. -/
def getCatalogEpoch (w : ω) (force : Bool := false) : LocalM ω ι Nat := do
  let (known, due) ← (ask (.claimEpoch w force) : LocalM ω ι (Nat × Bool))
  if due then
    if ← isRedisAvailable w then
      match ← (ask .redisGetEpoch : LocalM ω ι (Option Nat × List ι)).attempt with
      | .ok (raw, seen) => (ask (.noteEpoch w (raw.getD 0) seen) : LocalM ω ι Nat)
      | .error _ => return known
    else return known
  else return known

def bumpCatalogEpoch (w : ω) (id : ι) : LocalM ω ι Nat := do
  if ← isRedisAvailable w then
    match ← (ask (.redisIncrEpoch id) : LocalM ω ι (Nat × List ι)).attempt with
    | .ok (newEpoch, seen) => (ask (.noteBump w newEpoch seen) : LocalM ω ι Nat)
    | .error _ => (ask (.peekEpoch w) : LocalM ω ι Nat)
  else (ask (.peekEpoch w) : LocalM ω ι Nat)

/-- The key of a provider's catalog in a worker's memory. -/
def localKey (provider : String) : String := "catalog:" ++ provider

/-- `get_local_catalog`: the catalog and whether it is stale. -/
def getLocalCatalog (w : ω) (provider : String) : LocalM ω ι (Option (Catalog ι × Bool)) := do
  match ← (ask (.cacheGet w (localKey provider)) : LocalM ω ι (Option (CacheEntry ι × Bool))) with
  | none => return none
  | some (entry, isStale) =>
    let current ← getCatalogEpoch w
    if entry.stampedEpoch = current then return some (entry.catalog, isStale)
    else do
      let _ ← ask (.cacheDelete w (localKey provider))
      return none

/-- `set_local_catalog`, stamped with the current epoch. -/
def setLocalCatalog (w : ω) (provider : String) (catalog : Catalog ι) (ttl : Nat := 900 * second)
    (staleTtl : Nat := 3600 * second) : LocalM ω ι Unit := do
  let stampedEpoch ← getCatalogEpoch w
  (ask (.cacheSet w (localKey provider) stampedEpoch catalog ttl staleTtl) : LocalM ω ι Unit)

/-- `PREFIX_FULL_CATALOG`. -/
def fullCatalogKey : String := "gw:models:catalog:v2:full"

/-- `_generate_key(self.PREFIX_PROVIDER, provider_name)`. -/
def providerKey (name : String) : String := "gw:models:provider:" ++ name

def invalidateFullCatalog (w : ω) (id : ι) : LocalM ω ι Bool := do
  if ← isRedisAvailable w then
    match ← (ask (.redisDelete [fullCatalogKey]) : LocalM ω ι Nat).attempt with
    | .ok _ => do
      let _ ← bumpCatalogEpoch w id
      return true
    | .error _ => return false
  else return false

/-- `ModelCatalogCache.invalidate_provider_catalog`, when it runs: a debounced call runs it later. -/
def invalidateProviderCatalog (w : ω) (id : ι) (name : String) (cascade : Bool) : LocalM ω ι Bool := do
  if ← isRedisAvailable w then
    match ← (ask (.redisDelete [providerKey name]) : LocalM ω ι Nat).attempt with
    | .ok _ => do
      if cascade then do
        let _ ← invalidateFullCatalog w id
        let _ ← bumpCatalogEpoch w id
        return true
      else do
        let _ ← bumpCatalogEpoch w id
        return true
    | .error _ => return false
  else return false

/-- What `invalidate_providers_batch` answers. -/
structure BatchResult where
  success : Bool
  providersInvalidated : Nat := 0
  keysDeleted : Nat := 0

/-- `ModelCatalogCache.invalidate_providers_batch`: one pipeline for all keys. Only the cascade moves the epoch. -/
def invalidateProvidersBatch (w : ω) (id : ι) (names : List String) (cascade : Bool) : LocalM ω ι BatchResult := do
  if ← isRedisAvailable w then
    if names = [] then return { success := true }
    else
      match ← (ask (.redisDelete (names.map providerKey)) : LocalM ω ι Nat).attempt with
      | .ok keysDeleted => do
        if cascade then do
          let _ ← invalidateFullCatalog w id
          return { success := true, providersInvalidated := names.length, keysDeleted }
        else return { success := true, providersInvalidated := names.length, keysDeleted }
      | .error _ => return { success := false }
  else return { success := false }

/-- One family of `invalidate_all_models`: scanned, then deleted. -/
def deleteFamily (family : String) : LocalM ω ι Nat := do
  let keys : List String ← ask (.redisScan family)
  if keys = [] then return 0
  else (ask (.redisDelete keys) : LocalM ω ι Nat)

/-- `ModelCatalogCache.invalidate_all_models`: how many keys, none when Redis fails. The epoch stays where it is. -/
def invalidateAllModels (w : ω) : LocalM ω ι Nat := do
  if ← isRedisAvailable w then
    let deleted ← (do
      let models ← deleteFamily "gw:models:model"
      let prices ← deleteFamily "gw:models:pricing"
      let providers ← deleteFamily "gw:models:provider"
      let _ ← (ask (.redisDelete [fullCatalogKey]) : LocalM ω ι Nat)
      return models + prices + providers + 1 : LocalM ω ι Nat).attempt
    return deleted.toOption.getD 0
  else return 0

/-! ## What workers do -/

inductive Invalidation where
  | provider (name : String) (cascade : Bool)
  | full
  | batch (names : List String) (cascade : Bool)
  | all

/-- The invalidation, and whether it reported success. -/
def Invalidation.run (w : ω) (id : ι) : Invalidation → LocalM ω ι Bool
  | .provider name cascade => invalidateProviderCatalog w id name cascade
  | .full => invalidateFullCatalog w id
  | .batch names cascade => do
    let result ← invalidateProvidersBatch w id names cascade
    return result.success && !names.isEmpty
  | .all => do
    let deleted ← invalidateAllModels w
    return decide (0 < deleted)

inductive Activity (ω : Type) where
  /-- Fetch a catalog, and store it whenever its turn comes. -/
  | fetchAndStore (w : ω) (provider : String) (models : List String)
  | read (w : ω) (provider : String)
  | invalidate (w : ω) (what : Invalidation)
  | wait (duration : Nat)
  | loseEpoch

/-- The activity of the thread `id`; only a read has a result. -/
def Activity.prog (id : ι) : Activity ω → LocalM ω ι (Option (Catalog ι × Bool))
  | .fetchAndStore w provider models => do
    let catalog ← (ask (.fetch models) : LocalM ω ι (Catalog ι))
    setLocalCatalog w provider catalog
    return none
  | .read w provider => getLocalCatalog w provider
  | .invalidate w what => do
    if ← what.run w id then
      let _ ← ask (.completed id)
      return none
    else return none
  | .wait duration => do
    let _ ← ask (.wait duration)
    return none
  | .loseEpoch => do
    let _ ← ask .loseEpoch
    return none

end Functions

/-! ## Runs -/

section Runs

variable {ω ι : Type} [DecidableEq ω]

def Stmt.ofRedis : Stmt ω ι → Bool
  | .redisAvailable _ | .redisGetEpoch | .redisIncrEpoch _ | .redisDelete _ | .redisScan _ => true
  | _ => false

/-- What a thread found when it last looked at the epoch of its worker. -/
structure Look (ι : Type) where
  /-- The invalidations that had completed when the worker last read the epoch. -/
  seen : List ι := []
  /-- Those that had completed when the thread asked for the epoch. -/
  before : List ι := []
  /-- The epoch had gone unchecked for five seconds, and Redis answered. -/
  answered : Bool := false

/-- A thread's note: its last look. -/
def lastLook (look : Look ι) (s : Stmt ω ι) (_ : Except RedisError (Res s)) (st st' : World ω ι) : Look ι :=
  match s with
  | .claimEpoch w _ => { seen := (st'.workers w).reread, before := st.completed, answered := false }
  | .noteEpoch w _ _ => { look with seen := (st'.workers w).reread, answered := true }
  | _ => look

/-- Any run: the sections of a worker are carried out. -/
def anyRun : Setting RedisError (Stmt ω ι) Res (Look ι) (World ω ι) where
  exec := World.exec
  note := lastLook
  allow _ s o _ := s.ofRedis = true ∨ o = .served

instance (g : Look ι) (s : Stmt ω ι) (o : Outcome RedisError) (st : World ω ι) : Decidable (anyRun.allow g s o st) :=
  inferInstanceAs (Decidable (s.ofRedis = true ∨ o = .served))

end Runs

end Gatewayz.Local
