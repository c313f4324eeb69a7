import Gatewayz.Catalog.LocalCatalog

/-!
# `Correctness.LocalCatalogEpoch` — an invalidated catalog is not served from a worker's memory

Three facts carry the argument, and none of them ever changes once it holds, because increments only add epochs above the
counter:

* a worker that has read the epoch `v` knows of completed invalidations only whose increments are at most `v`;
* an entry stamped `v` holds data that was fetched after the completion of every invalidation with an increment at most `v`;
* so an entry that passes the comparison of `get_local_catalog` was fetched after everything its worker has heard of.

The second is not the code's doing. The stamp is read when an entry is stored, not when its data was fetched, so it is a
condition on runs (`Careful`), along with an increment for every invalidation and a counter that is never lost.
-/

namespace Gatewayz.Local

open Exec

variable {ω ι : Type} [DecidableEq ω]

/-! ## Careful runs -/

/-- An increment up to `v` was made for the invalidation. -/
def Bumped (st : World ω ι) (v : Nat) (id : ι) : Prop := ∃ e, e ≤ v ∧ (e, id) ∈ st.bumps

/-- The steps on which the code can go wrong, and when they do not: an entry is not stamped with the increment of an
invalidation that had not completed when its data was fetched, an invalidation has made its increment when it completes,
and the counter stays. -/
def Careful : Stmt ω ι → World ω ι → Prop
  | .cacheSet _ _ stampedEpoch catalog _ _, st => ∀ x ∈ st.bumps, x.1 ≤ stampedEpoch → x.2 ∈ catalog.after
  | .completed id, st => ∃ x ∈ st.bumps, x.2 = id
  | .loseEpoch, _ => False
  | _, _ => True

instance decidableCareful [DecidableEq ι] (s : Stmt ω ι) (st : World ω ι) : Decidable (Careful s st) := by
  revert st
  apply Stmt.casesOn (motive := fun s => (st : World ω ι) → Decidable (Careful s st)) s
  all_goals
    intros
    unfold Careful
    infer_instance

def carefulRun : Setting RedisError (Stmt ω ι) Res (Look ι) (World ω ι) where
  exec := World.exec
  note := lastLook
  allow g s o st := anyRun.allow g s o st ∧ Careful s st

instance decidableAllow [DecidableEq ι] (g : Look ι) (s : Stmt ω ι) (o : Outcome RedisError) (st : World ω ι) :
    Decidable (carefulRun.allow g s o st) :=
  inferInstanceAs (Decidable ((s.ofRedis = true ∨ o = .served) ∧ Careful s st))

/-! ## The invariant -/

def CacheEntry.Sound (st : World ω ι) (e : CacheEntry ι) : Prop :=
  e.stampedEpoch ≤ st.counter ∧ ∀ id, Bumped st e.stampedEpoch id → id ∈ e.catalog.after

def Heard (st : World ω ι) (v : Nat) (seen : List ι) : Prop := v ≤ st.counter ∧ ∀ id ∈ seen, Bumped st v id

structure Worker.Sound (st : World ω ι) (k : Worker ι) : Prop where
  heard : Heard st k.epochValue k.reread
  entries : ∀ x ∈ k.entries, x.2.Sound st

structure World.Sound (st : World ω ι) : Prop where
  bumps : ∀ x ∈ st.bumps, x.1 ≤ st.counter
  completed : ∀ id ∈ st.completed, Bumped st st.counter id
  workers : ∀ w, (st.workers w).Sound st

/-- Later in a run: the counter has not gone back, all new increments are above where it was, and what has completed has
completed. -/
structure Later (st st' : World ω ι) : Prop where
  counter : st.counter ≤ st'.counter
  completed : ∀ id ∈ st.completed, id ∈ st'.completed
  keeps : ∀ x ∈ st.bumps, x ∈ st'.bumps
  above : ∀ x ∈ st'.bumps, x.1 ≤ st.counter → x ∈ st.bumps

omit [DecidableEq ω] in
theorem Later.refl (st : World ω ι) : Later st st := ⟨le_rfl, fun _ h => h, fun _ h => h, fun _ h _ => h⟩

omit [DecidableEq ω] in
theorem Later.trans {a b c : World ω ι} (hab : Later a b) (hbc : Later b c) : Later a c where
  counter := hab.counter.trans hbc.counter
  completed id hid := hbc.completed id (hab.completed id hid)
  keeps x hx := hbc.keeps x (hab.keeps x hx)
  above x hx hle := hab.above x (hbc.above x hx (hle.trans hab.counter)) hle

omit [DecidableEq ω] in
theorem Later.of_eq {st st' : World ω ι} (hepoch : st'.epoch = st.epoch) (hbumps : st'.bumps = st.bumps)
    (hcompleted : ∀ id ∈ st.completed, id ∈ st'.completed) : Later st st' := by
  have hcounter : st'.counter = st.counter := by rw [World.counter, World.counter, hepoch]
  refine ⟨hcounter.ge, hcompleted, ?_, ?_⟩
  · intro x hx
    rw [hbumps]
    exact hx
  · intro x hx _
    rw [hbumps] at hx
    exact hx

variable {seen : List ι}

section Stable

variable {st st' : World ω ι} (h : Later st st')

include h

variable {v : Nat}

omit [DecidableEq ω] in
theorem Bumped.later {id : ι} (hb : Bumped st v id) : Bumped st' v id := by
  obtain ⟨e, he, hmem⟩ := hb
  exact ⟨e, he, h.keeps _ hmem⟩

omit [DecidableEq ω] in
theorem bumped_settled (hv : v ≤ st.counter) {id : ι} (hb : Bumped st' v id) : Bumped st v id := by
  obtain ⟨e, he, hmem⟩ := hb
  exact ⟨e, he, h.above _ hmem (he.trans hv)⟩

omit [DecidableEq ω] in
theorem CacheEntry.Sound.later {e : CacheEntry ι} (hs : e.Sound st) : e.Sound st' :=
  ⟨hs.1.trans h.counter, fun id hb => hs.2 id (bumped_settled h hs.1 hb)⟩

omit [DecidableEq ω] in
theorem Heard.later (hs : Heard st v seen) : Heard st' v seen :=
  ⟨hs.1.trans h.counter, fun id hid => (hs.2 id hid).later h⟩

omit [DecidableEq ω] in
theorem Worker.Sound.later {k : Worker ι} (hs : k.Sound st) : k.Sound st' :=
  ⟨hs.heard.later h, fun x hx => (hs.entries x hx).later h⟩

end Stable

omit [DecidableEq ω] in
theorem Bumped.mono {st : World ω ι} {v v' : Nat} {id : ι} (hb : Bumped st v id) (hle : v ≤ v') : Bumped st v' id := by
  obtain ⟨e, he, hmem⟩ := hb
  exact ⟨e, he.trans hle, hmem⟩

omit [DecidableEq ω] in
theorem Heard.max {st : World ω ι} {v v' : Nat} {seen seen' : List ι} (h : Heard st v seen) (h' : Heard st v' seen') :
    Heard st (max v v') (seen' ++ seen) := by
  refine ⟨max_le h.1 h'.1, fun id hid => ?_⟩
  rcases List.mem_append.mp hid with hid | hid
  · exact (h'.2 id hid).mono (le_max_right _ _)
  · exact (h.2 id hid).mono (le_max_left _ _)

omit [DecidableEq ω] in
theorem World.Sound.heard {st : World ω ι} (hi : st.Sound) : Heard st st.counter st.completed :=
  ⟨le_rfl, hi.completed⟩

/-! ## Steps -/

variable {w : ω}

theorem World.Sound.setWorker {st : World ω ι} (hi : st.Sound) {k : Worker ι} (hk : k.Sound st) :
    (st.setWorker w k).Sound := by
  have hsame : Later st (st.setWorker w k) := .of_eq rfl rfl fun _ h => h
  refine ⟨hi.bumps, fun id hid => (hi.completed id hid).later hsame, fun w' => ?_⟩
  by_cases hw : w' = w
  · subst hw
    have hself : (st.setWorker w' k).workers w' = k := Function.update_self _ _ _
    rw [hself]
    exact hk.later hsame
  · have hother : (st.setWorker w k).workers w' = st.workers w' := Function.update_of_ne hw _ _
    rw [hother]
    exact (hi.workers w').later hsame

theorem World.Sound.advance {st : World ω ι} (hi : st.Sound) {observed : Nat}
    (hheard : Heard st observed seen) : (st.advance w observed seen).Sound :=
  hi.setWorker ⟨(hi.workers w).heard.max hheard, (hi.workers w).entries⟩

theorem World.Sound.incr {st : World ω ι} (hi : st.Sound) (id : ι) :
    (World.exec (.redisIncrEpoch id) st).2.Sound ∧ Later st (World.exec (.redisIncrEpoch id) st).2 := by
  have hlater : Later st (World.exec (.redisIncrEpoch id) st).2 := by
    refine ⟨Nat.le_succ _, fun _ h => h, fun x hx => List.mem_cons_of_mem _ hx, fun x hx hle => ?_⟩
    rcases List.mem_cons.mp hx with rfl | hx
    · exact absurd hle (by simp)
    · exact hx
  refine ⟨⟨fun x hx => ?_, fun id' hid => ?_, fun w => (hi.workers w).later hlater⟩, hlater⟩
  · rcases List.mem_cons.mp hx with rfl | hx
    · exact le_rfl
    · exact (hi.bumps x hx).trans (Nat.le_succ _)
  · exact ((hi.completed id' hid).later hlater).mono hlater.counter

def Backed (st : World ω ι) : Stmt ω ι → Prop
  | .noteEpoch _ observed seen => Heard st observed seen
  | .noteBump _ newEpoch seen => Heard st newEpoch seen
  | .cacheSet _ _ stampedEpoch _ _ _ => stampedEpoch ≤ st.counter
  | _ => True

variable {s : Stmt ω ι}

/-- One step of a careful run keeps the world sound. -/
theorem World.Sound.exec {st : World ω ι} (hi : st.Sound) (hb : Backed st s) (hc : Careful s st) :
    (World.exec s st).2.Sound ∧ Later st (World.exec s st).2 := by
  cases s with
  | redisAvailable w => exact ⟨hi, .refl st⟩
  | redisGetEpoch => exact ⟨hi, .refl st⟩
  | redisIncrEpoch id => exact hi.incr id
  | redisDelete keys =>
    have hlater : Later st (World.exec (.redisDelete keys) st).2 := .of_eq rfl rfl fun _ h => h
    exact ⟨⟨hi.bumps, hi.completed, fun w => (hi.workers w).later hlater⟩, hlater⟩
  | redisScan family => exact ⟨hi, .refl st⟩
  | peekEpoch w => exact ⟨hi, .refl st⟩
  | claimEpoch w force =>
    simp only [World.exec]
    split
    · exact ⟨hi.setWorker ⟨(hi.workers w).heard, (hi.workers w).entries⟩, .of_eq rfl rfl fun _ h => h⟩
    · exact ⟨hi, .refl st⟩
  | noteEpoch w observed seen => exact ⟨hi.advance hb, .of_eq rfl rfl fun _ h => h⟩
  | noteBump w newEpoch seen =>
    have hchecked : (st.setWorker w { st.workers w with epochCheckedAt := st.now }).Sound :=
      hi.setWorker ⟨(hi.workers w).heard, (hi.workers w).entries⟩
    exact ⟨hchecked.advance hb, .of_eq rfl rfl fun _ h => h⟩
  | cacheGet w key =>
    refine ⟨hi.setWorker ⟨(hi.workers w).heard, fun x hx => ?_⟩, .of_eq rfl rfl fun _ h => h⟩
    exact (hi.workers w).entries x (mem_cacheGet hx)
  | cacheSet w key stampedEpoch catalog ttl staleTtl =>
    refine ⟨hi.setWorker ⟨(hi.workers w).heard, fun x hx => ?_⟩, .of_eq rfl rfl fun _ h => h⟩
    rcases mem_cacheSet hx with hx | rfl
    · exact (hi.workers w).entries x hx
    · refine ⟨hb, ?_⟩
      rintro id ⟨e, he, hmem⟩
      exact hc (e, id) hmem he
  | cacheDelete w key =>
    refine ⟨hi.setWorker ⟨(hi.workers w).heard, fun x hx => ?_⟩, .of_eq rfl rfl fun _ h => h⟩
    exact (hi.workers w).entries x (mem_erase hx)
  | fetch models => exact ⟨hi, .refl st⟩
  | completed id =>
    have hlater : Later st (World.exec (.completed id) st).2 := .of_eq rfl rfl fun _ h => List.mem_cons_of_mem _ h
    refine ⟨⟨hi.bumps, fun id' hid => ?_, fun w => (hi.workers w).later hlater⟩, hlater⟩
    rcases List.mem_cons.mp hid with rfl | hid
    · obtain ⟨⟨e, id⟩, hmem, rfl⟩ := hc
      exact ⟨e, hi.bumps _ hmem, hmem⟩
    · exact hi.completed id' hid
  | wait duration =>
    have hlater : Later st (World.exec (.wait duration) st).2 := .of_eq rfl rfl fun _ h => h
    exact ⟨⟨hi.bumps, hi.completed, fun w => (hi.workers w).later hlater⟩, hlater⟩
  | loseEpoch => exact absurd hc not_false

omit [DecidableEq ω] in
theorem Backed.later {st st' : World ω ι} (h : Later st st') (hb : Backed st s) : Backed st' s := by
  cases s with
  | noteEpoch w observed seen => exact Heard.later h hb
  | noteBump w newEpoch seen => exact Heard.later h hb
  | cacheSet w key stampedEpoch catalog ttl staleTtl => exact Nat.le_trans hb h.counter
  | _ => trivial

/-! ## Programs -/

def contract : Contract (Stmt ω ι) (World ω ι) where
  inv := World.Sound
  rely := Later
  guar _ := Later

section Programs

variable {α : Type} {g : Look ι} {st : World ω ι}

/-- One step of a careful run: what follows sees a later, sound world, and an answer that is the step's own or, of Redis,
an exception. -/
theorem wp_ask {Q : Res s → Look ι → World ω ι → Prop} {E : RedisError → Look ι → World ω ι → Prop} (hb : Backed st s)
    (hok : ∀ st₁ a, Later st st₁ → st₁.Sound → (World.exec s st₁).1 = .ok a → Later st₁ (World.exec s st₁).2 →
      Q a (lastLook g s (.ok a) st₁ (World.exec s st₁).2) (World.exec s st₁).2)
    (herr : s.ofRedis = true → ∀ e st₁ st', Later st st₁ → Later st₁ st' → E e (lastLook g s (.error e) st₁ st') st') :
    Prog.wp carefulRun contract Q E (ask s) g st := by
  refine wp_stmt fun st₁ hlater hi o hallow => ?_
  obtain ⟨hsound, hforward⟩ := hi.exec (hb.later hlater) hallow.2
  cases o with
  | served =>
    refine ⟨hsound, hforward, ?_⟩
    change Answered _ _ (World.exec s st₁).1
    cases ha : (World.exec s st₁).1 with
    | ok a => exact hok st₁ a hlater hi ha hforward
    | error e =>
      -- no step fails of its own
      exfalso
      cases s <;> simp [World.exec] at ha
  | dropped e =>
    refine ⟨hi, .refl st₁, ?_⟩
    have hredis : s.ofRedis = true := hallow.1.resolve_right (by simp)
    exact herr hredis e st₁ st₁ hlater (.refl st₁)
  | lost e =>
    refine ⟨hsound, hforward, ?_⟩
    have hredis : s.ofRedis = true := hallow.1.resolve_right (by simp)
    exact herr hredis e st₁ _ hlater hforward

def Never : RedisError → Look ι → World ω ι → Prop := fun _ _ _ => False

theorem wp_isRedisAvailable {Q : Bool → Look ι → World ω ι → Prop} (h : ∀ b st', Later st st' → Q b g st') :
    Prog.wp carefulRun contract Q Never (isRedisAvailable w : LocalM ω ι Bool) g st := by
  rw [isRedisAvailable, wp_bind, wp_attempt]
  refine wp_ask trivial ?_ ?_
  · intro st₁ a hlater _ _ hforward
    exact h _ _ (hlater.trans hforward)
  · intro _ e st₁ st' hlater hforward
    exact h _ _ (hlater.trans hforward)

def Look.Complete (look : Look ι) : Prop := look.answered = true → ∀ id ∈ look.before, id ∈ look.seen

/-- The epoch that `get_catalog_epoch` answers covers what its worker had heard of at the thread's last look. -/
theorem wp_getCatalogEpoch {force : Bool} {Q : Nat → Look ι → World ω ι → Prop}
    (h : ∀ v look st', Later st st' → Heard st' v look.seen → look.Complete → Q v look st') :
    Prog.wp carefulRun contract Q Never (getCatalogEpoch w force : LocalM ω ι Nat) g st := by
  rw [getCatalogEpoch, wp_bind]
  refine wp_ask trivial ?_ (fun hredis => absurd hredis (by simp [Stmt.ofRedis]))
  intro st₁ a hlater hi ha hforward
  obtain ⟨known, due⟩ := a
  -- the known value and what the worker has heard belong together
  have hknown : Heard (World.exec (.claimEpoch w force) st₁).2 known
      ((World.exec (.claimEpoch w force) st₁).2.workers w).reread := by
    have hsound := (hi.exec (s := .claimEpoch w force) trivial trivial).1.workers w
    have hvalue : known = ((World.exec (.claimEpoch w force) st₁).2.workers w).epochValue := by
      have hfst : (st₁.workers w).epochValue = known := congrArg Prod.fst (Except.ok.inj ha)
      rw [← hfst]
      simp only [World.exec]
      split <;> simp [World.setWorker]
    rw [hvalue]
    exact hsound.heard
  have hthen := hlater.trans hforward
  have hopen : (lastLook g (.claimEpoch w force) (.ok (known, due)) st₁
      (World.exec (.claimEpoch w force) st₁).2).Complete := fun hanswered => by cases hanswered
  cases due with
  | false => exact h _ _ _ hthen hknown hopen
  | true =>
    simp only [if_true]
    rw [wp_bind]
    refine wp_isRedisAvailable fun available st₂ hlater₂ => ?_
    cases available with
    | false => exact h _ _ _ (hthen.trans hlater₂) (hknown.later hlater₂) hopen
    | true =>
      simp only [if_true]
      rw [wp_bind, wp_attempt]
      refine wp_ask trivial ?_ ?_
      · intro st₃ answer hlater₃ hi₃ hanswer hforward₃
        obtain ⟨raw, seen⟩ := answer
        have hread : Heard st₃ (raw.getD 0) seen := by
          cases hanswer
          exact hi₃.heard
        refine wp_ask (s := .noteEpoch w (raw.getD 0) seen) (hread.later hforward₃) ?_
          (fun hredis => absurd hredis (by simp [Stmt.ofRedis]))
        intro st₄ v hlater₄ hi₄ hv hforward₄
        have hall := hthen.trans (hlater₂.trans (hlater₃.trans (hforward₃.trans (hlater₄.trans hforward₄))))
        have hsound := (hi₄.exec (s := .noteEpoch w (raw.getD 0) seen)
          ((hread.later hforward₃).later hlater₄) trivial).1.workers w
        have hvalue : v = ((World.exec (.noteEpoch w (raw.getD 0) seen) st₄).2.workers w).epochValue := by
          cases hv
          simp only [World.exec, World.advance, World.setWorker, Function.update_self]
        refine h _ _ _ hall ?_ ?_
        · rw [hvalue]
          exact hsound.heard
        · -- what had completed before the claim had completed when Redis answered
          intro _ id hid
          have hseen : id ∈ seen := by
            cases hanswer
            exact (hforward.trans (hlater₂.trans hlater₃)).completed id hid
          simp only [lastLook, World.exec, World.advance, World.setWorker, Function.update_self]
          exact List.mem_append_left _ hseen
      · intro _ e st₃ st' hlater₃ hforward₃
        have hall := hlater₂.trans (hlater₃.trans hforward₃)
        exact h _ _ _ (hthen.trans hall) (hknown.later hall) hopen

/-- What is to hold of the result of a read: a catalog was fetched after the completion of every invalidation that had
completed when the worker last read the epoch; and where five seconds had passed and Redis answered, these are all that had
completed before. -/
structure ReadsFresh (r : Option (Catalog ι × Bool)) (look : Look ι) : Prop where
  fetchedAfter : ∀ catalog isStale, r = some (catalog, isStale) → ∀ id ∈ look.seen, id ∈ catalog.after
  complete : r ≠ none → look.Complete

theorem readsFresh_none (look : Look ι) : ReadsFresh none look :=
  ⟨fun _ _ hr => absurd hr.symm (Option.some_ne_none _), fun hr => absurd rfl hr⟩

/-- A catalog that `get_local_catalog` returns was fetched after everything its worker had heard of. -/
theorem wp_getLocalCatalog {provider : String} : Prog.wp carefulRun contract
      (fun r look _ => ReadsFresh r look) Never
      (getLocalCatalog w provider : LocalM ω ι (Option (Catalog ι × Bool))) g st := by
  rw [getLocalCatalog, wp_bind]
  refine wp_ask trivial ?_ (fun hredis => absurd hredis (by simp [Stmt.ofRedis]))
  intro st₁ found _ hi hfound hforward
  cases found with
  | none => exact readsFresh_none _
  | some found =>
    obtain ⟨entry, isStale⟩ := found
    have hentry : entry.Sound st₁ :=
      (hi.workers w).entries _ (cacheGet_entry (Except.ok.inj hfound))
    simp only
    rw [wp_bind]
    refine wp_getCatalogEpoch fun current look st₂ hlater₂ hheard hcomplete => ?_
    by_cases hsame : entry.stampedEpoch = current
    · rw [if_pos hsame]
      refine ⟨fun catalog isStale' hr id hid => ?_, fun _ => hcomplete⟩
      cases hr
      -- the invalidation is covered by the epoch, and the epoch is the stamp
      have hbumped : Bumped st₂ entry.stampedEpoch id := by
        rw [hsame]
        exact hheard.2 id hid
      exact (hentry.later (hforward.trans hlater₂)).2 id hbumped
    · rw [if_neg hsame, wp_bind]
      refine wp_ask trivial ?_ (fun hredis => absurd hredis (by simp [Stmt.ofRedis]))
      intro _ _ _ _ _ _
      exact readsFresh_none _

def Harmless (p : LocalM ω ι α) : Prop :=
  ∀ g st, Prog.wp carefulRun contract (fun _ _ _ => True) (fun _ _ _ => True) p g st

theorem harmless_ret (a : α) : Harmless (.ret a : LocalM ω ι α) := fun _ _ => trivial

theorem harmless_bind {β : Type} {p : LocalM ω ι α} {f : α → LocalM ω ι β} (hp : Harmless p)
    (hf : ∀ a, Harmless (f a)) : Harmless (p >>= f) := by
  intro g st
  rw [wp_bind]
  exact wp_mono (fun a g st _ => hf a g st) (fun _ _ _ _ => trivial) (hp g st)

theorem harmless_attempt {p : LocalM ω ι α} (hp : Harmless p) : Harmless p.attempt := by
  intro g st
  rw [wp_attempt]
  exact hp g st

theorem harmless_ask (hb : ∀ st, Backed st s) : Harmless (ask s) := fun _ st =>
  wp_ask (hb st) (fun _ _ _ _ _ _ => trivial) (fun _ _ _ _ _ _ => trivial)

theorem harmless_isRedisAvailable (w : ω) : Harmless (isRedisAvailable w : LocalM ω ι Bool) :=
  harmless_bind (harmless_attempt (harmless_ask fun _ => trivial)) fun _ => harmless_ret _

theorem harmless_bumpCatalogEpoch (w : ω) (id : ι) : Harmless (bumpCatalogEpoch w id) := by
  refine harmless_bind (harmless_isRedisAvailable w) fun available => ?_
  cases available with
  | false => exact harmless_ask fun _ => trivial
  | true =>
    intro g st
    rw [if_pos rfl, wp_bind, wp_attempt]
    refine wp_ask trivial ?_ ?_
    · intro st₁ answer _ hi hanswer hforward
      obtain ⟨newEpoch, seen⟩ := answer
      -- the answer of `INCR` is the new counter
      have hheard : Heard (World.exec (.redisIncrEpoch id) st₁).2 newEpoch seen := by
        cases hanswer
        refine ⟨le_rfl, fun id' hid => ?_⟩
        exact ((hi.completed id' hid).later hforward).mono (Nat.le_succ _)
      exact wp_ask (s := .noteBump w newEpoch seen) hheard (fun _ _ _ _ _ _ => trivial) (fun _ _ _ _ _ _ => trivial)
    · intro _ e st₁ st' _ _
      exact harmless_ask (s := .peekEpoch w) (fun _ => trivial) _ _

theorem harmless_setLocalCatalog (w : ω) (provider : String) (catalog : Catalog ι) (ttl staleTtl : Nat) :
    Harmless (setLocalCatalog w provider catalog ttl staleTtl) := by
  intro g st
  rw [setLocalCatalog, wp_bind]
  refine wp_mono (fun _ _ _ h => h) (fun _ _ _ h => h.elim) (wp_getCatalogEpoch fun v look st' _ hheard _ => ?_)
  exact wp_ask (s := .cacheSet w (localKey provider) v catalog ttl staleTtl) hheard.1
    (fun _ _ _ _ _ _ => trivial) (fun _ _ _ _ _ _ => trivial)

theorem harmless_invalidateFullCatalog (w : ω) (id : ι) : Harmless (invalidateFullCatalog w id) := by
  refine harmless_bind (harmless_isRedisAvailable w) fun available => ?_
  cases available with
  | false => exact harmless_ret _
  | true =>
    refine harmless_bind (harmless_attempt (harmless_ask fun _ => trivial)) fun deleted => ?_
    cases deleted with
    | ok n => exact harmless_bind (harmless_bumpCatalogEpoch w id) fun _ => harmless_ret _
    | error e => exact harmless_ret _

theorem harmless_invalidateProviderCatalog (w : ω) (id : ι) (name : String) (cascade : Bool) :
    Harmless (invalidateProviderCatalog w id name cascade) := by
  refine harmless_bind (harmless_isRedisAvailable w) fun available => ?_
  cases available with
  | false => exact harmless_ret _
  | true =>
    refine harmless_bind (harmless_attempt (harmless_ask fun _ => trivial)) fun deleted => ?_
    cases deleted with
    | error e => exact harmless_ret _
    | ok n =>
      have hbump := harmless_bind (harmless_bumpCatalogEpoch w id) (fun _ => harmless_ret true)
      cases cascade with
      | false => exact hbump
      | true => exact harmless_bind (harmless_invalidateFullCatalog w id) fun _ => hbump

theorem harmless_invalidateProvidersBatch (w : ω) (id : ι) (names : List String) (cascade : Bool) :
    Harmless (invalidateProvidersBatch w id names cascade) := by
  refine harmless_bind (harmless_isRedisAvailable w) fun available => ?_
  cases available with
  | false => exact harmless_ret _
  | true =>
    by_cases hnames : names = []
    · simp only [if_pos hnames, if_true]
      exact harmless_ret _
    · simp only [if_neg hnames, if_true]
      refine harmless_bind (harmless_attempt (harmless_ask fun _ => trivial)) fun deleted => ?_
      cases deleted with
      | error e => exact harmless_ret _
      | ok n =>
        cases cascade with
        | false => exact harmless_ret _
        | true => exact harmless_bind (harmless_invalidateFullCatalog w id) fun _ => harmless_ret _

theorem harmless_deleteFamily (family : String) : Harmless (deleteFamily family : LocalM ω ι Nat) := by
  refine harmless_bind (harmless_ask fun _ => trivial) fun keys => ?_
  split
  · exact harmless_ret _
  · exact harmless_ask fun _ => trivial

theorem harmless_invalidateAllModels (w : ω) : Harmless (invalidateAllModels w : LocalM ω ι Nat) := by
  refine harmless_bind (harmless_isRedisAvailable w) fun available => ?_
  cases available with
  | false => exact harmless_ret _
  | true =>
    refine harmless_bind (harmless_attempt ?_) fun _ => harmless_ret _
    refine harmless_bind (harmless_deleteFamily _) fun _ => ?_
    refine harmless_bind (harmless_deleteFamily _) fun _ => ?_
    refine harmless_bind (harmless_deleteFamily _) fun _ => ?_
    exact harmless_bind (harmless_ask fun _ => trivial) fun _ => harmless_ret _

theorem harmless_invalidation (w : ω) (id : ι) (what : Invalidation) : Harmless (what.run w id) := by
  cases what with
  | provider name cascade => exact harmless_invalidateProviderCatalog w id name cascade
  | full => exact harmless_invalidateFullCatalog w id
  | batch names cascade => exact harmless_bind (harmless_invalidateProvidersBatch w id names cascade) fun _ => harmless_ret _
  | all => exact harmless_bind (harmless_invalidateAllModels w) fun _ => harmless_ret _

end Programs

/-! ## Runs -/

theorem wp_activity (id : ι) (a : Activity ω) (g : Look ι) (st : World ω ι) :
    Prog.wp carefulRun contract (fun r look _ => ReadsFresh r look) (fun _ _ _ => True) (a.prog id) g st := by
  -- a program that ends in `none`
  have hquiet : ∀ {α : Type} {p : LocalM ω ι α}, Harmless p →
      Prog.wp carefulRun contract (fun r look _ => ReadsFresh r look) (fun _ _ _ => True)
        (p >>= fun _ => (.ret none : LocalM ω ι (Option (Catalog ι × Bool)))) g st := by
    intro α p hp
    exact wp_seq (hp g st) fun _ look _ _ => readsFresh_none look
  cases a with
  | fetchAndStore w provider models =>
    rw [Activity.prog, wp_bind]
    refine wp_post (fun catalog g st _ => ?_) (harmless_ask (s := .fetch models) (fun _ => trivial) g st)
    exact wp_seq (harmless_setLocalCatalog w provider catalog _ _ g st) fun _ look _ _ => readsFresh_none look
  | read w provider => exact wp_mono (fun _ _ _ h => h) (fun _ _ _ h => h.elim) wp_getLocalCatalog
  | invalidate w what =>
    rw [Activity.prog, wp_bind]
    refine wp_post (fun done g st _ => ?_) (harmless_invalidation w id what g st)
    cases done with
    | false => exact readsFresh_none g
    | true =>
      simp only [if_true]
      exact wp_seq (harmless_ask (s := .completed id) (fun _ => trivial) g st) fun _ look _ _ => readsFresh_none look
  | wait duration => exact hquiet (harmless_ask fun _ => trivial)
  | loseEpoch => exact hquiet (harmless_ask fun _ => trivial)

/-- A world in which the observation begins: nothing has been observed, and nobody knows an epoch above the counter. -/
structure World.Fresh (st : World ω ι) : Prop where
  bumps : st.bumps = []
  completed : st.completed = []
  reread : ∀ w, (st.workers w).reread = []
  epochValue : ∀ w, (st.workers w).epochValue ≤ st.counter
  stamps : ∀ w, ∀ x ∈ (st.workers w).entries, x.2.stampedEpoch ≤ st.counter

omit [DecidableEq ω] in
theorem World.Fresh.sound {st : World ω ι} (h : st.Fresh) : st.Sound := by
  have hnone : ∀ v id, ¬ Bumped st v id := by
    rintro v id ⟨e, _, hmem⟩
    rw [h.bumps] at hmem
    cases hmem
  refine ⟨fun x hx => ?_, fun id hid => ?_, fun w => ⟨⟨h.epochValue w, fun id hid => ?_⟩, fun x hx => ?_⟩⟩
  · rw [h.bumps] at hx
    cases hx
  · rw [h.completed] at hid
    cases hid
  · rw [h.reread w] at hid
    cases hid
  · exact ⟨h.stamps w x hx, fun id hb => absurd hb (hnone _ id)⟩

variable [DecidableEq ι]

/-- **An invalidated catalog is not served from local memory** in careful runs: any number of workers, threads and
invalidations, in any order, from any world. -/
theorem invalidated_not_served (act : ι → Activity ω) {st : World ω ι} (hst : st.Fresh) (ts : Schedule ι RedisError)
    (hts : Pool.Admits carefulRun ts (Pool.start {} fun i => (act i).prog i) st) {i : ι}
    {r : Option (Catalog ι × Bool)}
    (hdone : ((Pool.run carefulRun ts (Pool.start {} fun i => (act i).prog i) st).1 i).prog = .ret r) :
    ReadsFresh r ((Pool.run carefulRun ts (Pool.start {} fun i => (act i).prog i) st).1 i).note := by
  have hfit : Pool.Compatible (ι := ι) (fun _ => (contract : Contract (Stmt ω ι) (World ω ι))) World.Sound
      (fun _ (r : Option (Catalog ι × Bool)) look _ => ReadsFresh r look) (fun _ (_ : RedisError) _ _ => True) :=
    { inv := fun _ => rfl
      refl := fun _ st => Later.refl st
      trans := fun _ _ _ _ hab hbc => Later.trans hab hbc
      result := fun _ _ _ _ _ _ hr => hr
      raise := fun _ _ _ _ _ _ _ => trivial
      fits := fun _ _ _ _ _ _ _ _ hguar => hguar }
  have hsafe : Pool.Safe carefulRun (fun _ : ι => (contract : Contract (Stmt ω ι) (World ω ι)))
      (fun _ (r : Option (Catalog ι × Bool)) look _ => ReadsFresh r look) (fun _ (_ : RedisError) _ _ => True)
      (Pool.start {} fun i => (act i).prog i) st :=
    fun i => wp_activity i (act i) {} st
  exact (Pool.pool_run hfit ts hsafe hst.sound hts).2.1.done hdone

/-! ## Two runs -/

def started : World Bool Nat where
  now := 10 * second
  epoch := none
  catalogKeys := []
  workers _ := {}

theorem started_fresh : started.Fresh where
  bumps := rfl
  completed := rfl
  reread _ := rfl
  epochValue _ := Nat.le_refl 0
  stamps _ _ hx := absurd hx List.not_mem_nil

/-- Thread 0 invalidates on one worker; thread 1 fetches and stores on the other, where thread 2 reads; thread 3 waits for
the epoch to be due. -/
def parties : Nat → Activity Bool
  | 0 => .invalidate true .full
  | 1 => .fetchAndStore false "openrouter" ["llama-3"]
  | 2 => .read false "openrouter"
  | _ => .wait (5 * second)

def turns (n : Nat) (i : Nat) : Schedule Nat RedisError := List.replicate n (i, .served)

/-- Has a program returned `r`? -/
def returned {α : Type} [DecidableEq α] (r : α) : LocalM Bool Nat α → Bool
  | .ret a => a = r
  | _ => false

theorem eq_of_returned {α : Type} [DecidableEq α] {r : α} {p : LocalM Bool Nat α} (h : returned r p = true) :
    p = .ret r := by
  cases p with
  | ret a => rw [of_decide_eq_true h]
  | fail e => cases h
  | ask s k => cases h

/-- Fetched after the invalidation: stored, read, fresh. -/
theorem invalidated_not_served_inOrder :
    ReadsFresh (some (⟨["llama-3"], [0]⟩, false))
      ((Pool.run carefulRun (turns 6 0 ++ turns 6 1 ++ turns 2 2)
        (Pool.start {} fun i => (parties i).prog i) started).1 2).note :=
  invalidated_not_served parties started_fresh (turns 6 0 ++ turns 6 1 ++ turns 2 2) (by decide +kernel)
    (eq_of_returned (by decide +kernel))

/-- Fetched before the invalidation and stored after it: the data of before goes out under the epoch of after, from a
worker that has read the epoch since. -/
theorem stale_catalog_served :
    Pool.Admits anyRun (turns 1 1 ++ turns 6 0 ++ turns 5 1 ++ turns 1 3 ++ turns 5 2)
      (Pool.start {} fun i => (parties i).prog i) started ∧
    ∃ r, ((Pool.run anyRun (turns 1 1 ++ turns 6 0 ++ turns 5 1 ++ turns 1 3 ++ turns 5 2)
        (Pool.start {} fun i => (parties i).prog i) started).1 2).prog = .ret r ∧
      ¬ ReadsFresh r ((Pool.run anyRun (turns 1 1 ++ turns 6 0 ++ turns 5 1 ++ turns 1 3 ++ turns 5 2)
        (Pool.start {} fun i => (parties i).prog i) started).1 2).note := by
  refine ⟨by decide +kernel, some (⟨["llama-3"], []⟩, false), eq_of_returned (by decide +kernel), fun h => ?_⟩
  exact absurd (h.fetchedAfter _ _ rfl 0 (by decide +kernel)) List.not_mem_nil

end Gatewayz.Local
