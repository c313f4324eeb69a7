import Gatewayz.Chat.ClientPool

/-!
# `Correctness.PooledClients` — a pooled client is the right one and alive

The pool knows a client by its provider, address and key, and whatever headers or timeout are asked for, it hands out the one that it has.
It makes room without asking who uses what it closes: a second key for a provider closes the clients of all other keys there, and a pool
that is full the client that was asked for last of all.
-/

namespace Gatewayz.ClientPool

open Exec
open Byok (Settings)

variable {s : Settings} {kind : Kind} {st st' : PoolState} {wanted : Wanted} {loopRunning : Bool} {e : String × Client} {c : Client}

def Right (wanted : Wanted) (c : Client) : Prop := c = wanted.build c.id

/-- A request that does no harm: the client that is kept for it was built with what it asks for; or there is none, and nobody uses those
that are closed for it. -/
def Harmless (s : Settings) (kind : Kind) (st : PoolState) : PoolEvent → Prop
  | .get wanted loopRunning =>
    (∀ e, findClient s kind st.pool wanted = some e → Right wanted e.2) ∧
    (findClient s kind st.pool wanted = none → ∀ c ∈ closing s kind loopRunning st.pool wanted, c.id ∉ st.inUse.map Client.id)
  | .done _ => True

/-- What a pool keeps up. -/
structure Sound (s : Settings) (st : PoolState) : Prop where
  size : st.pool.length ≤ s.maxPoolSize
  distinct : (st.pool.map fun e => e.2.id).Nodup
  built : ∀ e ∈ st.pool, e.2.id < st.built
  past : ∀ i ∈ st.closed, i < st.built
  opened : ∀ e ∈ st.pool, e.2.id ∉ st.closed
  alive : ∀ c ∈ st.inUse, c.id ∉ st.closed

/-! ## A client that is found -/

theorem Sound.found (h : Sound s st) (hfind : findClient s kind st.pool wanted = some e) :
    Sound s { st with pool := (st.pool.filter fun e => e.1 ≠ cacheKey s kind wanted) ++ [e] } := by
  have hmem : e ∈ st.pool := List.mem_of_find?_eq_some hfind
  have hkey : e.1 = cacheKey s kind wanted := by
    unfold findClient at hfind
    simpa using List.find?_some hfind
  have hsub : ∀ e' ∈ (st.pool.filter fun e => e.1 ≠ cacheKey s kind wanted) ++ [e], e' ∈ st.pool := by
    intro e' he'
    rcases List.mem_append.mp he' with hold | hlast
    · exact List.mem_of_mem_filter hold
    · rwa [List.mem_singleton.mp hlast]
  refine ⟨?_, ?_, fun e' he' => h.built e' (hsub e' he'), h.past, fun e' he' => h.opened e' (hsub e' he'), h.alive⟩
  · have hless : (st.pool.filter fun e => e.1 ≠ cacheKey s kind wanted).length < st.pool.length :=
      List.length_filter_lt_length_iff_exists.mpr ⟨e, hmem, by simpa using hkey⟩
    rw [List.length_append, List.length_singleton]
    exact le_trans hless h.size
  · rw [List.map_append, List.nodup_append]
    refine ⟨(List.filter_sublist.map _).nodup h.distinct, List.nodup_singleton _, ?_⟩
    rintro _ hleft _ hright rfl
    obtain ⟨e', he', hid⟩ := List.mem_map.mp hleft
    have hsame : e' = e := List.inj_on_of_nodup_map h.distinct (List.mem_of_mem_filter he') hmem (by simpa [hid] using hright)
    have hother := List.of_mem_filter he'
    rw [hsame] at hother
    exact of_decide_eq_true hother hkey

/-! ## A client that is built -/

theorem oldest_append_younger (s : Settings) (pool : Pool) : oldest s pool ++ younger s pool = pool := by
  unfold oldest younger
  split
  · exact List.take_append_drop 1 pool
  · rfl

theorem mem_of_closing (hc : c ∈ closing s kind loopRunning st.pool wanted) :
    ∃ e, e.2 = c ∧ (e ∈ oldest s st.pool ∨ e ∈ younger s st.pool ∧ isStale wanted e = true) := by
  obtain ⟨e, he, rfl⟩ := List.mem_map.mp hc
  refine ⟨e, rfl, ?_⟩
  rcases List.mem_append.mp he with hold | hstale
  · left
    split at hold
    · exact hold
    · cases hold
  · right
    split at hstale
    · exact ⟨List.mem_of_mem_filter hstale, List.of_mem_filter hstale⟩
    · cases hstale

theorem mem_pool_of_closing (hc : c ∈ closing s kind loopRunning st.pool wanted) : ∃ e ∈ st.pool, e.2 = c := by
  obtain ⟨e, rfl, hplace⟩ := mem_of_closing hc
  refine ⟨e, ?_, rfl⟩
  rw [← oldest_append_younger s st.pool]
  exact List.mem_append.mpr (hplace.imp_right And.left)

/-- What stays in the pool stays open. -/
theorem Sound.not_closing (h : Sound s st) (he : e ∈ younger s st.pool) (hfresh : isStale wanted e = false) :
    ∀ c ∈ closing s kind loopRunning st.pool wanted, e.2.id ≠ c.id := by
  have hdistinct := h.distinct
  rw [← oldest_append_younger s st.pool, List.map_append, List.nodup_append] at hdistinct
  obtain ⟨-, hyounger, hapart⟩ := hdistinct
  intro c hc heq
  obtain ⟨e', rfl, hold | ⟨hin, hstale⟩⟩ := mem_of_closing hc
  · exact hapart _ (List.mem_map_of_mem hold) _ (List.mem_map_of_mem he) heq.symm
  · rw [List.inj_on_of_nodup_map hyounger he hin heq, hstale] at hfresh
    cases hfresh

theorem Sound.length_younger (h : Sound s st) (hroom : ¬(s.maxPoolSize ≤ st.pool.length ∧ st.pool = [])) :
    (younger s st.pool).length + 1 ≤ s.maxPoolSize := by
  have hsize := h.size
  unfold younger
  split
  · next hfull =>
    have hpos : 0 < st.pool.length := List.length_pos_iff.mpr fun hnil => hroom ⟨hfull, hnil⟩
    rw [List.length_drop]
    omega
  · omega

theorem Sound.create (h : Sound s st) (hroom : ¬(s.maxPoolSize ≤ st.pool.length ∧ st.pool = []))
    (hunused : ∀ c ∈ closing s kind loopRunning st.pool wanted, c.id ∉ st.inUse.map Client.id) : Sound s
      { st with
        pool := ((younger s st.pool).filter fun e => !isStale wanted e) ++ [(cacheKey s kind wanted, wanted.build st.built)]
        built := st.built + 1
        closed := st.closed ++ (closing s kind loopRunning st.pool wanted).map Client.id } := by
  have hstay : ∀ e ∈ (younger s st.pool).filter fun e => !isStale wanted e, e ∈ younger s st.pool ∧ isStale wanted e = false := by
    intro e he
    exact ⟨List.mem_of_mem_filter he, by simpa using List.of_mem_filter he⟩
  have hin : ∀ e ∈ younger s st.pool, e ∈ st.pool := fun e he => by
    rw [← oldest_append_younger s st.pool]
    exact List.mem_append_right _ he
  have hclosing : ∀ i ∈ (closing s kind loopRunning st.pool wanted).map Client.id, i < st.built := by
    intro i hi
    obtain ⟨c, hc, rfl⟩ := List.mem_map.mp hi
    obtain ⟨e, he, rfl⟩ := mem_pool_of_closing hc
    exact h.built e he
  have hpast : ∀ i ∈ st.closed ++ (closing s kind loopRunning st.pool wanted).map Client.id, i < st.built := fun i hi =>
    (List.mem_append.mp hi).elim (h.past i) (hclosing i)
  refine ⟨?_, ?_, fun e he => ?_, fun i hi => (hpast i hi).trans (Nat.lt_succ_self _), fun e he hclosed => ?_, fun c hc hclosed => ?_⟩
  · rw [List.length_append, List.length_singleton]
    exact (Nat.succ_le_succ (List.length_filter_le _ _)).trans (h.length_younger hroom)
  · rw [List.map_append, List.nodup_append]
    have hyounger : ((younger s st.pool).map fun e => e.2.id).Nodup := by
      have hdistinct := h.distinct
      rw [← oldest_append_younger s st.pool, List.map_append, List.nodup_append] at hdistinct
      exact hdistinct.2.1
    refine ⟨(List.filter_sublist.map _).nodup hyounger, List.nodup_singleton _, ?_⟩
    rintro _ hleft _ hright rfl
    obtain ⟨e, he, hid⟩ := List.mem_map.mp hleft
    rw [← hid] at hright
    exact (h.built e (hin e (hstay e he).1)).ne (List.mem_singleton.mp hright)
  · rcases List.mem_append.mp he with hold | hnew
    · exact (h.built e (hin e (hstay e hold).1)).trans (Nat.lt_succ_self _)
    · rw [List.mem_singleton.mp hnew]
      exact Nat.lt_succ_self _
  · rcases List.mem_append.mp he with hold | hnew
    · obtain ⟨hyoung, hfresh⟩ := hstay e hold
      rcases List.mem_append.mp hclosed with hbefore | hnow
      · exact h.opened e (hin e hyoung) hbefore
      · obtain ⟨c, hc, hid⟩ := List.mem_map.mp hnow
        exact h.not_closing hyoung hfresh c hc hid.symm
    · rw [List.mem_singleton.mp hnew] at hclosed
      exact (hpast _ hclosed).false
  · rcases List.mem_append.mp hclosed with hbefore | hnow
    · exact h.alive c hc hbefore
    · obtain ⟨c', hc', hid⟩ := List.mem_map.mp hnow
      exact hunused c' hc' (List.mem_map.mpr ⟨c, hc, hid.symm⟩)

/-! ## Runs -/

/-- One request: the client is the right one and open, and the pool is as it should be. -/
theorem Sound.get (h : Sound s st) (hok : Harmless s kind st (.get wanted loopRunning)) :
    Sound s (getPooledClient s kind loopRunning st wanted).2 ∧
      ∀ c, (getPooledClient s kind loopRunning st wanted).1 = some c →
        Right wanted c ∧ c.id ∉ (getPooledClient s kind loopRunning st wanted).2.closed := by
  unfold getPooledClient
  cases hfind : findClient s kind st.pool wanted with
  | some e =>
    refine ⟨h.found hfind, fun c hc => ?_⟩
    cases hc
    exact ⟨hok.1 e hfind, h.opened e (List.mem_of_find?_eq_some hfind)⟩
  | none =>
    dsimp only
    split
    · exact ⟨h, nofun⟩
    · next hroom =>
      have hcreate := h.create hroom (hok.2 hfind)
      refine ⟨hcreate, fun c hc => ?_⟩
      cases hc
      exact ⟨rfl, hcreate.opened _ (List.mem_append_right _ (List.mem_singleton_self _))⟩

theorem Sound.step {event : PoolEvent} {reply : Option Client} (h : Sound s st) (hok : Harmless s kind st event)
    (hstep : (poolMachine s kind).step st event = some (st', reply)) : Sound s st' := by
  cases event with
  | done client =>
    cases hstep
    exact ⟨h.size, h.distinct, h.built, h.past, h.opened, fun c hc => h.alive c (List.mem_of_mem_erase hc)⟩
  | get wanted loopRunning =>
    obtain ⟨hsound, hclient⟩ := h.get hok
    cases hstep
    refine ⟨hsound.size, hsound.distinct, hsound.built, hsound.past, hsound.opened, fun c hc => ?_⟩
    rcases List.mem_append.mp hc with hnew | hold
    · exact (hclient c (Option.mem_toList.mp hnew)).2
    · exact hsound.alive c hold

def openrouter (apiKey : String) : Wanted := { provider := "openrouter", baseUrl := "https://openrouter.ai/api/v1", apiKey := apiKey }

def deployment : Settings where
  byokEnabled := true
  platformKey := fun _ => none
  sha256 := fun apiKey => if apiKey = "sk-alice" then "099295a3784e1bd3" else "36c76b48bb2ee1d9"

end Gatewayz.ClientPool
