import Gatewayz.Correctness.OneAmount

/-!
# `Correctness.StreamAccounting` — what a request leaves in the accounts, streamed or not

A request should be accounted for alike whether its answer is streamed or comes in one piece: the balance, the tokens in the
key's rate-limit window, the key's usage counter, the completed rows, the conversation turn.

Only the charge is shared. What the route does after a response in one piece (`finish`) has no counterpart for a stream: in one
piece there are two rows.
-/

namespace Gatewayz

open Exec

/-! ## RequestAccounts -/

/-- What a request adds up to, besides its charge and its rows. -/
structure Counters where
  window : Nat := 0
  /-- `requests_used` of the key. -/
  keyUsage : Nat := 0
  turns : Nat := 0
  deriving DecidableEq

def Counters.count (n : Counters) (s : ChatStmt) (r : Except ChatErr (ChatRes s)) (_ _ : ChatWorld) : Counters :=
  match s, r with
  | .windowRefusal _ tokens _, .ok none => { n with window := n.window + tokens }
  | .task .incrementApiKeyUsage, .ok () => { n with keyUsage := n.keyUsage + 1 }
  | .task .persistConversationTurn, .ok () => { n with turns := n.turns + 1 }
  | _, _ => n

abbrev countedRuns (env : ChatEnv) : Setting ChatErr ChatStmt ChatRes Counters ChatWorld :=
  chatRuns env Counters.count fun _ s o _ => s = .task .incrementApiKeyUsage → o = .served

/-- The accounts after a request. -/
structure RequestAccounts where
  balance : Option ℚ
  completedRows : Nat
  counters : Counters
  deriving DecidableEq

def accountsAfter (env : ChatEnv) (req : ChatRequest) (apiKey : String) (os : List (Outcome ChatErr)) (w : ChatWorld) :
    RequestAccounts where
  balance := (((serve env.config req apiKey).run (chatExec env) os w).2.2.db.ownerOf apiKey).map fun owner => owner.2.balance
  completedRows := ((serve env.config req apiKey).noted (bookRuns env) os {} w).completed.length
  counters := (serve env.config req apiKey).noted (countedRuns env) os {} w

/-! ## Rows -/

section Rows

variable {env : ChatEnv} {req : ChatRequest} {apiKey : String} {os : List (Outcome ChatErr)} {w : ChatWorld}

theorem two_rows (hstream : req.stream = false) (ha : (serve env.config req apiKey).Admits (bookRuns env) os {} w)
    (hdone : ((serve env.config req apiKey).run (chatExec env) os w).1.isOk = true) :
    2 ≤ (accountsAfter env req apiKey os w).completedRows := by
  have hend := wp_noted (wp_serve_onePiece env.config req apiKey hstream {} w) ha
  change Answered _ _ ((serve env.config req apiKey).run (chatExec env) os w).1 at hend
  revert hdone hend
  cases ((serve env.config req apiKey).run (chatExec env) os w).1 with
  | error e => exact fun hdone => nomatch hdone
  | ok answered => exact fun _ htwo => htwo

theorem one_row (hstream : req.stream = true) (ha : (serve env.config req apiKey).Admits (bookRuns env) os {} w)
    (hdone : ((serve env.config req apiKey).run (chatExec env) os w).1.isOk = true) :
    (accountsAfter env req apiKey os w).completedRows ≤ 1 := by
  have hblank : Blank w.db ({} : Books) w := ⟨rfl, rfl, rfl, rfl, rfl, rfl⟩
  have hend := wp_noted (wp_serve_stream req apiKey hstream hblank) ha
  change Answered _ _ ((serve env.config req apiKey).run (chatExec env) os w).1 at hend
  revert hdone hend
  cases ((serve env.config req apiKey).run (chatExec env) os w).1 with
  | error e => exact fun hdone => nomatch hdone
  | ok answered =>
    rintro - (hnothing | ⟨q, cost, row, hentered⟩)
    · show (Books.completed _).length ≤ 1
      rw [hnothing.completed]
      exact Nat.zero_le 1
    · show (Books.completed _).length ≤ 1
      rw [hentered.completed]
      exact le_refl 1

end Rows

/-- **Streamed and in one piece, a request never leaves the same accounts**: whatever the providers and services answer, where
    both are served to completion and all writes succeed, there are more completed rows in one piece. -/
theorem accounts_never_agree (env₁ env₂ : ChatEnv) (req : ChatRequest) (apiKey : String) (os₁ os₂ : List (Outcome ChatErr))
    (w : ChatWorld)
    (ha₁ : (serve env₁.config { req with stream := true } apiKey).Admits (bookRuns env₁) os₁ {} w)
    (hdone₁ : ((serve env₁.config { req with stream := true } apiKey).run (chatExec env₁) os₁ w).1.isOk = true)
    (ha₂ : (serve env₂.config { req with stream := false } apiKey).Admits (bookRuns env₂) os₂ {} w)
    (hdone₂ : ((serve env₂.config { req with stream := false } apiKey).run (chatExec env₂) os₂ w).1.isOk = true) :
    accountsAfter env₁ { req with stream := true } apiKey os₁ w ≠ accountsAfter env₂ { req with stream := false } apiKey os₂ w := by
  intro heq
  have hone := one_row rfl ha₁ hdone₁
  have htwo := two_rows rfl ha₂ hdone₂
  rw [heq] at hone
  omega

def askInSession (stream : Bool) : ChatRequest := { askOnce stream with sessionId := some 7 }

/-- It costs the same, and that is all: in one piece the tokens are in the window, the key and the turn are counted and there
    are two rows. -/
theorem accounts_differ :
    accountsAfter (calmEnv ["openrouter"]) (askInSession true) "k" [] calmWorld =
        ⟨some (1991 / 400), 1, ⟨0, 0, 0⟩⟩ ∧
      accountsAfter (calmEnv ["openrouter"]) (askInSession false) "k" [] calmWorld =
        ⟨some (1991 / 400), 2, ⟨2000, 1, 1⟩⟩ ∧
      accountsAfter (calmEnv ["openrouter"]) (askInSession true) "k" [] calmWorld ≠
        accountsAfter (calmEnv ["openrouter"]) (askInSession false) "k" [] calmWorld := by
  refine ⟨by decide +kernel, by decide +kernel, by decide +kernel⟩

/-- Both are served to completion. -/
theorem accounts_never_agree_inSession :
    accountsAfter (calmEnv ["openrouter"]) { askInSession true with stream := true } "k" [] calmWorld ≠
      accountsAfter (calmEnv ["openrouter"]) { askInSession true with stream := false } "k" [] calmWorld :=
  accounts_never_agree (calmEnv ["openrouter"]) (calmEnv ["openrouter"]) (askInSession true) "k" [] [] calmWorld
    (by decide +kernel) (by decide +kernel) (by decide +kernel) (by decide +kernel)

end Gatewayz
