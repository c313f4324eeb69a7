import Gatewayz.Billing.Tables
import Gatewayz.Exec.Prog
import Mathlib.Data.List.Nodup

/-!
# `Keys.Table` — the rows of `api_keys_new`, whole

The billing modules know a key as a text that leads to a user. Here a row has all its columns: the key itself, its hash, its
encrypted copy, and everything that restricts its use. The table keeps its three unique columns as fields of `KeyTable`; an
update that would break one is refused, as the database refuses it.
-/

namespace Gatewayz.Keys

open Exec

/-! ## Columns -/

inductive Zone where
  /-- `…Z` -/
  | zulu
  /-- `…+00:00` -/
  | utc
  | naive
  | offset (minutes : Int)
  deriving DecidableEq

/-- An ISO time stamp: the clock it shows, in seconds since the epoch, and its zone. -/
structure Iso where
  clock : Int
  zone : Zone
  deriving DecidableEq

/-- `datetime.now(UTC).isoformat()` -/
def Iso.ofUtc (clock : Int) : Iso := ⟨clock, .utc⟩

/-- The source reads a stamp by making its end `+00:00`, which `fromisoformat` refuses where another offset stands before it. -/
def Iso.parse (stamp : Iso) : Except PyErr Int :=
  match stamp.zone with
  | .offset _ => .error (.valueError "Invalid isoformat string")
  | _ => .ok stamp.clock

/-- What `scope_permissions` says about one permission. -/
inductive Allowed where
  | resources (names : List String)
  | resource (name : String)
  | other
  deriving DecidableEq

abbrev Scopes := List (String × Allowed)

/-- A row of `api_keys_new`. -/
structure KeyRow where
  id : Int
  userId : Int
  apiKey : String
  keyName : String
  keyHash : Option String := none
  encryptedKey : Option String := none
  keyVersion : Option Int := none
  last4 : Option String := none
  environmentTag : Option String := some "live"
  isPrimary : Option Bool := some false
  isActive : Option Bool := some true
  scopePermissions : Option Scopes := some []
  ipAllowlist : Option (List String) := some []
  domainReferrers : Option (List String) := some []
  expirationDate : Option Iso := none
  maxRequests : Option Int := none
  requestsUsed : Option Int := some 0
  createdAt : Option Iso := none
  updatedAt : Option Iso := none
  lastUsedAt : Option Iso := none
  deriving DecidableEq

structure KeyPatch where
  apiKey : Option String := none
  keyHash : Option String := none
  keyName : Option String := none
  scopePermissions : Option Scopes := none
  expirationDate : Option (Option Iso) := none
  maxRequests : Option Int := none
  ipAllowlist : Option (List String) := none
  domainReferrers : Option (List String) := none
  isActive : Option Bool := none
  requestsUsed : Option Int := none
  updatedAt : Option Iso := none
  lastUsedAt : Option Iso := none

/-- The row after an update. -/
def KeyPatch.apply (p : KeyPatch) (row : KeyRow) : KeyRow :=
  { row with
    apiKey := p.apiKey.getD row.apiKey
    keyHash := p.keyHash.or row.keyHash
    keyName := p.keyName.getD row.keyName
    scopePermissions := p.scopePermissions.or row.scopePermissions
    expirationDate := p.expirationDate.getD row.expirationDate
    maxRequests := p.maxRequests.or row.maxRequests
    ipAllowlist := p.ipAllowlist.or row.ipAllowlist
    domainReferrers := p.domainReferrers.or row.domainReferrers
    isActive := p.isActive.or row.isActive
    requestsUsed := p.requestsUsed.or row.requestsUsed
    updatedAt := p.updatedAt.or row.updatedAt
    lastUsedAt := p.lastUsedAt.or row.lastUsedAt }

@[simp] theorem KeyPatch.apply_id (p : KeyPatch) (row : KeyRow) : (p.apply row).id = row.id := rfl
@[simp] theorem KeyPatch.apply_userId (p : KeyPatch) (row : KeyRow) : (p.apply row).userId = row.userId := rfl

/-! ## The table -/

def Unique (rows : List KeyRow) : Prop :=
  (rows.map KeyRow.id).Nodup ∧ (rows.map KeyRow.apiKey).Nodup ∧ (rows.filterMap KeyRow.keyHash).Nodup

instance (rows : List KeyRow) : Decidable (Unique rows) := inferInstanceAs (Decidable (_ ∧ _ ∧ _))

/-- The table, which never holds two rows with one id, one key or one hash. -/
structure KeyTable where
  rows : List KeyRow
  unique : Unique rows

namespace KeyTable

variable (t : KeyTable)

def byId (id : Int) : Option KeyRow := t.rows.find? fun row => row.id = id
def byApiKey (apiKey : String) : Option KeyRow := t.rows.find? fun row => row.apiKey = apiKey
def byKeyHash (keyHash : String) : Option KeyRow := t.rows.find? fun row => row.keyHash = some keyHash

def patched (id : Int) (f : KeyRow → KeyRow) : List KeyRow := t.rows.map fun row => if row.id = id then f row else row

/-- `update … where id = …`: did a row match? -/
def update (id : Int) (patch : KeyPatch) : Except PyErr (Bool × KeyTable) :=
  if h : Unique (t.patched id patch.apply) then .ok ((t.byId id).isSome, ⟨t.patched id patch.apply, h⟩)
  else .error ⟨.apiError "23505", "duplicate key value violates unique constraint"⟩

/-- The row a secret is accepted for: by its hash, if there is one, or else by the key column. -/
def opened (sha256KeyHash : String → Option String) (secret : String) : Option KeyRow :=
  ((sha256KeyHash secret).bind t.byKeyHash).or (t.byApiKey secret)

variable {t} {row row' : KeyRow}

theorem eq_of_id (hrow : row ∈ t.rows) (hrow' : row' ∈ t.rows) (h : row.id = row'.id) : row = row' :=
  List.inj_on_of_nodup_map t.unique.1 hrow hrow' h

theorem eq_of_apiKey (hrow : row ∈ t.rows) (hrow' : row' ∈ t.rows) (h : row.apiKey = row'.apiKey) : row = row' :=
  List.inj_on_of_nodup_map t.unique.2.1 hrow hrow' h

theorem find_patched {id : Int} {f : KeyRow → KeyRow} {p : KeyRow → Bool} (hp : ∀ row, p (f row) = p row) :
    (t.patched id f).find? p = (t.rows.find? p).map fun row => if row.id = id then f row else row := by
  have hsame : (p ∘ fun row => if row.id = id then f row else row) = p := by
    funext row
    rw [Function.comp_apply]
    split
    · exact hp row
    · rfl
  rw [patched, List.find?_map, hsame]

/-- A rewriting of rows that keeps the keys and the hashes: what a secret opens is what it opened, rewritten. -/
theorem opened_patched {t' : KeyTable} {id : Int} {f : KeyRow → KeyRow} {sha256KeyHash : String → Option String}
    (hkeep : ∀ row, (f row).apiKey = row.apiKey ∧ (f row).keyHash = row.keyHash) (h : t'.rows = t.patched id f)
    (secret : String) :
    t'.opened sha256KeyHash secret = (t.opened sha256KeyHash secret).map fun row => if row.id = id then f row else row := by
  have hkey : t'.byApiKey secret = (t.byApiKey secret).map fun row => if row.id = id then f row else row := by
    rw [byApiKey, h]
    exact find_patched fun row => by rw [(hkeep row).1]
  have hhash (hash : String) : t'.byKeyHash hash = (t.byKeyHash hash).map fun row => if row.id = id then f row else row := by
    rw [byKeyHash, h]
    exact find_patched fun row => by rw [(hkeep row).2]
  unfold opened
  cases sha256KeyHash secret with
  | none => simpa using hkey
  | some hash => rw [Option.bind_some, Option.bind_some, Option.map_or, hhash, hkey]

theorem rows_update {id : Int} {patch : KeyPatch} {b : Bool} {t' : KeyTable} (h : t.update id patch = .ok (b, t')) :
    t'.rows = t.patched id patch.apply ∧ b = (t.byId id).isSome := by
  unfold update at h
  split at h
  · cases h
    exact ⟨rfl, rfl⟩
  · cases h

end KeyTable

end Gatewayz.Keys
