import Gatewayz.Billing.Numerals
import Gatewayz.Exec.Tally

/-!
# `Catalog.StoredPrices` — the prices in the tables, by one id and all at once

`services/pricing/pricing_lookup.py`. A price stands in `model_pricing`, in `metadata.pricing_raw`, or under an older key of the metadata.
Billing asks for the price of one id (`_resolve_pricing_from_db`), by the name of a model first and by its id then; the catalog reads the
prices of all active models, page by page (`get_all_pricing_batch`).
-/

namespace Gatewayz.StoredPrices

open Exec.Dictionary

/-! ## Values -/

inductive Json where
  | scalar (v : PyValue)
  | list (items : List Json)
  | dict (fields : List (String × Json))

namespace Json

def null : Json := .scalar .none

def text (s : String) : Json := .scalar (.str s)

/-- `value is None` -/
def isNull : Json → Bool
  | .scalar .none => true
  | _ => false

/-- Python truth. -/
def truthy : Json → Bool
  | .scalar v => v.truthy
  | .list items => !items.isEmpty
  | .dict fields => !fields.isEmpty

def asDict : Json → Option (List (String × Json))
  | .dict fields => some fields
  | _ => none

end Json

/-- `d.get(key, default)` -/
def get (d : List (String × Json)) (key : String) (default : Json := .null) : Json := (d.lookup key).getD default

/-- `float(value)` -/
def toFloat : PyValue → Except PyErr PyFloat
  | .none => .error (.typeError "float() argument must be a string or a real number, not 'NoneType'")
  | .bool b => .ok (.finite (if b then 1 else 0))
  | .int n => if floatLimit ≤ |(n : ℚ)| then .error ⟨.other, "int too large to convert to float"⟩ else .ok (.finite (nearestDouble n))
  | .float q => .ok (.finite q)
  | .str s =>
    match parseFloat s with
    | some x => .ok x
    | none => .error (.valueError ("could not convert string to float: '" ++ s ++ "'"))

/-- `validate_pricing_value`: the value whose `str` it returns. A number too large for a `float` is raised. -/
def validatePricingValue : Json → Except PyErr PyValue
  | .scalar v =>
    match toFloat v with
    | .ok (.finite q) => .ok (if q < 0 then .str "0" else v)
    | .ok _ => .ok (.str "0")
    | .error e => if e.kind = .typeError ∨ e.kind = .valueError then .ok (.str "0") else .error e
  | _ => .ok (.str "0")

/-- `float(str(value))`, of a value that was checked. -/
def amount : PyValue → Except PyErr ℚ
  | .int n => .ok (nearestDouble n)
  | .float q => .ok q
  | .str s =>
    match parseFloat s with
    | some (.finite q) => .ok q
    | _ => .error (.valueError ("could not convert string to float: '" ++ s ++ "'"))
  | v => .error (.valueError ("could not convert string to float: '" ++ v.text ++ "'"))

/-! ## Places -/

/-- What stands in one place for the four prices of a model. -/
structure Fields where
  prompt : Json
  completion : Json
  request : Json := .text "0"
  image : Json := .text "0"

structure Price where
  prompt : PyValue
  completion : PyValue
  request : PyValue
  image : PyValue
  deriving DecidableEq

/-- The four values, checked one after the other. -/
def Fields.validate (f : Fields) : Except PyErr Price := do
  let prompt ← validatePricingValue f.prompt
  let completion ← validatePricingValue f.completion
  let request ← validatePricingValue f.request
  let image ← validatePricingValue f.image
  pure ⟨prompt, completion, request, image⟩

/-- A row of `model_pricing`. -/
structure PricingRow where
  pricePerInputToken : Option ℚ
  pricePerOutputToken : Option ℚ

/-- A row of `models`, with the slug of its provider and the price that is joined to it. -/
structure ModelRow where
  modelName : String
  providerModelId : String
  providerSlug : String
  isActive : Bool
  metadata : Json
  modelPricing : Option PricingRow

def ofColumn : Option ℚ → Json
  | some q => .scalar (.float q)
  | none => .null

inductive Source where
  /-- `model_pricing` -/
  | table
  /-- `metadata.pricing_raw` -/
  | raw
  /-- `metadata.pricing` -/
  | older

namespace ModelRow

variable (row : ModelRow)

/-- `metadata.get(key)` -/
def metadataAt (key : String) : Json :=
  match row.metadata with
  | .dict fields => get fields key
  | _ => .null

def fieldsOf (d : List (String × Json)) : Fields :=
  ⟨get d "prompt", get d "completion", get d "request" (.text "0"), get d "image" (.text "0")⟩

/-- What stands in a place, if there is a row or a dictionary at all. -/
def fieldsAt : Source → Option Fields
  | .table => row.modelPricing.map fun p => { prompt := ofColumn p.pricePerInputToken, completion := ofColumn p.pricePerOutputToken }
  | .raw => (row.metadataAt "pricing_raw").asDict.map fieldsOf
  | .older => (row.metadataAt "pricing").asDict.map fieldsOf

end ModelRow

/-! ## By one id -/

def Fields.isComplete (f : Fields) : Bool := !f.prompt.isNull && !f.completion.isNull

/-- The place that `_resolve_pricing_from_db` takes the price of a row from. -/
def ModelRow.billedFrom (row : ModelRow) : Option Source :=
  [Source.table, Source.raw].find? fun source => (row.fieldsAt source).any Fields.isComplete

def idColumns : List (ModelRow → String) := [ModelRow.modelName, ModelRow.providerModelId]

/-- `.eq(column, candidate).eq("is_active", True).limit(1)`: the first row that the database comes to. -/
def findActive (rows : List ModelRow) (column : ModelRow → String) (candidate : String) : Option ModelRow :=
  rows.find? fun row => row.isActive && column row = candidate

/-- The row and the place that have the price of a candidate. -/
def billedPlace (rows : List ModelRow) (candidate : String) : Option (ModelRow × Source) :=
  if candidate = "" then none
  else
    idColumns.findSome? fun column =>
      (findActive rows column candidate).bind fun row => row.billedFrom.map fun source => (row, source)

def fieldsIn (place : ModelRow × Source) : Fields := (place.1.fieldsAt place.2).getD ⟨.null, .null, .null, .null⟩

/-- `_resolve_pricing_from_db`, by the candidates in their order. What is raised ends the lookup. -/
def resolvePricingFromDb (rows : List ModelRow) (candidates : List String) : Option Price :=
  match candidates.findSome? (billedPlace rows) with
  | some place => (fieldsIn place).validate.toOption
  | none => none

/-! ## All at once -/

/-- The place that `get_all_pricing_batch` takes the price of a row from. -/
def ModelRow.shownFrom (row : ModelRow) : Option Source :=
  if row.modelPricing.any fun p => (ofColumn p.pricePerInputToken).truthy || (ofColumn p.pricePerOutputToken).truthy then some .table
  else
    let source := if (row.metadataAt "pricing_raw").truthy then Source.raw else .older
    if (row.fieldsAt source).any fun f => !f.prompt.isNull || !f.completion.isNull then some source else none

def pageSize : Nat := 1000

/-- The pages that are read, if `left` more may be and each is full: the deadline is looked at behind a full page. -/
def pagesAllowed (late : Nat → Bool) : Nat → Nat → Nat
  | 0, _ => 0
  | left + 1, page => if late page then 1 else pagesAllowed late left (page + 1) + 1

/-- The loop over the pages. -/
def fetchPages (active : List ModelRow) (late : Nat → Bool) : Nat → Nat → List ModelRow
  | 0, _ => []
  | left + 1, page =>
    let batch := (active.drop (page * pageSize)).take pageSize
    if batch.length < pageSize ∨ late page then batch else batch ++ fetchPages active late left (page + 1)

def maxPages : Nat := 100

def fetchAll (rows : List ModelRow) (late : Nat → Bool) : List ModelRow :=
  fetchPages (rows.filter ModelRow.isActive) late maxPages 0

/-- One row of the loop: the price under its id, replaced by a later one. -/
def addPrice (prices : List (String × Price)) (row : ModelRow) : Except PyErr (List (String × Price)) :=
  if row.providerModelId = "" then pure prices
  else
    match row.shownFrom with
    | none => pure prices
    | some source => do
      let price ← (fieldsIn (row, source)).validate
      pure (put prices row.providerModelId price)

/-- `get_all_pricing_batch`: what is raised leaves no prices at all. -/
def getAllPricingBatch (rows : List ModelRow) (late : Nat → Bool) : List (String × Price) :=
  match (fetchAll rows late).foldlM addPrice [] with
  | .ok prices => prices
  | .error _ => []

end Gatewayz.StoredPrices
