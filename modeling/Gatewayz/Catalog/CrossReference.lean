import Gatewayz.Billing.Numerals
import Gatewayz.Catalog.PriceUnits
import Gatewayz.Exec.Tally

/-!
# `Catalog.CrossReference` — the price of a model, by the catalog of an aggregator

`services/pricing/pricing_lookup.py`. Some providers publish no prices. A model of theirs is priced by a reference catalog that lists the
same model, under an id of its own. The catalog is indexed by its ids and by their names without the organisation; then ids of the model
are tried one after the other, the most literal one first (`exactKeys`), and at last any key that goes on from the name with digits.
-/

namespace Gatewayz.CrossReference

open Prices Exec.Dictionary

/-! ## Ids -/

def baseChars (id : List Char) : List Char := (id.reverse.takeWhile (· ≠ '/')).reverse

/-- `id.split("/")[-1]`: the name in an id. -/
def baseId (id : String) : String := String.ofList (baseChars id.toList)

/-- `\d`, a decimal digit of any script. -/
def isDecimalChar (c : Char) : Bool := c.isDigit || digitZeros.any fun first => first ≤ c.toNat ∧ c.toNat < first + 10

/-- Signs that are digits and not decimal ones: the code points they start at, and how many there are. -/
def otherDigits : List (Nat × Nat) :=
  [(0xB2, 2), (0xB9, 1), (0x1369, 9), (0x19DA, 1), (0x2070, 1), (0x2074, 6), (0x2080, 10), (0x2460, 9), (0x2474, 9), (0x2488, 9),
    (0x24EA, 1), (0x24F5, 9), (0x24FF, 1), (0x2776, 9), (0x2780, 9), (0x278A, 9), (0x10A40, 4), (0x10E60, 9), (0x11052, 9),
    (0x1F100, 11)]

/-- `str.isdigit` of one character. -/
def isDigitChar (c : Char) : Bool := isDecimalChar c || otherDigits.any fun block => block.1 ≤ c.toNat ∧ c.toNat < block.1 + block.2

/-- The id without `-\d{8}` at its end. -/
def withoutDate (id : List Char) : List Char :=
  let date := id.drop (id.length - 9)
  if date.length = 9 ∧ date.head? = some '-' ∧ date.tail.all isDecimalChar then id.take (id.length - 9) else id

/-- `_DATE_SUFFIX.sub("", id)`: `$` stands before a line feed at the end, too. -/
def undatedChars (id : List Char) : List Char :=
  if id.getLast? = some '\n' then withoutDate id.dropLast ++ ['\n'] else withoutDate id

/-- `_VERSION_SEGMENT.sub(".", id)`: a hyphen between digits becomes a dot. -/
def dottedChars (afterDigit : Bool) : List Char → List Char
  | [] => []
  | c :: cs => (if c = '-' ∧ afterDigit ∧ cs.head?.any isDecimalChar then '.' else c) :: dottedChars (isDecimalChar c) cs

def undated (id : String) : String := String.ofList (undatedChars id.toList)

def dotted (id : String) : String := String.ofList (dottedChars false id.toList)

/-! ## The index -/

/-- An entry of the reference catalog. A price without fields is none. -/
structure ReferenceModel where
  id : String
  pricing : Option PriceTable
  deriving DecidableEq

namespace ReferenceModel

def keys (m : ReferenceModel) : List String := [m.id, lower m.id, baseId m.id, lower (baseId m.id)].filter (· ≠ "")

/-- The keys of an entry with a price, and the price for each of them. -/
def entries (m : ReferenceModel) : List (String × PriceTable) :=
  match m.pricing with
  | none => []
  | some pricing => m.keys.map fun key => (key, pricing)

end ReferenceModel

/-- `_build_openrouter_pricing_index`: later entries replace the price under a key. -/
def buildIndex (models : List ReferenceModel) : List (String × PriceTable) :=
  models.foldl (fun index m => m.entries.foldl (fun index e => put index e.1 e.2) index) []

/-! ## The lookup -/

def openrouterProviderAliases : List (String × String) :=
  [("moonshot", "moonshotai"), ("alibaba", "qwen"), ("alibaba-cloud", "qwen"), ("google-vertex", "google")]

/-- `add`: a value and its lower case, unless they are there. -/
def addCandidate (candidates : List String) (value : String) : List String :=
  [value, lower value].foldl (fun cs form => if form ≠ "" ∧ form ∉ cs then cs ++ [form] else cs) candidates

def forms (value : String) : List String := [value, undated value, dotted (undated value)]

def crossReferenceCandidates (modelId baseModelId : String) : List String :=
  ([modelId, baseModelId].filter (· ≠ "")).foldl (fun cs value => (forms value).foldl addCandidate cs) []

/-- The organisation of a provider, where the catalog has another name for it. -/
def aliasOf (provider : Option String) : Option String :=
  (provider.filter (· ≠ "")).bind fun slug => openrouterProviderAliases.lookup (lower slug)

/-- The ids under the alias of the provider. -/
def aliasKeys (modelId : String) (provider : Option String) : List String :=
  match aliasOf provider with
  | none => []
  | some organisation =>
    [organisation ++ "/" ++ baseId modelId, lower (organisation ++ "/" ++ baseId modelId)]

def exactKeys (modelId : String) (provider : Option String) : List String :=
  aliasKeys modelId provider ++ crossReferenceCandidates modelId (baseId modelId)

/-- Nothing, or a hyphen, and digits with hyphens among them. -/
def isVersionSuffix (suffix : List Char) : Bool :=
  suffix.isEmpty ||
    suffix.head? = some '-' && suffix.tail.any (· ≠ '-') && (suffix.tail.filter (· ≠ '-')).all isDigitChar

/-- The key is the name, or goes on from it with a version. -/
def extendsName (name key : String) : Bool :=
  name.toList.isPrefixOf key.toList && isVersionSuffix (key.toList.drop name.length)

/-- `normalize_pricing_dict`: what is not a price counts as zero. -/
def normalizePricingDict (pricing : PriceTable) (sourceFormat : PricingFormat) : PriceTable :=
  pricing.map fun price => some ((normalizeToPerToken price sourceFormat).getD 0)

/-- `_get_cross_reference_pricing`, by a given index. -/
def getCrossReferencePricing (building : Bool) (index : List (String × PriceTable)) (modelId : String) (provider : Option String) :
    Option PriceTable :=
  if building then none
  else
    match (exactKeys modelId provider).findSome? fun key => index.lookup key with
    | some pricing => some (normalizePricingDict pricing .perToken)
    | none =>
      (index.find? fun entry => extendsName (lower (baseId modelId)) entry.1).map fun entry =>
        normalizePricingDict entry.2 .perToken

end Gatewayz.CrossReference
