import Gatewayz.Chat.Providers
import Gatewayz.Exec.Tally
import Gatewayz.Messages.Wire

/-!
# `Chat.ModelIds` — the names of a model, to its providers and back

`services/cache/model_mappings_cache.py` loads the aliases of models and, by provider, their native ids. `transform_model_id` of
`services/model_transformations.py` makes of a model's id that of a provider; `normalize_model_id_for_pricing` of
`services/pricing/pricing.py` makes of either the id that has a price: by the mappings read backwards, by rules for known paths and
suffixes, and by the aliases.

Ids are texts, and `lower` is that of ASCII letters.
-/

namespace Gatewayz.ModelIds

open Exec.Dictionary

/-! ## Tables -/

structure AliasRow where
  aliasId : Option String
  canonicalId : Option String

structure MappingRow where
  provider : Option String
  modelId : Option String
  providerModelId : Option String

/-- What the cache holds: canonical ids by alias, and by provider the native ids of models. -/
structure MappingTables where
  aliases : List (String × String)
  providerMappings : List (String × List (String × String))

/-- One row of `model_aliases`. -/
def addAlias (aliases : List (String × String)) (row : AliasRow) : List (String × String) :=
  let aliasId := lower (row.aliasId.getD "")
  let canonical := row.canonicalId.getD ""
  if aliasId ≠ "" ∧ canonical ≠ "" then put aliases aliasId canonical else aliases

/-- One row of `model_provider_mappings`. -/
def addMapping (mappings : List (String × List (String × String))) (row : MappingRow) : List (String × List (String × String)) :=
  let provider := lower (row.provider.getD "")
  let modelId := lower (row.modelId.getD "")
  let native := row.providerModelId.getD ""
  if provider ≠ "" ∧ modelId ≠ "" ∧ native ≠ "" then put mappings provider (put ((mappings.lookup provider).getD []) modelId native)
  else mappings

def loadModelMappingsCache (aliasRows : List AliasRow) (mappingRows : List MappingRow) : MappingTables where
  aliases := aliasRows.foldl addAlias []
  providerMappings := mappingRows.foldl addMapping []

/-- `get_aliases().get(key)` -/
def MappingTables.alias? (t : MappingTables) (key : String) : Option String := t.aliases.lookup key

/-- What stands in a mapping: a native id, or, if no provider is named, the mapping of one. -/
inductive Native where
  | id (s : String)
  | mapping (entries : List (String × String))

def getModelIdMapping (t : MappingTables) (provider : String) : List (String × Native) :=
  if provider = "" then t.providerMappings.map fun e => (e.1, .mapping e.2)
  else ((t.providerMappings.lookup (lower provider)).getD []).map fun e => (e.1, .id e.2)

/-! ## Texts -/

/-- `s[len(head):]`, if the text starts so. -/
def afterHead (head s : String) : Option String :=
  if startsWith head s then some (String.ofList (s.toList.drop head.length)) else none

/-- `s[:-n]` -/
def dropEnd (s : String) (n : Nat) : String := String.ofList (s.toList.take (s.length - n))

/-- `s.split("/", 1)[1]`, if there is a slash. -/
def afterSlash (s : String) : Option String :=
  if s.toList.contains '/' then some (String.ofList ((s.toList.dropWhile (· ≠ '/')).drop 1)) else none

/-- `s.replace(old, new)`, with the characters still to be left out. -/
def replaceAll (old new : List Char) : Nat → List Char → List Char
  | _, [] => []
  | skip + 1, _ :: cs => replaceAll old new skip cs
  | 0, c :: cs => if old.isPrefixOf (c :: cs) then new ++ replaceAll old new (old.length - 1) cs else c :: replaceAll old new 0 cs

/-- `s.split("/")` -/
def segments : List Char → List (List Char)
  | [] => [[]]
  | c :: cs => if c = '/' then [] :: segments cs else (segments cs).modifyHead (c :: ·)

/-! ## To the provider -/

def stripPrefixProviders : List (String × String) :=
  [("openai", "openai/"), ("anthropic", "anthropic/"), ("groq", "groq/"), ("cerebras", "cerebras/"), ("xai", "xai/"),
    ("nebius", "nebius/")]

def openrouterAutoFallbacks : List (String × String) :=
  [("cerebras", "llama-3.3-70b"), ("huggingface", "meta-llama/llama-3.3-70b"), ("hug", "meta-llama/llama-3.3-70b"),
    ("featherless", "meta-llama/llama-3.3-70b"), ("fireworks", "meta-llama/llama-3.3-70b"), ("together", "meta-llama/llama-3.3-70b"),
    ("google-vertex", "gemini-2.5-flash"), ("alibaba-cloud", "qwen/qwen-plus"),
    ("simplismart", "meta-llama/Llama-3.3-70B-Instruct")]

def openrouterMetaModels : List String := ["openrouter/auto", "openrouter/bodybuilder"]

/-- The providers whose own name is taken off the front of an id before it is looked up. -/
def ownNameProviders : List String := ["openrouter", "near", "aimo", "groq", "morpheus"]

def normalizeModelName (modelId : String) : String :=
  let normalized := (afterSlash (lower modelId)).getD (lower modelId)
  let replaced := [("v3p1", "v3"), ("v3.1", "v3"), ("3.3", "3p3"), ("3.1", "3p1"), (".", "p"), ("_", "-")].foldl
    (fun s (r : String × String) => replaceAll r.1.toList r.2.toList 0 s) normalized.toList
  ["-instruct", "-chat", "-turbo", "-basic"].foldl (fun s ending => if endsWith s ending then dropEnd s ending.length else s)
    (String.ofList replaced)

/-- What becomes of an id before the mapping is asked: it is the result, or it is looked up. -/
inductive Prepared where
  | final (id : String)
  | lookUp (id : String)

/-- The provider's own name is taken off, but not from OpenRouter's meta-models. -/
def withoutOwnName (provider modelId : String) : String :=
  if ownNameProviders.contains provider && !(provider = "openrouter" && openrouterMetaModels.contains modelId) then
    (afterHead (provider ++ "/") modelId).getD modelId
  else modelId

/-- The rules before the mapping, for the lowercase name of a provider. -/
def prepare (provider requested : String) : Prepared :=
  let remapped :=
    if lower requested = "openrouter/auto" ∧ provider ≠ "openrouter" then (openrouterAutoFallbacks.lookup provider).getD requested
    else requested
  let modelId := lower remapped
  match (stripPrefixProviders.lookup provider).bind (afterHead · modelId) with
  | some bare => .final bare
  | none =>
    match if provider = "xai" then afterHead "x-ai/" modelId else none with
    | some bare => .final bare
    | none =>
      if startsWith "accounts/fireworks/models/" modelId then .final modelId
      else if startsWith "@" modelId && !startsWith "@google/models/" modelId then .final modelId
      else .lookUp (withoutOwnName provider modelId)

/-- What a mapping has for an id: under the id, under its name without the organisation, or under a name like it. -/
def findNative {V : Type} (mapping : List (String × V)) (modelId : String) : Option V :=
  match mapping.lookup modelId with
  | some native => some native
  | none =>
    match (afterSlash modelId).bind fun name => mapping.lookup name with
    | some native => some native
    | none => (mapping.find? fun e => normalizeModelName e.1 = normalizeModelName modelId).map Prod.snd

/-- The models of the multi-provider registry, each with the native ids of its providers. -/
abbrev Registry := List (String × List (String × String))

/-- `get_provider_by_name`, of a model that the registry has. -/
def Registry.nativeId (registry : Registry) (modelId provider : String) : Option String :=
  (registry.lookup modelId).bind fun providers => providers.lookup provider

/-- The native id that the mapping of a provider has for a model, if the mapping is asked. -/
def servedNative (t : MappingTables) (registry : Registry) (modelId provider : String) : Option Native :=
  if modelId = "" then none
  else
    let canonical := applyModelAlias t.alias? modelId
    if (registry.nativeId canonical provider).isSome then none
    else
      match prepare (lower provider) canonical with
      | .final _ => none
      | .lookUp id => findNative (getModelIdMapping t (lower provider)) id

def transformModelId (t : MappingTables) (registry : Registry) (modelId provider : String) (useMultiProvider : Bool := true) : Native :=
  if modelId = "" then .id modelId
  else
    let canonical := applyModelAlias t.alias? modelId
    match if useMultiProvider then registry.nativeId canonical provider else none with
    | some native => .id (lower native)
    | none =>
      match prepare (lower provider) canonical with
      | .final id => .id id
      | .lookUp id => (findNative (getModelIdMapping t (lower provider)) id).getD (.id id)

/-! ## Back to the price -/

/-- One entry of a mapping, read backwards: an id with an organisation is preferred, and otherwise the first. -/
def addReverse (reverse : List (String × String)) (e : String × String) : List (String × String) :=
  let native := lower e.2
  if lower e.1 = native then reverse
  else
    match reverse.lookup native with
    | none => put reverse native e.1
    | some existing => if e.1.toList.contains '/' && !existing.toList.contains '/' then put reverse native e.1 else reverse

def buildReverseTransformLookup (t : MappingTables) : List (String × String) :=
  (t.providerMappings.flatMap Prod.snd).foldl addReverse []

/-- `org/app/models/model` as `org/model`: the first segment, and what comes behind the first `models` that is neither the first nor the last
    of them. -/
def stripClarifai (s : String) : String :=
  let parts := segments s.toList
  match parts.zipIdx.find? fun (part, i) => part = "models".toList && 0 < i && i < parts.length - 1 with
  | some (_, i) => String.ofList (parts.headD [] ++ '/' :: List.intercalate ['/'] (parts.drop (i + 1)))
  | none => s

/-- The rules for known paths. -/
def stripPath (s : String) : String :=
  if startsWith "accounts/fireworks/models/" (lower s) then String.ofList (s.toList.drop 26)
  else if startsWith "@cf/" (lower s) then String.ofList (s.toList.drop 4)
  else if startsWith "@google/models/" (lower s) then "google/" ++ String.ofList (s.toList.drop 15)
  else if textContains "/models/" s && 3 ≤ s.toList.count '/' then stripClarifai s
  else s

/-- The first of `provider_suffixes` that the id ends with is taken off. -/
def stripProviderSuffix (s : String) : String :=
  match [":hf-inference", ":openai", ":anthropic"].find? (endsWith s) with
  | some ending => dropEnd s ending.length
  | none => s

/-- `_VERSION_SUFFIX_RE`; its `$` also matches before a line feed at the end. -/
def isVersionSuffix (version : List Char) : Bool :=
  let body := if version.getLast? = some '\n' then version.dropLast else version
  body = "latest".toList || (1 ≤ body.length && body.length ≤ 10 && body.all fun c => (asciiDigit c).isDigit)

/-- What comes behind the last `@`. -/
def versionPart (s : List Char) : List Char := (s.reverse.takeWhile (· ≠ '@')).reverse

/-- A version at the end is taken off, with its `@`. -/
def stripVersion (s : String) : String :=
  if s.toList.contains '@' && isVersionSuffix (versionPart s.toList) then dropEnd s ((versionPart s.toList).length + 1) else s

/-- `:free` is taken off. -/
def stripFree (s : String) : String := if endsWith s ":free" then dropEnd s 5 else s

def stripPatterns (s : String) : String := stripFree (stripVersion (stripProviderSuffix (stripPath s)))

def normalizeModelIdForPricing (t : MappingTables) (modelId : String) : String :=
  if modelId = "" then modelId
  else
    match ((buildReverseTransformLookup t).lookup (lower modelId)).filter (· ≠ "") with
    | some canonical =>
      let final := applyModelAlias t.alias? canonical
      if final = "" then canonical else final
    | none =>
      let normalized := stripPatterns modelId
      let aliased := applyModelAlias t.alias? normalized
      if aliased = "" then normalized else aliased

end Gatewayz.ModelIds
