import Gatewayz.Exec.Tally

/-!
# `Catalog.CanonicalModels` — one model, under the names of many providers

`services/multi_provider_registry.py`. A provider registers its model under a canonical id, with names: slugs, aliases, and the
provider's own id for it. The model is one that is known already if one of the names is in the index. The index then leads from all of
the names to it.

Of the data that are merged, those are kept here that name a model. An empty name is none.
-/

namespace Gatewayz.Canonical

open Exec

/-- `CanonicalModelProvider`. Of `metadata`, the names. -/
structure CanonicalModelProvider where
  providerSlug : String
  nativeModelId : String
  slug : Option String := none
  canonicalSlug : Option String := none
  deriving DecidableEq

/-- `display_metadata`, as far as it names the model. -/
structure DisplayMetadata where
  slug : Option String := none
  canonicalSlug : Option String := none
  aliases : List String := []
  deriving DecidableEq

/-- A call of `register_canonical_provider`. -/
structure Registration where
  canonicalId : Option String := none
  display : DisplayMetadata := {}
  provider : CanonicalModelProvider
  deriving DecidableEq

/-- `a or b`, of what may be missing. -/
def orElse (a : Option String) (b : String) : String := (a.filter (· ≠ "")).getD b

namespace CanonicalModelProvider

/-- `_merge_dicts`, of a name: what comes is preferred, unless it is empty. -/
def mergeName (base incoming : Option String) : Option String := (incoming.filter (· ≠ "")).or base

/-- `CanonicalModelProvider.merge`, of providers with the same slug. -/
def merge (provider other : CanonicalModelProvider) : CanonicalModelProvider where
  providerSlug := provider.providerSlug
  nativeModelId := if other.nativeModelId ≠ "" then other.nativeModelId else provider.nativeModelId
  slug := mergeName provider.slug other.slug
  canonicalSlug := mergeName provider.canonicalSlug other.canonicalSlug

end CanonicalModelProvider

structure CanonicalModel where
  id : String
  providers : List (String × CanonicalModelProvider) := []

def CanonicalModel.addProvider (model : CanonicalModel) (provider : CanonicalModelProvider) : CanonicalModel :=
  let existing := model.providers.lookup provider.providerSlug
  { model with
    providers := Dictionary.put model.providers provider.providerSlug (existing.elim provider fun existing => existing.merge provider) }

namespace Registration

variable (r : Registration)

def slugCandidates : List String :=
  ([r.display.slug, r.display.canonicalSlug].filterMap fun value => value.filter (· ≠ "")) ++
    r.display.aliases.filter (· ≠ "") ++
    ([r.provider.slug, r.provider.canonicalSlug].filterMap fun value => value.filter (· ≠ "")) ++
    [r.provider.nativeModelId]

def defaultId : String := orElse r.canonicalId (orElse r.provider.canonicalSlug r.provider.nativeModelId)

end Registration

/-- `MultiProviderRegistry`, its canonical catalog. -/
structure CanonicalRegistry where
  canonicalModels : List (String × CanonicalModel) := []
  canonicalSlugIndex : List (String × String) := []

namespace CanonicalRegistry

variable (registry : CanonicalRegistry)

def lookupSlug (slug : String) : Option String :=
  if slug = "" then none else (registry.canonicalSlugIndex.lookup slug).filter (· ≠ "")

def resolveCanonicalId (candidates : List String) : Option String := candidates.findSome? registry.lookupSlug

def updateSlugIndex (index : List (String × String)) (canonicalId : String) (slugs : List String) : List (String × String) :=
  slugs.foldl (fun index slug => if slug = "" then index else Dictionary.put index slug canonicalId) index

def resolvedId (r : Registration) : String :=
  (registry.resolveCanonicalId (r.slugCandidates ++ [r.defaultId])).getD r.defaultId

def registerCanonicalProvider (r : Registration) : CanonicalRegistry × CanonicalModel :=
  let resolvedId := registry.resolvedId r
  let model := ((registry.canonicalModels.lookup resolvedId).getD { id := resolvedId }).addProvider r.provider
  ({ canonicalModels := Dictionary.put registry.canonicalModels resolvedId model
     canonicalSlugIndex := updateSlugIndex registry.canonicalSlugIndex resolvedId (r.slugCandidates ++ [resolvedId]) }, model)

/-- One registration after the other, and the id of the model that each went to. -/
def registerAll (registry : CanonicalRegistry) : List Registration → CanonicalRegistry × List (Registration × String)
  | [] => (registry, [])
  | r :: rs =>
    let done := registerAll (registry.registerCanonicalProvider r).1 rs
    (done.1, (r, registry.resolvedId r) :: done.2)

end CanonicalRegistry

end Gatewayz.Canonical
