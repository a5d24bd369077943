import DocFilter.Config.Basic
import DocFilter.Endpoint.Access

/-!
# The gateway

A request names an endpoint and says what it wants from it.  The gateway looks the
endpoint up, reads the filter and the order, holds both against what the endpoint
allows, and only then translates; the first step that fails ends it.  Nothing is
bound before everything is allowed.
-/

namespace DocFilter

/-- A configuration put to work. -/
structure Gateway where
  config : Config
  registry : Registry
  translator : Translator

/-- A request translated, and the table it is about. -/
structure PreparedQuery where
  table : String
  translation : Translation

namespace Gateway

/-- The gateway of a configuration. -/
def ofConfig (lib : Libraries) (c : Config) : Except ConfigError Gateway := do
  let registry ← c.registry
  let translator ← c.translator lib
  return ⟨c, registry, translator⟩

/-- What has to hold before a request is translated: the endpoint it is about, and
its filter. -/
def authorize (g : Gateway) (verb : Verb) (path : String) (r : Request) :
    Except QueryError (Endpoint × Filter) := do
  let endpoint ← g.registry.get verb path
  let filter ← g.translator.readFilter r.filter
  let keys ← Translator.sortKeys r.options
  let identityField := g.translator.layout.identityField
  endpoint.checkFilter identityField filter
  endpoint.checkOrder identityField keys
  return (endpoint, filter)

/-- A request made ready. -/
def prepare (g : Gateway) (verb : Verb) (path : String) (r : Request) :
    Minting PreparedQuery := do
  let (endpoint, filter) ← Minting.ofExcept (g.authorize verb path r)
  let translation ← g.translator.translateRead filter r.options
  return ⟨endpoint.table, translation⟩

/-- Query parameters made ready. -/
def prepareParameters (g : Gateway) (verb : Verb) (path : String)
    (parameters : List (String × String)) : Minting PreparedQuery := do
  let r ← Minting.ofExcept (Request.ofParameters g.translator.reserved parameters)
  g.prepare verb path r

end Gateway
end DocFilter
