import DocFilter.Config.Basic
import DocFilter.Config.Reference
import DocFilter.Toml.Reader

/-!
# Reading a configuration

The text of a configuration is TOML with references to the environment in it.  The
references are filled in first, wherever they stand; then the text is read, and the
settings are given their meaning.

A section is a table, or a list of the values in a fixed order of which the last ones
may be missing.  A key that means nothing is refused.
-/

namespace DocFilter
namespace Setting

/-! ## Simple values -/

/-- A text. -/
def text? : Setting → Option String
  | .text s => some s
  | _ => none

/-- An integer that is not negative. -/
def nat? : Setting → Option Nat
  | .integer n => if 0 ≤ n then some n.toNat else none
  | _ => none

/-- A list of what can be read one by one. -/
def listOf? {α : Type} (read? : Setting → Option α) : Setting → Option (List α)
  | .list items => items.mapM read?
  | _ => none

/-- A table of what can be read one by one. -/
def tableOf? {α : Type} (read? : Setting → Option α) : Setting → Option (Dict String α)
  | .table entries => entries.mapM fun (key, v) => (read? v).map (key, ·)
  | _ => none

/-! ## Sections -/

/-- What a section says under each of its keys. -/
def section? (keys : List String) : Setting → Option (List (Option Setting))
  | .table entries =>
    if entries.all fun e => keys.contains e.1 then
      some (keys.map fun key => Dict.find? key entries)
    else none
  | .list items => some ((List.range keys.length).map fun i => items[i]?)
  | _ => none

/-- A part read where it is given, and a default where it is not. -/
def part? {α : Type} (default : α) (read? : Setting → Option α) : Option Setting → Option α
  | none => some default
  | some v => read? v

/-- A part that may be missing. -/
def optional? {α : Type} (read? : Setting → Option α) : Option Setting → Option (Option α)
  | none => some none
  | some v => (read? v).map some

/-- A table without entries, or a list without items. -/
def isEmpty : Setting → Bool
  | .table [] | .list [] => true
  | _ => false

/-- A verb: its name, or a table with the name as the key of nothing. -/
def verb? : Setting → Option Verb
  | .text word => Verb.ofKeyword? word
  | .table [(word, content)] => if content.isEmpty then Verb.ofKeyword? word else none
  | _ => none

/-- An endpoint. -/
def endpoint? (v : Setting) : Option Endpoint := do
  match ← section?
      ["path", "verb", "table", "description", "filterable", "sortable", "sub_entities"] v with
  | [path, verb, tableName, description, filterable, sortable, subEntities] =>
    let path ← path.bind text?
    let verb ← part? .get verb? verb
    let tableName ← tableName.bind text?
    let description ← optional? text? description
    let filterable ← optional? (tableOf? (listOf? text?)) filterable
    let sortable ← optional? (listOf? text?) sortable
    let subEntities ← part? [] (listOf? text?) subEntities
    return ⟨path, verb, tableName, description, filterable, sortable, subEntities⟩
  | _ => none

/-- The section on the database. -/
def database? (v : Setting) : Option DatabaseSettings := do
  match ← section? ["dialect", "url"] v with
  | [dialect, url] => return ⟨← optional? text? dialect, ← optional? text? url⟩
  | _ => none

/-- The section on the columns. -/
def storage? (v : Setting) : Option Layout := do
  match ← section? ["identity_field", "identity_column", "data_column"] v with
  | [identityField, identityColumn, documentColumn] =>
    let identityField ← part? Layout.standard.identityField text? identityField
    let identityColumn ← part? Layout.standard.identityColumn text? identityColumn
    let documentColumn ← part? Layout.standard.documentColumn text? documentColumn
    return ⟨identityField, identityColumn, documentColumn⟩
  | _ => none

/-- The section on requests. -/
def query? (v : Setting) : Option QuerySettings := do
  match ← section? ["default_limit", "max_limit", "max_depth", "extra_reserved_params"] v with
  | [defaultLimit, maxLimit, maxDepth, extraReserved] =>
    let defaultLimit ← optional? nat? defaultLimit
    let maxLimit ← optional? nat? maxLimit
    let maxDepth ← part? QuerySettings.standard.maxDepth nat? maxDepth
    let extraReserved ← part? [] (listOf? text?) extraReserved
    return ⟨defaultLimit, maxLimit, maxDepth, extraReserved⟩
  | _ => none

/-- A configuration. -/
def config? (v : Setting) : Option Config := do
  match ← section? ["database", "storage", "query", "endpoints"] v with
  | [database, storage, query, endpoints] =>
    let database ← part? DatabaseSettings.standard database? database
    let storage ← part? Layout.standard storage? storage
    let query ← part? QuerySettings.standard query? query
    let endpoints ← part? [] (listOf? endpoint?) endpoints
    return ⟨database, storage, query, endpoints⟩
  | _ => none

end Setting

namespace Config

/-- The configuration in a text of TOML without references. -/
def ofToml (text : String) : Except ConfigError Config :=
  match (Toml.read? text).bind Setting.config? with
  | some c => .ok c
  | none => .error .notToml

/-- The configuration in a text, under an environment. -/
def read (lib : Libraries) (env : Environment) (text : String) : Except ConfigError Config := do
  let expanded ← Reference.expand env text
  let c ← ofToml expanded
  c.validate lib
  return c

end Config
end DocFilter
