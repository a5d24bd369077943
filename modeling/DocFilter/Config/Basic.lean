import DocFilter.Dialect.ConnectionUrl
import DocFilter.Endpoint.Registry
import DocFilter.Query.Translator

/-!
# Configurations

A configuration says which database holds the documents, in which columns, how much
a request may ask for, and which endpoints there are.  Everything may be left out.

The dialect is the one named, or else the one the connection URL belongs to, or else
the standard one.  A name that is no dialect's is refused; a URL that tells nothing
is passed over with a warning.

Two questions are left to other libraries, and their answers are parameters here: which
texts are regular expressions, and which are URLs.
-/

namespace DocFilter

/-- What other libraries say of texts. -/
structure Libraries where
  /-- Whether a text is a regular expression. -/
  isPattern : String → Bool
  /-- The scheme of a text that is a URL. -/
  schemeOf? : String → Option String

/-- Which database holds the documents. -/
structure DatabaseSettings where
  dialect : Option String
  url : Option String

/-- How much a request may ask for, and which parameters are no fields. -/
structure QuerySettings where
  defaultLimit : Option Nat
  maxLimit : Option Nat
  maxDepth : Nat
  extraReserved : List String

/-- A configuration. -/
structure Config where
  database : DatabaseSettings
  storage : Layout
  query : QuerySettings
  endpoints : List Endpoint

namespace DatabaseSettings

/-- Nothing said. -/
def standard : DatabaseSettings := ⟨none, none⟩

/-- A text that says something. -/
def nonBlank (s : Option String) : Option String := s.filter fun s => !Text.isBlankText s

/-- The dialect that settings come to. -/
structure Resolution where
  dialect : Dialect
  /-- A warning is logged: there is a URL, and no dialect could be inferred from it. -/
  warned : Bool

/-- The dialect of the database. -/
def resolve (s : DatabaseSettings) (schemeOf? : String → Option String) :
    Except ConfigError Resolution :=
  match nonBlank s.dialect with
  | some name =>
    match Dialect.ofName? name with
    | some d => .ok ⟨d, false⟩
    | none => .error (.unknownDialect name)
  | none =>
    match nonBlank s.url with
    | some url =>
      match Dialect.ofUrl? schemeOf? url with
      | some d => .ok ⟨d, false⟩
      | none => .ok ⟨.standard, true⟩
    | none => .ok ⟨.standard, false⟩

end DatabaseSettings

namespace QuerySettings

/-- Nothing said. -/
def standard : QuerySettings := ⟨none, none, Filter.defaultMaxDepth, []⟩

/-- The reserved names. -/
def reserved (s : QuerySettings) : Reserved := Reserved.standard.withExtra s.extraReserved

/-- The nesting limit is positive, and the standard limit is within the greatest. -/
def validate (s : QuerySettings) : Except ConfigError Unit :=
  if s.maxDepth = 0 then .error (.setting "query.max_depth" .belowOne)
  else match s.defaultLimit, s.maxLimit with
    | some limit, some greatest =>
      if greatest < limit then
        .error (.setting "query.default_limit" (.aboveGreatestLimit limit greatest))
      else .ok ()
    | _, _ => .ok ()

end QuerySettings

namespace Config

/-- The configuration that says nothing. -/
def standard : Config := ⟨.standard, .standard, .standard, []⟩

/-- A name in the layout says something. -/
def validateName (key name : String) : Except ConfigError Unit :=
  if Text.isBlankText name then .error (.setting key .empty) else .ok ()

/-- The names in the layout all say something. -/
def validateLayout (l : Layout) : Except ConfigError Unit := do
  validateName "storage.identity_field" l.identityField
  validateName "storage.identity_column" l.identityColumn
  validateName "storage.data_column" l.documentColumn

/-- The parts of the configuration agree with each other.  Endpoints are looked at
when they are registered. -/
def validate (c : Config) (lib : Libraries) : Except ConfigError Unit := do
  let _ ← c.database.resolve lib.schemeOf?
  c.query.validate
  validateLayout c.storage

/-- The registry of the endpoints. -/
def registry (c : Config) : Except ConfigError Registry := Registry.ofEndpoints c.endpoints

/-- The translator for the database and its limits. -/
def translator (c : Config) (lib : Libraries) : Except ConfigError Translator := do
  let resolution ← c.database.resolve lib.schemeOf?
  return (Translator.ofDialect lib.isPattern resolution.dialect)
    |>.withLayout c.storage
    |>.withMaxDepth c.query.maxDepth
    |>.withDefaultLimit c.query.defaultLimit
    |>.withMaxLimit c.query.maxLimit
    |>.withReserved c.query.reserved

end Config
end DocFilter
