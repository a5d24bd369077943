import DocFilter.Dict
import DocFilter.Endpoint.Verb
import DocFilter.Text.Split

/-!
# Endpoints

An endpoint makes a table available under a verb and a path, and says which fields
may be filtered with which operators, and which may be sorted.  Without a list
everything is allowed; an empty list allows nothing.

## Which rule decides

A rule on a field also covers what lies below it, so for `address.city` the rules
are looked up under `address.city`, then under `address`, and last under the wildcard.
The first one found decides alone.
-/

namespace DocFilter

/-- What an endpoint says about fields: under each name the operators allowed. -/
abbrev FieldRules := Dict String (List String)

/-- A table under a verb and a path. -/
structure Endpoint where
  path : String
  verb : Verb
  table : String
  description : Option String
  filterable : Option FieldRules
  sortable : Option (List String)
  subEntities : List String
  deriving DecidableEq, Repr

namespace Endpoint

/-- As an operator, every operator; as a field, every field without a rule. -/
def wildcard : String := "*"

/-! ## Paths -/

/-- A path without blanks around it and without slashes at its end; a single slash
stays. -/
def normalizeChars (path : List Char) : List Char :=
  match Text.trimChars path with
  | [c] => [c]
  | cs => Text.dropEnd (· == '/') cs

/-- A path without blanks around it and without slashes at its end. -/
def normalizePath (path : String) : String := String.ofList (normalizeChars path.toList)

/-! ## Making endpoints -/

/-- An endpoint that answers `GET` and restricts nothing. -/
def unrestricted (path table : String) : Endpoint :=
  ⟨normalizePath path, .get, table, none, none, none, []⟩

/-- The endpoint under another verb. -/
def withVerb (e : Endpoint) (verb : Verb) : Endpoint := { e with verb := verb }

/-- The endpoint with these operators allowed on a field. -/
def allowFilter (e : Endpoint) (field : String) (symbols : List String) : Endpoint :=
  { e with filterable := some (Dict.insert field symbols (e.filterable.getD [])) }

/-- The endpoint with sorting allowed on a field. -/
def allowSort (e : Endpoint) (field : String) : Endpoint :=
  { e with sortable := some (e.sortable.getD [] ++ [field]) }

/-! ## What is allowed -/

/-- The runs of parts that begin a list, longest first. -/
def leadingRuns {α : Type} : List α → List (List α)
  | [] => []
  | part :: rest => (leadingRuns rest).map (part :: ·) ++ [[part]]

/-- The names a rule on a field may stand under: the field, and what encloses it. -/
def coveringNames (field : String) : List String :=
  (leadingRuns (Text.splitAt '.' field.toList)).map fun parts =>
    String.ofList (Text.joinWith '.' parts)

/-- The rule that decides about a field. -/
def ruleFor? (rules : FieldRules) (field : String) : Option (List String) :=
  (coveringNames field).findSome? (Dict.find? · rules) <|> Dict.find? wildcard rules

/-- Whether a symbol in a rule stands for the comparison. -/
def symbolAllows (comparison : Comparison) (symbol : String) : Bool :=
  symbol == wildcard || Operator.ofSymbol? symbol == some (.comparison comparison)

/-- Whether a field may be filtered at all. -/
def allowsField (e : Endpoint) (field : String) : Bool :=
  match e.filterable with
  | none => true
  | some rules => (ruleFor? rules field).isSome

/-- Whether a comparison may be applied to a field. -/
def allowsOperator (e : Endpoint) (field : String) (comparison : Comparison) : Bool :=
  match e.filterable with
  | none => true
  | some rules =>
    match ruleFor? rules field with
    | some symbols => symbols.any (symbolAllows comparison)
    | none => false

/-- Whether a field may be sorted on. -/
def allowsSort (e : Endpoint) (field : String) : Bool :=
  match e.sortable with
  | none => true
  | some fields => fields.any fun f => f == field || f == wildcard

/-! ## Validity -/

/-- The key of a setting of this endpoint. -/
def settingKey (e : Endpoint) (setting : String) : String :=
  "endpoints[" ++ e.path ++ "]." ++ setting

/-- A symbol in a rule names a comparison or is the wildcard. -/
def validateSymbol (e : Endpoint) (field symbol : String) : Except ConfigError Unit :=
  let key := e.settingKey ("filterable." ++ field)
  if symbol = wildcard then .ok ()
  else match Operator.ofSymbol? symbol with
    | some (.comparison _) => .ok ()
    | some (.connective op) => .error (.setting key (.connectiveInRule op))
    | none => .error (.setting key (.unknownOperator symbol))

/-- All symbols of a rule name comparisons or are the wildcard. -/
def validateRule (e : Endpoint) (rule : String × List String) : Except ConfigError Unit :=
  rule.2.forM (e.validateSymbol rule.1)

/-- The endpoint has a path and a table, and its rules name operators. -/
def validate (e : Endpoint) : Except ConfigError Unit := do
  if Text.isBlankText e.path then throw (.setting "endpoints.path" .emptyPath)
  if Text.isBlankText e.table then throw (.setting (e.settingKey "table") .emptyTable)
  (e.filterable.getD []).forM e.validateRule

end Endpoint
end DocFilter
