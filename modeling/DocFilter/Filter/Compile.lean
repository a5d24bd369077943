import DocFilter.Dialect.Condition
import DocFilter.Filter.Tree
import DocFilter.Minting
import DocFilter.Pattern.Options
import DocFilter.Predicate

/-!
# From filters to predicates

A filter becomes a predicate for one dialect and one layout.  Conditions are taken
in the order they were written, and each asks for a number for every parameter it
binds; the number is spent as soon as it is given, so a condition that is refused
after it bound something leaves a gap.

An operand is checked before anything is bound.  Two faults can only be seen later:
an element of a list is looked at when its turn comes, and the identity is found
not to be comparable with an object after its parameter was bound.
-/

namespace DocFilter

/-- Where a predicate is to be evaluated, and what is a pattern there. -/
structure Target where
  dialect : Dialect
  layout : Layout
  /-- Whether a text is a regular expression, as the library that reads them says. -/
  isPattern : String → Bool

namespace Target

/-- A fresh parameter for a field: its name and its place in SQL. -/
def bind (t : Target) (field : String) : Minting (String × Sql.Fragment) := do
  let n ← Minting.fresh
  let name := Sql.parameterName field n
  return (name, t.dialect.placeholder name)

end Target

namespace Comparison

/-- Whether a value can be the operand of the comparison. -/
def accepts : Comparison → Json → Bool
  | .equal, v | .notEqual, v => v.type != .null
  | .greater, v | .greaterEqual, v | .less, v | .lessEqual, v => (Bound.numberOf? v).isSome
  | .among, v | .notAmong, v => v.type == .array
  | .matching, v | .ofType, v => v.type == .string
  | .present, v => v.type == .boolean

/-- The fault of a value that cannot be the operand. -/
def operandFault (c : Comparison) (found : Json) : ValueFault :=
  match c with
  | .equal | .notEqual => .nullOperand
  | .greater | .greaterEqual | .less | .lessEqual => .notNumeric found
  | .among | .notAmong => .notArray found
  | .matching => .patternNotText found
  | .present => .notBoolean found
  | .ofType => .typeNameNotText found

/-- The refusal of an operand. -/
def refusal (c : Comparison) (field : String) (fault : ValueFault) : QueryError :=
  .value c.symbol field fault

end Comparison

namespace JsonType

/-- The names a type goes by in a request. -/
def aliases : JsonType → List String
  | .string => ["string", "str"]
  | .number => ["number", "int", "integer", "long", "double", "decimal"]
  | .boolean => ["boolean", "bool"]
  | .array => ["array"]
  | .object => ["object"]
  | .null => ["null"]

/-- The type with this name, once blanks and case are set aside. -/
def ofName? (written : String) : Option JsonType :=
  let wanted := Text.lower (Text.trim written)
  all.find? fun t => t.aliases.contains wanted

end JsonType

namespace Condition

/-- The field holds the operand, or with `negated` does not. -/
def compileEquality (t : Target) (field : String) (negated : Bool) (operand : Json) :
    Minting Predicate := do
  let (name, parameter) ← t.bind field
  match t.layout.locate field with
  | .identity column =>
    if operand.isStructured then
      Minting.refuse (Comparison.refusal (if negated then .notEqual else .equal) field
        .structuredIdentity)
    else
      let place := Location.identity column
      let condition :=
        if negated then t.dialect.differs place parameter
        else t.dialect.equals place parameter
      return ⟨condition, [(name, Bound.ofJson operand)]⟩
  | .document column path =>
    if operand.isStructured then
      let condition :=
        if negated then t.dialect.differsJson column path parameter
        else t.dialect.equalsJson column path parameter
      return ⟨condition, [(name, Bound.json operand)]⟩
    else
      let place := Location.document column path
      let condition :=
        if negated then t.dialect.differs place parameter
        else t.dialect.equals place parameter
      return ⟨condition, [(name, Bound.textOf operand)]⟩

/-- The number in the field stands in a relation to the operand. -/
def compileOrdering (t : Target) (field : String) (comparison : Comparison)
    (relation : Sql.Relation) (operand : Json) : Minting Predicate :=
  match Bound.numberOf? operand with
  | some number => do
    let (name, parameter) ← t.bind field
    return ⟨t.dialect.compares (t.layout.locate field) relation parameter, [(name, number)]⟩
  | none => Minting.refuse (comparison.refusal field (.notNumeric operand))

/-- Parameters for the elements of a list, in order: their places and bindings. -/
def bindElements (t : Target) (field : String) (comparison : Comparison) :
    List Json → Minting (List Sql.Fragment × Bindings)
  | [] => pure ([], [])
  | v :: rest =>
    if v.isScalar then do
      let (name, parameter) ← t.bind field
      let bound :=
        if (t.layout.locate field).isIdentity then Bound.ofJson v else Bound.textOf v
      let (parameters, bindings) ← bindElements t field comparison rest
      return (parameter :: parameters, (name, bound) :: bindings)
    else Minting.refuse (comparison.refusal field (.elementNotScalar v))

/-- The field holds one of the elements, or with `negated` none of them. -/
def compileMembership (t : Target) (field : String) (negated : Bool) (elements : List Json) :
    Minting Predicate :=
  if elements.isEmpty then
    pure (if negated then Predicate.always else Predicate.never)
  else do
    let comparison := if negated then Comparison.notAmong else .among
    let (parameters, bindings) ← bindElements t field comparison elements
    let place := t.layout.locate field
    let condition :=
      if negated then t.dialect.holdsNoneOf place parameters
      else t.dialect.holdsOneOf place parameters
    return ⟨condition, Dict.ofEntries bindings⟩

/-- The text in the field matches the pattern. -/
def compileMatching (t : Target) (field : String) (pattern : String)
    (options : PatternOptions) : Minting Predicate :=
  if t.isPattern pattern then do
    let (name, parameter) ← t.bind field
    let place := t.layout.locate field
    let ignoreCase := options.ignoreCase
    if t.dialect.hasRegex then
      return ⟨t.dialect.matchesRegex place parameter ignoreCase, [(name, .text pattern)]⟩
    else
      return ⟨t.dialect.matchesWildcard place parameter ignoreCase,
        [(name, .text (t.dialect.wildcardPattern pattern ignoreCase))]⟩
  else Minting.refuse (Comparison.matching.refusal field .invalidPattern)

/-- The field holds a value of the type with this name; a name of no type asks for
nothing. -/
def compileType (t : Target) (field : String) (name : String) : Predicate :=
  match JsonType.ofName? name with
  | some type => Predicate.bare (t.dialect.hasType (t.layout.locate field) type)
  | none => Predicate.always

/-- The predicate of a condition on a field. -/
def compile (t : Target) (field : String) (c : Condition) : Minting Predicate :=
  if !c.operator.accepts c.operand then
    Minting.refuse (c.operator.refusal field (c.operator.operandFault c.operand))
  else match c.operator, c.operand with
    | .equal, v => compileEquality t field false v
    | .notEqual, v => compileEquality t field true v
    | .greater, v => compileOrdering t field .greater .greater v
    | .greaterEqual, v => compileOrdering t field .greaterEqual .greaterEqual v
    | .less, v => compileOrdering t field .less .less v
    | .lessEqual, v => compileOrdering t field .lessEqual .lessEqual v
    | .among, .array elements => compileMembership t field false elements
    | .notAmong, .array elements => compileMembership t field true elements
    | .matching, .string pattern =>
      match c.options with
      | none => compileMatching t field pattern PatternOptions.standard
      | some letters => do
        let options ← Minting.ofExcept (PatternOptions.read field letters)
        compileMatching t field pattern options
    | .present, .bool wanted =>
      pure (Predicate.bare (t.dialect.isPresent (t.layout.locate field) wanted))
    | .ofType, .string name => pure (compileType t field name)
    | operator, v => Minting.refuse (operator.refusal field (operator.operandFault v))

/-- The predicates of conditions on one field, in order. -/
def compileAll (t : Target) (field : String) : List Condition → Minting (List Predicate)
  | [] => pure []
  | c :: rest => do
    let p ← c.compile t field
    let ps ← compileAll t field rest
    return p :: ps

end Condition

namespace Filter

mutual

/-- The predicate of a filter. -/
def compile (t : Target) : Filter → Minting Predicate
  | .all children => do
    let ps ← compileAll t children
    return Predicate.conjoin ps
  | .field name conditions => do
    let ps ← Condition.compileAll t name conditions
    return Predicate.conjoin ps
  | .joined connective children => do
    let ps ← compileAll t children
    Minting.ofExcept (Predicate.combine connective ps)

/-- The predicates of filters, in order. -/
def compileAll (t : Target) : List Filter → Minting (List Predicate)
  | [] => pure []
  | f :: rest => do
    let p ← f.compile t
    let ps ← compileAll t rest
    return p :: ps

end

end Filter
end DocFilter
