import DocFilter.Json.Printer
import DocFilter.Filter.Operator

/-!
# Why a request is refused

A refusal is a cause, with whatever the reader needs to find the fault: the field,
the operator, and advice.  Causes are data, and each group of them has one function
that words it; no other module writes a message.

Causes come in kinds with a code.  Codes below 2000 stand for faults of the client.
-/

namespace DocFilter

/-- Faults in the shape of a filter. -/
inductive ShapeFault where
  | notAnObject (found : JsonType)
  | tooDeep (limit : Nat)
  | comparisonWithoutField (op : Comparison)
  | negationOfNonObject (found : JsonType)
  | operandNotArray (op : Connective) (found : JsonType)
  | elementNotObject (op : Connective) (found : JsonType)
  | emptyFieldName
  | noOperators (field : String)
  | connectiveOnField (op : Connective) (field : String)
  | optionsWithoutPattern (field : String)
  | negationArity (count : Nat)
  | malformedRequest
  | stated (message : String)

/-- Faults in the operand of an operator. -/
inductive ValueFault where
  | nullOperand
  | notNumeric (found : Json)
  | notArray (found : Json)
  | patternNotText (found : Json)
  | notBoolean (found : Json)
  | typeNameNotText (found : Json)
  | structuredIdentity
  | elementNotScalar (found : Json)
  | invalidPattern
  | unsupportedOption (flag : Char)
  | optionsNotText (found : Json)
  | notAnInteger (found : String)
  | stated (message : String)

/-- Faults in the order a client asks for. -/
inductive SortFault where
  | directionNumber (found : Number)
  | unknownDirection (found : String)
  | notADirection (found : Json)
  | missingField
  | notSortable
  | stated (message : String)

/-- Faults in the choice of fields to return. -/
inductive ProjectionFault where
  | flagNumber (field : String) (found : Number)
  | notAFlag (field : String) (found : Json)
  | mixed (field : String)
  | stated (message : String)

/-- Why a request is refused. -/
inductive Cause where
  | unknownOperator (symbol : String)
  | shape (fault : ShapeFault)
  | value (operator field : String) (fault : ValueFault)
  | fieldNotAllowed (field : String)
  | operatorNotAllowed (field operator : String)
  | sort (field : String) (fault : SortFault)
  | projection (fault : ProjectionFault)
  | unknownEndpoint (verb path : String)
  | internal (message : String)

/-- The kinds of causes. -/
inductive ErrorKind where
  | unknownOperator
  | invalidFilter
  | invalidFilterValue
  | fieldNotAllowed
  | operatorNotAllowed
  | invalidSort
  | invalidProjection
  | unknownEndpoint
  | internal
  deriving DecidableEq, Repr

namespace ErrorKind

/-- The number of a kind. -/
def number : ErrorKind → Nat
  | .unknownOperator => 1001
  | .invalidFilter => 1002
  | .invalidFilterValue => 1003
  | .fieldNotAllowed => 1004
  | .operatorNotAllowed => 1005
  | .invalidSort => 1006
  | .invalidProjection => 1007
  | .unknownEndpoint => 1008
  | .internal => 9001

/-- The code shown to clients. -/
def code (k : ErrorKind) : String := "G" ++ k.number.repr

/-- A short description. -/
def description : ErrorKind → String
  | .unknownOperator => "Unknown operator"
  | .invalidFilter => "Invalid filter"
  | .invalidFilterValue => "Invalid filter value"
  | .fieldNotAllowed => "Field not allowed"
  | .operatorNotAllowed => "Operator not allowed"
  | .invalidSort => "Invalid sort"
  | .invalidProjection => "Invalid projection"
  | .unknownEndpoint => "Unknown endpoint"
  | .internal => "Internal error"

end ErrorKind

/-! ## Wording -/

/-- The wording of a fault of shape. -/
def ShapeFault.message : ShapeFault → String
  | .notAnObject found => "filter must be an object, got " ++ found.name
  | .tooDeep limit => "filter nesting exceeds maximum depth of " ++ limit.repr
  | .comparisonWithoutField op => op.symbol ++ " must be nested under a field"
  | .negationOfNonObject found => "$not requires a filter object, got " ++ found.name
  | .operandNotArray op found =>
    op.symbol ++ " requires an array of filter objects, got " ++ found.name
  | .elementNotObject op found =>
    op.symbol ++ " elements must be filter objects, got " ++ found.name
  | .emptyFieldName => "field name must not be empty"
  | .noOperators field => "operator map for '" ++ field ++ "' is empty"
  | .connectiveOnField op field =>
    "logical operator " ++ op.symbol ++ " cannot be applied to field '" ++ field ++ "'"
  | .optionsWithoutPattern field => "$options on '" ++ field ++ "' requires $regex"
  | .negationArity count => "$not takes exactly one condition, got " ++ count.repr
  | .malformedRequest => "malformed filter request"
  | .stated message => message

/-- The wording of a fault of an operand. -/
def ValueFault.message : ValueFault → String
  | .nullOperand => "value must not be null, got null"
  | .notNumeric found => "value must be numeric, got " ++ found.text
  | .notArray found => "value must be an array, got " ++ found.text
  | .patternNotText found => "pattern must be a string, got " ++ found.text
  | .notBoolean found => "value must be a boolean, got " ++ found.text
  | .typeNameNotText found => "type name must be a string, got " ++ found.text
  | .structuredIdentity => "identity cannot be compared with a structured value"
  | .elementNotScalar found => "list elements must be scalars, got " ++ found.text
  | .invalidPattern => "invalid pattern"
  | .unsupportedOption flag => "unsupported regex option '" ++ flag.toString ++ "'"
  | .optionsNotText found => "options must be a string, got " ++ found.text
  | .notAnInteger found => "expected an integer, got '" ++ found ++ "'"
  | .stated message => message

/-- The wording of a fault of order. -/
def SortFault.message : SortFault → String
  | .directionNumber found => "direction must be 1 or -1, got " ++ found.text
  | .unknownDirection found => "unknown direction '" ++ found ++ "'"
  | .notADirection found => "direction must be a number or string, got " ++ found.text
  | .missingField => "missing field name"
  | .notSortable => "sorting on this field is not allowed for this endpoint"
  | .stated message => message

/-- The wording of a fault of projection. -/
def ProjectionFault.message : ProjectionFault → String
  | .flagNumber field found =>
    "projection for '" ++ field ++ "' must be 0 or 1, got " ++ found.text
  | .notAFlag field found =>
    "projection for '" ++ field ++ "' must be 0, 1, true or false, got " ++ found.text
  | .mixed _ => "projection cannot mix inclusion and exclusion"
  | .stated message => message

namespace Cause

/-- The kind of a cause. -/
def kind : Cause → ErrorKind
  | .unknownOperator _ => .unknownOperator
  | .shape _ => .invalidFilter
  | .value _ _ _ => .invalidFilterValue
  | .fieldNotAllowed _ => .fieldNotAllowed
  | .operatorNotAllowed _ _ => .operatorNotAllowed
  | .sort _ _ => .invalidSort
  | .projection _ => .invalidProjection
  | .unknownEndpoint _ _ => .unknownEndpoint
  | .internal _ => .internal

/-- The wording of a cause. -/
def message : Cause → String
  | .unknownOperator symbol => "Unknown operator '" ++ symbol ++ "'"
  | .shape fault => fault.message
  | .value operator field fault =>
    "Invalid value for " ++ operator ++ " on '" ++ field ++ "': " ++ fault.message
  | .fieldNotAllowed field =>
    "Filtering on '" ++ field ++ "' is not allowed for this endpoint"
  | .operatorNotAllowed field operator =>
    "Operator " ++ operator ++ " is not allowed on '" ++ field ++ "'"
  | .sort field fault => "Invalid sort on '" ++ field ++ "': " ++ fault.message
  | .projection fault => fault.message
  | .unknownEndpoint verb path => "No endpoint registered for " ++ verb ++ " " ++ path
  | .internal message => "Internal error: " ++ message

/-- The field a cause is about, where the cause itself names one. -/
def field? : Cause → Option String
  | .value _ field _ => some field
  | .fieldNotAllowed field => some field
  | .operatorNotAllowed field _ => some field
  | .sort field _ => some field
  | .shape (.noOperators field) => some field
  | .shape (.connectiveOnField _ field) => some field
  | .shape (.optionsWithoutPattern field) => some field
  | .projection (.flagNumber field _) => some field
  | .projection (.notAFlag field _) => some field
  | .projection (.mixed field) => some field
  | _ => none

/-- The key that carries the options of a pattern. -/
def optionsKey : String := "$options"

/-- The operator a cause is about, where the cause itself names one. -/
def operator? : Cause → Option String
  | .unknownOperator symbol => some symbol
  | .value operator _ _ => some operator
  | .operatorNotAllowed _ operator => some operator
  | .shape (.comparisonWithoutField op) => some op.symbol
  | .shape (.negationOfNonObject _) => some Connective.not.symbol
  | .shape (.operandNotArray op _) => some op.symbol
  | .shape (.elementNotObject op _) => some op.symbol
  | .shape (.connectiveOnField op _) => some op.symbol
  | .shape (.optionsWithoutPattern _) => some optionsKey
  | .shape (.negationArity _) => some Connective.not.symbol
  | _ => none

/-- Advice that goes with a cause. -/
def suggestions : Cause → List String
  | .unknownOperator _ =>
    ["Use one of " ++ ", ".intercalate (Operator.all.map Operator.symbol)]
  | .value _ _ .nullOperand =>
    ["Use $exists or \x7b\"$type\": \"null\"\x7d to match missing or null fields"]
  | _ => []

end Cause

/-- A refusal: its cause, and the context shown with it. -/
structure QueryError where
  cause : Cause
  field : Option String
  operator : Option String
  suggestions : List String

namespace QueryError

/-- The refusal for a cause, with the context the cause itself names. -/
def ofCause (c : Cause) : QueryError := ⟨c, c.field?, c.operator?, c.suggestions⟩

/-- The refusal for a fault of shape. -/
def shape (fault : ShapeFault) : QueryError := ofCause (.shape fault)

/-- The refusal for a fault of an operand. -/
def value (operator field : String) (fault : ValueFault) : QueryError :=
  ofCause (.value operator field fault)

/-- The same refusal, found at this field. -/
def atField (field : String) (e : QueryError) : QueryError := { e with field := some field }

/-- The same refusal, found at this operator. -/
def atOperator (operator : String) (e : QueryError) : QueryError :=
  { e with operator := some operator }

/-- The same refusal with one more piece of advice. -/
def suggest (advice : String) (e : QueryError) : QueryError :=
  { e with suggestions := e.suggestions ++ [advice] }

/-- The kind of a refusal. -/
def kind (e : QueryError) : ErrorKind := e.cause.kind

/-- The wording of a refusal. -/
def message (e : QueryError) : String := e.cause.message

/-- Whether the client is at fault. -/
def isClientError (e : QueryError) : Bool := e.kind.number < 2000

/-- Whether an operator was not recognised. -/
def isUnknownOperator (e : QueryError) : Bool := e.kind == .unknownOperator

/-- The refusal in one line. -/
def summary (e : QueryError) : String := "[" ++ e.kind.code ++ "] " ++ e.message

/-- Pieces of advice as a numbered list, the first under the number given. -/
def numbered : Nat → List String → String
  | _, [] => ""
  | n, s :: rest => "  " ++ n.repr ++ ". " ++ s ++ "\n" ++ numbered (n + 1) rest

/-- The refusal with all its context, on several lines. -/
def report (e : QueryError) : String :=
  "Error [" ++ e.kind.code ++ "]: " ++ e.message ++ "\n"
    ++ (match e.field with | some f => "  → Field: " ++ f ++ "\n" | none => "")
    ++ (match e.operator with | some o => "  → Operator: " ++ o ++ "\n" | none => "")
    ++ (if e.suggestions.isEmpty then ""
        else "\nSuggestions:\n" ++ numbered 1 e.suggestions)

end QueryError
end DocFilter
