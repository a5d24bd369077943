import DocFilter.Error
import DocFilter.Filter.Tree

/-!
# Reading a filter

A filter arrives as a JSON object.  A key that begins with a dollar sign names a
connective, and its operand holds filters one level deeper; any other key names a
field, and its value is either the operand of an equality or a map of operators.

A map with one entry is read as that entry, so a filter holds no map of one.  How
deeply maps may be nested is limited; the limit is checked before the entries of a
map are looked at.

Entries are read in order, and the first fault ends the reading.
-/

namespace DocFilter
namespace Filter

/-- The nesting limit where none is configured. -/
def defaultMaxDepth : Nat := 32

/-- A key that names a connective. -/
def isConnectiveKey (key : String) : Bool := key.toList.head? == some '$'

/-- A key that carries the options of a pattern, in any case of ASCII. -/
def isOptionsKey (key : String) : Bool :=
  key.toList.map Char.toLower == Cause.optionsKey.toList

/-- The filters of one map as one filter. -/
def ofEntries : List Filter → Filter
  | [f] => f
  | fs => .all fs

/-- The conditions with options given to the first pattern, if there is one. -/
def attachOptions? (options : String) : List Condition → Option (List Condition)
  | [] => none
  | c :: rest =>
    if c.operator = .matching then some ({ c with options := some options } :: rest)
    else (attachOptions? options rest).map (c :: ·)

/-- The conditions in a map of operators, and the options given last. -/
def readOperators (field : String) :
    List (String × Json) → Except QueryError (List Condition × Option String)
  | [] => .ok ([], none)
  | (key, operand) :: rest =>
    if isOptionsKey key then
      match operand with
      | .string options => do
        let (conditions, later) ← readOperators field rest
        return (conditions, later <|> some options)
      | found => .error (.value Cause.optionsKey field (.optionsNotText found))
    else
      match Operator.ofSymbol? key with
      | some (.comparison op) => do
        let (conditions, options) ← readOperators field rest
        return (⟨op, operand, none⟩ :: conditions, options)
      | some (.connective op) => .error (.shape (.connectiveOnField op field))
      | none => .error ((QueryError.ofCause (.unknownOperator key)).atField field)

/-- The conditions on a field. -/
def readConditions (field : String) : Json → Except QueryError (List Condition)
  | .object [] => .error (.shape (.noOperators field))
  | .object operators => do
    let (conditions, options) ← readOperators field operators
    match options with
    | none => return conditions
    | some options =>
      match attachOptions? options conditions with
      | some conditions => return conditions
      | none => throw (.shape (.optionsWithoutPattern field))
  | operand => .ok [⟨.equal, operand, none⟩]

/-- The filter a field and its value make. -/
def readField (field : String) (value : Json) : Except QueryError Filter :=
  if field.isEmpty then .error (.shape .emptyFieldName)
  else (readConditions field value).map (.field field)

/-- The connective a key names. -/
def readConnective (key : String) : Except QueryError Connective :=
  match Operator.ofSymbol? key with
  | some (.connective op) => .ok op
  | some (.comparison op) => .error (.shape (.comparisonWithoutField op))
  | none => .error (.ofCause (.unknownOperator key))

/-- Go on only where the limit admits this depth. -/
@[macro_inline] def withinDepth (limit depth : Nat) (filter : Except QueryError Filter) :
    Except QueryError Filter :=
  if limit < depth then .error (.shape (.tooDeep limit)) else filter

mutual

/-- The filters of the entries of a map at the given depth. -/
def readEntries (limit depth : Nat) :
    List (String × Json) → Except QueryError (List Filter)
  | [] => .ok []
  | (key, value) :: rest => do
    let filter ←
      if isConnectiveKey key then do
        let op ← readConnective key
        let children ← readOperand limit depth op value
        pure (.joined op children)
      else readField key value
    let filters ← readEntries limit depth rest
    return filter :: filters

/-- The filters a connective is applied to. -/
def readOperand (limit depth : Nat) (op : Connective) :
    Json → Except QueryError (List Filter)
  | .object entries =>
    if op = .not then do
      let filter ← withinDepth limit (depth + 1)
        ((readEntries limit (depth + 1) entries).map ofEntries)
      return [filter]
    else .error (.shape (.operandNotArray op .object))
  | .array items =>
    if op = .not then .error (.shape (.negationOfNonObject .array))
    else readItems limit depth op items
  | found =>
    if op = .not then .error (.shape (.negationOfNonObject found.type))
    else .error (.shape (.operandNotArray op found.type))

/-- The filters in the list a connective is applied to. -/
def readItems (limit depth : Nat) (op : Connective) :
    List Json → Except QueryError (List Filter)
  | [] => .ok []
  | .object entries :: rest => do
    let filter ← withinDepth limit (depth + 1)
      ((readEntries limit (depth + 1) entries).map ofEntries)
    let filters ← readItems limit depth op rest
    return filter :: filters
  | found :: _ => .error (.shape (.elementNotObject op found.type))

end

/-- The filter a map holds. -/
def readMap (limit : Nat) (entries : Dict String Json) : Except QueryError Filter :=
  withinDepth limit 1 ((readEntries limit 1 entries).map ofEntries)

/-- The filter a value holds; no value at all is the empty map. -/
def read (limit : Nat) : Json → Except QueryError Filter
  | .null => .ok everything
  | .object entries => readMap limit entries
  | found => .error (.shape (.notAnObject found.type))

end Filter
end DocFilter
