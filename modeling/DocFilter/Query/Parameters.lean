import DocFilter.Query.Request
import DocFilter.Number.Numeral
import DocFilter.Text.Split

/-!
# Requests as query parameters

A request can also be a list of names with texts.  Some names are reserved, in any
case: a few of them set options, and the others belong to other parts of a service.
Every other name is a field, and its text the operand of an equality.  A field that
is given again keeps its place and takes the later text.
-/

namespace DocFilter

/-- The names that are not fields, in lower case. -/
structure Reserved where
  names : List String

namespace Reserved

/-- The names that are always reserved. -/
def standard : Reserved :=
  ⟨["limit", "skip", "offset", "sort", "fields", "page", "page_size", "cursor", "since",
    "checkpoint"]⟩

/-- More names reserved. -/
def withExtra (r : Reserved) (extra : List String) : Reserved :=
  ⟨r.names ++ extra.map Text.lower⟩

/-- Whether a name is reserved. -/
def contains (r : Reserved) (name : String) : Bool := r.names.contains (Text.lower name)

end Reserved

/-- One key of an order: a field, after `-` where its values descend, and after an
optional `+` where they ascend. -/
def SortKey.read (part : List Char) : Except QueryError SortKey :=
  let (field, direction) := match part with
    | '-' :: rest => (Text.trimChars rest, Direction.descending)
    | '+' :: rest => (Text.trimChars rest, Direction.ascending)
    | _ => (part, Direction.ascending)
  if field.isEmpty then .error (.ofCause (.sort (String.ofList part) .missingField))
  else .ok ⟨String.ofList field, direction⟩

/-- The keys of an order, between commas; empty parts are passed over. -/
def SortKey.readAll (s : String) : Except QueryError (List SortKey) :=
  let parts := (Text.splitAt ',' s.toList).map Text.trimChars
  (parts.filter fun p => !p.isEmpty).mapM SortKey.read

namespace Request

/-- The integer a reserved parameter holds. -/
def readInteger (name value : String) : Except QueryError Int :=
  let refused := QueryError.value name name (.notAnInteger value)
  match int? (Text.trimChars value.toList) with
  | some n => if fitsInt64 n then .ok n else .error refused
  | none => .error refused

/-- The request with one more parameter taken in. -/
def addParameter (reserved : Reserved) (r : Request) (parameter : String × String) :
    Except QueryError Request := do
  let (name, value) := parameter
  if !reserved.contains name then
    return { r with filter := Dict.insert name (.string value) r.filter }
  let word := Text.lower name
  if word = "limit" then return r.withLimit (← readInteger "limit" value)
  else if word = "skip" ∨ word = "offset" then
    return r.withSkip (← readInteger "skip" value)
  else if word = "sort" then
    let keys ← SortKey.readAll value
    return keys.foldl (fun r key => r.sortBy key.field key.direction) r
  else return r

/-- The request that parameters make. -/
def ofParameters (reserved : Reserved) (parameters : List (String × String)) :
    Except QueryError Request :=
  parameters.foldlM (addParameter reserved) empty

end Request
end DocFilter
