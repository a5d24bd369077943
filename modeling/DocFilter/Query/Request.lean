import DocFilter.Json.Reader
import DocFilter.Query.Direction

/-!
# Requests

A request is a filter with options: an order, a limit, a number of rows to skip, and
a choice of fields.  It is written as an object whose entries may be missing, or as
a list of the same parts in a fixed order, of which the last ones may be missing.

In an object unknown entries are passed over, so in a text they only have to be
JSON.  A known entry may be given once.
-/

namespace DocFilter

/-- What a request asks for besides its filter. -/
structure RequestOptions where
  sort : Dict String Json
  limit : Option Int
  skip : Option Int
  projection : Option (Dict String Json)

/-- A request. -/
structure Request where
  filter : Dict String Json
  options : RequestOptions

namespace RequestOptions

/-- Nothing asked for. -/
def none : RequestOptions := ⟨[], .none, .none, .none⟩

end RequestOptions

namespace Request

/-- The request for everything. -/
def empty : Request := ⟨[], .none⟩

/-- A request with this filter and no options. -/
def ofFilter (filter : Dict String Json) : Request := ⟨filter, .none⟩

/-- The refusal of what is not a request. -/
def malformed : QueryError := .shape .malformedRequest

/-! ## Requests as JSON -/

/-- The entries of an object. -/
def entries? : Json → Option (Dict String Json)
  | .object entries => some entries
  | _ => none

/-- An integer of 64 bits, or nothing. -/
def integer? : Json → Option (Option Int)
  | .null => some none
  | .number n => (n.toInt64?).map some
  | _ => none

/-- The entries of an object, or nothing. -/
def optionalEntries? : Json → Option (Option (Dict String Json))
  | .null => some none
  | v => (entries? v).map some

/-- A part read where it is given, and a default where it is not. -/
def part? {α : Type} (default : α) (read? : Json → Option α) : Option Json → Option α
  | none => some default
  | some v => read? v

/-- Options from their parts. -/
def optionsOfParts? (sort limit skip projection : Option Json) : Option RequestOptions := do
  let sort ← part? [] entries? sort
  let limit ← part? none integer? limit
  let skip ← part? none integer? skip
  let projection ← part? none optionalEntries? projection
  return ⟨sort, limit, skip, projection⟩

/-- Options from an object or a list. -/
def optionsOfJson? : Json → Option RequestOptions
  | .object entries =>
    optionsOfParts? (Dict.find? "sort" entries) (Dict.find? "limit" entries)
      (Dict.find? "skip" entries) (Dict.find? "projection" entries)
  | .array items =>
    if items.length ≤ 4 then optionsOfParts? items[0]? items[1]? items[2]? items[3]? else none
  | _ => none

/-- A request from its parts. -/
def ofParts? (filter options : Option Json) : Option Request := do
  let filter ← part? [] entries? filter
  let options ← part? RequestOptions.none optionsOfJson? options
  return ⟨filter, options⟩

/-- A request from an object or a list. -/
def ofJson? : Json → Option Request
  | .object entries => ofParts? (Dict.find? "filter" entries) (Dict.find? "options" entries)
  | .array items => if items.length ≤ 2 then ofParts? items[0]? items[1]? else none
  | _ => none

/-- The request a value holds. -/
def read (v : Json) : Except QueryError Request :=
  match ofJson? v with
  | some r => .ok r
  | none => .error malformed

/-- The options as JSON, without what was not asked for. -/
def optionsToJson (o : RequestOptions) : Json :=
  .object
    ((if o.sort.isEmpty then [] else [("sort", .object o.sort)]) ++
      (match o.limit with
        | some n => [("limit", .ofInt n)]
        | none => []) ++
      (match o.skip with
        | some n => [("skip", .ofInt n)]
        | none => []) ++
      (match o.projection with
        | some entries => [("projection", .object entries)]
        | none => []))

/-- The request as JSON. -/
def toJson (r : Request) : Json :=
  .object [("filter", .object r.filter), ("options", optionsToJson r.options)]

/-! ## Requests as text -/

/-- The written values of the known keys; a key given twice, or one that is no
text, is refused, and other entries are passed over. -/
def knownEntries? (known : List String) :
    List (List Json.StringPart × Json.Source) → Option (Dict String Json.Source)
  | [] => some []
  | (key, v) :: rest => do
    let key ← Json.stringOf? key
    let found ← knownEntries? known rest
    if known.contains key then
      if Dict.contains key found then none else return (key, v) :: found
    else return found

/-- The parts written under the known keys of an object, or in order in a list. -/
def writtenParts? (known : List String) : Json.Source → Option (List (Option Json.Source))
  | .object entries => do
    let found ← knownEntries? known entries
    return known.map fun key => Dict.find? key found
  | .array items =>
    if items.length ≤ known.length then
      some (items.map some ++ List.replicate (known.length - items.length) none)
    else none
  | _ => none

/-- The value of a part at a depth, where the part is written. -/
def valueOfPart? (depth : Nat) : Option Json.Source → Option (Option Json)
  | none => some none
  | some v => (v.toJson? depth).map some

/-- Options as they are written, inside a request. -/
def optionsOfSource? (depth : Nat) (v : Json.Source) : Option RequestOptions := do
  match ← (← writtenParts? ["sort", "limit", "skip", "projection"] v).mapM
      (valueOfPart? (depth - 1)) with
  | [sort, limit, skip, projection] => optionsOfParts? sort limit skip projection
  | _ => none

/-- A request as it is written. -/
def ofSource? (depth : Nat) (v : Json.Source) : Option Request := do
  match ← writtenParts? ["filter", "options"] v with
  | [filter, options] =>
    let filter ← part? [] entries? (← valueOfPart? (depth - 1) filter)
    let options ← match options with
      | none => some RequestOptions.none
      | some written => optionsOfSource? (depth - 1) written
    return ⟨filter, options⟩
  | _ => none

/-- The request a text holds. -/
def readText (s : String) : Except QueryError Request :=
  match (Json.Source.read? s).bind (ofSource? Json.depthLimit) with
  | some r => .ok r
  | none => .error malformed

/-! ## Changes to a request -/

/-- The request with one more key to its order. -/
def sortBy (r : Request) (field : String) (direction : Direction) : Request :=
  { r with options := { r.options with sort := Dict.insert field direction.toJson r.options.sort } }

/-- The request with a limit. -/
def withLimit (r : Request) (n : Int) : Request :=
  { r with options := { r.options with limit := some n } }

/-- The request with a number of rows to skip. -/
def withSkip (r : Request) (n : Int) : Request :=
  { r with options := { r.options with skip := some n } }

end Request
end DocFilter
