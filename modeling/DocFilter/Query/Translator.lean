import DocFilter.Filter.Compile
import DocFilter.Filter.Reader
import DocFilter.Query.Parameters
import DocFilter.Query.Translation

/-!
# Translating requests

A translator holds what stays the same from request to request: the dialect, the
layout, the limits and the reserved names.  It reads the filter of a request,
compiles it, and adds order, page and projection, in that order; the first fault
ends the translation.

A request without a positive limit gets the standard one, and no request gets more
than the greatest one.  A limit of zero in the settings is no limit.
-/

namespace DocFilter

/-- What stays the same from request to request. -/
structure Translator where
  target : Target
  maxDepth : Nat
  reserved : Reserved
  defaultLimit : Option Nat
  maxLimit : Option Nat

namespace Translator

/-- A translator for a dialect, with nothing else set. -/
def ofDialect (isPattern : String → Bool) (d : Dialect) : Translator :=
  ⟨⟨d, Layout.standard, isPattern⟩, Filter.defaultMaxDepth, Reserved.standard, none, none⟩

/-- The translator for another layout. -/
def withLayout (t : Translator) (layout : Layout) : Translator :=
  { t with target := { t.target with layout := layout } }

/-- The translator with another nesting limit. -/
def withMaxDepth (t : Translator) (limit : Nat) : Translator := { t with maxDepth := limit }

/-- The translator with other reserved names. -/
def withReserved (t : Translator) (reserved : Reserved) : Translator :=
  { t with reserved := reserved }

/-- A setting of zero is none. -/
def positive (n : Option Nat) : Option Nat := n.filter (0 < ·)

/-- The translator with a limit for requests that name none. -/
def withDefaultLimit (t : Translator) (limit : Option Nat) : Translator :=
  { t with defaultLimit := positive limit }

/-- The translator with a limit for all requests. -/
def withMaxLimit (t : Translator) (limit : Option Nat) : Translator :=
  { t with maxLimit := positive limit }

/-- The dialect. -/
def dialect (t : Translator) : Dialect := t.target.dialect

/-- The layout. -/
def layout (t : Translator) : Layout := t.target.layout

/-- Whether a text is a regular expression. -/
def isPattern (t : Translator) : String → Bool := t.target.isPattern

/-- The filter a map holds. -/
def readFilter (t : Translator) (filter : Dict String Json) : Except QueryError Filter :=
  Filter.readMap t.maxDepth filter

/-- The keys of the order, first ones first. -/
def sortKeys (options : RequestOptions) : Except QueryError (List SortKey) :=
  options.sort.mapM fun (field, value) => (Direction.read field value).map (SortKey.mk field)

/-- The item of the order for a key. -/
def orderItem (t : Translator) (key : SortKey) : Sql.Fragment :=
  t.dialect.orderItem (t.layout.locate key.field) key.direction

/-- A positive number asked for. -/
def asked (n : Option Int) : Option Nat :=
  match n with
  | some n => if 0 < n then some n.toNat else none
  | none => none

/-- The limit that applies to a request. -/
def effectiveLimit (t : Translator) (requested : Option Int) : Option Nat :=
  match asked requested <|> t.defaultLimit, t.maxLimit with
  | some limit, some greatest => some (min limit greatest)
  | limit, _ => limit

/-- The condition of a filter, added to no clauses yet; the empty filter adds
nothing. -/
def translateFilter (t : Translator) (filter : Filter) : Minting Translation :=
  if filter.isEverything then pure .empty
  else do
    let p ← filter.compile t.target
    return Translation.empty.addPredicate p

/-- The projection a request asks for. -/
def readProjection (t : Translator) :
    Option (Dict String Json) → Except QueryError (Option Projection)
  | none => .ok none
  | some entries => (Projection.read t.layout.identityField entries).map some

/-- The translation of a filter that has been read, with its options. -/
def translateRead (t : Translator) (filter : Filter) (options : RequestOptions) :
    Minting Translation := do
  let clauses ← t.translateFilter filter
  let keys ← Minting.ofExcept (sortKeys options)
  let projection ← Minting.ofExcept (t.readProjection options.projection)
  let ordered := (keys.map t.orderItem).foldl Translation.addOrder clauses
  return { ordered with
    limit := t.effectiveLimit options.limit
    offset := asked options.skip
    projection := projection }

/-- The translation of a request. -/
def translate (t : Translator) (r : Request) : Minting Translation := do
  let filter ← Minting.ofExcept (t.readFilter r.filter)
  t.translateRead filter r.options

/-- The translation of query parameters. -/
def translateParameters (t : Translator) (parameters : List (String × String)) :
    Minting Translation := do
  let r ← Minting.ofExcept (Request.ofParameters t.reserved parameters)
  t.translate r

end Translator
end DocFilter
