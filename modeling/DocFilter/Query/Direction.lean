import DocFilter.Error

/-!
# Directions of an order

A client asks for a direction by `1` or `-1`, or by a word in any case.
-/

namespace DocFilter

/-- The directions of an order. -/
inductive Direction where
  | ascending
  | descending
  deriving DecidableEq, Repr

namespace Direction

/-- The direction in SQL. -/
def keyword : Direction → String
  | .ascending => "ASC"
  | .descending => "DESC"

/-- The direction as a number. -/
def toInt : Direction → Int
  | .ascending => 1
  | .descending => -1

/-- The direction as JSON. -/
def toJson (d : Direction) : Json := .ofInt d.toInt

/-- The direction a value asks for on a field. -/
def read (field : String) : Json → Except QueryError Direction
  | .number n =>
    if n = .integer 1 then .ok .ascending
    else if n = .integer (-1) then .ok .descending
    else .error (.ofCause (.sort field (.directionNumber n)))
  | .string s =>
    let word := Text.lower s
    if word = "asc" ∨ word = "ascending" then .ok .ascending
    else if word = "desc" ∨ word = "descending" then .ok .descending
    else .error (.ofCause (.sort field (.unknownDirection s)))
  | found => .error (.ofCause (.sort field (.notADirection found)))

end Direction

/-- A field and the direction its values are ordered in. -/
structure SortKey where
  field : String
  direction : Direction
  deriving DecidableEq, Repr

end DocFilter
