import DocFilter.Text.Blank
import DocFilter.Text.Case

/-!
# Operators of the filter language

A comparison is applied to one field, a connective to whole filters.  Each has a
bare name (`gte`) and a symbol (`$gte`); a client may write either, in any case
and with blanks around it.
-/

namespace DocFilter

/-- Operators applied to a field. -/
inductive Comparison where
  | equal
  | notEqual
  | greater
  | greaterEqual
  | less
  | lessEqual
  | among
  | notAmong
  | matching
  | present
  | ofType
  deriving DecidableEq, Repr

namespace Comparison

/-- All comparisons. -/
def all : List Comparison :=
  [.equal, .notEqual, .greater, .greaterEqual, .less, .lessEqual, .among, .notAmong,
    .matching, .present, .ofType]

/-- The bare name. -/
def name : Comparison → String
  | .equal => "eq"
  | .notEqual => "ne"
  | .greater => "gt"
  | .greaterEqual => "gte"
  | .less => "lt"
  | .lessEqual => "lte"
  | .among => "in"
  | .notAmong => "nin"
  | .matching => "regex"
  | .present => "exists"
  | .ofType => "type"

/-- The name after a dollar sign. -/
def symbol (c : Comparison) : String := "$" ++ c.name

end Comparison

/-- Operators applied to filters. -/
inductive Connective where
  | and
  | or
  | not
  | nor
  deriving DecidableEq, Repr

namespace Connective

/-- All connectives. -/
def all : List Connective := [.and, .or, .not, .nor]

/-- The bare name. -/
def name : Connective → String
  | .and => "and"
  | .or => "or"
  | .not => "not"
  | .nor => "nor"

/-- The name after a dollar sign. -/
def symbol (c : Connective) : String := "$" ++ c.name

end Connective

/-- Operators of either kind. -/
inductive Operator where
  | comparison (c : Comparison)
  | connective (c : Connective)
  deriving DecidableEq, Repr

namespace Operator

/-- The bare name. -/
def name : Operator → String
  | .comparison c => c.name
  | .connective c => c.name

/-- The name after a dollar sign. -/
def symbol : Operator → String
  | .comparison c => c.symbol
  | .connective c => c.symbol

/-- All operators. -/
def all : List Operator :=
  Comparison.all.map .comparison ++ Connective.all.map .connective

/-- The operator with a name or symbol, once blanks and case are set aside. -/
def ofSymbol? (written : String) : Option Operator :=
  let wanted := Text.lower (Text.trim written)
  all.find? fun op => op.symbol == wanted || op.name == wanted

end Operator
end DocFilter
