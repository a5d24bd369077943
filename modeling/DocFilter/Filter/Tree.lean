import DocFilter.Json.Basic
import DocFilter.Filter.Operator

/-!
# Filters

A filter is a tree.  Its leaves are conditions on fields, its inner nodes say how
to join what stands below: a connective says it by name, and the fields of one map
are joined without a word.
-/

namespace DocFilter

/-- A comparison with its operand, and the options of a pattern. -/
structure Condition where
  operator : Comparison
  operand : Json
  options : Option String
  deriving Repr

/-- A filter over documents. -/
inductive Filter where
  /-- All of the filters, as the entries of one map. -/
  | all (children : List Filter)
  /-- All of the conditions, on one field. -/
  | field (name : String) (conditions : List Condition)
  /-- The filters joined by a connective. -/
  | joined (connective : Connective) (children : List Filter)
  deriving Repr, Inhabited

namespace Filter

/-- The filter every document passes. -/
def everything : Filter := .all []

/-- Whether the filter is the empty map. -/
def isEverything : Filter → Bool
  | .all [] => true
  | _ => false

mutual

/-- How deeply filters are nested in one another; a condition counts one. -/
def depth : Filter → Nat
  | .all children => 1 + depthOfAll children
  | .field _ _ => 1
  | .joined _ children => 1 + depthOfAll children

/-- The greatest depth in a list. -/
def depthOfAll : List Filter → Nat
  | [] => 0
  | f :: rest => max f.depth (depthOfAll rest)

end

mutual

/-- The conditions with their fields, in the order they were written. -/
def conditions : Filter → List (String × Condition)
  | .all children => conditionsOfAll children
  | .field name cs => cs.map fun c => (name, c)
  | .joined _ children => conditionsOfAll children

/-- The conditions of a list of filters. -/
def conditionsOfAll : List Filter → List (String × Condition)
  | [] => []
  | f :: rest => f.conditions ++ conditionsOfAll rest

end

end Filter
end DocFilter
