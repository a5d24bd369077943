import DocFilter.Filter.Bound
import DocFilter.Sql.Formula
import DocFilter.Error

/-!
# Predicates

A predicate is a condition on rows together with the values bound to its
parameters.  Predicates are joined as conditions are; the bindings of all of them
stay, in order.
-/

namespace DocFilter

/-- Names of parameters and the values bound to them. -/
abbrev Bindings := Dict String Bound

/-- A condition on rows with its bindings. -/
structure Predicate where
  condition : Sql.Formula
  bindings : Bindings

namespace Predicate

/-- A condition without parameters. -/
def bare (condition : Sql.Formula) : Predicate := ⟨condition, []⟩

/-- The predicate every row meets. -/
def always : Predicate := bare .always

/-- The predicate no row meets. -/
def never : Predicate := bare .never

/-- The text of the condition. -/
def text (p : Predicate) : String := p.condition.text

/-- The bindings of all predicates, in order. -/
def mergeBindings (ps : List Predicate) : Bindings :=
  ps.foldl (fun acc p => acc.insertAll p.bindings) []

/-- All of the predicates. -/
def all (ps : List Predicate) : Predicate :=
  ⟨.all (ps.map condition), mergeBindings ps⟩

/-- Any of the predicates. -/
def any (ps : List Predicate) : Predicate :=
  ⟨.any (ps.map condition), mergeBindings ps⟩

/-- The opposite of the predicate. -/
def not (p : Predicate) : Predicate := ⟨.not p.condition, p.bindings⟩

/-- All of the predicates; a single one stands as it is. -/
def conjoin : List Predicate → Predicate
  | [p] => p
  | ps => all ps

/-- The predicates joined by a connective. -/
def combine (op : Connective) (ps : List Predicate) : Except QueryError Predicate :=
  match op, ps with
  | .and, ps => .ok (all ps)
  | .or, ps => .ok (any ps)
  | .nor, ps => .ok (not (any ps))
  | .not, [p] => .ok (not p)
  | .not, ps => .error (.shape (.negationArity ps.length))

end Predicate
end DocFilter
