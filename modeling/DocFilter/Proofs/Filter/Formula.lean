import DocFilter.Filter.Compile
import DocFilter.Proofs.Dialect.Condition

/-!
# What a condition is written as

The compiler decides what a condition says and asks for the numbers of its parameters in
one go.  Here is the first half alone: `Condition.formula` is the formula for a condition
when its place and the places of its parameters are given.  It depends on nothing else, in
particular on the name of the field only through the place.
-/

namespace DocFilter

open Sql

namespace Dialect

variable (d : Dialect) (place : Location)

/-- The place holds the operand, or with `negated` does not. -/
def equality (negated structured : Bool) (parameter : Fragment) : Formula :=
  match place, structured with
  | .document column path, true =>
    if negated then d.differsJson column path parameter
    else d.equalsJson column path parameter
  | place, _ => if negated then d.differs place parameter else d.equals place parameter

/-- The place holds one of the parameters, or with `negated` none of them. -/
def membership (negated : Bool) : List Fragment → Formula
  | [] => if negated then .always else .never
  | parameters =>
    if negated then d.holdsNoneOf place parameters else d.holdsOneOf place parameters

/-- The text at the place matches the pattern. -/
def matching (ignoreCase : Bool) (parameter : Fragment) : Formula :=
  if d.hasRegex then d.matchesRegex place parameter ignoreCase
  else d.matchesWildcard place parameter ignoreCase

/-- The place holds a value of the type with this name. -/
def typed (name : String) : Formula :=
  match JsonType.ofName? name with
  | some type => d.hasType place type
  | none => .always

variable {d place} {ns : List String} {parameter : Fragment}

theorem equality_clause (h : d.Operand [] place.column) (hp : d.Operand ns parameter)
    (negated structured : Bool) :
    d.Clause ns (d.equality place negated structured parameter) := by
  have hscalar : d.Clause ns
      (if negated then d.differs place parameter else d.equals place parameter) := by
    cases negated with
    | true => exact differs_clause h hp
    | false => exact equals_clause h hp
  unfold equality
  split
  · cases negated with
    | true => exact differsJson_clause h _ hp
    | false => exact equalsJson_clause h _ hp
  · exact hscalar

theorem membership_clause (h : d.Operand [] place.column) (negated : Bool)
    {parameters : List Fragment} (hp : ∀ p ∈ parameters, d.Operand p.names p) :
    d.Clause (parameters.flatMap Fragment.names) (d.membership place negated parameters) := by
  cases parameters with
  | nil =>
    cases negated with
    | true => exact always_clause
    | false => exact never_clause
  | cons p ps =>
    cases negated with
    | true => exact holdsNoneOf_clause h (List.cons_ne_nil p ps) hp
    | false => exact holdsOneOf_clause h (List.cons_ne_nil p ps) hp

theorem matching_clause (h : d.Operand [] place.column) (ignoreCase : Bool)
    (hp : d.Operand ns parameter) : d.Clause ns (d.matching place ignoreCase parameter) := by
  unfold matching
  split
  · exact matchesRegex_clause h hp ignoreCase
  · exact matchesWildcard_clause h hp ignoreCase

theorem typed_clause (h : d.Operand [] place.column) (name : String) :
    d.Clause [] (d.typed place name) := by
  unfold typed
  split
  · exact hasType_clause h _
  · exact always_clause

end Dialect

namespace Condition

/-- The number of parameters a condition binds. -/
def arity (c : Condition) : Nat :=
  match c.operator, c.operand with
  | .among, .array elements | .notAmong, .array elements => elements.length
  | .present, _ | .ofType, _ => 0
  | _, _ => 1

/-- Whether the options of a condition set case aside. -/
def ignoresCase (c : Condition) : Bool :=
  match c.options with
  | some letters => letters.toList.contains 'i'
  | none => false

/-- The formula of a condition, where its operand is one the operator accepts. -/
def formula (d : Dialect) (place : Location) (parameters : List Fragment) (c : Condition) :
    Formula :=
  let parameter := parameters.headD []
  match c.operator, c.operand with
  | .equal, v => d.equality place false v.isStructured parameter
  | .notEqual, v => d.equality place true v.isStructured parameter
  | .greater, _ => d.compares place .greater parameter
  | .greaterEqual, _ => d.compares place .greaterEqual parameter
  | .less, _ => d.compares place .less parameter
  | .lessEqual, _ => d.compares place .lessEqual parameter
  | .among, _ => d.membership place false parameters
  | .notAmong, _ => d.membership place true parameters
  | .matching, _ => d.matching place c.ignoresCase parameter
  | .present, .bool wanted => d.isPresent place wanted
  | .ofType, .string name => d.typed place name
  | _, _ => .never

end Condition
end DocFilter
