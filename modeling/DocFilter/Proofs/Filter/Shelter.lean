import DocFilter.Proofs.Dialect.Shelter
import DocFilter.Proofs.Filter.Course

/-!
# Nothing in a condition looks like a new clause

The condition of a filter is in one piece (`Filter.sheltered_predicate`): each condition on a
field is, whatever the operator, and negations, conjunctions and disjunctions put parentheses
around their members.
-/

namespace DocFilter

open Sql

namespace Dialect

variable {d : Dialect} {place : Location} {parameter : Fragment} {parameters : List Fragment}

theorem sheltered_equality (h : place.column.Sheltered) (hp : parameter.Sheltered)
    (negated structured : Bool) : (d.equality place negated structured parameter).Sheltered := by
  have hscalar : Formula.Sheltered
      (if negated then d.differs place parameter else d.equals place parameter) := by
    cases negated
    · exact sheltered_equals h hp
    · exact sheltered_differs h hp
  unfold equality
  split
  · cases negated
    · exact sheltered_equalsJson h _ hp
    · exact sheltered_differsJson h _ hp
  · exact hscalar

theorem sheltered_membership (h : place.column.Sheltered) (negated : Bool)
    (hps : ∀ p ∈ parameters, p.Sheltered) : (d.membership place negated parameters).Sheltered := by
  cases parameters with
  | nil =>
    cases negated
    · exact Formula.sheltered_any (by simp)
    · exact Formula.sheltered_all (by simp)
  | cons p ps =>
    cases negated
    · exact sheltered_holdsOneOf h hps
    · exact sheltered_holdsNoneOf h hps

theorem sheltered_matching (h : place.column.Sheltered) (ignoreCase : Bool)
    (hp : parameter.Sheltered) : (d.matching place ignoreCase parameter).Sheltered := by
  unfold matching
  split
  · exact sheltered_matchesRegex h hp ignoreCase
  · exact sheltered_matchesWildcard h hp ignoreCase

theorem sheltered_typed (h : place.column.Sheltered) (name : String) :
    (d.typed place name).Sheltered := by
  unfold typed
  split
  · exact sheltered_hasType h _
  · exact Formula.sheltered_all (by simp)

end Dialect

theorem Layout.sheltered_column (l : Layout) (field : String) :
    (l.locate field).column.Sheltered := by
  unfold Layout.locate
  split
  · exact Fragment.sheltered_column _
  · exact Fragment.sheltered_column _

namespace Condition

/-- A condition on a field is in one piece, whatever its operand. -/
theorem sheltered_formula {d : Dialect} {place : Location} {ps : List Fragment}
    (h : place.column.Sheltered) (hps : ∀ p ∈ ps, p.Sheltered) (c : Condition) :
    (c.formula d place ps).Sheltered := by
  obtain ⟨operator, operand, options⟩ := c
  have hp : (ps.headD []).Sheltered := by
    cases ps with
    | nil => exact Fragment.sheltered_nil
    | cons p ps => exact hps p List.mem_cons_self
  have hnever : Formula.Sheltered .never := Formula.sheltered_any (by simp)
  cases operator with
  | equal => exact Dialect.sheltered_equality h hp _ _
  | notEqual => exact Dialect.sheltered_equality h hp _ _
  | greater => exact Dialect.sheltered_compares h .greater hp
  | greaterEqual => exact Dialect.sheltered_compares h .greaterEqual hp
  | less => exact Dialect.sheltered_compares h .less hp
  | lessEqual => exact Dialect.sheltered_compares h .lessEqual hp
  | among => exact Dialect.sheltered_membership h false hps
  | notAmong => exact Dialect.sheltered_membership h true hps
  | matching => exact Dialect.sheltered_matching h _ hp
  | present =>
    cases operand with
    | bool wanted => exact Dialect.sheltered_isPresent h wanted
    | _ => exact hnever
  | ofType =>
    cases operand with
    | string name =>
      have htyped : (d.typed place name).Sheltered := Dialect.sheltered_typed h name
      exact htyped
    | _ => exact hnever

end Condition

/-! ## Trees -/

namespace Sql.Formula

variable {φs : List Formula}

theorem sheltered_conjoin (h : ∀ φ ∈ φs, φ.Sheltered) : (conjoin φs).Sheltered := by
  unfold conjoin
  split
  · exact h _ List.mem_cons_self
  · exact sheltered_all h

theorem sheltered_joined (connective : Connective) (h : ∀ φ ∈ φs, φ.Sheltered) :
    (joined connective φs).Sheltered := by
  cases connective with
  | and => exact sheltered_all h
  | or => exact sheltered_any h
  | nor => exact sheltered_not (sheltered_any h)
  | not => exact sheltered_not (sheltered_conjoin h)

end Sql.Formula

/-- Names with underscores in them, as those of parameters are. -/
def AllUnderscored (names : List String) : Prop := ∀ name ∈ names, '_' ∈ name.toList

variable {t : Target} {ns : List String}

namespace Condition

theorem sheltered_predicates (field : String) (cs : List Condition) (h : AllUnderscored ns) :
    ∀ p ∈ predicates t field cs ns, p.condition.Sheltered := by
  induction cs generalizing ns with
  | nil => exact fun p hp => absurd hp List.not_mem_nil
  | cons c cs ih =>
    have htake : ∀ p ∈ (ns.take c.arity).map t.dialect.placeholder, p.Sheltered := by
      intro p hp
      obtain ⟨name, hname, rfl⟩ := List.mem_map.mp hp
      exact Dialect.sheltered_placeholder (h name (List.mem_of_mem_take hname))
    refine List.forall_mem_cons.mpr ⟨?_, ih fun name hname => h name (List.mem_of_mem_drop hname)⟩
    exact sheltered_formula (t.layout.sheltered_column field) htake c

end Condition

namespace Filter

open Predicate

mutual

/-- The condition of a filter is in one piece. -/
theorem sheltered_predicate : ∀ (f : Filter) {ns : List String}, AllUnderscored ns →
    (f.predicate t ns).condition.Sheltered
  | .all children, ns, h => by
    rw [predicate, condition_conjoin]
    exact Formula.sheltered_conjoin (by simpa using sheltered_predicates children h)
  | .field name conditions, ns, h => by
    rw [predicate, condition_conjoin]
    exact Formula.sheltered_conjoin
      (by simpa using Condition.sheltered_predicates name conditions h)
  | .joined connective children, ns, h => by
    rw [predicate, condition_joined]
    exact Formula.sheltered_joined connective (by simpa using sheltered_predicates children h)

theorem sheltered_predicates : ∀ (fs : List Filter) {ns : List String}, AllUnderscored ns →
    ∀ p ∈ predicates t fs ns, p.condition.Sheltered
  | [], _, _ => fun p hp => absurd hp List.not_mem_nil
  | f :: rest, ns, h => by
    rw [predicates]
    exact List.forall_mem_cons.mpr
      ⟨sheltered_predicate f fun name hname => h name (List.mem_of_mem_take hname),
        sheltered_predicates rest fun name hname => h name (List.mem_of_mem_drop hname)⟩

end

end Filter
end DocFilter
