import DocFilter.Proofs.Filter.Binding

/-!
# What an operand may change

The operand of a comparison is bound, and never written.  What the compiler looks at before
it binds it is little: whether an operand of an equality is an object or an array, and how
long a list is.  Two operands that agree in this are `Comparison.Interchangeable`; the
operands of `$exists` and `$type` are not bound at all and have to be the same.

Filters with interchangeable operands (`Filter.SameButOperands`) bind parameters for the
same fields, and are written the same when they are given the same names
(`Filter.condition_predicate_eq`).
-/

namespace DocFilter

open Sql

/-- Operands of a comparison that are bound in the same way. -/
def Comparison.Interchangeable : Comparison → Json → Json → Prop
  | .equal, v, w | .notEqual, v, w => v.isStructured = w.isStructured
  | .among, v, w | .notAmong, v, w =>
    ∃ vs ws, v = .array vs ∧ w = .array ws ∧ vs.length = ws.length
  | .present, v, w | .ofType, v, w => v = w
  | .greater, _, _ | .greaterEqual, _, _ | .less, _, _ | .lessEqual, _, _ | .matching, _, _ =>
    True

/-- The same operator with the same options, and an operand that is bound in the same
way. -/
structure Condition.SameButOperand (c c' : Condition) : Prop where
  operator_eq : c.operator = c'.operator
  options_eq : c.options = c'.options
  interchangeable : c.operator.Interchangeable c.operand c'.operand

namespace Filter

mutual

/-- The same tree with the same fields and operators, and operands that are bound in the
same way. -/
def SameButOperands : Filter → Filter → Prop
  | .all fs, .all gs => SameButOperandsAll fs gs
  | .field name cs, .field name' cs' => name = name' ∧ List.Forall₂ Condition.SameButOperand cs cs'
  | .joined op fs, .joined op' gs => op = op' ∧ SameButOperandsAll fs gs
  | _, _ => False

/-- The same trees but for their operands, in order. -/
def SameButOperandsAll : List Filter → List Filter → Prop
  | [], [] => True
  | f :: fs, g :: gs => f.SameButOperands g ∧ SameButOperandsAll fs gs
  | _, _ => False

end

end Filter

/-! ## Conditions on fields -/

namespace Condition

variable {c c' : Condition}

theorem SameButOperand.arity_eq (h : c.SameButOperand c') : c.arity = c'.arity := by
  obtain ⟨operator, operand, options⟩ := c
  obtain ⟨operator', operand', options'⟩ := c'
  obtain ⟨hoperator, -, hoperand⟩ := h
  cases hoperator
  cases operator with
  | among =>
    obtain ⟨vs, ws, rfl, rfl, hlength⟩ := hoperand
    exact hlength
  | notAmong =>
    obtain ⟨vs, ws, rfl, rfl, hlength⟩ := hoperand
    exact hlength
  | _ => rfl

/-- Conditions that are the same but for an operand are written the same. -/
theorem SameButOperand.formula_eq (h : c.SameButOperand c') (d : Dialect) (place : Location)
    (parameters : List Fragment) :
    c.formula d place parameters = c'.formula d place parameters := by
  obtain ⟨operator, operand, options⟩ := c
  obtain ⟨operator', operand', options'⟩ := c'
  obtain ⟨hoperator, hoptions, hoperand⟩ := h
  cases hoperator
  cases hoptions
  cases operator with
  | equal => exact congrArg (fun s => d.equality place false s (parameters.headD [])) hoperand
  | notEqual => exact congrArg (fun s => d.equality place true s (parameters.headD [])) hoperand
  | present => rw [show operand = operand' from hoperand]
  | ofType => rw [show operand = operand' from hoperand]
  | _ => rfl

theorem binders_eq (name : String) {cs cs' : List Condition}
    (h : List.Forall₂ SameButOperand cs cs') :
    bindersOf (cs.map fun c => (name, c)) = bindersOf (cs'.map fun c => (name, c)) := by
  induction h with
  | nil => rfl
  | cons hc _ ih =>
    change List.replicate _ name ++ bindersOf _ = List.replicate _ name ++ bindersOf _
    rw [hc.arity_eq, ih]

theorem conditions_predicates_eq (t : Target) (name : String) {cs cs' : List Condition}
    (h : List.Forall₂ SameButOperand cs cs') (ns : List String) :
    (predicates t name cs ns).map Predicate.condition =
      (predicates t name cs' ns).map Predicate.condition := by
  induction h generalizing ns with
  | nil => rfl
  | cons hc _ ih =>
    rw [predicates, predicates, List.map_cons, List.map_cons, ih, hc.arity_eq]
    exact congrArg (· :: _) (hc.formula_eq _ _ _)

end Condition

/-! ## Trees -/

namespace Filter

open Predicate

mutual

theorem SameButOperands.binders_eq : ∀ {f g : Filter}, f.SameButOperands g →
    f.binders = g.binders
  | .all fs, .all gs, h => SameButOperandsAll.binders_eq h
  | .field name cs, .field name' cs', ⟨hname, hcs⟩ => by
    cases hname
    exact Condition.binders_eq name hcs
  | .joined op fs, .joined op' gs, ⟨_, hfs⟩ => SameButOperandsAll.binders_eq hfs

theorem SameButOperandsAll.binders_eq : ∀ {fs gs : List Filter}, SameButOperandsAll fs gs →
    bindersOf (conditionsOfAll fs) = bindersOf (conditionsOfAll gs)
  | [], [], _ => rfl
  | f :: fs, g :: gs, ⟨hf, hfs⟩ => by
    rw [conditionsOfAll, conditionsOfAll, bindersOf_append, bindersOf_append,
      SameButOperandsAll.binders_eq hfs]
    exact congrArg (· ++ _) (SameButOperands.binders_eq hf)

end

variable {t : Target}

mutual

/-- Filters that are the same but for their operands are written the same. -/
theorem condition_predicate_eq : ∀ {f g : Filter}, f.SameButOperands g → ∀ ns : List String,
    (f.predicate t ns).condition = (g.predicate t ns).condition
  | .all fs, .all gs, h, ns => by
    rw [predicate, predicate, condition_conjoin, condition_conjoin, conditions_predicates_eq h]
  | .field name cs, .field name' cs', ⟨hname, hcs⟩, ns => by
    cases hname
    rw [predicate, predicate, condition_conjoin, condition_conjoin,
      Condition.conditions_predicates_eq t name hcs]
  | .joined op fs, .joined op' gs, ⟨hop, hfs⟩, ns => by
    cases hop
    rw [predicate, predicate, condition_joined, condition_joined, conditions_predicates_eq hfs]

theorem conditions_predicates_eq : ∀ {fs gs : List Filter}, SameButOperandsAll fs gs →
    ∀ ns : List String,
    (predicates t fs ns).map Predicate.condition = (predicates t gs ns).map Predicate.condition
  | [], [], _, _ => rfl
  | f :: fs, g :: gs, ⟨hf, hfs⟩, ns => by
    rw [predicates, predicates, List.map_cons, List.map_cons, condition_predicate_eq hf,
      hf.binders_eq, conditions_predicates_eq hfs]

end

end Filter
end DocFilter
