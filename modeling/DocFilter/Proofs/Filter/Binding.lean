import DocFilter.Proofs.Filter.Course
import DocFilter.Proofs.List

/-!
# What is bound to the names

The values that a filter binds can be read off its tree (`Filter.values`): those of its
conditions, in the order they were written.  Where the names are distinct, and as many as
the parameters of the filter, the predicate made of them binds each name to its value, in
order (`Filter.bindings_predicate`); no name is lost when predicates are joined.
-/

namespace DocFilter

/-- The values bound for conditions on fields, in order. -/
def valuesOf (d : Dialect) (l : Layout) (conditions : List (String × Condition)) : List Bound :=
  conditions.flatMap fun e => e.2.values d (l.locate e.1)

/-- The values a filter binds, one for each of its parameters. -/
def Filter.values (d : Dialect) (l : Layout) (f : Filter) : List Bound :=
  valuesOf d l f.conditions

theorem valuesOf_append (d : Dialect) (l : Layout) (cs cs' : List (String × Condition)) :
    valuesOf d l (cs ++ cs') = valuesOf d l cs ++ valuesOf d l cs' := List.flatMap_append

namespace Condition

theorem length_values (d : Dialect) (place : Location) (c : Condition) :
    (c.values d place).length = c.arity := by
  obtain ⟨operator, operand, options⟩ := c
  cases operator with
  | among =>
    cases operand with
    | array elements => exact List.length_map _
    | _ => rfl
  | notAmong =>
    cases operand with
    | array elements => exact List.length_map _
    | _ => rfl
  | matching => cases operand <;> rfl
  | _ => rfl

end Condition

theorem length_valuesOf (d : Dialect) (l : Layout) (cs : List (String × Condition)) :
    (valuesOf d l cs).length = (bindersOf cs).length := by
  induction cs with
  | nil => rfl
  | cons e cs ih =>
    have hvalues : valuesOf d l (e :: cs) = e.2.values d (l.locate e.1) ++ valuesOf d l cs := rfl
    have hbinders : bindersOf (e :: cs) = List.replicate e.2.arity e.1 ++ bindersOf cs := rfl
    rw [hvalues, hbinders, List.length_append, List.length_append, List.length_replicate,
      Condition.length_values, ih]

theorem Filter.length_values (d : Dialect) (l : Layout) (f : Filter) :
    (f.values d l).length = f.binders.length := length_valuesOf d l f.conditions

/-! ## Joining -/

namespace Predicate

variable {ps : List Predicate}

theorem bindings_conjoin (h : (ps.flatMap fun p => p.bindings.keys).Nodup) :
    (conjoin ps).bindings = ps.flatMap bindings := by
  unfold conjoin
  split
  · exact (List.append_nil _).symm
  · exact mergeBindings_eq h

theorem bindings_joined (op : Connective) (h : (ps.flatMap fun p => p.bindings.keys).Nodup) :
    (joined op ps).bindings = ps.flatMap bindings := by
  cases op with
  | and => exact mergeBindings_eq h
  | or => exact mergeBindings_eq h
  | not => exact bindings_conjoin h
  | nor => exact mergeBindings_eq h

end Predicate

/-! ## Trees -/

namespace Condition

variable {t : Target} {field : String} {ns : List String}

theorem bindings_predicate {c : Condition} (hn : ns.Nodup) (hl : ns.length = c.arity) :
    (c.predicate t field ns).bindings = ns.zip (c.values t.dialect (t.layout.locate field)) := by
  refine Dict.ofEntries_of_nodup ?_
  rw [Dict.keys_zip (hl.trans (length_values _ _ c).symm)]
  exact hn

theorem bindings_predicates {cs : List Condition} (hn : ns.Nodup)
    (hl : ns.length = (bindersOf (cs.map fun c => (field, c))).length) :
    (predicates t field cs ns).flatMap Predicate.bindings =
      ns.zip (valuesOf t.dialect t.layout (cs.map fun c => (field, c))) := by
  induction cs generalizing ns with
  | nil => exact (List.zip_nil_right).symm
  | cons c cs ih =>
    have hlength : ns.length =
        c.arity + (bindersOf (cs.map fun c => (field, c))).length := by
      rw [hl, ← List.length_replicate (n := c.arity) (a := field), ← List.length_append]
      rfl
    have hc : (c.predicate t field (ns.take c.arity)).bindings =
        (ns.take c.arity).zip (c.values t.dialect (t.layout.locate field)) := by
      refine bindings_predicate (hn.sublist (List.take_sublist _ _)) ?_
      rw [List.length_take, hlength, Nat.min_eq_left (Nat.le_add_right _ _)]
    have hcs := ih (hn.sublist (List.drop_sublist c.arity ns)) (by
      rw [List.length_drop, hlength, Nat.add_sub_cancel_left])
    rw [predicates, List.flatMap_cons, hc, hcs]
    refine zip_take_append_zip_drop ?_ (length_values _ _ c)
    rw [hlength]
    exact Nat.le_add_right _ _

end Condition

namespace Filter

open Predicate

variable {t : Target}

/-- Predicates that bind distinct names have distinct keys between them. -/
theorem nodup_keys_of_bindings {ps : List Predicate} {ns : List String} {vs : List Bound}
    (hps : ps.flatMap bindings = ns.zip vs) (hn : ns.Nodup) (hl : ns.length = vs.length) :
    (ps.flatMap fun p => p.bindings.keys).Nodup := by
  rw [← keys_flatMap, hps, Dict.keys_zip hl]
  exact hn

mutual

/-- A filter binds each name to its value, in order. -/
theorem bindings_predicate : ∀ (f : Filter) {ns : List String}, ns.Nodup →
    ns.length = f.binders.length →
    (f.predicate t ns).bindings = ns.zip (f.values t.dialect t.layout)
  | .all children, ns, hn, hl => by
    have hps := bindings_predicates children hn hl
    unfold predicate
    rw [bindings_conjoin (nodup_keys_of_bindings hps hn (hl.trans (length_valuesOf _ _ _).symm)),
      hps]
    rfl
  | .field name conditions, ns, hn, hl => by
    have hps := Condition.bindings_predicates (t := t) hn hl
    unfold predicate
    rw [bindings_conjoin (nodup_keys_of_bindings hps hn (hl.trans (length_valuesOf _ _ _).symm)),
      hps]
    rfl
  | .joined connective children, ns, hn, hl => by
    have hps := bindings_predicates children hn hl
    unfold predicate
    rw [bindings_joined _
      (nodup_keys_of_bindings hps hn (hl.trans (length_valuesOf _ _ _).symm)), hps]
    rfl

/-- Filters bind each name to its value, in order. -/
theorem bindings_predicates : ∀ (fs : List Filter) {ns : List String}, ns.Nodup →
    ns.length = (bindersOf (conditionsOfAll fs)).length →
    (predicates t fs ns).flatMap bindings =
      ns.zip (valuesOf t.dialect t.layout (conditionsOfAll fs))
  | [], ns, _, _ => (List.zip_nil_right).symm
  | f :: rest, ns, hn, hl => by
    have hlength : ns.length =
        f.binders.length + (bindersOf (conditionsOfAll rest)).length := by
      rw [hl, conditionsOfAll, bindersOf_append, List.length_append]
      rfl
    have hf := bindings_predicate f (hn.sublist (List.take_sublist f.binders.length ns)) (by
      rw [List.length_take, hlength, Nat.min_eq_left (Nat.le_add_right _ _)])
    have hrest := bindings_predicates rest (hn.sublist (List.drop_sublist f.binders.length ns)) (by
      rw [List.length_drop, hlength, Nat.add_sub_cancel_left])
    rw [predicates, List.flatMap_cons, hf, hrest, conditionsOfAll, valuesOf_append]
    refine zip_take_append_zip_drop ?_ (length_valuesOf _ _ _)
    rw [hlength]
    exact Nat.le_add_right _ _

end

end Filter
end DocFilter
