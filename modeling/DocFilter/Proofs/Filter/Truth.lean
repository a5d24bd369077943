import DocFilter.Proofs.Filter.Kleene
import DocFilter.Proofs.Filter.Renaming
import DocFilter.Proofs.Sql.Row

/-!
# The truth of a filter on a row

A predicate has a truth on a row: that of its condition, with the values that it binds to its
parameters (`Predicate.truth`).  The names it binds them to make no difference, so a filter
has a truth on a row as well (`Filter.truth`, `Filter.truth_predicate`), and what a
connective makes of filters can be said without a name or a number
(`Filter.truth_joined`).
-/

namespace DocFilter

open Sql

/-! ## Looking names up -/

/-- The value bound to a name. -/
def Bindings.lookup (bindings : Bindings) (name : String) : Bound :=
  (Dict.find? name bindings).getD .null

/-! ## Predicates -/

variable {V : Type} {row : Row V} {look : String → Bound}

/-- The truth of a predicate on a row. -/
def Predicate.truth (row : Row V) (p : Predicate) : Truth :=
  p.condition.truth row (Bindings.lookup p.bindings)

theorem Sql.Formula.truth_conjoin (φs : List Formula) :
    (conjoin φs).truth row look = .all (φs.map (truth row look)) := by
  unfold conjoin
  split
  · exact (Truth.and_yes _).symm
  · rw [truth, truths_eq_map]

theorem Sql.Formula.truth_joined (op : Connective) (φs : List Formula) :
    (joined op φs).truth row look = op.truth (φs.map (truth row look)) := by
  cases op with
  | and => exact congrArg Truth.all (truths_eq_map φs)
  | or => exact congrArg Truth.any (truths_eq_map φs)
  | not => exact congrArg Truth.not (truth_conjoin φs)
  | nor => exact congrArg (fun ks => (Truth.any ks).not) (truths_eq_map φs)

/-! ## Filters -/

namespace Filter

variable {t : Target}

/-- The truth of a filter on a row, where its operands are valid. -/
def truth (t : Target) (row : Row V) (f : Filter) : Truth :=
  (f.predicate t (parameterNames 0 f.binders)).truth row

/-- The names that a filter is given make no difference to its truth. -/
theorem truth_predicate {f : Filter} {ns : List String}
    (h : (f.course t.isPattern t.layout).fault = none) (hns : f.Names ns) :
    (f.predicate t ns).truth row = f.truth t row := by
  have hzero := f.names_parameterNames 0
  obtain ⟨ρ, hρ⟩ := exists_renaming hzero.nodup (hzero.length_eq.trans hns.length_eq.symm)
  subst hρ
  unfold truth Predicate.truth
  rw [condition_predicate_rename, Formula.truth_rename]
  refine Formula.truth_congr fun name hname => ?_
  rw [(laid_predicate h hzero).2] at hname
  rw [Function.comp_apply, Bindings.lookup, Bindings.lookup,
    bindings_predicate f hns.nodup hns.length_eq, bindings_predicate f hzero.nodup hzero.length_eq,
    Dict.find?_zip_map hns.nodup hname]

namespace Names

variable {f : Filter} {rest : List Filter} {ns : List String}

theorem length_cons (h : (all (f :: rest)).Names ns) :
    ns.length = f.binders.length + (all rest).binders.length := by
  rw [h.length_eq, binders, conditions, conditionsOfAll, bindersOf_append, List.length_append]
  rfl

/-- The first filter of a list gets the first of the names. -/
theorem head (h : (all (f :: rest)).Names ns) : f.Names (ns.take f.binders.length) where
  length_eq := by
    rw [List.length_take, h.length_cons, Nat.min_eq_left (Nat.le_add_right _ _)]
  nodup := h.nodup.sublist (List.take_sublist _ _)
  named := fun name hname => h.named name (List.mem_of_mem_take hname)

/-- The others get the names that are left. -/
theorem tail (h : (all (f :: rest)).Names ns) : (all rest).Names (ns.drop f.binders.length) where
  length_eq := by rw [List.length_drop, h.length_cons, Nat.add_sub_cancel_left]
  nodup := h.nodup.sublist (List.drop_sublist _ _)
  named := fun name hname => h.named name (List.mem_of_mem_drop hname)

end Names

/-- Each filter of a list has its own truth, when the names are looked up among those of the
whole list. -/
theorem truths_predicates : ∀ {fs : List Filter} {ns : List String},
    (courseAll t.isPattern t.layout fs).fault = none → (all fs).Names ns →
    (∀ name ∈ ns, look name =
      Bindings.lookup (ns.zip (valuesOf t.dialect t.layout (conditionsOfAll fs))) name) →
    (predicates t fs ns).map (fun p => p.condition.truth row look) = fs.map (truth t row)
  | [], _, _, _, _ => rfl
  | f :: rest, ns, h, hns, hlook => by
    unfold courseAll at h
    obtain ⟨hf, hrest⟩ := Course.andThen_fault_eq_none.mp h
    -- the bindings of the list are those of the first filter and those of the others
    have hzip : (ns.take f.binders.length).zip (f.values t.dialect t.layout) ++
        (ns.drop f.binders.length).zip (valuesOf t.dialect t.layout (conditionsOfAll rest)) =
          ns.zip (f.values t.dialect t.layout ++ _) :=
      zip_take_append_zip_drop (by rw [hns.length_cons]; exact Nat.le_add_right _ _)
        (f.length_values _ _)
    have hkeys : Dict.keys ((ns.take f.binders.length).zip (f.values t.dialect t.layout)) =
        ns.take f.binders.length :=
      Dict.keys_zip (hns.head.length_eq.trans (f.length_values _ _).symm)
    rw [conditionsOfAll, valuesOf_append] at hlook
    change ∀ name ∈ ns, look name =
      Bindings.lookup (ns.zip (f.values t.dialect t.layout ++ _)) name at hlook
    rw [← hzip] at hlook
    rw [predicates, List.map_cons, List.map_cons, ← truth_predicate hf hns.head]
    refine congrArg₂ List.cons (Formula.truth_congr fun name hname => ?_)
      (truths_predicates hrest hns.tail fun name hname => ?_)
    · rw [(laid_predicate hf hns.head).2] at hname
      rw [hlook name (List.mem_of_mem_take hname), Bindings.lookup, Bindings.lookup,
        Dict.find?_append_of_mem _ (by rw [hkeys]; exact hname),
        bindings_predicate f hns.head.nodup hns.head.length_eq]
    · have hnot : name ∉ ns.take f.binders.length := fun hmem =>
        List.disjoint_take_drop hns.nodup (Nat.le_refl _) hmem hname
      rw [hlook name (List.mem_of_mem_drop hname), Bindings.lookup, Bindings.lookup,
        Dict.find?_append_of_not_mem _ (by rw [hkeys]; exact hnot)]

/-- The truth of joined filters is joined as the connective says. -/
theorem truth_joined {op : Connective} {fs : List Filter}
    (h : ((joined op fs).course t.isPattern t.layout).fault = none) :
    (joined op fs).truth t row = op.truth (fs.map (truth t row)) := by
  have hchildren : (courseAll t.isPattern t.layout fs).fault = none := by
    unfold course at h
    exact (Course.andThen_fault_eq_none.mp h).1
  have hns := (joined op fs).names_parameterNames 0
  have hbindings := bindings_predicate (t := t) (joined op fs) hns.nodup hns.length_eq
  rw [truth, Predicate.truth, hbindings, predicate, Predicate.condition_joined,
    Formula.truth_joined, List.map_map]
  exact congrArg op.truth (truths_predicates hchildren
    ⟨hns.length_eq, hns.nodup, hns.named⟩ fun _ _ => rfl)

end Filter
end DocFilter
