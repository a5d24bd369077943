import DocFilter.Proofs.Filter.Binding
import DocFilter.Proofs.Sql.Renaming

/-!
# The compiler looks at no name

What is made of other names is what was made before, with the other names in it
(`Filter.condition_predicate_rename`).  So whatever is known of the numbers after a counter
holds of all numbers: the condition of a filter has the names it was given in it, in order,
and its text can be read again (`Filter.laid_predicate`), also where the numbers come from
here and there.
-/

namespace DocFilter

open Sql

variable {ρ : String → String}

/-! ## Conditions on a place -/

namespace Dialect

variable {d : Dialect} {place : Location} {f : Fragment}

/-- An expression without parameters is left as it is. -/
theorem Operand.rename_eq (h : d.Operand [] f) : f.rename ρ = f :=
  Fragment.rename_of_names_eq_nil h.names_eq

/-- A condition without parameters is left as it is. -/
theorem Clause.rename_eq {φ : Formula} (h : d.Clause [] φ) : φ.rename ρ = φ :=
  Formula.rename_of_names_eq_nil h.operand.names_eq

theorem jsonParameter_rename (d : Dialect) (p : Fragment) :
    d.jsonParameter (p.rename ρ) = (d.jsonParameter p).rename ρ := by
  cases d <;> simp [jsonParameter, Fragment.cast]

theorem equality_rename (h : d.Operand [] place.column) (negated structured : Bool)
    (p : Fragment) :
    d.equality place negated structured (p.rename ρ) =
      (d.equality place negated structured p).rename ρ := by
  have hcomparable : (d.comparable place).rename ρ = d.comparable place :=
    (comparable_operand h).rename_eq
  have hscalar : (if negated then d.differs place (p.rename ρ) else d.equals place (p.rename ρ)) =
      (if negated then d.differs place p else d.equals place p).rename ρ := by
    cases negated with
    | false => simp [equals, relate, Formula.rename, Atom.rename, hcomparable]
    | true =>
      cases place with
      | identity column =>
        have hcolumn : column.rename ρ = column := h.rename_eq
        simp [differs, relate, Formula.rename, Atom.rename, hcolumn]
      | document column path =>
        have htext : (d.textAt column path).rename ρ = d.textAt column path := hcomparable
        simp [differs, orAbsent, Formula.rename, Formula.renameAll, Atom.rename, htext]
  cases place with
  | identity column => cases structured <;> exact hscalar
  | document column path =>
    cases structured with
    | false => exact hscalar
    | true =>
      have hjson : (d.jsonAt column path).rename ρ = d.jsonAt column path :=
        (jsonAt_operand h path).rename_eq
      cases negated <;>
        simp [equality, differsJson, equalsJson, relate, orAbsent, Formula.rename,
          Formula.renameAll, Atom.rename, hjson, jsonParameter_rename]

theorem compares_rename (h : d.Operand [] place.column) (relation : Relation) (p : Fragment) :
    d.compares place relation (p.rename ρ) = (d.compares place relation p).rename ρ := by
  have horderable : (d.orderable place).rename ρ = d.orderable place :=
    (orderable_operand h).rename_eq
  simp [compares, relate, Formula.rename, Atom.rename, horderable]

theorem membership_rename (h : d.Operand [] place.column) (negated : Bool)
    (ps : List Fragment) :
    d.membership place negated (ps.map (Fragment.rename ρ)) =
      (d.membership place negated ps).rename ρ := by
  have hcomparable : (d.comparable place).rename ρ = d.comparable place :=
    (comparable_operand h).rename_eq
  cases ps with
  | nil => cases negated <;> rfl
  | cons p ps =>
    cases negated with
    | false => simp [membership, holdsOneOf, Formula.rename, Atom.rename, hcomparable]
    | true =>
      cases place with
      | identity column =>
        have hcolumn : column.rename ρ = column := h.rename_eq
        simp [membership, holdsNoneOf, Formula.rename, Atom.rename, hcolumn]
      | document column path =>
        have htext : (d.textAt column path).rename ρ = d.textAt column path := hcomparable
        simp [membership, holdsNoneOf, orAbsent, Formula.rename, Formula.renameAll, Atom.rename,
          htext]

theorem likes_rename (subject parameter escape : Fragment) (ignoreCase : Bool) :
    (likes subject parameter escape ignoreCase).rename ρ =
      likes (subject.rename ρ) (parameter.rename ρ) (escape.rename ρ) ignoreCase := by
  cases ignoreCase <;> simp [likes, Formula.rename, Atom.rename]

theorem matching_rename (h : d.Operand [] place.column) (ignoreCase : Bool) (p : Fragment) :
    d.matching place ignoreCase (p.rename ρ) = (d.matching place ignoreCase p).rename ρ := by
  have hreadable : (d.readable place).rename ρ = d.readable place :=
    (readable_operand h).rename_eq
  have hliteral (content : String) : (d.literal content).rename ρ = d.literal content := rfl
  have hescape : d.escapeLiteral.rename ρ = d.escapeLiteral := rfl
  cases d with
  | postgres =>
    simp [matching, hasRegex, matchesRegex, relate, Formula.rename, Atom.rename, hreadable]
  | mySql =>
    simp [matching, hasRegex, matchesRegex, Formula.rename, Atom.rename, hreadable, hliteral]
  | sqlite =>
    cases ignoreCase <;>
      simp [matching, hasRegex, matchesWildcard, relate, likes_rename, Formula.rename,
        Atom.rename, hreadable, hescape]
  | sqlServer =>
    cases ignoreCase <;>
      simp [matching, hasRegex, matchesWildcard, likes_rename, hreadable, hescape]

end Dialect

namespace Condition

/-- A condition is written with other names as it was written before, renamed. -/
theorem formula_rename {d : Dialect} {place : Location} (h : d.Operand [] place.column)
    (ps : List Fragment) (c : Condition) :
    c.formula d place (ps.map (Fragment.rename ρ)) = (c.formula d place ps).rename ρ := by
  obtain ⟨operator, operand, options⟩ := c
  have hhead : (ps.map (Fragment.rename ρ)).headD [] = (ps.headD []).rename ρ := by
    cases ps <;> rfl
  unfold formula
  rw [hhead]
  cases operator with
  | equal => exact Dialect.equality_rename h _ _ _
  | notEqual => exact Dialect.equality_rename h _ _ _
  | greater => exact Dialect.compares_rename h _ _
  | greaterEqual => exact Dialect.compares_rename h _ _
  | less => exact Dialect.compares_rename h _ _
  | lessEqual => exact Dialect.compares_rename h _ _
  | among => exact Dialect.membership_rename h _ _
  | notAmong => exact Dialect.membership_rename h _ _
  | matching => exact Dialect.matching_rename h _ _
  | present =>
    cases operand with
    | bool wanted => exact (Dialect.isPresent_clause h wanted).rename_eq.symm
    | _ => rfl
  | ofType =>
    cases operand with
    | string name => exact (Dialect.typed_clause h name).rename_eq.symm
    | _ => rfl

theorem condition_predicate_rename (t : Target) (field : String) (c : Condition)
    (ns : List String) :
    (c.predicate t field (ns.map ρ)).condition = (c.predicate t field ns).condition.rename ρ := by
  have hplaces : (ns.map ρ).map t.dialect.placeholder =
      (ns.map t.dialect.placeholder).map (Fragment.rename ρ) := by
    rw [List.map_map, List.map_map]
    rfl
  unfold predicate
  rw [hplaces]
  exact formula_rename (locate_operand t.layout field t.dialect) _ c

theorem conditions_predicates_rename (t : Target) (field : String) (cs : List Condition)
    (ns : List String) :
    (predicates t field cs (ns.map ρ)).map Predicate.condition =
      ((predicates t field cs ns).map Predicate.condition).map (Formula.rename ρ) := by
  induction cs generalizing ns with
  | nil => rfl
  | cons c cs ih =>
    simp only [predicates, List.map_cons, ← List.map_take, ← List.map_drop, ih,
      condition_predicate_rename]

end Condition

/-! ## Joining -/

namespace Sql.Formula

theorem rename_conjoin (φs : List Formula) :
    (conjoin φs).rename ρ = conjoin (φs.map (rename ρ)) := by
  match φs with
  | [] => rfl
  | [φ] => rfl
  | φ :: φ' :: φs => exact congrArg all (renameAll_eq_map _)

theorem rename_joined (op : Connective) (φs : List Formula) :
    (joined op φs).rename ρ = joined op (φs.map (rename ρ)) := by
  cases op with
  | and => exact congrArg all (renameAll_eq_map φs)
  | or => exact congrArg any (renameAll_eq_map φs)
  | not => exact congrArg not (rename_conjoin φs)
  | nor => exact congrArg (fun φs => not (any φs)) (renameAll_eq_map φs)

end Sql.Formula

/-! ## Trees -/

namespace Filter

open Predicate

variable {t : Target}

mutual

/-- A filter is written with other names as it was written before, renamed. -/
theorem condition_predicate_rename (t : Target) : ∀ (f : Filter) (ns : List String),
    (f.predicate t (ns.map ρ)).condition = (f.predicate t ns).condition.rename ρ
  | .all children, ns => by
    rw [predicate, predicate, condition_conjoin, condition_conjoin, Formula.rename_conjoin,
      conditions_predicates_rename t children]
  | .field name conditions, ns => by
    rw [predicate, predicate, condition_conjoin, condition_conjoin, Formula.rename_conjoin,
      Condition.conditions_predicates_rename t name conditions]
  | .joined connective children, ns => by
    rw [predicate, predicate, condition_joined, condition_joined, Formula.rename_joined,
      conditions_predicates_rename t children]

theorem conditions_predicates_rename (t : Target) : ∀ (fs : List Filter) (ns : List String),
    (predicates t fs (ns.map ρ)).map Predicate.condition =
      ((predicates t fs ns).map Predicate.condition).map (Formula.rename ρ)
  | [], _ => rfl
  | f :: rest, ns => by
    simp only [predicates, List.map_cons, ← List.map_take, ← List.map_drop,
      condition_predicate_rename t f, conditions_predicates_rename t rest]

end

/-! ## Any names of parameters -/

/-- What the compiler makes of a filter without a fault, for the numbers after a counter. -/
theorem fresh_predicate {f : Filter} (h : (f.course t.isPattern t.layout).fault = none) (c : Nat) :
    (f.predicate t (parameterNames c f.binders)).Fresh t.dialect c f.binders := by
  have hrun : (f.compile t).run c =
      (.ok (f.predicate t (parameterNames c f.binders)), c + f.binders.length) := by
    rw [compile_eq_follow, Minting.run_follow, Course.verdict_eq_ok.mpr ⟨h, rfl⟩,
      fields_course f h]
  exact (compile_fresh f hrun).1

/-- Names that the condition of a filter can be given: as many as it has parameters, each
made from a field and a number. -/
structure Names (f : Filter) (ns : List String) : Prop where
  length_eq : ns.length = f.binders.length
  nodup : ns.Nodup
  named : ∀ name ∈ ns, ∃ field n, name = parameterName field n

theorem names_parameterNames (f : Filter) (c : Nat) : f.Names (parameterNames c f.binders) := by
  refine ⟨length_parameterNames _ _, nodup_parameterNames _ _, fun name hname => ?_⟩
  obtain ⟨field, n, -, -, hn⟩ := exists_of_mem_parameterNames hname
  exact ⟨field, n, hn⟩

/-- The condition of a filter can be read again, and has the names it was given in it, in
order. -/
theorem laid_predicate {f : Filter} {ns : List String}
    (h : (f.course t.isPattern t.layout).fault = none) (hns : f.Names ns) :
    t.dialect.Laid (f.predicate t ns).condition.fragment ∧
      (f.predicate t ns).condition.fragment.names = ns := by
  have hfresh := fresh_predicate (t := t) h 0
  have hnames : (f.predicate t (parameterNames 0 f.binders)).condition.fragment.names =
      parameterNames 0 f.binders := hfresh.clause.operand.names_eq.trans hfresh.keys_eq
  obtain ⟨ρ, hρ⟩ := exists_renaming (nodup_parameterNames 0 f.binders)
    ((length_parameterNames 0 f.binders).trans hns.length_eq.symm)
  rw [← hρ, condition_predicate_rename, Formula.fragment_rename, Fragment.names_rename, hnames]
  refine ⟨hfresh.clause.operand.laid.rename fun name hname => ?_, rfl⟩
  rw [hnames] at hname
  refine hns.named (ρ name) ?_
  rw [← hρ]
  exact List.mem_map_of_mem hname

end Filter
end DocFilter
