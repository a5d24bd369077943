import DocFilter.Proofs.Query.Course

/-!
# The same request in two dialects

A dialect decides how a condition is written.  It does not decide whether a request is
translated, or what refuses it, or how many numbers that costs: the course of a request is
the same in every dialect.  Nor does it decide which parameters there are, in what order
they stand, and what is bound to them, with one exception: the pattern of a regular
expression, which some dialects have to replace by a wildcard pattern
(`Condition.BindsAlike`).

`Translator.agree_of_translate` says so of any two dialects and any request.
-/

namespace DocFilter

open Sql

/-- The translator for another dialect, with the same settings. -/
def Translator.onDialect (t : Translator) (d : Dialect) : Translator :=
  { t with target := { t.target with dialect := d } }

/-! ## Values -/

namespace Condition

/-- A value of the parameters of a condition is the same in two dialects, unless it is the
pattern of a regular expression; then each dialect binds its own text for it. -/
def BindsAlike (d d' : Dialect) (c : Condition) (v v' : Bound) : Prop :=
  match c.operator, c.operand with
  | .matching, .string regex =>
    v = .text (d.boundPattern regex c.ignoresCase) ∧
      v' = .text (d'.boundPattern regex c.ignoresCase)
  | _, _ => v = v'

variable {d d' : Dialect} {place : Location} {c : Condition}

theorem values_eq_of_operator (h : c.operator ≠ .matching) :
    c.values d place = c.values d' place := by
  obtain ⟨operator, operand, options⟩ := c
  cases operator with
  | matching => exact absurd rfl h
  | among => cases operand <;> rfl
  | notAmong => cases operand <;> rfl
  | _ => rfl

/-- The values of a condition, beside its values in another dialect. -/
theorem bindsAlike_values (c : Condition) :
    List.Forall₂ (fun c v => c.BindsAlike d d' v.1 v.2) (List.replicate c.arity c)
      ((c.values d place).zip (c.values d' place)) := by
  have hsame (vs : List Bound) (h : ∀ v, c.BindsAlike d d' v v) :
      List.Forall₂ (fun c v => c.BindsAlike d d' v.1 v.2) (List.replicate vs.length c)
        (vs.zip vs) := by
    induction vs with
    | nil => exact .nil
    | cons v vs ih => exact .cons (h v) ih
  by_cases hmatching : c.operator = .matching
  · obtain ⟨operator, operand, options⟩ := c
    cases hmatching
    cases operand with
    | string regex => exact .cons ⟨rfl, rfl⟩ .nil
    | _ => exact hsame [.null] fun _ => rfl
  · have hvalues : c.values d place = c.values d' place := values_eq_of_operator hmatching
    rw [hvalues, ← length_values d' place c]
    refine hsame _ fun v => ?_
    obtain ⟨operator, operand, options⟩ := c
    cases operator with
    | matching => exact absurd rfl hmatching
    | _ => rfl

end Condition

/-- The conditions that parameters are bound for, one for each parameter, in order. -/
def bindingConditions (conditions : List (String × Condition)) : List Condition :=
  conditions.flatMap fun e => List.replicate e.2.arity e.2

theorem bindsAlike_valuesOf (d d' : Dialect) (l : Layout) (cs : List (String × Condition)) :
    List.Forall₂ (fun c v => c.BindsAlike d d' v.1 v.2) (bindingConditions cs)
      ((valuesOf d l cs).zip (valuesOf d' l cs)) := by
  induction cs with
  | nil => exact .nil
  | cons e cs ih =>
    have hvalues (d : Dialect) :
        valuesOf d l (e :: cs) = e.2.values d (l.locate e.1) ++ valuesOf d l cs := rfl
    have hlength : (e.2.values d (l.locate e.1)).length = (e.2.values d' (l.locate e.1)).length :=
      (Condition.length_values d _ _).trans (Condition.length_values d' _ _).symm
    rw [hvalues, hvalues, List.zip_append hlength]
    exact List.rel_append (Condition.bindsAlike_values e.2) ih

/-! ## Translations -/

/-- Translations of a filter into two dialects that differ in nothing but the text of the
clauses and the patterns of regular expressions. -/
structure Translation.Agrees (d d' : Dialect) (filter : Filter) (out out' : Translation) :
    Prop where
  names_eq : out.bindings.keys = out'.bindings.keys
  values_alike : List.Forall₂ (fun c v => c.BindsAlike d d' v.1 v.2)
    (bindingConditions filter.conditions) (out.bindings.values.zip out'.bindings.values)
  hasCondition_eq : out.hasCondition = out'.hasCondition
  hasOrder_eq : out.hasOrder = out'.hasOrder
  limit_eq : out.limit = out'.limit
  offset_eq : out.offset = out'.offset
  projection_eq : out.projection = out'.projection

namespace Translator

open Translation

/-- Runs of the translation of a request into two dialects that end alike: both refused for
the same reason, or both with a result, and the results agree; and the counters are left at
the same number. -/
inductive Agree (t : Translator) (r : Request) (d d' : Dialect) :
    Except QueryError Translation × Nat → Except QueryError Translation × Nat → Prop where
  | refused (e : QueryError) (c : Nat) : Agree t r d d' (.error e, c) (.error e, c)
  | translated {filter : Filter} {out out' : Translation} (c : Nat)
      (hread : t.readFilter r.filter = .ok filter) (h : out.Agrees d d' filter out') :
      Agree t r d d' (.ok out, c) (.ok out', c)

variable {t : Translator} {options : RequestOptions} {keys : List SortKey}
  {projection : Option Projection} {filter : Filter} {ns : List String}

/-- A translation has a condition unless that of its filter is left out. -/
theorem hasCondition_assemble (hl : ns.length = filter.binders.length) :
    (t.assemble options keys projection (filter.predicate t.target ns)).hasCondition =
      !filter.isVacuous := by
  have hvoiced := (Filter.condition_predicate (t := t.target) filter hl).1
  have halways := Filter.isAlways_predicate (t := t.target) filter hl
  unfold hasCondition conditionText
  rw [condition_assemble, halways]
  cases hvacuous : filter.isVacuous with
  | true => rfl
  | false =>
    rw [hvacuous] at halways
    have hne : ((filter.predicate t.target ns).condition.text != Formula.alwaysText) = true :=
      bne_iff_ne.mpr (beq_eq_false_iff_ne.mp halways)
    rw [if_neg Bool.false_ne_true, Option.map_some]
    dsimp only
    rw [Formula.isBlankText_text hvoiced, hne]
    rfl

theorem exists_visible_orderItem (t : Translator) (key : SortKey) :
    ∃ c ∈ (t.orderItem key).chars, Text.isBlank c = false := by
  have hkeyword : ∃ c ∈ key.direction.keyword.toList, Text.isBlank c = false := by
    cases key.direction with
    | ascending => exact ⟨'A', by decide, rfl⟩
    | descending => exact ⟨'D', by decide, rfl⟩
  obtain ⟨c, hc, hvisible⟩ := hkeyword
  refine ⟨c, ?_, hvisible⟩
  unfold orderItem Dialect.orderItem
  simp [Fragment.sql, Piece.chars, hc]

theorem mem_chars_foldl (items : List Fragment) {order : Fragment} {c : Char}
    (hc : c ∈ order.chars) :
    c ∈ (items.foldl (fun order item => order ++ Fragment.sql ", " ++ item) order).chars := by
  induction items generalizing order with
  | nil => exact hc
  | cons item items ih =>
    refine ih ?_
    rw [Fragment.chars_append, Fragment.chars_append]
    exact List.mem_append_left _ (List.mem_append_left _ hc)

/-- A translation has an order when one was asked for. -/
theorem hasOrder_assemble (p : Predicate) :
    (t.assemble options keys projection p).hasOrder = !keys.isEmpty := by
  unfold hasOrder orderText
  rw [order_assemble]
  cases keys with
  | nil => rfl
  | cons key keys =>
    obtain ⟨c, hc, hvisible⟩ := exists_visible_orderItem t key
    have hmem := mem_chars_foldl (keys.map t.orderItem) hc
    rw [← String.toList_ofList (l := Fragment.chars _)] at hmem
    rw [List.map_cons, Translation.orderOf, Option.map_some]
    dsimp only
    rw [Fragment.text, Text.isBlankText_eq_false hmem hvisible]
    rfl

/-- A request ends alike in any two dialects. -/
theorem agree_of_translate (t : Translator) (r : Request) (d d' : Dialect) (c : Nat) :
    t.Agree r d d' (((t.onDialect d).translate r).run c)
      (((t.onDialect d').translate r).run c) := by
  rw [run_translate, run_translate]
  have hcourse : (t.onDialect d').course r = (t.onDialect d).course r := rfl
  rw [hcourse]
  cases hfault : ((t.onDialect d).course r).fault with
  | some e =>
    rw [Course.verdict, Course.verdict, hfault]
    exact .refused e _
  | none =>
    obtain ⟨filter, keys, projection, h⟩ := exists_admitted hfault
    have h' : (t.onDialect d').Admitted r filter keys projection :=
      ⟨h.filter_eq, h.sound, h.keys_eq, h.projection_eq⟩
    rw [Course.verdict_eq_ok.mpr ⟨hfault, rfl⟩, Course.verdict_eq_ok.mpr ⟨hfault, rfl⟩,
      h.made_eq, h'.made_eq, h.fields_eq]
    generalize hns : parameterNames c filter.binders = ns
    have hn : ns.Nodup := hns ▸ nodup_parameterNames c filter.binders
    have hl : ns.length = filter.binders.length := hns ▸ length_parameterNames c filter.binders
    refine .translated _ h.filter_eq ⟨?_, ?_, ?_, ?_, rfl, rfl, rfl⟩
    · rw [keys_assemble _ _ _ _ hn hl, keys_assemble _ _ _ _ hn hl]
    · rw [values_assemble _ _ _ _ hn hl, values_assemble _ _ _ _ hn hl]
      exact bindsAlike_valuesOf d d' t.layout filter.conditions
    · rw [hasCondition_assemble hl, hasCondition_assemble hl]
    · rw [hasOrder_assemble, hasOrder_assemble]

end Translator
end DocFilter
