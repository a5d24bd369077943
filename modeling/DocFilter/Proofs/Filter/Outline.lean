import DocFilter.Proofs.Dialect.Alike
import DocFilter.Proofs.Filter.Compile

/-!
# Outlines

The outline of a filter is the filter without the names of its fields: of a field only
remains whether it is the identity, a single key, a single index, or a longer path.  Filters
with one outline are compiled to alike texts (`Filter.compile_alike`), whatever their fields
are called and whatever numbers their parameters get, provided that the columns have the
same names.
-/

namespace DocFilter

open Sql

/-! ## Outlines of filters -/

/-- What a field shows of itself. -/
def Layout.kind (l : Layout) (field : String) : FieldKind :=
  if l.isIdentity field then .identity else (Path.ofField field).kind

/-- A filter without the names of its fields. -/
inductive Outline where
  | all (children : List Outline)
  | field (kind : FieldKind) (conditions : List Condition)
  | joined (connective : Connective) (children : List Outline)

namespace Filter

mutual

/-- The outline of a filter. -/
def outline (l : Layout) : Filter → Outline
  | .all children => .all (outlines l children)
  | .field name conditions => .field (l.kind name) conditions
  | .joined connective children => .joined connective (outlines l children)

/-- The outline of each filter. -/
def outlines (l : Layout) : List Filter → List Outline
  | [] => []
  | f :: rest => f.outline l :: outlines l rest

end

end Filter

/-- Targets of one dialect, with columns of the same names. -/
structure Target.Agree (t t' : Target) : Prop where
  dialect : t'.dialect = t.dialect
  identityColumn : t'.layout.identityColumn = t.layout.identityColumn
  documentColumn : t'.layout.documentColumn = t.layout.documentColumn

theorem locate_alike {t t' : Target} (h : t.Agree t') {field field' : String}
    (hkind : t.layout.kind field = t'.layout.kind field') :
    (t.layout.locate field).Alike (t'.layout.locate field') := by
  unfold Layout.kind at hkind
  unfold Layout.locate
  rw [h.identityColumn, h.documentColumn]
  by_cases hf : t.layout.isIdentity field = true
  · by_cases hf' : t'.layout.isIdentity field' = true
    · rw [if_pos hf, if_pos hf']
      exact .identity _
    · rw [if_pos hf, if_neg hf'] at hkind
      exact absurd hkind.symm (Path.kind_ne_identity _)
  · by_cases hf' : t'.layout.isIdentity field' = true
    · rw [if_neg hf, if_pos hf'] at hkind
      exact absurd hkind (Path.kind_ne_identity _)
    · rw [if_neg hf, if_neg hf'] at hkind ⊢
      exact .document _ hkind

/-! ## Conditions -/

namespace Dialect

variable {d : Dialect} {place place' : Location} {parameter parameter' : Fragment}

theorem equality_alike (h : place.Alike place') (negated structured : Bool)
    (hp : Alike parameter parameter') :
    Alike (d.equality place negated structured parameter).fragment
      (d.equality place' negated structured parameter').fragment := by
  have hdiffers : Alike (d.differs place parameter).fragment
      (d.differs place' parameter').fragment := differs_alike h hp
  have hequals : Alike (d.equals place parameter).fragment
      (d.equals place' parameter').fragment := equals_alike h hp
  cases h with
  | identity column =>
    cases negated with
    | true => exact hdiffers
    | false => exact hequals
  | document column hkind =>
    cases structured with
    | true =>
      cases negated with
      | true => exact differsJson_alike column hkind hp
      | false => exact equalsJson_alike column hkind hp
    | false =>
      cases negated with
      | true => exact hdiffers
      | false => exact hequals

theorem membership_alike (h : place.Alike place') (negated : Bool) {ps ps' : List Fragment}
    (hp : AlikeAll ps ps') :
    Alike (d.membership place negated ps).fragment
      (d.membership place' negated ps').fragment := by
  cases hp with
  | nil => exact .refl _
  | cons hq hqs =>
    cases negated with
    | true => exact holdsNoneOf_alike h (.cons hq hqs)
    | false => exact among_alike (comparable_alike h) (.cons hq hqs)

theorem matching_alike (h : place.Alike place') (ignoreCase : Bool)
    (hp : Alike parameter parameter') :
    Alike (d.matching place ignoreCase parameter).fragment
      (d.matching place' ignoreCase parameter').fragment := by
  unfold matching
  split
  · exact matchesRegex_alike h hp ignoreCase
  · exact matchesWildcard_alike h hp ignoreCase

theorem typed_alike (h : place.Alike place') (name : String) :
    Alike (d.typed place name).fragment (d.typed place' name).fragment := by
  unfold typed
  split
  · exact hasType_alike h _
  · exact .refl _

/-- The places of as many parameters of one field each. -/
theorem placeholders_alike (d : Dialect) (n counter counter' : Nat) (field field' : String) :
    AlikeAll ((parameterNames counter (List.replicate n field)).map d.placeholder)
      ((parameterNames counter' (List.replicate n field')).map d.placeholder) := by
  induction n generalizing counter counter' with
  | zero => exact .nil
  | succ n ih => exact .cons (placeholder_alike d _ _) (ih (counter + 1) (counter' + 1))

end Dialect

namespace Condition

open Dialect

variable {t t' : Target} {field field' : String}

theorem formula_alike {d : Dialect} {place place' : Location} (h : place.Alike place')
    {ps ps' : List Fragment} (hp : AlikeAll ps ps') (condition : Condition) :
    Alike (condition.formula d place ps).fragment
      (condition.formula d place' ps').fragment := by
  have hone : Alike (ps.headD []) (ps'.headD []) := by
    cases hp with
    | nil => exact .nil
    | cons hq _ => exact hq
  unfold formula
  split
  · exact equality_alike h false _ hone
  · exact equality_alike h true _ hone
  · exact relate_alike (orderable_alike h) .greater hone
  · exact relate_alike (orderable_alike h) .greaterEqual hone
  · exact relate_alike (orderable_alike h) .less hone
  · exact relate_alike (orderable_alike h) .lessEqual hone
  · exact membership_alike h false hp
  · exact membership_alike h true hp
  · exact matching_alike h _ hone
  · exact isPresent_alike h _
  · exact typed_alike h _
  · exact .refl _

/-- One condition on two fields of one kind. -/
theorem compile_alike (h : t.Agree t') (hkind : t.layout.kind field = t'.layout.kind field')
    {condition : Condition} {c c₁ c' c₁' : Nat} {p p' : Predicate}
    (hp : (condition.compile t field).run c = (.ok p, c₁))
    (hp' : (condition.compile t' field').run c' = (.ok p', c₁')) :
    Alike p.condition.fragment p'.condition.fragment := by
  rw [(made_of_compile hp).1.condition_eq, (made_of_compile hp').1.condition_eq, h.dialect]
  exact formula_alike (locate_alike h hkind)
    (placeholders_alike _ condition.arity c c' field field') condition

end Condition

/-! ## Joined predicates -/

namespace Predicate

/-- Predicates whose texts are alike, one to one. -/
abbrev AlikeAll (ps ps' : List Predicate) : Prop :=
  List.Forall₂ (fun p p' => Alike p.condition.fragment p'.condition.fragment) ps ps'

variable {ps ps' : List Predicate} {p p' : Predicate}

theorem AlikeAll.conditions (h : AlikeAll ps ps') :
    Formula.AlikeAll (ps.map condition) (ps'.map condition) :=
  List.forall₂_map_left_iff.mpr (List.forall₂_map_right_iff.mpr h)

theorem all_alike (h : AlikeAll ps ps') :
    Alike (all ps).condition.fragment (all ps').condition.fragment :=
  Formula.all_alike h.conditions

theorem any_alike (h : AlikeAll ps ps') :
    Alike (any ps).condition.fragment (any ps').condition.fragment :=
  Formula.any_alike h.conditions

theorem conjoin_alike (h : AlikeAll ps ps') :
    Alike (conjoin ps).condition.fragment (conjoin ps').condition.fragment := by
  cases h with
  | nil => exact .refl _
  | cons hp hrest =>
    cases hrest with
    | nil => exact hp
    | cons hq hrest => exact all_alike (.cons hp (.cons hq hrest))

theorem combine_alike (h : AlikeAll ps ps') {op : Connective} (hp : combine op ps = .ok p)
    (hp' : combine op ps' = .ok p') : Alike p.condition.fragment p'.condition.fragment := by
  cases op with
  | and =>
    rw [← Except.ok.inj hp, ← Except.ok.inj hp']
    exact all_alike h
  | or =>
    rw [← Except.ok.inj hp, ← Except.ok.inj hp']
    exact any_alike h
  | nor =>
    rw [← Except.ok.inj hp, ← Except.ok.inj hp']
    exact Formula.not_alike (any_alike h)
  | not =>
    cases h with
    | nil => exact nomatch hp
    | cons hq hrest =>
      cases hrest with
      | nil =>
        rw [← Except.ok.inj hp, ← Except.ok.inj hp']
        exact Formula.not_alike hq
      | cons _ _ => exact nomatch hp

end Predicate

/-! ## Trees -/

namespace Condition

theorem compileAll_alike {t t' : Target} (h : t.Agree t') {field field' : String}
    (hkind : t.layout.kind field = t'.layout.kind field') {conditions : List Condition}
    {c c₁ c' c₁' : Nat} {ps ps' : List Predicate}
    (hps : (compileAll t field conditions).run c = (.ok ps, c₁))
    (hps' : (compileAll t' field' conditions).run c' = (.ok ps', c₁')) :
    Predicate.AlikeAll ps ps' := by
  induction conditions generalizing c c₁ c' c₁' ps ps' with
  | nil =>
    rw [← Except.ok.inj (Prod.mk.inj hps).1, ← Except.ok.inj (Prod.mk.inj hps').1]
    exact .nil
  | cons q rest ih =>
    obtain ⟨p, qs, c₂, hp, hqs, rfl⟩ := Minting.exists_of_run_cons hps
    obtain ⟨p', qs', c₂', hp', hqs', rfl⟩ := Minting.exists_of_run_cons hps'
    exact .cons (compile_alike h hkind hp hp') (ih hqs hqs')

end Condition

namespace Filter

variable {t t' : Target}

mutual

/-- Filters with one outline are compiled to alike texts. -/
theorem compile_alike (h : t.Agree t') : ∀ (f f' : Filter),
    f.outline t.layout = f'.outline t'.layout →
      ∀ {c c₁ c' c₁' : Nat} {p p' : Predicate}, (f.compile t).run c = (.ok p, c₁) →
        (f'.compile t').run c' = (.ok p', c₁') →
          Alike p.condition.fragment p'.condition.fragment
  | .all fs, .all fs', ho, c, c₁, c', c₁', p, p', hp, hp' => by
    obtain ⟨ps, hps, rfl⟩ := Minting.exists_of_run_map hp
    obtain ⟨ps', hps', rfl⟩ := Minting.exists_of_run_map hp'
    exact Predicate.conjoin_alike (compileAll_alike h fs fs' (Outline.all.inj ho) hps hps')
  | .field name conditions, .field name' conditions', ho, c, c₁, c', c₁', p, p', hp, hp' => by
    obtain ⟨hkind, rfl⟩ := Outline.field.inj ho
    obtain ⟨ps, hps, rfl⟩ := Minting.exists_of_run_map hp
    obtain ⟨ps', hps', rfl⟩ := Minting.exists_of_run_map hp'
    exact Predicate.conjoin_alike (Condition.compileAll_alike h hkind hps hps')
  | .joined op fs, .joined op' fs', ho, c, c₁, c', c₁', p, p', hp, hp' => by
    obtain ⟨rfl, hfs⟩ := Outline.joined.inj ho
    obtain ⟨ps, hps, hcombine⟩ := Minting.exists_of_run_check hp
    obtain ⟨ps', hps', hcombine'⟩ := Minting.exists_of_run_check hp'
    exact Predicate.combine_alike (compileAll_alike h fs fs' hfs hps hps') hcombine hcombine'
  | .all _, .field _ _, ho, _, _, _, _, _, _, _, _ => nomatch ho
  | .all _, .joined _ _, ho, _, _, _, _, _, _, _, _ => nomatch ho
  | .field _ _, .all _, ho, _, _, _, _, _, _, _, _ => nomatch ho
  | .field _ _, .joined _ _, ho, _, _, _, _, _, _, _, _ => nomatch ho
  | .joined _ _, .all _, ho, _, _, _, _, _, _, _, _ => nomatch ho
  | .joined _ _, .field _ _, ho, _, _, _, _, _, _, _, _ => nomatch ho

/-- Filters with the same outlines are compiled to alike texts, one to one. -/
theorem compileAll_alike (h : t.Agree t') : ∀ (fs fs' : List Filter),
    outlines t.layout fs = outlines t'.layout fs' →
      ∀ {c c₁ c' c₁' : Nat} {ps ps' : List Predicate},
        (compileAll t fs).run c = (.ok ps, c₁) →
          (compileAll t' fs').run c' = (.ok ps', c₁') → Predicate.AlikeAll ps ps'
  | [], [], _, c, c₁, c', c₁', ps, ps', hps, hps' => by
    rw [← Except.ok.inj (Prod.mk.inj hps).1, ← Except.ok.inj (Prod.mk.inj hps').1]
    exact .nil
  | f :: rest, f' :: rest', ho, c, c₁, c', c₁', ps, ps', hps, hps' => by
    obtain ⟨hf, hrest⟩ := List.cons.inj ho
    obtain ⟨p, qs, c₂, hp, hqs, rfl⟩ := Minting.exists_of_run_cons hps
    obtain ⟨p', qs', c₂', hp', hqs', rfl⟩ := Minting.exists_of_run_cons hps'
    exact .cons (compile_alike h f f' hf hp hp') (compileAll_alike h rest rest' hrest hqs hqs')
  | [], _ :: _, ho, _, _, _, _, _, _, _, _ => nomatch ho
  | _ :: _, [], ho, _, _, _, _, _, _, _, _ => nomatch ho

end

end Filter
end DocFilter
