import DocFilter.Proofs.Filter.Admissible
import DocFilter.Proofs.Filter.Truth

/-!
# Comparisons that exclude values

A comparison that asks for a value leaves open what it says of a document without the field,
and the negation of it leaves the same open.  The comparisons that exclude values do not: they
are conditions of their own, which also hold where there is no value
(`Dialect.orAbsent`), so each document meets exactly one of the two
(`Condition.excludes_of_compile`).

This needs two things of the database: of two values that are there, `<>` holds when `=` does
not; and a parameter has a value unless `NULL` was bound to it.  `NULL` never is: one among the
elements of a list would leave the whole comparison open.
-/

namespace DocFilter

open Sql

variable {V : Type} {row : Row V} {look look' : String → Bound}

/-! ## Truth values that exclude each other -/

namespace Sql

/-- A truth value that is known, and true exactly where another is not. -/
structure Truth.Excludes (j k : Truth) : Prop where
  known : j ≠ .unknown
  yes_iff : j = .yes ↔ k ≠ .yes

/-- The opposite of a known truth excludes it. -/
theorem Truth.not_excludes {k : Truth} (h : k ≠ .unknown) : k.not.Excludes k := by
  constructor
  · exact fun hk => h (not_eq_unknown.mp hk)
  · cases k with
    | yes => simp [not]
    | no => simp [not]
    | unknown => exact absurd rfl h

/-- What a database makes of the values of a row, whatever the values are. -/
structure Row.Sound (row : Row V) (d : Dialect) : Prop where
  /-- Two values are different when they are not equal. -/
  notEqual : ∀ a b, row.relates .notEqual a b = !row.relates .equal a b
  /-- A parameter has a value unless `NULL` is bound to it. -/
  parameter : ∀ b, b ≠ .null → (row.value (d.placeholder "") [b]).isSome
  /-- An object or array that is bound has a value when it is compared as JSON. -/
  jsonParameter : ∀ v, v.isStructured = true →
    (row.value (d.jsonParameter (d.placeholder "")) [.json v]).isSome

/-- A row where one expression has this value, or none, and every other is missing; a
parameter is the text of what is bound to it. -/
def Row.holding (subject : Fragment) (content : Option String) : Row String where
  value f bounds :=
    match bounds with
    | [.null] => none
    | [.text s] => some s
    | [b] => some b.toJson.text
    | _ => if f = subject then content else none
  relates relation a b :=
    match relation with
    | .equal => a == b
    | .notEqual => a != b
    | _ => false
  likes _ _ _ := false
  test _ _ := .unknown

theorem Row.holding_sound (subject : Fragment) (content : Option String) (d : Dialect) :
    (Row.holding subject content).Sound d where
  notEqual _ _ := rfl
  parameter b hb := by
    cases b with
    | null => exact absurd rfl hb
    | _ => rfl
  jsonParameter _ _ := rfl

/-! ## Conditions that also hold where there is no value -/

namespace Row

/-- No missing value is equal to one of several. -/
theorem amongst_ne_yes {subject : Fragment} (h : row.eval look subject = none)
    (choices : List Fragment) : row.amongst look subject choices ≠ .yes := by
  rw [amongst, h]
  induction choices with
  | nil => exact Truth.noConfusion
  | cons f choices ih =>
    have hcons : Truth.any ((f :: choices).map fun f => row.compare .equal none (row.eval look f)) =
        Truth.unknown.or (Truth.any (choices.map fun f =>
          row.compare .equal none (row.eval look f))) := rfl
    rw [hcons]
    cases hrest : Truth.any (choices.map fun f => row.compare .equal none (row.eval look f)) with
    | yes => exact absurd hrest ih
    | no => exact Truth.noConfusion
    | unknown => exact Truth.noConfusion

/-- Where both values are there, they are different when they are not equal. -/
theorem Sound.compare_notEqual {d : Dialect} (hrow : row.Sound d) {a b : Option V}
    (ha : a.isSome) (hb : b.isSome) :
    row.compare .notEqual a b = (row.compare .equal a b).not := by
  obtain ⟨x, rfl⟩ := Option.isSome_iff_exists.mp ha
  obtain ⟨y, rfl⟩ := Option.isSome_iff_exists.mp hb
  rw [compare, compare, hrow.notEqual]
  cases row.relates .equal x y <;> rfl

end Row

/-- A condition is excluded by its negation, or no value at all: the condition has to be no
more than open where there is no value, and known where there is one. -/
theorem orAbsent_excludes {subject : Fragment} {a : Atom} {k : Truth}
    (hmissing : row.eval look subject = none → k ≠ .yes)
    (hpresent : (row.eval look subject).isSome → a.truth row look = k.not ∧ k ≠ .unknown) :
    ((Dialect.orAbsent subject a).truth row look).Excludes k := by
  have htruth : (Dialect.orAbsent subject a).truth row look =
      (Truth.ofBool (row.eval look subject).isNone).or (a.truth row look) :=
    congrArg (Truth.or _) (Truth.or_no _)
  rw [htruth]
  cases hvalue : row.eval look subject with
  | none => exact ⟨Truth.noConfusion, fun _ => hmissing hvalue, fun _ => rfl⟩
  | some x =>
    obtain ⟨ha, hk⟩ := hpresent (by rw [hvalue]; rfl)
    have hno : (Truth.ofBool (some x).isNone).or k.not = k.not := by cases k <;> rfl
    rw [ha, hno]
    exact Truth.not_excludes hk

/-- A value is different from another, or missing, exactly where it is not equal to it. -/
theorem differs_excludes {d : Dialect} (hrow : row.Sound d)
    {subject parameter parameter' : Fragment}
    (hsubject : row.eval look subject = row.eval look' subject)
    (hparameter : row.eval look parameter = row.eval look' parameter')
    (hsome : (row.eval look' parameter').isSome) :
    ((Dialect.orAbsent subject (.compare subject .notEqual parameter)).truth row look).Excludes
      ((Dialect.relate subject .equal parameter').truth row look') := by
  refine orAbsent_excludes (fun hnone => ?_) fun hpresent => ⟨?_, ?_⟩
  · rw [hsubject] at hnone
    rw [Dialect.relate, Formula.truth, Atom.truth, hnone]
    exact Truth.noConfusion
  · rw [hsubject] at hpresent
    rw [Atom.truth, hsubject, hparameter]
    exact hrow.compare_notEqual hpresent hsome
  · rw [hsubject] at hpresent
    exact Row.compare_ne_unknown hpresent hsome

/-- A value is none of several, or missing, exactly where it is not one of them. -/
theorem notAmong_excludes {subject : Fragment} {parameters parameters' : List Fragment}
    (hsubject : row.eval look subject = row.eval look' subject)
    (hparameters : parameters.map (row.eval look) = parameters'.map (row.eval look'))
    (hsome : ∀ f ∈ parameters', (row.eval look' f).isSome) :
    ((Dialect.orAbsent subject (.notAmong subject parameters)).truth row look).Excludes
      (Formula.truth row look' (.atom (.among subject parameters'))) := by
  have hamongst : row.amongst look subject parameters = row.amongst look' subject parameters' := by
    have hmap (look : String → Bound) (fs : List Fragment) : row.amongst look subject fs =
        .any ((fs.map (row.eval look)).map (row.compare .equal (row.eval look subject))) := by
      rw [Row.amongst, List.map_map]
      rfl
    rw [hmap, hmap, hparameters, hsubject]
  refine orAbsent_excludes (fun hnone => ?_) fun hpresent => ⟨?_, ?_⟩
  · exact Row.amongst_ne_yes (hsubject ▸ hnone) parameters'
  · exact congrArg Truth.not hamongst
  · exact Row.amongst_ne_unknown (hsubject ▸ hpresent) hsome

end Sql

/-! ## What is bound -/

/-- Only null is bound as `NULL`. -/
theorem Bound.textOf_ne_null {v : Json} (h : v.type ≠ .null) : Bound.textOf v ≠ .null := by
  cases v with
  | null => exact absurd rfl h
  | _ => exact Bound.noConfusion

/-- Distinct names are looked up as the values they are bound to. -/
theorem Bindings.map_lookup_zip {ns : List String} {vs : List Bound} (hn : ns.Nodup)
    (hl : ns.length = vs.length) : ns.map (Bindings.lookup (ns.zip vs)) = vs := by
  induction ns generalizing vs with
  | nil => exact (List.length_eq_zero_iff.mp hl.symm).symm
  | cons n ns ih =>
    cases vs with
    | nil => exact absurd hl (by simp)
    | cons v vs =>
      obtain ⟨hnot, hnodup⟩ := List.nodup_cons.mp hn
      have hhead : Bindings.lookup ((n, v) :: ns.zip vs) n = v := by
        rw [lookup, Dict.find?_cons, if_pos rfl, Option.getD_some]
      have htail : ∀ m ∈ ns,
          Bindings.lookup ((n, v) :: ns.zip vs) m = Bindings.lookup (ns.zip vs) m := by
        intro m hm
        have hne : n ≠ m := fun heq => hnot (heq ▸ hm)
        rw [lookup, lookup, Dict.find?_cons, if_neg hne]
      rw [List.zip_cons_cons, List.map_cons, hhead, List.map_congr_left htail,
        ih hnodup (Nat.succ.inj hl)]

namespace Condition

/-- A condition that excludes what another one asks for. -/
inductive Excludes : Condition → Condition → Prop
  /-- A value, which may be an object or an array. -/
  | value {v : Json} (hv : v.type ≠ .null) (options options' : Option String) :
    Excludes ⟨.notEqual, v, options⟩ ⟨.equal, v, options'⟩
  /-- Each of several scalars, of which there may be none. -/
  | values {vs : List Json} (hvs : ∀ v ∈ vs, v.isScalar = true) (options options' : Option String) :
    Excludes ⟨.notAmong, .array vs, options⟩ ⟨.among, .array vs, options'⟩

variable {t : Target} {field : String} {ns : List String} {c c' : Condition} {place : Location}

namespace Excludes

theorem arity_eq (h : c.Excludes c') : c.arity = c'.arity := by
  cases h with
  | value => rfl
  | values => rfl

theorem values_eq (h : c.Excludes c') (d : Dialect) (place : Location) :
    c.values d place = c'.values d place := by
  cases h with
  | value => rfl
  | values => rfl

/-- Nothing is bound as `NULL`. -/
theorem values_ne_null (h : c.Excludes c') (d : Dialect) (hplace : place.isIdentity = false) :
    ∀ b ∈ c'.values d place, b ≠ .null := by
  cases h with
  | @value v hv =>
    intro b hb
    have hb : b = equalityBound place v := List.mem_singleton.mp hb
    rw [hb, equalityBound, Location.scalarBound, hplace]
    cases v.isStructured with
    | true => exact Bound.noConfusion
    | false => exact Bound.textOf_ne_null hv
  | @values vs hvs =>
    intro b hb
    obtain ⟨v, hv, rfl⟩ := List.mem_map.mp hb
    have htype : v.type ≠ .null := fun hnull => by
      have hscalar := hvs v hv
      cases v with
      | null => exact absurd hscalar Bool.false_ne_true
      | _ => exact absurd hnull JsonType.noConfusion
    rw [Location.scalarBound, hplace]
    exact Bound.textOf_ne_null htype

end Excludes

/-! ## Both conditions compile -/

/-- A value is compared with a field of the document, whatever the value is. -/
theorem Excludes.course_fault {isPattern : String → Bool} {l : Layout} (h : c.Excludes c')
    (hplace : (l.locate field).isIdentity = false) :
    (c.course isPattern l field).fault = none ∧ (c'.course isPattern l field).fault = none := by
  cases h with
  | @value v hv =>
    have haccepts : (v.type != .null) = true := bne_iff_ne.mpr hv
    have hequality (negated : Bool) : (equalityCourse l field negated v).fault = none := by
      refine equalityCourse_fault_eq_none_iff.mpr fun hidentity => ?_
      rw [Layout.isIdentity_locate, Layout.isIdentity, beq_iff_eq.mpr hidentity] at hplace
      exact absurd hplace (by simp)
    constructor
    · rw [course, Comparison.accepts, if_pos haccepts]
      exact hequality true
    · rw [course, Comparison.accepts, if_pos haccepts]
      exact hequality false
  | values hvs =>
    exact ⟨elementsCourse_fault_eq_none_iff.mpr hvs, elementsCourse_fault_eq_none_iff.mpr hvs⟩

/-! ## Exactly one of them is met -/

/-- The names of a condition are looked up as the values that it binds. -/
theorem map_lookup_predicate (t : Target) (field : String) (hn : ns.Nodup)
    (hl : ns.length = c.arity) :
    ns.map (Bindings.lookup (c.predicate t field ns).bindings) =
      c.values t.dialect (t.layout.locate field) := by
  rw [bindings_predicate hn hl]
  exact Bindings.map_lookup_zip hn (hl.trans (length_values _ _ c).symm)

theorem eval_of_names_eq_nil {f : Fragment} (h : f.names = []) :
    row.eval look f = row.eval look' f :=
  Row.eval_congr fun _ hname => absurd (h ▸ hname) List.not_mem_nil

theorem eval_jsonParameter (d : Dialect) (name : String) :
    row.eval look (d.jsonParameter (d.placeholder name)) =
      row.value (d.jsonParameter (d.placeholder "")) [look name] := by
  cases d <;> rfl

section Truth

variable {d : Dialect} {column : Fragment} {path : Path} {n n' : String}

/-- Of an equality and the condition that excludes it, a row meets one. -/
theorem equality_excludes (hrow : row.Sound d) (hcolumn : d.Operand [] column) {v : Json}
    (hv : v.type ≠ .null) (hlook : look n = equalityBound (.document column path) v)
    (hlook' : look' n' = equalityBound (.document column path) v) :
    ((d.equality (.document column path) true v.isStructured (d.placeholder n)).truth
        row look).Excludes
      ((d.equality (.document column path) false v.isStructured (d.placeholder n')).truth
        row look') := by
  have hsame : look n = look' n' := hlook.trans hlook'.symm
  cases hs : v.isStructured with
  | true =>
    have hbound : look' n' = .json v := by
      rw [hlook', equalityBound, hs]
      rfl
    have hsubject : row.eval look (d.jsonAt column path) = row.eval look' (d.jsonAt column path) :=
      eval_of_names_eq_nil (Dialect.jsonAt_operand hcolumn path).names_eq
    refine differs_excludes hrow hsubject ?_ ?_
    · rw [eval_jsonParameter, eval_jsonParameter, hsame]
    · rw [eval_jsonParameter, hbound]
      exact hrow.jsonParameter v hs
  | false =>
    have hbound : look' n' = Bound.textOf v := by
      rw [hlook', equalityBound, hs]
      rfl
    have hsubject : row.eval look (d.textAt column path) = row.eval look' (d.textAt column path) :=
      eval_of_names_eq_nil (Dialect.textAt_operand hcolumn path).names_eq
    refine differs_excludes hrow hsubject (congrArg (row.value _ [·]) hsame) ?_
    exact hrow.parameter (look' n') (hbound ▸ Bound.textOf_ne_null hv)

/-- Of a membership and the condition that excludes it, a row meets one. -/
theorem membership_excludes (hrow : row.Sound d) (hcolumn : d.Operand [] column)
    {ns ns' : List String} (hlook : ns.map look = ns'.map look')
    (hbound : ∀ b ∈ ns'.map look', b ≠ .null) :
    ((d.membership (.document column path) true (ns.map d.placeholder)).truth row look).Excludes
      ((d.membership (.document column path) false (ns'.map d.placeholder)).truth row look') := by
  cases ns' with
  | nil =>
    obtain rfl : ns = [] := List.map_eq_nil_iff.mp hlook
    have hnever : Formula.never.truth row look' ≠ .unknown := Truth.noConfusion
    exact Truth.not_excludes hnever
  | cons n' ns' =>
    cases ns with
    | nil => exact absurd hlook (List.cons_ne_nil _ _).symm
    | cons n ns =>
      have hsubject : row.eval look (d.textAt column path) =
          row.eval look' (d.textAt column path) :=
        eval_of_names_eq_nil (Dialect.textAt_operand hcolumn path).names_eq
      have hplaces (look : String → Bound) (names : List String) :
          (names.map d.placeholder).map (row.eval look) =
            (names.map look).map fun b => row.value (d.placeholder "") [b] := by
        rw [List.map_map, List.map_map]
        rfl
      refine notAmong_excludes hsubject ?_ ?_
      · exact (hplaces _ (n :: ns)).trans ((congrArg _ hlook).trans (hplaces _ (n' :: ns')).symm)
      · intro f hf
        obtain ⟨name, hname, rfl⟩ := List.mem_map.mp hf
        exact hrow.parameter (look' name) (hbound _ (List.mem_map_of_mem hname))

end Truth

/-- Of a condition and the one that excludes it, a row meets one, whatever their names. -/
theorem Excludes.truth_predicate (h : c.Excludes c') (hfield : field ≠ t.layout.identityField)
    (hrow : row.Sound t.dialect) {ns' : List String} (hn : ns.Nodup) (hl : ns.length = c.arity)
    (hn' : ns'.Nodup) (hl' : ns'.length = c'.arity) :
    ((c.predicate t field ns).truth row).Excludes ((c'.predicate t field ns').truth row) := by
  have hvalues := map_lookup_predicate t field hn hl
  have hvalues' := map_lookup_predicate t field hn' hl'
  have hlocate := Layout.locate_of_ne hfield
  have hplace : (t.layout.locate field).isIdentity = false :=
    (t.layout.isIdentity_locate field).trans (beq_false_of_ne hfield)
  have hnull := h.values_ne_null t.dialect hplace
  have hcolumn : t.dialect.Operand [] (Sql.column t.layout.documentColumn) :=
    Dialect.column_operand _
  unfold Predicate.truth
  generalize Bindings.lookup (c.predicate t field ns).bindings = look at hvalues ⊢
  generalize Bindings.lookup (c'.predicate t field ns').bindings = look' at hvalues' ⊢
  dsimp only [predicate]
  rw [hlocate] at hvalues hvalues' hnull ⊢
  cases h with
  | value hv =>
    obtain ⟨n, rfl⟩ := List.length_eq_one_iff.mp hl
    obtain ⟨n', rfl⟩ := List.length_eq_one_iff.mp hl'
    exact equality_excludes hrow hcolumn hv (List.head_eq_of_cons_eq hvalues)
      (List.head_eq_of_cons_eq hvalues')
  | values hvs =>
    rw [← hvalues'] at hnull
    exact membership_excludes hrow hcolumn (hvalues.trans hvalues'.symm) hnull

/-- A condition on a field of the document and the one that excludes it compile, from any
counters, and bind no `NULL`; and whatever value a row has for the field, or if it has none, the
truth of the excluding condition is known, and it is true exactly where the other is not. -/
theorem excludes_of_compile (h : c.Excludes c') (hfield : field ≠ t.layout.identityField)
    (hrow : row.Sound t.dialect) (n n' : Nat) :
    ∃ p p', (c.compile t field).run n = (.ok p, n + c.arity) ∧
      (c'.compile t field).run n' = (.ok p', n' + c'.arity) ∧
      (∀ b ∈ p.bindings.values ++ p'.bindings.values, b ≠ .null) ∧
      (p.truth row).Excludes (p'.truth row) := by
  have hplace : (t.layout.locate field).isIdentity = false :=
    (t.layout.isIdentity_locate field).trans (beq_false_of_ne hfield)
  obtain ⟨hfault, hfault'⟩ := h.course_fault hplace
  have hlength (c : Condition) (n : Nat) :
      (parameterNames n (List.replicate c.arity field)).length = c.arity := by
    rw [length_parameterNames, List.length_replicate]
  have hbindings (c : Condition) (n : Nat) :
      (c.predicate t field (parameterNames n (List.replicate c.arity field))).bindings.values =
        c.values t.dialect (t.layout.locate field) := by
    rw [bindings_predicate (nodup_parameterNames _ _) (hlength c n),
      Dict.values_zip ((hlength c n).trans (length_values _ _ c).symm)]
  refine ⟨_, _, run_compile_of_fault hfault n, run_compile_of_fault hfault' n', ?_, ?_⟩
  · intro b hb
    rw [hbindings, hbindings, h.values_eq, List.mem_append, or_self] at hb
    exact h.values_ne_null t.dialect hplace b hb
  · exact h.truth_predicate hfield hrow (nodup_parameterNames _ _) (hlength c n)
      (nodup_parameterNames _ _) (hlength c' n')

/-- A list with a truth value in it, and a document without the field. -/
theorem excludes_of_compile_tags :
    let excluding : Condition := ⟨.notAmong, .array [.bool true, .string "x"], none⟩
    let asking : Condition := ⟨.among, .array [.bool true, .string "x"], some "i"⟩
    let t : Target := ⟨.sqlServer, .standard, fun _ => true⟩
    let row := Row.holding (t.dialect.textAt (Sql.column "data") (Path.ofField "tags.0")) none
    excluding.Excludes asking ∧ "tags.0" ≠ t.layout.identityField ∧ row.Sound t.dialect ∧
      ∃ p p', (excluding.compile t "tags.0").run 7 = (.ok p, 9) ∧
        (asking.compile t "tags.0").run 0 = (.ok p', 2) ∧
        (∀ b ∈ p.bindings.values ++ p'.bindings.values, b ≠ .null) ∧
        (p.truth row).Excludes (p'.truth row) := by
  have hexcludes : Excludes ⟨.notAmong, .array [.bool true, .string "x"], none⟩
      ⟨.among, .array [.bool true, .string "x"], some "i"⟩ :=
    Excludes.values (by simp [Json.isScalar]) none (some "i")
  have hrow := Row.holding_sound
    (Dialect.sqlServer.textAt (Sql.column "data") (Path.ofField "tags.0")) none .sqlServer
  have hfield : "tags.0" ≠ Layout.standard.identityField := by decide
  exact ⟨hexcludes, hfield, hrow,
    excludes_of_compile (t := ⟨.sqlServer, .standard, fun _ => true⟩) hexcludes hfield hrow 7 0⟩

end Condition
end DocFilter
