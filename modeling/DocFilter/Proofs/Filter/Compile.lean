import DocFilter.Proofs.Dict
import DocFilter.Proofs.Filter.Formula
import DocFilter.Proofs.Minting

/-!
# What a run of the compiler makes

How many parameters a filter binds can be read off the tree (`Filter.binders`), before
anything is compiled.  A run that is not refused spends exactly as many numbers, and gives
them out in order: the names bound, and the places in the text, are those of the numbers
after the counter (`Filter.compile_fresh`).

What a run makes of a condition is said once (`Condition.Made`): its formula, for the places
of the parameters bound.  `Predicate.Fresh` is what follows for the names in it, `FreshAll`
says so of the predicates made by several steps, and joining keeps both.
-/

namespace DocFilter

open Sql

/-! ## The parameters of a tree -/

/-- The fields that a list of conditions binds parameters for, one for each
parameter. -/
def bindersOf (conditions : List (String × Condition)) : List String :=
  conditions.flatMap fun e => List.replicate e.2.arity e.1

/-- The fields that a filter binds parameters for, one for each parameter, in order. -/
def Filter.binders (f : Filter) : List String := bindersOf f.conditions

theorem bindersOf_append (cs cs' : List (String × Condition)) :
    bindersOf (cs ++ cs') = bindersOf cs ++ bindersOf cs' := List.flatMap_append

/-! ## Predicates with fresh names -/

namespace Predicate

/-- A predicate whose parameters are bound for these fields, by the numbers after a
counter. -/
structure Fresh (d : Dialect) (counter : Nat) (fields : List String) (p : Predicate) :
    Prop where
  clause : d.Clause p.bindings.keys p.condition
  keys_eq : p.bindings.keys = parameterNames counter fields

/-- Predicates whose parameters are bound for these fields, one predicate after the
other. -/
structure FreshAll (d : Dialect) (counter : Nat) (fields : List String) (ps : List Predicate) :
    Prop where
  clause : ∀ p ∈ ps, d.Clause p.bindings.keys p.condition
  keys_eq : ps.flatMap (fun p => p.bindings.keys) = parameterNames counter fields

variable {d : Dialect} {counter : Nat} {fields gs : List String} {p : Predicate}
  {ps : List Predicate}

theorem freshAll_nil : FreshAll d counter [] [] :=
  ⟨fun _ h => absurd h (by simp), rfl⟩

theorem Fresh.cons (hp : p.Fresh d counter fields)
    (hps : FreshAll d (counter + fields.length) gs ps) :
    FreshAll d counter (fields ++ gs) (p :: ps) := by
  refine ⟨fun q hq => ?_, ?_⟩
  · rcases List.mem_cons.mp hq with rfl | hq
    · exact hp.clause
    · exact hps.clause q hq
  · rw [List.flatMap_cons, hp.keys_eq, hps.keys_eq, parameterNames_append]

/-! ## Joining -/

/-- Bindings under different names are all kept, one predicate after the other. -/
theorem mergeBindings_eq (h : (ps.flatMap fun p => p.bindings.keys).Nodup) :
    mergeBindings ps = ps.flatMap bindings := by
  have hfold : ∀ (ps : List Predicate) (acc : Bindings),
      (acc.keys ++ ps.flatMap fun p => p.bindings.keys).Nodup →
      ps.foldl (fun acc p => acc.insertAll p.bindings) acc = acc ++ ps.flatMap bindings := by
    intro ps
    induction ps with
    | nil => exact fun acc _ => (List.append_nil acc).symm
    | cons p ps ih =>
      intro acc hacc
      rw [List.flatMap_cons, ← List.append_assoc] at hacc
      have hp := List.nodup_append.mp (List.nodup_append.mp hacc).1
      have hinsert : acc.insertAll p.bindings = acc ++ p.bindings :=
        Dict.insertAll_of_disjoint hp.2.1 fun k hk hk' => hp.2.2 k hk' k hk rfl
      rw [List.foldl_cons, hinsert, ih _ (by rw [Dict.keys_append]; exact hacc),
        List.flatMap_cons, List.append_assoc]
  exact hfold ps [] h

theorem keys_flatMap (ps : List Predicate) :
    Dict.keys (ps.flatMap bindings) = ps.flatMap fun p => p.bindings.keys := by
  induction ps with
  | nil => rfl
  | cons p ps ih => rw [List.flatMap_cons, Dict.keys_append, ih, List.flatMap_cons]

theorem FreshAll.keys_mergeBindings (h : FreshAll d counter fields ps) :
    (mergeBindings ps).keys = parameterNames counter fields := by
  rw [mergeBindings_eq, keys_flatMap, h.keys_eq]
  rw [h.keys_eq]
  exact nodup_parameterNames counter fields

/-- The places of the parameters in joined conditions are those of the joined
bindings. -/
theorem FreshAll.flatMap_names (h : FreshAll d counter fields ps) :
    (ps.map condition).flatMap (fun φ => φ.fragment.names) = (mergeBindings ps).keys := by
  rw [h.keys_mergeBindings, ← h.keys_eq, List.flatMap_map]
  exact List.flatMap_congr fun p hp => (h.clause p hp).operand.names_eq

theorem FreshAll.clause_condition (h : FreshAll d counter fields ps) :
    ∀ φ ∈ ps.map condition, d.Clause φ.fragment.names φ := by
  intro φ hφ
  obtain ⟨p, hp, rfl⟩ := List.mem_map.mp hφ
  exact (h.clause p hp).self

theorem FreshAll.all (h : FreshAll d counter fields ps) : (all ps).Fresh d counter fields := by
  refine ⟨?_, h.keys_mergeBindings⟩
  have hall := Dialect.all_clause _ h.clause_condition
  rwa [h.flatMap_names] at hall

theorem FreshAll.any (h : FreshAll d counter fields ps) : (any ps).Fresh d counter fields := by
  refine ⟨?_, h.keys_mergeBindings⟩
  have hany := Dialect.any_clause _ h.clause_condition
  rwa [h.flatMap_names] at hany

theorem Fresh.not (h : p.Fresh d counter fields) : p.not.Fresh d counter fields :=
  ⟨Dialect.not_clause h.clause, h.keys_eq⟩

theorem FreshAll.single (h : FreshAll d counter fields [p]) : p.Fresh d counter fields := by
  refine ⟨h.clause p List.mem_cons_self, ?_⟩
  have hk := h.keys_eq
  rwa [List.flatMap_cons, List.flatMap_nil, List.append_nil] at hk

theorem FreshAll.conjoin (h : FreshAll d counter fields ps) :
    (conjoin ps).Fresh d counter fields := by
  unfold Predicate.conjoin
  split
  · exact h.single
  · exact h.all

theorem FreshAll.combine (h : FreshAll d counter fields ps) {op : Connective}
    (hp : combine op ps = .ok p) : p.Fresh d counter fields := by
  unfold Predicate.combine at hp
  split at hp
  · rw [← Except.ok.inj hp]; exact h.all
  · rw [← Except.ok.inj hp]; exact h.any
  · rw [← Except.ok.inj hp]; exact h.any.not
  · rw [← Except.ok.inj hp]; exact h.single.not
  · exact absurd hp (by simp)

end Predicate

/-! ## Conditions -/

namespace Condition

open Predicate

variable {t : Target} {field : String} {c c' : Nat} {p : Predicate}

theorem locate_operand (l : Layout) (field : String) (d : Dialect) :
    d.Operand [] (l.locate field).column := by
  unfold Layout.locate
  split
  · exact Dialect.column_operand _
  · exact Dialect.column_operand _

theorem run_bind (t : Target) (field : String) (c : Nat) :
    (t.bind field).run c =
      (.ok (parameterName field (c + 1), t.dialect.placeholder (parameterName field (c + 1))),
        c + 1) := rfl

/-- A step that binds one parameter, and then makes its predicate from the name and the
place. -/
theorem run_bind_andThen {f : String × Fragment → Minting Predicate}
    (h : ((t.bind field).andThen f).run c = (.ok p, c')) :
    (f (parameterName field (c + 1), t.dialect.placeholder (parameterName field (c + 1)))).run
      (c + 1) = (.ok p, c') := by
  rwa [Minting.run_andThen_of_ok (run_bind t field c)] at h

/-- A run that only gives a result. -/
theorem run_result_eq {q : Predicate} (h : (Minting.result q).run c = (.ok p, c')) :
    q = p ∧ c = c' :=
  ⟨Except.ok.inj (Prod.mk.inj h).1, (Prod.mk.inj h).2⟩

/-- The parameters of a condition on this field, by the numbers after a counter. -/
def parameters (condition : Condition) (field : String) (counter : Nat) : List String :=
  parameterNames counter (List.replicate condition.arity field)

theorem length_parameters (condition : Condition) (field : String) (counter : Nat) :
    (condition.parameters field counter).length = condition.arity := by
  rw [parameters, length_parameterNames, List.length_replicate]

/-- What a run of the compiler makes of a condition: its formula, and the names in it. -/
structure Made (t : Target) (field : String) (counter : Nat) (condition : Condition)
    (p : Predicate) : Prop where
  accepted : condition.operator.accepts condition.operand = true
  condition_eq : p.condition = condition.formula t.dialect (t.layout.locate field)
    ((condition.parameters field counter).map t.dialect.placeholder)
  keys_eq : p.bindings.keys = condition.parameters field counter

/-- A comparison with several parameters of one field is a clause. -/
theorem members_clause {d : Dialect} {place : Location} (hplace : d.Operand [] place.column)
    (negated : Bool) (field : String) (counter n : Nat) :
    d.Clause (parameterNames counter (List.replicate n field))
      (d.membership place negated
        ((parameterNames counter (List.replicate n field)).map d.placeholder)) := by
  generalize hns : parameterNames counter (List.replicate n field) = ns
  have hnames : (ns.map d.placeholder).flatMap Fragment.names = ns := by
    rw [List.flatMap_map]
    exact List.flatMap_singleton' _
  have hoperand : ∀ q ∈ ns.map d.placeholder, d.Operand q.names q := by
    intro q hq
    obtain ⟨name, hname, rfl⟩ := List.mem_map.mp hq
    rw [← hns] at hname
    obtain ⟨f, n, -, -, rfl⟩ := exists_of_mem_parameterNames hname
    exact Dialect.placeholder_operand f n
  have h := Dialect.membership_clause hplace negated hoperand
  rwa [hnames] at h

/-- The formula of a condition on a field is a clause, with its parameters in it. -/
theorem formula_clause {d : Dialect} {place : Location} (hplace : d.Operand [] place.column)
    {condition : Condition} (haccepts : condition.operator.accepts condition.operand = true)
    (field : String) (counter : Nat) :
    d.Clause (condition.parameters field counter)
      (condition.formula d place
        ((condition.parameters field counter).map d.placeholder)) := by
  obtain ⟨operator, operand, options⟩ := condition
  have hone : d.Operand [parameterName field (counter + 1)]
      (d.placeholder (parameterName field (counter + 1))) :=
    Dialect.placeholder_operand field (counter + 1)
  cases operator with
  | equal => exact Dialect.equality_clause hplace hone false _
  | notEqual => exact Dialect.equality_clause hplace hone true _
  | greater => exact Dialect.compares_clause hplace .greater hone
  | greaterEqual => exact Dialect.compares_clause hplace .greaterEqual hone
  | less => exact Dialect.compares_clause hplace .less hone
  | lessEqual => exact Dialect.compares_clause hplace .lessEqual hone
  | among =>
    cases operand with
    | array elements => exact members_clause hplace false field counter elements.length
    | _ => exact absurd haccepts Bool.false_ne_true
  | notAmong =>
    cases operand with
    | array elements => exact members_clause hplace true field counter elements.length
    | _ => exact absurd haccepts Bool.false_ne_true
  | matching => exact Dialect.matching_clause hplace _ hone
  | present =>
    cases operand with
    | bool wanted => exact Dialect.isPresent_clause hplace wanted
    | _ => exact absurd haccepts Bool.false_ne_true
  | ofType =>
    cases operand with
    | string name => exact Dialect.typed_clause hplace name
    | _ => exact absurd haccepts Bool.false_ne_true

/-- A predicate with one parameter, and the formula made from its place. -/
def MadeOne (t : Target) (field : String) (counter : Nat) (φ : Fragment → Formula)
    (p : Predicate) : Prop :=
  p.condition = φ (t.dialect.placeholder (parameterName field (counter + 1))) ∧
    p.bindings.keys = [parameterName field (counter + 1)]

theorem compileEquality_run {negated : Bool} {operand : Json}
    (h : (compileEquality t field negated operand).run c = (.ok p, c')) :
    MadeOne t field c (t.dialect.equality (t.layout.locate field) negated operand.isStructured) p ∧
      c' = c + 1 := by
  have h := run_bind_andThen h
  cases hl : t.layout.locate field with
  | identity column =>
    simp only [hl] at h
    split at h
    · exact absurd (Prod.mk.inj h).1 (by simp)
    · obtain ⟨rfl, rfl⟩ := run_result_eq h
      exact ⟨⟨rfl, rfl⟩, rfl⟩
  | document column path =>
    simp only [hl] at h
    split at h
    · next hs =>
      obtain ⟨rfl, rfl⟩ := run_result_eq h
      rw [hs]
      exact ⟨⟨rfl, rfl⟩, rfl⟩
    · next hs =>
      obtain ⟨rfl, rfl⟩ := run_result_eq h
      rw [Bool.not_eq_true] at hs
      rw [hs]
      exact ⟨⟨rfl, rfl⟩, rfl⟩

theorem compileOrdering_run {comparison : Comparison} {relation : Relation} {operand : Json}
    (h : (compileOrdering t field comparison relation operand).run c = (.ok p, c')) :
    MadeOne t field c (t.dialect.compares (t.layout.locate field) relation) p ∧ c' = c + 1 := by
  unfold compileOrdering at h
  split at h
  · obtain ⟨rfl, rfl⟩ := run_result_eq (run_bind_andThen h)
    exact ⟨⟨rfl, rfl⟩, rfl⟩
  · exact absurd (Prod.mk.inj h).1 (by simp)

/-- The elements of a list get one parameter each, in order. -/
theorem bindElements_run {comparison : Comparison} {elements : List Json}
    {places : List Fragment} {bindings : Bindings}
    (h : (bindElements t field comparison elements).run c = (.ok (places, bindings), c')) :
    places = (parameterNames c (List.replicate elements.length field)).map
        t.dialect.placeholder ∧
      bindings.keys = parameterNames c (List.replicate elements.length field) ∧
      c' = c + elements.length := by
  induction elements generalizing c c' places bindings with
  | nil =>
    obtain ⟨hr, rfl⟩ := Prod.mk.inj h
    obtain ⟨rfl, rfl⟩ := Prod.mk.inj (Except.ok.inj hr)
    exact ⟨rfl, rfl, rfl⟩
  | cons v rest ih =>
    unfold bindElements at h
    split at h
    · rw [Minting.bind_eq_andThen, Minting.run_andThen_of_ok (run_bind t field c)] at h
      obtain ⟨⟨places', bindings'⟩, c₁, hrest, hdone⟩ := Minting.run_andThen_eq_ok.mp h
      obtain ⟨hr, rfl⟩ := Prod.mk.inj hdone
      obtain ⟨rfl, rfl⟩ := Prod.mk.inj (Except.ok.inj hr)
      obtain ⟨rfl, hk, rfl⟩ := ih hrest
      refine ⟨rfl, ?_, ?_⟩
      · rw [List.length_cons, List.replicate_succ, parameterNames, ← hk]
        rfl
      · rw [List.length_cons, Nat.add_right_comm, Nat.add_assoc]
    · exact absurd (Prod.mk.inj h).1 (by simp)

theorem compileMembership_run {negated : Bool} {elements : List Json}
    (h : (compileMembership t field negated elements).run c = (.ok p, c')) :
    p.condition = t.dialect.membership (t.layout.locate field) negated
        ((parameterNames c (List.replicate elements.length field)).map t.dialect.placeholder) ∧
      p.bindings.keys = parameterNames c (List.replicate elements.length field) ∧
      c' = c + elements.length := by
  unfold compileMembership at h
  cases elements with
  | nil =>
    obtain ⟨rfl, rfl⟩ := run_result_eq h
    cases negated with
    | true => exact ⟨rfl, rfl, rfl⟩
    | false => exact ⟨rfl, rfl, rfl⟩
  | cons v rest =>
    obtain ⟨⟨places, bindings⟩, c₁, hbind, hdone⟩ := Minting.run_andThen_eq_ok.mp h
    obtain ⟨rfl, rfl⟩ := run_result_eq hdone
    obtain ⟨rfl, hkeys, hc⟩ := bindElements_run hbind
    have hof : Dict.ofEntries bindings = bindings := by
      refine Dict.ofEntries_of_nodup ?_
      rw [hkeys]
      exact nodup_parameterNames _ _
    refine ⟨rfl, ?_, hc⟩
    simp only [hof]
    exact hkeys

theorem compileMatching_run {pattern : String} {options : PatternOptions}
    (h : (compileMatching t field pattern options).run c = (.ok p, c')) :
    MadeOne t field c (t.dialect.matching (t.layout.locate field) options.ignoreCase) p ∧
      c' = c + 1 := by
  unfold compileMatching at h
  split at h
  · have h := run_bind_andThen h
    dsimp only at h
    unfold MadeOne Dialect.matching
    split at h
    · next hregex =>
      obtain ⟨rfl, rfl⟩ := run_result_eq h
      rw [if_pos hregex]
      exact ⟨⟨rfl, rfl⟩, rfl⟩
    · next hregex =>
      obtain ⟨rfl, rfl⟩ := run_result_eq h
      rw [if_neg hregex]
      exact ⟨⟨rfl, rfl⟩, rfl⟩
  · exact absurd (Prod.mk.inj h).1 (by simp)

/-- Letters that are read set case aside where `i` is among them. -/
theorem ignoreCase_of_readFrom {letters : List Char} {options options' : PatternOptions}
    (h : PatternOptions.readFrom field options letters = .ok options') :
    options'.ignoreCase = (options.ignoreCase || letters.contains 'i') := by
  induction letters generalizing options with
  | nil =>
    rw [← Except.ok.inj h]
    exact (Bool.or_false _).symm
  | cons x letters ih =>
    unfold PatternOptions.readFrom at h
    split_ifs at h with hi hother
    · rw [ih h, hi]
      simp
    · have hx : 'i' ≠ x := fun hx => hi hx.symm
      rw [ih h, List.contains_cons, beq_eq_false_iff_ne.mpr hx, Bool.false_or]

theorem compileType_run (t : Target) (field name : String) :
    (compileType t field name).condition = t.dialect.typed (t.layout.locate field) name ∧
      (compileType t field name).bindings.keys = [] := by
  unfold compileType Dialect.typed
  generalize JsonType.ofName? name = type
  cases type with
  | some type => exact ⟨rfl, rfl⟩
  | none => exact ⟨rfl, rfl⟩

/-- What a condition that compiles is compiled to. -/
theorem made_of_compile {condition : Condition}
    (h : (condition.compile t field).run c = (.ok p, c')) :
    condition.Made t field c p ∧ c' = c + condition.arity := by
  obtain ⟨operator, operand, options⟩ := condition
  have hrefuse {e : QueryError} (h : (Minting.refuse e).run c = (.ok p, c')) : False :=
    absurd (Prod.mk.inj h).1 (by simp)
  unfold compile at h
  split at h
  · exact (hrefuse h).elim
  next hnot =>
  have haccepts : operator.accepts operand = true := by simpa using hnot
  cases operator with
  | equal =>
    obtain ⟨⟨hcondition, hkeys⟩, hc⟩ := compileEquality_run h
    exact ⟨⟨haccepts, hcondition, hkeys⟩, hc⟩
  | notEqual =>
    obtain ⟨⟨hcondition, hkeys⟩, hc⟩ := compileEquality_run h
    exact ⟨⟨haccepts, hcondition, hkeys⟩, hc⟩
  | greater =>
    obtain ⟨⟨hcondition, hkeys⟩, hc⟩ := compileOrdering_run h
    exact ⟨⟨haccepts, hcondition, hkeys⟩, hc⟩
  | greaterEqual =>
    obtain ⟨⟨hcondition, hkeys⟩, hc⟩ := compileOrdering_run h
    exact ⟨⟨haccepts, hcondition, hkeys⟩, hc⟩
  | less =>
    obtain ⟨⟨hcondition, hkeys⟩, hc⟩ := compileOrdering_run h
    exact ⟨⟨haccepts, hcondition, hkeys⟩, hc⟩
  | lessEqual =>
    obtain ⟨⟨hcondition, hkeys⟩, hc⟩ := compileOrdering_run h
    exact ⟨⟨haccepts, hcondition, hkeys⟩, hc⟩
  | among =>
    cases operand with
    | array elements =>
      obtain ⟨hcondition, hkeys, hc⟩ := compileMembership_run h
      exact ⟨⟨haccepts, hcondition, hkeys⟩, hc⟩
    | _ => exact (hrefuse h).elim
  | notAmong =>
    cases operand with
    | array elements =>
      obtain ⟨hcondition, hkeys, hc⟩ := compileMembership_run h
      exact ⟨⟨haccepts, hcondition, hkeys⟩, hc⟩
    | _ => exact (hrefuse h).elim
  | matching =>
    cases operand with
    | string pattern =>
      cases options with
      | none =>
        obtain ⟨⟨hcondition, hkeys⟩, hc⟩ := compileMatching_run h
        exact ⟨⟨haccepts, hcondition, hkeys⟩, hc⟩
      | some letters =>
        obtain ⟨options, c₁, hread, hmatching⟩ := Minting.run_andThen_eq_ok.mp h
        obtain ⟨hoptions, rfl⟩ := Prod.mk.inj hread
        obtain ⟨⟨hcondition, hkeys⟩, hc⟩ := compileMatching_run hmatching
        rw [ignoreCase_of_readFrom hoptions] at hcondition
        exact ⟨⟨haccepts, hcondition, hkeys⟩, hc⟩
    | _ => exact (hrefuse h).elim
  | present =>
    cases operand with
    | bool wanted =>
      obtain ⟨rfl, rfl⟩ := run_result_eq h
      exact ⟨⟨haccepts, rfl, rfl⟩, rfl⟩
    | _ => exact (hrefuse h).elim
  | ofType =>
    cases operand with
    | string name =>
      obtain ⟨rfl, rfl⟩ := run_result_eq h
      obtain ⟨hcondition, hkeys⟩ := compileType_run t field name
      exact ⟨⟨haccepts, hcondition, hkeys⟩, rfl⟩
    | _ => exact (hrefuse h).elim

/-- A condition that compiles binds as many parameters as it asks for. -/
theorem compile_fresh {condition : Condition}
    (h : (condition.compile t field).run c = (.ok p, c')) :
    p.Fresh t.dialect c (List.replicate condition.arity field) ∧ c' = c + condition.arity := by
  obtain ⟨hmade, hc⟩ := made_of_compile h
  refine ⟨⟨?_, hmade.keys_eq⟩, hc⟩
  rw [hmade.condition_eq, hmade.keys_eq]
  exact formula_clause (locate_operand _ _ _) hmade.accepted field c

/-- Conditions on one field, compiled in order. -/
theorem compileAll_fresh {conditions : List Condition} {ps : List Predicate}
    (h : (compileAll t field conditions).run c = (.ok ps, c')) :
    FreshAll t.dialect c (bindersOf (conditions.map fun q => (field, q))) ps ∧
      c' = c + (bindersOf (conditions.map fun q => (field, q))).length := by
  induction conditions generalizing c ps with
  | nil =>
    obtain ⟨hr, rfl⟩ := Prod.mk.inj h
    rw [← Except.ok.inj hr]
    exact ⟨freshAll_nil, rfl⟩
  | cons q rest ih =>
    obtain ⟨p, ps', c₁, hp, hps, rfl⟩ := Minting.exists_of_run_cons h
    obtain ⟨hfresh, rfl⟩ := compile_fresh hp
    obtain ⟨hrest, rfl⟩ := ih hps
    have hbinders : bindersOf ((q :: rest).map fun q => (field, q)) =
        List.replicate q.arity field ++ bindersOf (rest.map fun q => (field, q)) := rfl
    rw [hbinders, List.length_append, List.length_replicate]
    refine ⟨hfresh.cons ?_, (Nat.add_assoc _ _ _)⟩
    rwa [List.length_replicate]

end Condition

/-! ## Trees -/

namespace Filter

open Predicate

variable {t : Target}

mutual

/-- A filter that compiles binds as many parameters as its tree asks for, and numbers them
in order. -/
theorem compile_fresh : ∀ (f : Filter) {c c' : Nat} {p : Predicate},
    (f.compile t).run c = (.ok p, c') →
      p.Fresh t.dialect c f.binders ∧ c' = c + f.binders.length
  | .all children, c, c', p, h => by
    obtain ⟨ps, hps, rfl⟩ := Minting.exists_of_run_map h
    obtain ⟨hfresh, hc⟩ := compileAll_fresh children hps
    exact ⟨hfresh.conjoin, hc⟩
  | .field name conditions, c, c', p, h => by
    obtain ⟨ps, hps, rfl⟩ := Minting.exists_of_run_map h
    obtain ⟨hfresh, hc⟩ := Condition.compileAll_fresh hps
    exact ⟨hfresh.conjoin, hc⟩
  | .joined connective children, c, c', p, h => by
    obtain ⟨ps, hps, hp⟩ := Minting.exists_of_run_check h
    obtain ⟨hfresh, hc⟩ := compileAll_fresh children hps
    exact ⟨hfresh.combine hp, hc⟩

/-- Filters, compiled in order. -/
theorem compileAll_fresh : ∀ (fs : List Filter) {c c' : Nat} {ps : List Predicate},
    (compileAll t fs).run c = (.ok ps, c') →
      FreshAll t.dialect c (bindersOf (conditionsOfAll fs)) ps ∧
        c' = c + (bindersOf (conditionsOfAll fs)).length
  | [], c, c', ps, h => by
    obtain ⟨hr, rfl⟩ := Prod.mk.inj h
    rw [← Except.ok.inj hr]
    exact ⟨freshAll_nil, rfl⟩
  | f :: rest, c, c', ps, h => by
    obtain ⟨p, ps', c₁, hp, hps, rfl⟩ := Minting.exists_of_run_cons h
    obtain ⟨hfresh, rfl⟩ := compile_fresh f hp
    obtain ⟨hrest, rfl⟩ := compileAll_fresh rest hps
    rw [conditionsOfAll, bindersOf_append, List.length_append]
    exact ⟨hfresh.cons hrest, Nat.add_assoc _ _ _⟩

end

end Filter
end DocFilter
