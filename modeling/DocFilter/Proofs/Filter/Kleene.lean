import DocFilter.Proofs.Query.Translator

/-!
# A translation says what its filter says

A filter has a truth value of its own, by the rules of three-valued logic: the entries of a
map and the conditions on a field are joined by "and", a connective joins its children as
its name says, and a condition on a field has the truth that its own text is read with
(`Filter.kleene`).  The truth of the whole text is the same (`truth_of_translate`),
whatever the truth of the conditions of its own is.

`Filter.kleene` takes the steps of `Filter.compile` and asks for the same numbers, so that
the text of a condition on a field is the very text that stands in the whole.
-/

namespace DocFilter

open Sql

variable {t : Target} {v : List Nested → Truth}

/-! ## The truth of a filter -/

/-- The truth of the members joined by a connective. -/
def Connective.truth : Connective → List Truth → Truth
  | .and, ks => .all ks
  | .or, ks => .any ks
  | .not, ks => (Truth.all ks).not
  | .nor, ks => (Truth.any ks).not

namespace Condition

/-- The truth of a condition on a field: that of its own text. -/
def kleene (t : Target) (v : List Nested → Truth) (field : String) (c : Condition) :
    Minting (Option Truth) := do
  let p ← c.compile t field
  return truth? t.dialect.literalStyle v p.text

/-- The truth of each of the conditions on a field. -/
def kleeneAll (t : Target) (v : List Nested → Truth) (field : String) :
    List Condition → Minting (Option (List Truth))
  | [] => pure (some [])
  | c :: rest => do
    let k ← c.kleene t v field
    let ks ← kleeneAll t v field rest
    return k.bind fun k => ks.map (k :: ·)

end Condition

namespace Filter

mutual

/-- The truth of a filter. -/
def kleene (t : Target) (v : List Nested → Truth) : Filter → Minting (Option Truth)
  | .all children => do
    let ks ← kleeneAll t v children
    return ks.map Truth.all
  | .field name conditions => do
    let ks ← Condition.kleeneAll t v name conditions
    return ks.map Truth.all
  | .joined connective children => do
    let ks ← kleeneAll t v children
    return ks.map connective.truth

/-- The truth of each filter. -/
def kleeneAll (t : Target) (v : List Nested → Truth) :
    List Filter → Minting (Option (List Truth))
  | [] => pure (some [])
  | f :: rest => do
    let k ← f.kleene t v
    let ks ← kleeneAll t v rest
    return k.bind fun k => ks.map (k :: ·)

end

end Filter

/-! ## Joined predicates -/

namespace Predicate

/-- The condition of the predicate is read as a condition with this truth. -/
def HasTruth (v : List Nested → Truth) (p : Predicate) (k : Truth) : Prop :=
  ∃ r, p.condition.fragment.Reads r ∧ r.value v = k

variable {p : Predicate} {ps : List Predicate} {k : Truth} {ks : List Truth}

/-- The text of a predicate has the truth of its reading. -/
theorem truth?_of_reads {d : Dialect} {names : List String} {r : Reading}
    (h : d.Operand names p.condition.fragment) (hr : p.condition.fragment.Reads r) :
    truth? d.literalStyle v p.text = some (r.value v) := by
  rw [truth?, text, Formula.text, Fragment.text, String.toList_ofList, read_chars h hr]
  exact congrArg some (Reading.value_alone v r)

theorem exists_readings (h : List.Forall₂ (HasTruth v) ps ks) :
    ∃ rs, List.Forall₂ (fun φ r => Formula.fragment φ |>.Reads r) (ps.map condition) rs ∧
      rs.map (Reading.value v) = ks := by
  induction h with
  | nil => exact ⟨[], .nil, rfl⟩
  | cons hp _ ih =>
    obtain ⟨r, hr, rfl⟩ := hp
    obtain ⟨rs, hrs, rfl⟩ := ih
    exact ⟨r :: rs, .cons hr hrs, rfl⟩

theorem all_hasTruth (h : List.Forall₂ (HasTruth v) ps ks) :
    (all ps).HasTruth v (.all ks) := by
  obtain ⟨rs, hrs, rfl⟩ := exists_readings h
  cases ps with
  | nil =>
    rw [List.forall₂_nil_left_iff.mp hrs]
    exact ⟨.always, always_reads, rfl⟩
  | cons p ps =>
    obtain ⟨r, rs, -, -, rfl⟩ := List.forall₂_cons_left_iff.mp hrs
    refine ⟨_, all_reads hrs, ?_⟩
    rw [Reading.value, Reading.values, Reading.value, Reading.values_eq_map]
    exact Truth.or_no _

theorem any_hasTruth (h : List.Forall₂ (HasTruth v) ps ks) :
    (any ps).HasTruth v (.any ks) := by
  obtain ⟨rs, hrs, rfl⟩ := exists_readings h
  cases ps with
  | nil =>
    rw [List.forall₂_nil_left_iff.mp hrs]
    exact ⟨.never, never_reads, rfl⟩
  | cons p ps =>
    obtain ⟨r, rs, -, -, rfl⟩ := List.forall₂_cons_left_iff.mp hrs
    refine ⟨_, any_reads hrs, ?_⟩
    have hsingle (r : Reading) : Reading.value v (.all [r]) = r.value v := Truth.and_yes _
    rw [Reading.value, Reading.values_eq_map, List.map_map]
    exact congrArg Truth.any (List.map_congr_left fun r _ => hsingle r)

theorem not_hasTruth (h : p.HasTruth v k) : p.not.HasTruth v k.not := by
  obtain ⟨r, hr, rfl⟩ := h
  refine ⟨_, not_reads hr, ?_⟩
  rw [Reading.value, Reading.value_alone]

theorem conjoin_hasTruth (h : List.Forall₂ (HasTruth v) ps ks) :
    (conjoin ps).HasTruth v (.all ks) := by
  unfold conjoin
  split
  · obtain ⟨k, ks', hp, hnil, rfl⟩ := List.forall₂_cons_left_iff.mp h
    rw [List.forall₂_nil_left_iff.mp hnil]
    obtain ⟨r, hr, rfl⟩ := hp
    exact ⟨r, hr, (Truth.and_yes _).symm⟩
  · exact all_hasTruth h

theorem combine_hasTruth (h : List.Forall₂ (HasTruth v) ps ks) {op : Connective}
    (hp : combine op ps = .ok p) : p.HasTruth v (op.truth ks) := by
  unfold combine at hp
  split at hp
  · rw [← Except.ok.inj hp]; exact all_hasTruth h
  · rw [← Except.ok.inj hp]; exact any_hasTruth h
  · rw [← Except.ok.inj hp]; exact not_hasTruth (any_hasTruth h)
  · obtain ⟨k, ks', hk, hnil, rfl⟩ := List.forall₂_cons_left_iff.mp h
    rw [← Except.ok.inj hp, List.forall₂_nil_left_iff.mp hnil]
    have hnot := not_hasTruth hk
    rwa [← Truth.and_yes k] at hnot
  · exact absurd hp (by simp)

end Predicate

/-! ## The truth of a compiled filter -/

namespace Condition

open Predicate

variable {field : String} {c c' : Nat} {p : Predicate}

theorem kleene_of_compile {condition : Condition}
    (h : (condition.compile t field).run c = (.ok p, c')) :
    ∃ k, p.HasTruth v k ∧ (condition.kleene t v field).run c = (.ok (some k), c') := by
  have hclause := (compile_fresh h).1.clause
  obtain ⟨r, hr⟩ := hclause.reads
  refine ⟨r.value v, ⟨r, hr, rfl⟩, ?_⟩
  rw [kleene, Minting.bind_eq_andThen, Minting.run_andThen_of_ok h,
    truth?_of_reads hclause.operand hr]
  rfl

theorem kleeneAll_of_compileAll {conditions : List Condition} {ps : List Predicate}
    (h : (compileAll t field conditions).run c = (.ok ps, c')) :
    ∃ ks, List.Forall₂ (HasTruth v) ps ks ∧
      (kleeneAll t v field conditions).run c = (.ok (some ks), c') := by
  induction conditions generalizing c ps with
  | nil =>
    obtain ⟨hr, rfl⟩ := Prod.mk.inj h
    rw [← Except.ok.inj hr]
    exact ⟨[], .nil, rfl⟩
  | cons q rest ih =>
    obtain ⟨p, ps', c₁, hp, hps, rfl⟩ := Minting.exists_of_run_cons h
    obtain ⟨k, hk, hrun⟩ := kleene_of_compile (v := v) hp
    obtain ⟨ks, hks, hrest⟩ := ih hps
    refine ⟨k :: ks, .cons hk hks, ?_⟩
    rw [kleeneAll, Minting.bind_eq_andThen, Minting.run_andThen_of_ok hrun,
      Minting.bind_eq_andThen, Minting.run_andThen_of_ok hrest]
    rfl

end Condition

namespace Filter

open Predicate

mutual

/-- A compiled filter is read with the truth of the filter. -/
theorem kleene_of_compile : ∀ (f : Filter) {c c' : Nat} {p : Predicate},
    (f.compile t).run c = (.ok p, c') →
      ∃ k, p.HasTruth v k ∧ (f.kleene t v).run c = (.ok (some k), c')
  | .all children, c, c', p, h => by
    obtain ⟨ps, hps, rfl⟩ := Minting.exists_of_run_map h
    obtain ⟨ks, hks, hrun⟩ := kleeneAll_of_compileAll children hps
    refine ⟨.all ks, conjoin_hasTruth hks, ?_⟩
    rw [kleene, Minting.bind_eq_andThen, Minting.run_andThen_of_ok hrun]
    rfl
  | .field name conditions, c, c', p, h => by
    obtain ⟨ps, hps, rfl⟩ := Minting.exists_of_run_map h
    obtain ⟨ks, hks, hrun⟩ := Condition.kleeneAll_of_compileAll hps
    refine ⟨.all ks, conjoin_hasTruth hks, ?_⟩
    rw [kleene, Minting.bind_eq_andThen, Minting.run_andThen_of_ok hrun]
    rfl
  | .joined connective children, c, c', p, h => by
    obtain ⟨ps, hps, hp⟩ := Minting.exists_of_run_check h
    obtain ⟨ks, hks, hrun⟩ := kleeneAll_of_compileAll children hps
    refine ⟨connective.truth ks, combine_hasTruth hks hp, ?_⟩
    rw [kleene, Minting.bind_eq_andThen, Minting.run_andThen_of_ok hrun]
    rfl

/-- Compiled filters are read with the truth of the filters. -/
theorem kleeneAll_of_compileAll : ∀ (fs : List Filter) {c c' : Nat} {ps : List Predicate},
    (compileAll t fs).run c = (.ok ps, c') →
      ∃ ks, List.Forall₂ (HasTruth v) ps ks ∧
        (kleeneAll t v fs).run c = (.ok (some ks), c')
  | [], c, c', ps, h => by
    obtain ⟨hr, rfl⟩ := Prod.mk.inj h
    rw [← Except.ok.inj hr]
    exact ⟨[], .nil, rfl⟩
  | f :: rest, c, c', ps, h => by
    obtain ⟨p, ps', c₁, hp, hps, rfl⟩ := Minting.exists_of_run_cons h
    obtain ⟨k, hk, hrun⟩ := kleene_of_compile f hp
    obtain ⟨ks, hks, hrest⟩ := kleeneAll_of_compileAll rest hps
    refine ⟨k :: ks, .cons hk hks, ?_⟩
    rw [kleeneAll, Minting.bind_eq_andThen, Minting.run_andThen_of_ok hrun,
      Minting.bind_eq_andThen, Minting.run_andThen_of_ok hrest]
    rfl

end

end Filter

/-! ## The truth of a translation -/

/-- The truth of the condition of a translation; no condition is met by every row. -/
def Translation.truth? (out : Translation) (d : Dialect) (v : List Nested → Truth) :
    Option Truth :=
  match out.conditionText with
  | some text => Sql.truth? d.literalStyle v text
  | none => some .yes

namespace Translator

variable {t : Translator} {c c' : Nat} {out : Translation}

/-- What is written as `1=1` is true. -/
theorem value_of_isAlways {d : Dialect} {names : List String} {φ : Formula} {r : Reading}
    (hφ : d.Operand names φ.fragment) (hr : φ.fragment.Reads r) (h : φ.isAlways = true) :
    r.value v = .yes := by
  have hread := read_chars hφ hr
  rw [Formula.chars_of_isAlways h, read_chars Dialect.always_clause.operand always_reads] at hread
  have hvalue := congrArg (Reading.value v) (Option.some.inj hread)
  rw [Reading.value_alone, Reading.value_alone] at hvalue
  exact hvalue.symm

/-- Reading the condition of a translation back gives the truth of the filter that was
translated. -/
theorem truth_of_translate {r : Request} (h : (t.translate r).run c = (.ok out, c'))
    (v : List Nested → Truth) :
    ∃ filter k, t.readFilter r.filter = .ok filter ∧
      (filter.kleene t.target v).run c = (.ok (some k), c') ∧
      out.truth? t.dialect v = some k := by
  obtain ⟨filter, hfilter, hread⟩ := translate_eq_ok.mp h
  obtain ⟨p, keys, hp, -, hcondition, -, -⟩ := translateRead_eq_ok hread
  obtain ⟨k, ⟨r', hr', rfl⟩, hrun⟩ := Filter.kleene_of_compile (v := v) filter hp
  have hclause := (Filter.compile_fresh filter hp).1.clause
  refine ⟨filter, _, hfilter, hrun, ?_⟩
  by_cases halways : p.condition.isAlways = true
  · rw [if_pos halways] at hcondition
    rw [value_of_isAlways hclause.operand hr' halways, Translation.truth?,
      Translation.conditionText, hcondition]
    rfl
  · rw [if_neg halways] at hcondition
    rw [Translation.truth?, Translation.conditionText, hcondition]
    exact Predicate.truth?_of_reads hclause.operand hr'

/-- Negations of a list and of conditions that cannot be met, for the dialect whose text for
a missing entry has a query in it. -/
theorem truth_of_translate_sqlServer : ∃ out c' filter k,
    ((permissive .sqlServer).translate (.ofFilter [("$nor", .array [
      .object [("a.b", .object [("$nin", .array [.string "x", .bool true])])],
      .object [("$not", .object [("or", .object [("$in", .array []),
        ("$exists", .bool false)])])]])])).run 7 = (.ok out, c') ∧
    (permissive .sqlServer).readFilter [("$nor", .array [
      .object [("a.b", .object [("$nin", .array [.string "x", .bool true])])],
      .object [("$not", .object [("or", .object [("$in", .array []),
        ("$exists", .bool false)])])]])] = .ok filter ∧
    (filter.kleene (permissive .sqlServer).target fun _ => .unknown).run 7 =
      (.ok (some k), c') ∧
    out.truth? .sqlServer (fun _ => .unknown) = some k := by
  obtain ⟨out, c', h⟩ := Minting.exists_run_eq_ok (x := (permissive .sqlServer).translate
    (.ofFilter [("$nor", .array [
      .object [("a.b", .object [("$nin", .array [.string "x", .bool true])])],
      .object [("$not", .object [("or", .object [("$in", .array []),
        ("$exists", .bool false)])])]])])) (c := 7) rfl
  obtain ⟨filter, k, hfilter, hrun, htruth⟩ := truth_of_translate h fun _ => .unknown
  exact ⟨out, c', filter, k, h, hfilter, hrun, htruth⟩

end Translator
end DocFilter
