import DocFilter.Proofs.Filter.Depth
import DocFilter.Proofs.Filter.Truth
import DocFilter.Proofs.Query.Course

/-!
# Rows that a negation returns

A row is returned when the condition of a translation is true on it.  The condition of a
negation is the negation of a condition, and that is unknown where the condition is: where
a value that it looks at is missing, a row can be returned neither for a filter nor for its
negation (`Translator.exists_neither_returns`).

`Translator.denies_of_translate` says what holds of all rows.  The truth of a negation is the
opposite of that of what it negates; no row is returned for both; and a row is returned for
one of the two just when the truth of what is negated is known, as it is where no value is
missing.
-/

namespace DocFilter

open Sql

variable {V : Type} {row : Row V}

/-! ## Rows of a translation -/

namespace Translation

/-- The truth of the condition of a translation on a row; no condition is met by every
row. -/
def truth (row : Row V) (out : Translation) : Truth :=
  match out.condition with
  | some φ => φ.truth row (Bindings.lookup out.bindings)
  | none => .yes

/-- The row is among those that the statement returns. -/
def Returns (row : Row V) (out : Translation) : Prop := out.truth row = .yes

/-- Every value that the condition looks at is there. -/
def Valued (row : Row V) (out : Translation) : Prop :=
  ∀ φ ∈ out.condition, φ.Valued row (Bindings.lookup out.bindings)

theorem truth_ne_unknown {out : Translation} (h : out.Valued row) : out.truth row ≠ .unknown := by
  unfold truth
  split
  · next φ hφ => exact Formula.truth_ne_unknown (h φ hφ)
  · exact Truth.noConfusion

/-- What rows a translation returns for which other translations are denied. -/
structure Denies (row : Row V) (out : Translation) (outs : List Translation) : Prop where
  /-- The truth is the opposite of that of any of the others. -/
  truth_eq : out.truth row = (Truth.any (outs.map (truth row))).not
  /-- No row is returned that is also returned for one of the others. -/
  not_returns : out.Returns row → ∀ o ∈ outs, ¬ o.Returns row
  /-- The row is returned exactly when it is returned for none of the others, if and only if it
  is returned for one of them or their truth is known. -/
  returns_iff : (out.Returns row ↔ ∀ o ∈ outs, ¬ o.Returns row) ↔
    (∃ o ∈ outs, o.Returns row) ∨ ∀ o ∈ outs, o.truth row ≠ .unknown
  /-- In particular where every value is there. -/
  returns_of_valued : (∀ o ∈ outs, o.Valued row) →
    (out.Returns row ↔ ∀ o ∈ outs, ¬ o.Returns row)

theorem denies_of_truth_eq {out : Translation} {outs : List Translation}
    (h : out.truth row = (Truth.any (outs.map (truth row))).not) : Denies row out outs := by
  have hreturns : out.Returns row ↔ ∀ o ∈ outs, o.truth row = .no := by
    rw [Returns, h, Truth.not_eq_yes, Truth.any_eq_no, List.forall_mem_map]
  have hnot (hout : out.Returns row) : ∀ o ∈ outs, ¬ o.Returns row := by
    intro o ho hyes
    rw [Returns, hreturns.mp hout o ho] at hyes
    exact Truth.noConfusion hyes
  have hknown (hne : ∀ o ∈ outs, o.truth row ≠ .unknown) :
      out.Returns row ↔ ∀ o ∈ outs, ¬ o.Returns row := by
    constructor
    · exact hnot
    · intro hnone
      rw [hreturns]
      intro o ho
      cases hk : o.truth row with
      | yes => exact absurd hk (hnone o ho)
      | no => rfl
      | unknown => exact absurd hk (hne o ho)
  have hiff : (out.Returns row ↔ ∀ o ∈ outs, ¬ o.Returns row) ↔
      (∃ o ∈ outs, o.Returns row) ∨ ∀ o ∈ outs, o.truth row ≠ .unknown := by
    constructor
    · intro hrule
      by_cases hsome : ∃ o ∈ outs, o.Returns row
      · exact Or.inl hsome
      · -- the row is returned for none of them, so by the rule each of them is false on it
        have hout : out.Returns row := hrule.mpr fun o ho hyes => hsome ⟨o, ho, hyes⟩
        refine Or.inr fun o ho hunknown => ?_
        rw [hreturns.mp hout o ho] at hunknown
        exact Truth.noConfusion hunknown
    · rintro (⟨o, ho, hyes⟩ | hne)
      · exact ⟨hnot, fun hnone => absurd hyes (hnone o ho)⟩
      · exact hknown hne
  exact ⟨h, hnot, hiff, fun hvalued => hknown fun o ho => truth_ne_unknown (hvalued o ho)⟩

end Translation

/-! ## Negations -/

/-- Filters that are to be negated. -/
inductive Denial where
  /-- The one filter is not to match. -/
  | not (filter : Dict String Json)
  /-- None of the filters is to match. -/
  | nor (filters : List (Dict String Json))

namespace Denial

/-- The filters that are not to match. -/
def denied : Denial → List (Dict String Json)
  | .not filter => [filter]
  | .nor filters => filters

/-- The connective that negates them. -/
def connective : Denial → Connective
  | .not _ => .not
  | .nor _ => .nor

/-- The negation as a filter. -/
def filter : Denial → Dict String Json
  | .not filter => [("$not", .object filter)]
  | .nor filters => [("$nor", .array (filters.map .object))]

theorem readMap_filter {limit : Nat} {denial : Denial} {g : Filter}
    (h : Filter.readMap limit denial.filter = .ok g) :
    ∃ gs, List.Forall₂ (fun f g' => Filter.readMap limit f = .ok g') denial.denied gs ∧
      g = .joined denial.connective gs := by
  cases denial with
  | not f =>
    obtain ⟨g', hg', rfl⟩ := Filter.readMap_not h
    exact ⟨[g'], .cons hg' .nil, rfl⟩
  | nor fs => exact Filter.readMap_nor h

/-- Both negations are those of any of the filters. -/
theorem truth_connective (denial : Denial) {ks : List Truth}
    (h : ks.length = denial.denied.length) : denial.connective.truth ks = (Truth.any ks).not := by
  cases denial with
  | not f =>
    obtain ⟨k, rfl⟩ := List.length_eq_one_iff.mp h
    exact congrArg Truth.not ((Truth.and_yes k).trans (Truth.or_no k).symm)
  | nor fs => rfl

end Denial

/-! ## The truth of a translation -/

namespace Translator

open Translation

variable {t : Translator} {c c' : Nat} {out : Translation}

theorem truth_assemble {options : RequestOptions} {keys : List SortKey}
    {projection : Option Projection} {filter : Filter} {ns : List String}
    (h : (filter.course t.isPattern t.layout).fault = none) (hns : filter.Names ns) :
    (t.assemble options keys projection (filter.predicate t.target ns)).truth row =
      filter.truth t.target row := by
  rw [← Filter.truth_predicate h hns, Translation.truth, Predicate.truth, condition_assemble,
    bindings_assemble t options keys projection hns.nodup hns.length_eq]
  have hvoiced := Filter.condition_predicate (t := t.target) filter hns.length_eq
  cases halways : (filter.predicate t.target ns).condition.isAlways with
  | true =>
    rw [Formula.isAlways_eq hvoiced.1] at halways
    unfold Formula.isEmptyAll at halways
    split at halways
    · next hnil =>
      rw [hnil]
      rfl
    · exact absurd halways Bool.false_ne_true
  | false =>
    rw [if_neg Bool.false_ne_true,
      Filter.bindings_predicate filter hns.nodup hns.length_eq]
    rfl

/-- A row meets the condition of a translation as it meets the filter that was read. -/
theorem truth_eq_of_readFilter {r : Request} (h : (t.translate r).run c = (.ok out, c'))
    {f : Filter} (hf : t.readFilter r.filter = .ok f) (row : Row V) :
    out.truth row = f.truth t.target row := by
  obtain ⟨filter, keys, projection, hadmitted, rfl, -⟩ := exists_of_translate h
  rw [Except.ok.inj (hf.symm.trans hadmitted.filter_eq)]
  exact truth_assemble hadmitted.sound (filter.names_parameterNames c)

/-- The same of several filters, each translated as a part of some request, from some
counter. -/
theorem truths_eq_of_readFilter {fs : List (Dict String Json)} {gs : List Filter}
    {outs : List Translation}
    (houts : List.Forall₂ (fun f o => ∃ options c c',
      (t.translate ⟨f, options⟩).run c = (.ok o, c')) fs outs)
    (hgs : List.Forall₂ (fun f g => t.readFilter f = .ok g) fs gs) (row : Row V) :
    outs.map (Translation.truth row) = gs.map (Filter.truth t.target row) := by
  induction houts generalizing gs with
  | nil =>
    rw [List.forall₂_nil_left_iff.mp hgs]
    rfl
  | cons hout _ ih =>
    obtain ⟨g, gs', hg, hrest, rfl⟩ := List.forall₂_cons_left_iff.mp hgs
    obtain ⟨options, c, c', hrun⟩ := hout
    rw [List.map_cons, List.map_cons, truth_eq_of_readFilter hrun hg row, ih hrest]

/-- What is returned for a negation, and what for the filters it negates.  The negation and
the filters may be parts of any requests, and be translated from any counters. -/
theorem denies_of_translate {denial : Denial} {options : RequestOptions}
    (h : (t.translate ⟨denial.filter, options⟩).run c = (.ok out, c')) {outs : List Translation}
    (houts : List.Forall₂ (fun f o => ∃ options c₀ c₁,
      (t.translate ⟨f, options⟩).run c₀ = (.ok o, c₁)) denial.denied outs) (row : Row V) :
    Denies row out outs := by
  obtain ⟨filter, keys, projection, hadmitted, -, -⟩ := exists_of_translate h
  obtain ⟨gs, hgs, rfl⟩ := Denial.readMap_filter hadmitted.filter_eq
  refine denies_of_truth_eq ?_
  rw [truth_eq_of_readFilter h hadmitted.filter_eq, Filter.truth_joined hadmitted.sound,
    truths_eq_of_readFilter houts hgs]
  refine Denial.truth_connective denial ?_
  rw [List.length_map, hgs.length_eq]

/-- An empty document, for filters that look at two fields of it. -/
theorem denies_of_translate_sqlServer : ∃ options out c' outs,
    ((permissive .sqlServer).translate ⟨Denial.filter (.nor
      [[("a", .string "x")], [("b.0", .object [("$nin", .array [.bool true])])]]), options⟩).run 3 =
        (.ok out, c') ∧
    List.Forall₂ (fun f o => ∃ options c₀ c₁,
      ((permissive .sqlServer).translate ⟨f, options⟩).run c₀ = (.ok o, c₁))
      [[("a", .string "x")], [("b.0", .object [("$nin", .array [.bool true])])]] outs ∧
    Denies (Row.empty (Sql.column "id")) out outs := by
  obtain ⟨out, c', h⟩ := Minting.exists_run_eq_ok (x := (permissive .sqlServer).translate
    ⟨Denial.filter (.nor
      [[("a", .string "x")], [("b.0", .object [("$nin", .array [.bool true])])]]), .none⟩)
    (c := 3) rfl
  obtain ⟨o₁, c₁, h₁⟩ := Minting.exists_run_eq_ok (x := (permissive .sqlServer).translate
    (.ofFilter [("a", .string "x")])) (c := 0) rfl
  obtain ⟨o₂, c₂, h₂⟩ := Minting.exists_run_eq_ok (x := (permissive .sqlServer).translate
    (.ofFilter [("b.0", .object [("$nin", .array [.bool true])])])) (c := 7) rfl
  have houts : List.Forall₂ (fun f o => ∃ options c₀ c₁,
      ((permissive .sqlServer).translate ⟨f, options⟩).run c₀ = (.ok o, c₁))
      [[("a", .string "x")], [("b.0", .object [("$nin", .array [.bool true])])]] [o₁, o₂] :=
    .cons ⟨.none, 0, c₁, h₁⟩ (.cons ⟨.none, 7, c₂, h₂⟩ .nil)
  exact ⟨.none, out, c', [o₁, o₂], h, houts, denies_of_translate h houts _⟩

/-- An empty document has an identity, and is returned neither for an equality nor for its
negation, while the comparison that excludes the value returns it. -/
theorem exists_neither_returns : ∃ row f out out' differing c c' c'',
    row = Row.empty (Sql.column "id") ∧ f = [("a", Json.string "x")] ∧
    ((permissive .postgres).translate (.ofFilter f)).run 0 = (.ok out, c) ∧
    ((permissive .postgres).translate (.ofFilter (Denial.not f).filter)).run 0 = (.ok out', c') ∧
    ((permissive .postgres).translate
      (.ofFilter [("a", .object [("$ne", .string "x")])])).run 0 = (.ok differing, c'') ∧
    (row.value (Sql.column "id") []).isSome = true ∧
    ¬ (out'.Returns row ↔ ¬ out.Returns row) ∧ differing.Returns row := by
  obtain ⟨out, c, h⟩ := Minting.exists_run_eq_ok (x := (permissive .postgres).translate
    (.ofFilter [("a", .string "x")])) (c := 0) rfl
  obtain ⟨out', c', h'⟩ := Minting.exists_run_eq_ok (x := (permissive .postgres).translate
    (.ofFilter (Denial.not [("a", .string "x")]).filter)) (c := 0) rfl
  obtain ⟨differing, c'', h''⟩ := Minting.exists_run_eq_ok (x := (permissive .postgres).translate
    (.ofFilter [("a", .object [("$ne", .string "x")])])) (c := 0) rfl
  let row := Row.empty (Sql.column "id")
  have hunknown : out.truth row = .unknown :=
    truth_eq_of_readFilter h (f := .field "a" [⟨.equal, .string "x", none⟩]) rfl row
  have hunknown' : out'.truth row = .unknown :=
    truth_eq_of_readFilter h'
      (f := .joined .not [.field "a" [⟨.equal, .string "x", none⟩]]) rfl row
  have hdiffers : differing.truth row = .yes :=
    truth_eq_of_readFilter h'' (f := .field "a" [⟨.notEqual, .string "x", none⟩]) rfl row
  have hneither : ¬ (out'.Returns row ↔ ¬ out.Returns row) := by
    rw [Returns, Returns, hunknown, hunknown']
    decide
  exact ⟨row, _, out, out', differing, c, c', c'', rfl, rfl, h, h', h'', rfl, hneither, hdiffers⟩

end Translator
end DocFilter
