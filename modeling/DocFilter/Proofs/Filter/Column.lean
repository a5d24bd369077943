import DocFilter.Proofs.Dialect.Address
import DocFilter.Proofs.Dialect.Column

/-!
# How the column of a condition is read

A column stands in a statement as it is configured, or between double quotes where it has to be
quoted.  MySQL, as it is set up by default, reads what stands between double quotes as a string.
So a condition on a field is about the column that is configured for it exactly if the column
does not have to be quoted (`Condition.readAs_of_compile`); otherwise it compares a constant, and
where the name holds a backslash, the string can even go on behind it
(`Condition.exists_column_as_string`).
-/

namespace DocFilter

/-! ## The column of a field -/

open Sql Sql.Fragment

/-- The name of the column that a field is looked for in. -/
def Layout.columnName (l : Layout) (field : String) : String :=
  if l.isIdentity field then l.identityColumn else l.documentColumn

theorem Layout.column_locate (l : Layout) (field : String) :
    (l.locate field).column = Sql.column (l.columnName field) := by
  unfold locate columnName
  split <;> rfl

namespace Condition

variable {place : Location} {c : Condition} {ps : List Fragment}

/-- A condition stands around the column of its place, unless it does not look at it. -/
theorem around_formula (haccepts : c.operator.accepts c.operand = true)
    (hdecided : c.isDecided = false) (hlength : ps.length = c.arity)
    (hps : ∀ p ∈ ps, Beside place.column p) :
    Around place.column (c.formula .mySql place ps).fragment := by
  obtain ⟨operator, operand, options⟩ := c
  have hp : Beside place.column (ps.headD []) := by
    cases ps with
    | nil => exact beside_nil
    | cons p ps => exact hps p List.mem_cons_self
  have hne {elements : List Json} (hl : ps.length = elements.length)
      (hsome : elements.isEmpty = false) : ps ≠ [] := by
    rintro rfl
    rw [List.eq_nil_of_length_eq_zero hl.symm] at hsome
    exact absurd hsome (by simp)
  have horderable := Dialect.around_orderable place
  cases operator with
  | equal => exact Dialect.around_equality false _ hp
  | notEqual => exact Dialect.around_equality true _ hp
  | greater => exact around_compare horderable .greater hp
  | greaterEqual => exact around_compare horderable .greaterEqual hp
  | less => exact around_compare horderable .less hp
  | lessEqual => exact around_compare horderable .lessEqual hp
  | among =>
    cases operand with
    | array elements => exact Dialect.around_membership false (hne hlength hdecided) hps
    | _ => exact absurd haccepts Bool.false_ne_true
  | notAmong =>
    cases operand with
    | array elements => exact Dialect.around_membership true (hne hlength hdecided) hps
    | _ => exact absurd haccepts Bool.false_ne_true
  | matching => exact Dialect.around_matching _ hp
  | present =>
    cases operand with
    | bool wanted => exact Dialect.around_isPresent place wanted
    | _ => exact absurd haccepts Bool.false_ne_true
  | ofType =>
    cases operand with
    | string name =>
      unfold formula Dialect.typed
      unfold isDecided at hdecided
      dsimp only at hdecided ⊢
      cases htype : JsonType.ofName? name with
      | some type => exact Dialect.around_hasType place type
      | none =>
        rw [htype] at hdecided
        exact absurd hdecided (by simp)
    | _ => exact absurd haccepts Bool.false_ne_true

/-! ## In a condition that compiles -/

/-- In a condition that compiles, whatever it is, all but the column is plain. -/
theorem beside_of_compile {t : Target} {field : String} {n n' : Nat} {p : Predicate}
    (hd : t.dialect = .mySql) (h : (c.compile t field).run n = (.ok p, n')) :
    Dialect.mySql.Laid p.condition.fragment ∧
      Beside (Sql.column (t.layout.columnName field)) p.condition.fragment ∧
      (c.isDecided = false →
        Sql.column (t.layout.columnName field) <:+: p.condition.fragment) := by
  obtain ⟨hmade, -⟩ := made_of_compile h
  have hlength : ((c.parameters field n).map t.dialect.placeholder).length = c.arity := by
    rw [List.length_map, length_parameters]
  have hps : ∀ q ∈ (c.parameters field n).map t.dialect.placeholder,
      Beside (t.layout.locate field).column q := by
    intro q hq
    obtain ⟨name, -, rfl⟩ := List.mem_map.mp hq
    exact beside_placeholder _ name
  have hclause := formula_clause (locate_operand t.layout field t.dialect) hmade.accepted field n
  have hcondition := hmade.condition_eq
  rw [← hcondition] at hclause
  rw [hd] at hclause hcondition hps hlength
  rw [← Layout.column_locate]
  refine ⟨hclause.operand.laid, ?_⟩
  cases hdecided : c.isDecided with
  | false =>
    have haround := around_formula hmade.accepted hdecided hlength hps
    rw [hcondition]
    exact ⟨haround.rest, fun _ => haround.held⟩
  | true =>
    refine ⟨?_, fun hfalse => absurd hfalse (by simp)⟩
    rw [hcondition]
    obtain hconstant | hconstant := formula_of_isDecided (d := .mySql) _ hdecided hlength
    · rw [hconstant]
      exact beside_sql (by decide)
    · rw [hconstant]
      exact beside_sql (by decide)

/-- A condition that looks at its field has the column of the field in it; and wherever in a
condition that column stands, MySQL reads it as one name, the configured one, exactly if the
column does not have to be quoted.  If it has to be and no backslash stands in it, what is read
in its place is a string. -/
theorem readAs_of_compile {t : Target} {field : String} {n n' : Nat} {p : Predicate}
    (hd : t.dialect = .mySql) (h : (c.compile t field).run n = (.ok p, n')) :
    (c.isDecided = false → Sql.column (t.layout.columnName field) <:+: p.condition.fragment) ∧
    ∀ before after, p.condition.fragment =
        before ++ Sql.column (t.layout.columnName field) ++ after →
      (Backquoted.ReadAs (t.layout.columnName field).toList before.chars
          (Sql.column (t.layout.columnName field)).chars after.chars ↔
        needsQuoting (t.layout.columnName field) = false) ∧
      (needsQuoting (t.layout.columnName field) = true →
        '\\' ∉ (t.layout.columnName field).toList →
        Backquoted.lex p.text.toList = some (before.tokens.map Token.asLiteral ++
          .literal (t.layout.columnName field).toList :: after.tokens.map Token.asLiteral)) := by
  obtain ⟨hlaid, hrest, hheld⟩ := beside_of_compile hd h
  refine ⟨hheld, fun before after hsplit => ⟨readAs_iff hlaid hrest hsplit, ?_⟩⟩
  intro hquoting hslash
  rw [Predicate.text, Formula.text, Fragment.text, String.toList_ofList]
  exact lex_of_needsQuoting hlaid hrest hsplit hquoting hslash

/-- A list on a field of the documents, in a column that stands bare, with backquotes in the
path. -/
theorem readAs_of_compile_among : ∃ (p : Predicate) (before after : Fragment),
    ((⟨.notAmong, .array [.string "it's", .bool true], none⟩ : Condition).compile
      ⟨.mySql, ⟨"_id", "order", "doc_1"⟩, fun _ => true⟩ "a.`b`").run 0 = (.ok p, 2) ∧
    p.condition.fragment = before ++ Sql.column "doc_1" ++ after ∧
    Backquoted.ReadAs "doc_1".toList before.chars (Sql.column "doc_1").chars after.chars := by
  let t : Target := ⟨.mySql, ⟨"_id", "order", "doc_1"⟩, fun _ => true⟩
  let c : Condition := ⟨.notAmong, .array [.string "it's", .bool true], none⟩
  obtain ⟨p, hcompile⟩ : ∃ p, (c.compile t "a.`b`").run 0 = (.ok p, 2) := ⟨_, rfl⟩
  have hname : t.layout.columnName "a.`b`" = "doc_1" := by decide
  have hread := readAs_of_compile (t := t) rfl hcompile
  rw [hname] at hread
  obtain ⟨before, after, hsplit⟩ := hread.1 rfl
  exact ⟨p, before, after, hcompile, hsplit.symm,
    (hread.2 before after hsplit.symm).1.mpr (by decide)⟩

/-- A reserved word, which is read as a string, and a name that leaves the quote open. -/
theorem exists_column_as_string : ∃ p p' : Predicate,
    ((⟨.equal, .string "x", none⟩ : Condition).compile
      ⟨.mySql, ⟨"_id", "order", "data"⟩, fun _ => true⟩ "_id").run 0 = (.ok p, 1) ∧
    p.text = "\"order\" = :p__id_1" ∧
    Backquoted.lex p.text.toList = some [.literal "order".toList, .symbol ' ', .symbol '=',
      .symbol ' ', .symbol ':', .word "p__id_1".toList] ∧
    ((⟨.equal, .string "x", none⟩ : Condition).compile
      ⟨.mySql, ⟨"_id", "a\\", "data"⟩, fun _ => true⟩ "_id").run 0 = (.ok p', 1) ∧
    Backquoted.lex p'.text.toList = none :=
  ⟨_, _, rfl, by decide +kernel, by decide +kernel, rfl, by decide +kernel⟩

end Condition
end DocFilter
