import DocFilter.Dialect.Condition
import DocFilter.Proofs.Dialect.Extraction
import DocFilter.Proofs.Dialect.Reading

/-!
# Conditions are clauses

Every condition a dialect has for a place is a clause, and so is whatever is joined from
clauses: what could be torn apart stands in parentheses, and every atom has a word or a
symbol of its own outside of them.  The places of parameters in a condition are those of
the parameters it was built with, in order.
-/

namespace DocFilter

/-- The column a place is in. -/
def Location.column : Location → Sql.Fragment
  | .identity column => column
  | .document column _ => column

namespace Dialect

open Sql Sql.Fragment

variable {d : Dialect} {ns ms : List String} {f g subject column parameter : Fragment}
  {place : Location}

/-! ## Atoms -/

theorem relate_clause (hf : d.Operand ns f) (relation : Relation) (hg : d.Operand ms g) :
    d.Clause (ns ++ ms) (relate f relation g) := by
  have hs : saysFirst (" " ++ relation.symbol ++ " ") = true := by cases relation <;> rfl
  exact .of_solid (hf.linked _ (by cases relation <;> decide) hg)
    (solid_append (solid_behind hf (solid_sql hs)) g)

theorem among_clause (hf : d.Operand [] f) {choices : List Fragment} (hne : choices ≠ [])
    (h : ∀ c ∈ choices, d.Operand c.names c) :
    d.Clause (choices.flatMap names) (.atom (.among f choices)) := by
  have hin : (sql " IN (").Solid := solid_sql rfl
  exact .of_solid
    ((hf.linked " IN (" (by decide) (join_spans choices hne h)).closed ")" (by decide))
    (solid_append (solid_append (solid_behind hf hin) _) _)

theorem notAmong_clause (hf : d.Operand [] f) {choices : List Fragment} (hne : choices ≠ [])
    (h : ∀ c ∈ choices, d.Operand c.names c) :
    d.Clause (choices.flatMap names) (.atom (.notAmong f choices)) := by
  have hnotIn : (sql " NOT IN (").Solid := solid_sql rfl
  exact .of_solid
    ((hf.linked " NOT IN (" (by decide) (join_spans choices hne h)).closed ")" (by decide))
    (solid_append (solid_append (solid_behind hf hnotIn) _) _)

theorem like_clause {escape : Fragment} (hf : d.Operand [] f) (hg : d.Operand ns g)
    (he : d.Operand [] escape) : d.Clause ns (.atom (.like f g escape)) := by
  have h := (hf.linked " LIKE " (by decide) hg).linked " ESCAPE " (by decide) he
  rw [List.append_nil] at h
  have hlike : (sql " LIKE ").Solid := solid_sql rfl
  exact .of_solid h (solid_append (solid_append (solid_append (solid_behind hf hlike) _) _) _)

theorem isNull_clause (hf : d.Operand ns f) : d.Clause ns (.atom (.isNull f)) :=
  .of_solid (hf.closed " IS NULL" (by decide)) (solid_behind hf (solid_sql rfl))

theorem isNotNull_clause (hf : d.Operand ns f) : d.Clause ns (.atom (.isNotNull f)) :=
  .of_solid (hf.closed " IS NOT NULL" (by decide)) (solid_behind hf (solid_sql rfl))

theorem nonNullIf_clause (wanted : Bool) (hf : d.Operand ns f) :
    d.Clause ns (nonNullIf wanted f) := by
  cases wanted with
  | true => exact isNotNull_clause hf
  | false => exact isNull_clause hf

theorem call_solid (function : String) (h : saysFirst (function ++ "(") = true)
    (arguments : List Fragment) : (call function arguments).Solid :=
  solid_append (solid_append (solid_sql h) _) _

/-- A call that says what it asks, or its negation. -/
theorem holdsIf_clause (wanted : Bool) (hf : d.Operand ns f) (hs : f.Solid) :
    d.Clause ns (holdsIf wanted f) := by
  cases wanted with
  | true => exact .of_solid hf hs
  | false =>
    have hnot : d.Operand [] (sql "NOT ") := spans_sql (by decide)
    exact .of_solid (Spans.opened "NOT " (by decide) hf) (solid_behind hnot hs)

/-! ## Formulas -/

/-- A first member of a parenthesis, and further ones. -/
theorem tail_spans (word : String)
    (hw : (shifts [.paren] [.paren] word && startsApart word && endsApart word) = true)
    (fs : List Formula) (h : ∀ φ ∈ fs, d.Operand φ.fragment.names φ.fragment)
    (hf : d.Spans [.paren] [.paren] ns f) :
    d.Spans [.paren] [.paren] (ns ++ fs.flatMap fun φ => φ.fragment.names)
      (f ++ Formula.tailFragment word fs) := by
  induction fs generalizing f ns with
  | nil =>
    rw [Formula.tailFragment, List.append_nil, List.flatMap_nil, List.append_nil]
    exact hf
  | cons φ fs ih =>
    have hφ := (h φ List.mem_cons_self).within [.paren]
    have hrest := ih (fun ψ hψ => h ψ (List.mem_cons_of_mem _ hψ)) (hf.linked word hw hφ)
    rw [Formula.tailFragment, ← List.append_assoc, ← List.append_assoc, List.flatMap_cons,
      ← List.append_assoc]
    exact hrest

theorem always_clause : d.Clause [] .always := ⟨spans_sql (by decide), .always, always_reads⟩

theorem never_clause : d.Clause [] .never := ⟨spans_sql (by decide), .never, never_reads⟩

theorem all_clause (fs : List Formula) (h : ∀ φ ∈ fs, d.Clause φ.fragment.names φ) :
    d.Clause (fs.flatMap fun φ => φ.fragment.names) (.all fs) := by
  obtain ⟨rs, hrs⟩ := Clause.exists_readings h
  cases hrs with
  | nil => exact always_clause
  | @cons φ r fs rs hφ hrest =>
    refine ⟨Spans.enclosed "(" (by decide) (tail_spans _ (by decide) fs
      (fun ψ hψ => (h ψ (List.mem_cons_of_mem _ hψ)).operand)
      ((h φ List.mem_cons_self).operand.within [.paren])), _, all_reads (.cons hφ hrest)⟩

theorem any_clause (fs : List Formula) (h : ∀ φ ∈ fs, d.Clause φ.fragment.names φ) :
    d.Clause (fs.flatMap fun φ => φ.fragment.names) (.any fs) := by
  obtain ⟨rs, hrs⟩ := Clause.exists_readings h
  cases hrs with
  | nil => exact never_clause
  | @cons φ r fs rs hφ hrest =>
    refine ⟨Spans.enclosed "(" (by decide) (tail_spans _ (by decide) fs
      (fun ψ hψ => (h ψ (List.mem_cons_of_mem _ hψ)).operand)
      ((h φ List.mem_cons_self).operand.within [.paren])), _, any_reads (.cons hφ hrest)⟩

theorem not_clause {φ : Formula} (h : d.Clause ns φ) : d.Clause ns (.not φ) := by
  obtain ⟨r, hr⟩ := h.reads
  exact ⟨Spans.enclosed "NOT (" (by decide) (h.operand.within [.paren]), _, not_reads hr⟩

theorem orAbsent_clause (hs : d.Operand [] subject) {a : Atom} (ha : d.Clause ns (.atom a)) :
    d.Clause ns (orAbsent subject a) := by
  have hnull := isNull_clause hs
  have hnames : [Formula.atom (.isNull subject), .atom a].flatMap
      (fun φ => φ.fragment.names) = ns := by
    rw [List.flatMap_cons, List.flatMap_cons, List.flatMap_nil, List.append_nil,
      hnull.operand.names_eq, ha.operand.names_eq, List.nil_append]
  have hany := any_clause [.atom (.isNull subject), .atom a] fun φ hφ => by
    rcases List.mem_cons.mp hφ with rfl | hφ
    · exact hnull.self
    · rw [List.mem_singleton.mp hφ]
      exact ha.self
  rwa [hnames] at hany

/-! ## Places -/

theorem comparable_operand (h : d.Operand [] place.column) :
    d.Operand [] (d.comparable place) := by
  cases place with
  | identity column => exact h
  | document column path => exact textAt_operand h path

theorem orderable_operand (h : d.Operand [] place.column) :
    d.Operand [] (d.orderable place) := by
  cases place with
  | identity column => exact h
  | document column path => exact numberAt_operand h path

theorem readable_operand (h : d.Operand [] place.column) :
    d.Operand [] (d.readable place) := by
  cases place with
  | identity column => exact columnAsText_operand h
  | document column path => exact textAt_operand h path

/-! ## Equality, ordering, membership -/

theorem equals_clause (h : d.Operand [] place.column) (hp : d.Operand ns parameter) :
    d.Clause ns (d.equals place parameter) :=
  relate_clause (comparable_operand h) .equal hp

theorem differs_clause (h : d.Operand [] place.column) (hp : d.Operand ns parameter) :
    d.Clause ns (d.differs place parameter) := by
  cases place with
  | identity column => exact relate_clause h .notEqual hp
  | document column path =>
    exact orAbsent_clause (textAt_operand h path)
      (relate_clause (textAt_operand h path) .notEqual hp)

theorem equalsJson_clause (h : d.Operand [] column) (path : Path)
    (hp : d.Operand ns parameter) : d.Clause ns (d.equalsJson column path parameter) :=
  relate_clause (jsonAt_operand h path) .equal (jsonParameter_operand hp)

theorem differsJson_clause (h : d.Operand [] column) (path : Path)
    (hp : d.Operand ns parameter) : d.Clause ns (d.differsJson column path parameter) :=
  orAbsent_clause (jsonAt_operand h path)
    (relate_clause (jsonAt_operand h path) .notEqual (jsonParameter_operand hp))

theorem compares_clause (h : d.Operand [] place.column) (relation : Relation)
    (hp : d.Operand ns parameter) : d.Clause ns (d.compares place relation parameter) :=
  relate_clause (orderable_operand h) relation hp

theorem holdsOneOf_clause (h : d.Operand [] place.column) {parameters : List Fragment}
    (hne : parameters ≠ []) (hp : ∀ p ∈ parameters, d.Operand p.names p) :
    d.Clause (parameters.flatMap names) (d.holdsOneOf place parameters) :=
  among_clause (comparable_operand h) hne hp

theorem holdsNoneOf_clause (h : d.Operand [] place.column) {parameters : List Fragment}
    (hne : parameters ≠ []) (hp : ∀ p ∈ parameters, d.Operand p.names p) :
    d.Clause (parameters.flatMap names) (d.holdsNoneOf place parameters) := by
  cases place with
  | identity column => exact notAmong_clause h hne hp
  | document column path =>
    exact orAbsent_clause (textAt_operand h path)
      (notAmong_clause (textAt_operand h path) hne hp)

/-! ## Patterns -/

theorem likes_clause {escape : Fragment} (hs : d.Operand [] subject)
    (hp : d.Operand ns parameter) (he : d.Operand [] escape) (ignoreCase : Bool) :
    d.Clause ns (likes subject parameter escape ignoreCase) := by
  cases ignoreCase with
  | true =>
    exact like_clause (call_operand "LOWER" (by decide) hs) (call_operand "LOWER" (by decide) hp)
      he
  | false => exact like_clause hs hp he

theorem matchesWildcard_clause (h : d.Operand [] place.column) (hp : d.Operand ns parameter)
    (ignoreCase : Bool) : d.Clause ns (d.matchesWildcard place parameter ignoreCase) := by
  have hs := readable_operand h
  have he : d.Operand [] d.escapeLiteral := literal_operand _
  cases d with
  | postgres => exact likes_clause hs hp he ignoreCase
  | mySql => exact likes_clause hs hp he ignoreCase
  | sqlite =>
    cases ignoreCase with
    | true => exact likes_clause hs hp he true
    | false => exact relate_clause hs .glob hp
  | sqlServer =>
    cases ignoreCase with
    | true => exact likes_clause hs hp he true
    | false => exact likes_clause (hs.closed _ (by decide)) hp he false

theorem matchesRegex_clause (h : d.Operand [] place.column) (hp : d.Operand ns parameter)
    (ignoreCase : Bool) : d.Clause ns (d.matchesRegex place parameter ignoreCase) := by
  have hs := readable_operand h
  cases d with
  | postgres => exact relate_clause hs _ hp
  | mySql =>
    have hcall := call_operand₃ "REGEXP_LIKE" (by decide) hs hp
      (literal_operand (if ignoreCase then "i" else "c"))
    rw [List.append_nil] at hcall
    exact holdsIf_clause true hcall (call_solid _ rfl _)
  | sqlite => exact matchesWildcard_clause h hp ignoreCase
  | sqlServer => exact matchesWildcard_clause h hp ignoreCase

/-! ## Presence and type -/

theorem entryExists_operand (h : sqlServer.Operand [] column) (path : Path)
    (type : Option Nat) : sqlServer.Operand [] (entryExists column path type) := by
  have hcall : sqlServer.Operand [] (call "OPENJSON" [column, sqlServer.pathLiteral path.parent]) :=
    call_operand₂ _ (by decide) h (literal_operand _)
  have hopen := Spans.opened "EXISTS (SELECT 1 FROM " (by decide) (hcall.within [.paren])
  have hwhere : sqlServer.Spans [] [.paren] [] _ := hopen.closed " WHERE [key] = N" (by decide)
  -- the mark of a Unicode literal stands before its quote without a blank
  have hlabel (label : String) : sqlServer.Spans [] [.paren] [] _ := hwhere.append
    ((literal_operand label).within [.paren]) (fun x hx y hy => by
      have hlast := getLast?_chars_concat (p := .bare " WHERE [key] = N") (by decide)
        (sql "EXISTS (SELECT 1 FROM " ++
          call "OPENJSON" [column, sqlServer.pathLiteral path.parent])
      have hN : x = 'N' := (Option.some.inj (hlast.symm.trans hx)).symm
      have hquote : y = '\'' := (Option.some.inj hy).symm
      rw [hN, hquote]
      decide)
  cases type with
  | none =>
    have hnone (label : String) : sqlServer.Operand [] _ := (hlabel label).closed ")" (by decide)
    dsimp only [entryExists]
    rw [List.append_nil]
    exact hnone _
  | some n =>
    have htype (label : String) : sqlServer.Spans [] [.paren] [] _ :=
      (hlabel label).linked " AND [type] = " (by decide) ((number_operand n).within [.paren])
    have hsome (label : String) : sqlServer.Operand [] _ := (htype label).closed ")" (by decide)
    dsimp only [entryExists]
    rw [← List.append_assoc _ (sql " AND [type] = ")]
    exact hsome _

theorem entryExists_solid (column : Fragment) (path : Path) (type : Option Nat) :
    (entryExists column path type).Solid := by
  have hexists : (sql "EXISTS (SELECT 1 FROM ").Solid := solid_sql rfl
  exact solid_append (solid_append (solid_append (solid_append (solid_append hexists _) _) _) _) _

theorem isPresent_clause (h : d.Operand [] place.column) (wanted : Bool) :
    d.Clause [] (d.isPresent place wanted) := by
  cases place with
  | identity column => exact nonNullIf_clause wanted h
  | document column path =>
    cases d with
    | postgres => exact nonNullIf_clause wanted (parens_operand (jsonAt_operand h path))
    | mySql =>
      exact holdsIf_clause wanted
        (call_operand₃ _ (by decide) h (literal_operand _) (literal_operand _))
        (call_solid _ rfl _)
    | sqlite =>
      exact nonNullIf_clause wanted (call_operand₂ _ (by decide) h (literal_operand _))
    | sqlServer =>
      exact holdsIf_clause wanted (entryExists_operand h path none) (entryExists_solid _ _ _)

theorem named_clause (hs : d.Operand [] subject) {words : List String} (hne : words ≠ []) :
    d.Clause [] (d.named subject words) := by
  have hliteral : ∀ c ∈ words.map d.literal, d.Operand c.names c := by
    intro c hc
    obtain ⟨w, -, rfl⟩ := List.mem_map.mp hc
    exact literal_operand w
  have hnames : (words.map d.literal).flatMap names = [] := by
    rw [List.flatMap_eq_nil_iff]
    intro c hc
    obtain ⟨w, -, rfl⟩ := List.mem_map.mp hc
    rfl
  have hamong := among_clause hs (by simpa using hne) hliteral
  rw [hnames] at hamong
  cases words with
  | nil => exact hamong
  | cons w rest =>
    cases rest with
    | nil => exact relate_clause hs .equal (literal_operand w)
    | cons w' rest => exact hamong

theorem hasType_clause (h : d.Operand [] place.column) (type : JsonType) :
    d.Clause [] (d.hasType place type) := by
  cases place with
  | identity column => exact nonNullIf_clause _ h
  | document column path =>
    cases d with
    | postgres =>
      have hcall := call_operand "jsonb_typeof" (by decide) (jsonAt_operand h path)
      exact named_clause hcall (List.cons_ne_nil type.name [])
    | mySql =>
      have hcall := call_operand "JSON_TYPE" (by decide) (jsonAt_operand h path)
      exact named_clause hcall (by cases type <;> decide)
    | sqlite =>
      have hcall := call_operand₂ "json_type" (by decide) h (literal_operand path.text)
      exact named_clause hcall (by cases type <;> decide)
    | sqlServer =>
      exact holdsIf_clause true (entryExists_operand h path _) (entryExists_solid _ _ _)

end Dialect
end DocFilter
