import DocFilter.Dialect.Extraction
import DocFilter.Proofs.Dialect.Operand
import DocFilter.Proofs.Text.Character

/-!
# Expressions are operands

Whatever is taken out of a document is an operand, whatever the path: columns, literals,
numbers and the places of parameters are, and the builders only put plain SQL in front of
operands, behind them and between them.  An expression has the places of exactly those
parameters in it that are in its parts.
-/

namespace DocFilter
namespace Dialect

open Sql Sql.Fragment

variable {d : Dialect} {ns ms ls : List String} {f g h column : Fragment}

/-! ## Single pieces -/

/-- A word in a place of its own is one token. -/
theorem tokens_word {text : String} (hne : text.toList ≠ [])
    (hw : ∀ c ∈ text.toList, isWordChar c = true) :
    Fragment.tokens [.bare text] = [.word text.toList] := by
  rw [tokens_singleton, Piece.tokens, bareTokens, lex_word hne hw, Option.getD_some]

/-- So is a column: a word, or a name between quotes. -/
theorem tokens_column (name : String) :
    (Sql.column name).tokens =
      [if needsQuoting name then .identifier name.toList else .word name.toList] := by
  rw [Sql.column]
  cases hquoting : needsQuoting name with
  | true => rfl
  | false =>
    obtain ⟨hne, hw, -⟩ := word_of_not_needsQuoting hquoting
    rw [if_neg Bool.false_ne_true, if_neg Bool.false_ne_true]
    exact tokens_word hne hw

theorem tokens_number (n : Nat) : (number n).tokens = [.word (Nat.toDigits 10 n)] := by
  rw [← Nat.toList_repr]
  refine tokens_word ?_ fun c hc => isWordChar_of_mem_toDigits (Nat.toList_repr ▸ hc)
  rw [Nat.toList_repr]
  exact Nat.toDigits_ne_nil

theorem isInert_of_isWordChar {c : Char} (h : isWordChar c = true) : isInert c = true := by
  rw [isInert, Bool.not_eq_true', Bool.eq_false_iff]
  intro hm
  have hc : c ∈ ['\'', '\"', ':', '@', '$', '?'] := List.contains_iff_mem.mp hm
  simp only [List.mem_cons, List.not_mem_nil, or_false] at hc
  rcases hc with rfl | rfl | rfl | rfl | rfl | rfl <;> exact absurd h (by decide)

/-- The words that are brackets or join conditions. -/
def structureWords : List String := ["case", "end", "and", "or"]

theorem depth_word {w : List Char}
    (h : ∀ k ∈ structureWords, w.map Char.toLower ≠ k.toList) :
    depth [] [.word w] = some [] := by
  have hk (k : String) (hk : k ∈ structureWords) :
      (w.map Char.toLower == k.toList) = false := beq_eq_false_iff_ne.mpr (h k hk)
  have hcase := hk "case" (by decide)
  have hend := hk "end" (by decide)
  have hand := hk "and" (by decide)
  have hor := hk "or" (by decide)
  simp only [depth, List.foldlM_cons, List.foldlM_nil, depthStep, Token.opens?, Token.closes?,
    Token.isConnective, Token.isKeyword, hcase, hend, hand, hor, Bool.or_self, Bool.false_eq_true,
    if_false, Option.bind_eq_bind, Option.bind_some, Option.pure_def]

/-- A word in a place of its own is an operand, unless it is a bracket or joins
conditions. -/
theorem operand_word {text : String} (hne : text.toList ≠ [])
    (hw : ∀ c ∈ text.toList, isWordChar c = true)
    (hk : ∀ k ∈ structureWords, text.toList.map Char.toLower ≠ k.toList) :
    d.Operand [] [.bare text] := by
  have htokens := tokens_word hne hw
  have hinert : text.toList.all isInert = true :=
    List.all_eq_true.mpr fun c hc => isInert_of_isWordChar (hw c hc)
  refine ⟨laid_singleton ⟨hne, Or.inl hinert⟩, ?_, rfl, .word text.toList, ?_, rfl⟩
  · rw [htokens]
    exact depth_word hk
  · rw [htokens]
    exact List.mem_cons_self

theorem literal_operand (content : String) : d.Operand [] (d.literal content) :=
  ⟨laid_singleton rfl, rfl, rfl, .literal content.toList, List.mem_cons_self, rfl⟩

/-- A column is an operand, whatever its name. -/
theorem column_operand (name : String) : d.Operand [] (Sql.column name) := by
  rw [Sql.column]
  cases hq : needsQuoting name with
  | true =>
    exact ⟨laid_singleton trivial, rfl, rfl, .identifier name.toList, List.mem_cons_self, rfl⟩
  | false =>
    obtain ⟨hne, hw, hreserved⟩ := word_of_not_needsQuoting hq
    exact operand_word hne hw fun k hk => hreserved k (by revert k; decide)

theorem number_operand (n : Nat) : d.Operand [] (number n) := by
  refine operand_word ?_ (fun c hc => ?_) fun k hk he => ?_
  · rw [Nat.toList_repr]
    exact Nat.toDigits_ne_nil
  · exact isWordChar_of_mem_toDigits (Nat.toList_repr ▸ hc)
  · have hletters : structureWords.all (fun k => k.toList.any fun x => !x.isDigit) = true := rfl
    obtain ⟨x, hx, hletter⟩ := List.any_eq_true.mp (List.all_eq_true.mp hletters k hk)
    rw [← he, List.mem_map] at hx
    obtain ⟨c, hc, rfl⟩ := hx
    have hdigit : c.isDigit = true :=
      Nat.isDigit_of_mem_toDigits (by decide) (by decide) (Nat.toList_repr ▸ hc)
    rw [Text.toLower_of_isDigit hdigit, hdigit] at hletter
    exact absurd hletter (by simp)

/-- The place of a parameter is an operand, and the only place in it. -/
theorem placeholder_operand (field : String) (n : Nat) :
    d.Operand [parameterName field n] (d.placeholder (parameterName field n)) := by
  have hsigil : depthStep [] (.symbol d.sigil) = some [] := by cases d <;> rfl
  have hword : depth [] [.word (parameterName field n).toList] = some [] := by
    refine depth_word fun k hk he => ?_
    have hletters : ∀ k ∈ structureWords, '_' ∉ k.toList := by decide
    refine hletters k hk ?_
    rw [← he]
    exact List.mem_map.mpr ⟨'_', underscore_mem_parameterName field n, rfl⟩
  refine ⟨laid_singleton ⟨rfl, field, n, rfl⟩, ?_, rfl, .word (parameterName field n).toList,
    List.mem_cons_of_mem _ List.mem_cons_self, rfl⟩
  rw [placeholder, tokens_singleton, Piece.tokens, depth, List.foldlM_cons, hsigil]
  exact hword

/-! ## Calls and casts -/

/-- Arguments, of which there is at least one. -/
theorem join_spans (fs : List Fragment) (hne : fs ≠ [])
    (h : ∀ f ∈ fs, d.Operand f.names f) :
    d.Spans [.paren] [.paren] (fs.flatMap names) (join ", " fs) := by
  induction fs with
  | nil => exact absurd rfl hne
  | cons f fs ih =>
    have hf := (h f List.mem_cons_self).within [.paren]
    cases fs with
    | nil =>
      rw [join, List.flatMap_cons, List.flatMap_nil, List.append_nil]
      exact hf
    | cons g fs =>
      rw [join, List.flatMap_cons]
      · exact hf.linked ", " (by decide)
          (ih (List.cons_ne_nil _ _) fun x hx => h x (List.mem_cons_of_mem _ hx))
      · exact List.cons_ne_nil _ _

/-- The name of a function can stand in front of its arguments. -/
def opensCall (function : String) : Bool :=
  shifts [] [.paren] (function ++ "(") && endsApart (function ++ "(")

/-- The name of a type can stand behind the value converted to it. -/
def closesCast (type : String) : Bool :=
  shifts [.paren] [] (" AS " ++ type ++ ")") && startsApart (" AS " ++ type ++ ")")

/-- A call of a function with one argument. -/
theorem call_operand (function : String) (hfun : opensCall function = true)
    (hf : d.Operand ns f) : d.Operand ns (call function [f]) :=
  Spans.enclosed _ hfun (hf.within [.paren])

/-- A call of a function with two arguments. -/
theorem call_operand₂ (function : String) (hfun : opensCall function = true)
    (hf : d.Operand ns f) (hg : d.Operand ms g) : d.Operand (ns ++ ms) (call function [f, g]) :=
  Spans.enclosed _ hfun ((hf.within [.paren]).linked ", " (by decide) (hg.within [.paren]))

/-- A call of a function with three arguments. -/
theorem call_operand₃ (function : String) (hfun : opensCall function = true)
    (hf : d.Operand ns f) (hg : d.Operand ms g) (hh : d.Operand ls h) :
    d.Operand (ns ++ (ms ++ ls)) (call function [f, g, h]) :=
  Spans.enclosed _ hfun ((hf.within [.paren]).linked ", " (by decide)
    ((hg.within [.paren]).linked ", " (by decide) (hh.within [.paren])))

theorem castBy_operand (function type : String) (hfun : opensCall function = true)
    (htype : closesCast type = true) (hf : d.Operand ns f) :
    d.Operand ns (castBy function f type) :=
  (Spans.opened _ hfun (hf.within [.paren])).closed _ htype

theorem parens_operand (hf : d.Operand ns f) : d.Operand ns (parens f) :=
  Spans.enclosed "(" (by decide) (hf.within [.paren])

/-! ## Taking a value out of a document -/

theorem arrow_operand (hc : postgres.Operand [] column) (path : Path) (asText : Bool) :
    postgres.Operand [] (arrow column path asText) := by
  have hstep (g : Fragment) (hg : postgres.Operand [] g) :
      postgres.Operand [] (column ++ sql (if asText then " ->> " else " -> ") ++ g) := by
    cases asText
    · exact hc.linked " -> " (by decide) hg
    · exact hc.linked " ->> " (by decide) hg
  dsimp only [arrow]
  split
  · exact hstep _ (literal_operand _)
  · exact hstep _ (number_operand _)
  · cases asText
    · exact hc.linked " #> " (by decide) (literal_operand _)
    · exact hc.linked " #>> " (by decide) (literal_operand _)

/-- The value at a path as JSON is an operand, whatever the path. -/
theorem jsonAt_operand (hc : d.Operand [] column) (path : Path) :
    d.Operand [] (d.jsonAt column path) := by
  cases d with
  | postgres => exact arrow_operand hc path false
  | mySql => exact call_operand₂ "JSON_EXTRACT" (by decide) hc (literal_operand _)
  | sqlite => exact call_operand₂ "json_extract" (by decide) hc (literal_operand _)
  | sqlServer => exact call_operand₂ "JSON_QUERY" (by decide) hc (literal_operand _)

/-- The value at a path as text is an operand, whatever the path. -/
theorem textAt_operand (hc : d.Operand [] column) (path : Path) :
    d.Operand [] (d.textAt column path) := by
  cases d with
  | postgres => exact arrow_operand hc path true
  | mySql => exact call_operand "JSON_UNQUOTE" (by decide) (jsonAt_operand hc path)
  | sqlite =>
    have htype : sqlite.Operand [] (call "json_type" [column, sqlite.pathLiteral path]) :=
      call_operand₂ _ (by decide) hc (literal_operand _)
    have hjson : sqlite.Operand [] (cast (sqlite.jsonAt column path) "TEXT") :=
      castBy_operand _ _ (by decide) (by decide) (jsonAt_operand hc path)
    have hword (s : String) := (literal_operand (d := .sqlite) s).within [.cases]
    have hcase := Spans.opened "CASE " (by decide) (htype.within [.cases])
    have htrue := (hcase.linked " WHEN " (by decide) (hword "true")).linked " THEN "
      (by decide) (hword "true")
    have hfalse := (htrue.linked " WHEN " (by decide) (hword "false")).linked " THEN "
      (by decide) (hword "false")
    exact (hfalse.linked " ELSE " (by decide) (hjson.within [.cases])).closed " END" (by decide)
  | sqlServer => exact call_operand₂ "JSON_VALUE" (by decide) hc (literal_operand _)

/-- The value at a path as a number is an operand, whatever the path. -/
theorem numberAt_operand (hc : d.Operand [] column) (path : Path) :
    d.Operand [] (d.numberAt column path) := by
  cases d with
  | postgres =>
    have htype : postgres.Operand [] (call "jsonb_typeof" [arrow column path false]) :=
      call_operand _ (by decide) (arrow_operand hc path false)
    have hvalue := (parens_operand (arrow_operand hc path true)).within [.cases]
    have hword := (literal_operand (d := .postgres) "number").within [.cases]
    have hwhen := Spans.opened "CASE WHEN " (by decide) (htype.within [.cases])
    have hthen := (hwhen.linked " = " (by decide) hword).linked " THEN " (by decide) hvalue
    exact hthen.closed "::numeric END" (by decide)
  | mySql => exact castBy_operand _ _ (by decide) (by decide) (textAt_operand hc path)
  | sqlite => exact castBy_operand _ _ (by decide) (by decide) (jsonAt_operand hc path)
  | sqlServer => exact castBy_operand _ _ (by decide) (by decide) (textAt_operand hc path)

theorem columnAsText_operand (hc : d.Operand [] column) :
    d.Operand [] (d.columnAsText column) := by
  cases d with
  | postgres => exact castBy_operand _ _ (by decide) (by decide) hc
  | mySql => exact castBy_operand _ _ (by decide) (by decide) hc
  | sqlite => exact castBy_operand _ _ (by decide) (by decide) hc
  | sqlServer => exact castBy_operand _ _ (by decide) (by decide) hc

theorem jsonParameter_operand (hf : d.Operand ns f) : d.Operand ns (d.jsonParameter f) := by
  cases d with
  | postgres => exact castBy_operand _ _ (by decide) (by decide) hf
  | mySql => exact castBy_operand _ _ (by decide) (by decide) hf
  | sqlite => exact call_operand "json" (by decide) hf
  | sqlServer => exact hf

end Dialect
end DocFilter
