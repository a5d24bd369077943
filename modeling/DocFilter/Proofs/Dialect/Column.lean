import DocFilter.Proofs.Filter.Formula
import DocFilter.Proofs.Sql.Backquote

/-!
# What stands around the column of a condition

The expressions and conditions that MySQL has for a place are written around its column.  All
else in them is plain (`Sql.Fragment.Around`): no piece holds a double quote, or a backquote
outside of a literal, so that it is the same text whether names stand between double quotes or
between backquotes.  There is one rule for each way in which a builder puts its parts together,
and one for each builder.

So it is the column alone on which the reading depends: it is one name to MySQL exactly if it
stands bare (`Sql.Fragment.readAs_iff`), and a string if it stands between double quotes and no
backslash is in it (`Sql.Fragment.lex_of_needsQuoting`).
-/

namespace DocFilter
namespace Sql

/-- The token is read the same where backquotes hold the names. -/
def Token.isPlain : Token → Bool
  | .symbol c => c != '`'
  | .identifier _ => false
  | _ => true

namespace Fragment

open Dialect (bareTokens)

variable {column f g : Fragment} {fs gs : List Fragment} {text : String}

/-- Besides the tokens of the column, all tokens of the fragment are plain. -/
def Beside (column f : Fragment) : Prop :=
  ∀ t ∈ f.tokens, t.isPlain = true ∨ t ∈ column.tokens

/-- The column stands in the fragment, and all else in it is plain. -/
structure Around (column f : Fragment) : Prop where
  held : column <:+: f
  rest : Beside column f

/-! ## Plain parts -/

theorem Beside.append (hf : Beside column f) (hg : Beside column g) : Beside column (f ++ g) := by
  rw [Beside, tokens_append]
  exact List.forall_mem_append.mpr ⟨hf, hg⟩

theorem beside_nil : Beside column [] := fun _ ht => absurd ht List.not_mem_nil

theorem beside_sql (h : (bareTokens text).all Token.isPlain = true) : Beside column (sql text) := by
  intro t ht
  rw [sql, Dialect.tokens_singleton] at ht
  exact .inl (List.all_eq_true.mp h t ht)

theorem beside_literal (d : Dialect) (content : String) : Beside column (d.literal content) := by
  intro t ht
  obtain rfl := List.mem_singleton.mp ht
  exact .inl rfl

theorem beside_placeholder (d : Dialect) (name : String) : Beside column (d.placeholder name) := by
  intro t ht
  rw [Dialect.placeholder, Dialect.tokens_singleton, Piece.tokens] at ht
  obtain rfl | ht := List.mem_cons.mp ht
  · exact .inl (by cases d <;> rfl)
  · obtain rfl := List.mem_singleton.mp ht
    exact .inl rfl

theorem beside_join (h : ∀ f ∈ fs, Beside column f) : Beside column (join ", " fs) := by
  induction fs with
  | nil => exact beside_nil
  | cons f fs ih =>
    obtain ⟨hf, hfs⟩ := List.forall_mem_cons.mp h
    cases fs with
    | nil => exact hf
    | cons g fs => exact (hf.append (beside_sql (by decide))).append (ih hfs)

/-! ## Around the column -/

theorem around_self (column : Fragment) : Around column column :=
  ⟨List.infix_rfl, fun _ ht => .inr ht⟩

theorem Around.before (hf : Around column f) (hg : Beside column g) : Around column (f ++ g) :=
  ⟨hf.held.trans (List.prefix_append f g).isInfix, hf.rest.append hg⟩

theorem Around.behind (hf : Beside column f) (hg : Around column g) : Around column (f ++ g) :=
  ⟨hg.held.trans (List.suffix_append f g).isInfix, hf.append hg.rest⟩

theorem Around.closed (hf : Around column f) (text : String)
    (h : (bareTokens text).all Token.isPlain = true) : Around column (f ++ sql text) :=
  hf.before (beside_sql h)

theorem Around.opened (text : String) (h : (bareTokens text).all Token.isPlain = true)
    (hf : Around column f) : Around column (sql text ++ f) := Around.behind (beside_sql h) hf

theorem Around.linked (hf : Around column f) (text : String)
    (h : (bareTokens text).all Token.isPlain = true) (hg : Beside column g) :
    Around column (f ++ sql text ++ g) := (hf.closed text h).before hg

/-- A function of an expression around the column, and of further arguments. -/
theorem around_call (function : String)
    (h : (bareTokens (function ++ "(")).all Token.isPlain = true)
    (hf : Around column f) (hgs : ∀ g ∈ gs, Beside column g) :
    Around column (call function (f :: gs)) := by
  have hjoin : Around column (join ", " (f :: gs)) := by
    cases gs with
    | nil => exact hf
    | cons g gs => exact hf.linked ", " (by decide) (beside_join hgs)
  exact (Around.opened _ h hjoin).closed ")" (by decide)

theorem around_castBy (function type : String)
    (h : (bareTokens (function ++ "(")).all Token.isPlain = true)
    (htype : (bareTokens (" AS " ++ type ++ ")")).all Token.isPlain = true)
    (hf : Around column f) : Around column (castBy function f type) :=
  (Around.opened _ h hf).closed _ htype

/-! ## Conditions around the column -/

theorem around_compare (hf : Around column f) (relation : Relation) (hg : Beside column g) :
    Around column (Atom.compare f relation g).fragment :=
  hf.linked _ (by cases relation <;> decide) hg

theorem around_among (hf : Around column f) (hgs : ∀ g ∈ gs, Beside column g) :
    Around column (Atom.among f gs).fragment :=
  (hf.linked " IN (" (by decide) (beside_join hgs)).closed ")" (by decide)

theorem around_notAmong (hf : Around column f) (hgs : ∀ g ∈ gs, Beside column g) :
    Around column (Atom.notAmong f gs).fragment :=
  (hf.linked " NOT IN (" (by decide) (beside_join hgs)).closed ")" (by decide)

theorem around_nonNullIf (wanted : Bool) (hf : Around column f) :
    Around column (Dialect.nonNullIf wanted f).fragment := by
  cases wanted with
  | true => exact hf.closed " IS NOT NULL" (by decide)
  | false => exact hf.closed " IS NULL" (by decide)

theorem around_holdsIf (wanted : Bool) (hf : Around column f) :
    Around column (Dialect.holdsIf wanted f).fragment := by
  cases wanted with
  | true => exact hf
  | false => exact Around.opened "NOT " (by decide) hf

theorem around_orAbsent (hf : Around column f) {a : Atom} (ha : Around column a.fragment) :
    Around column (Dialect.orAbsent f a).fragment := by
  have hrest : Beside column (sql " OR " ++ a.fragment ++ []) :=
    ((beside_sql (by decide)).append ha.rest).append beside_nil
  exact (Around.opened "(" (by decide)
    ((hf.closed " IS NULL" (by decide)).before hrest)).closed ")" (by decide)

/-! ## Reading the column -/

variable {name : String} {before after : Fragment}

theorem column_of_needsQuoting (h : needsQuoting name = true) :
    Sql.column name = [.identifier name] := if_pos h

/-- No double quote stands in front of a quoted name. -/
theorem getLast?_ne_of_laid {d : Dialect} (h : d.Laid (before ++ .identifier name :: after)) :
    before.chars.getLast? ≠ some '\"' := by
  rcases List.eq_nil_or_concat before with rfl | ⟨init, p, rfl⟩
  · simp
  · rw [List.concat_eq_append] at h ⊢
    have hp : d.Writes p := h.writes p (by simp)
    obtain ⟨-, -, hmeet⟩ := List.isChain_append.mp h.apart
    have hapart := hmeet p (by simp) (.identifier name) rfl
    rw [Dialect.getLast?_chars_concat hp.chars_ne_nil]
    intro hlast
    exact (hapart '\"' hlast '\"' rfl).2 ⟨rfl, rfl⟩

theorem asLiteral_of_isPlain {t : Token} (h : t.isPlain = true) : t.asLiteral = t := by
  cases t with
  | identifier name => exact absurd h Bool.false_ne_true
  | _ => rfl

/-- Plain tokens are read the same where backquotes hold the names. -/
theorem lex_of_isPlain (hf : Dialect.mySql.Laid f) (h : ∀ t ∈ f.tokens, t.isPlain = true) :
    Backquoted.lex f.chars = some f.tokens := by
  have hread := Backquoted.lex_eq hf.lex (fun hmem => absurd (h _ hmem) (by decide))
    fun name hmem => absurd (h _ hmem) Bool.false_ne_true
  rwa [List.map_congr_left fun t ht => asLiteral_of_isPlain (h t ht), List.map_id'] at hread

theorem tokens_split (hsplit : f = before ++ Sql.column name ++ after) :
    f.tokens = before.tokens ++ (Sql.column name).tokens ++ after.tokens := by
  rw [hsplit, tokens_append, tokens_append]

/-- The column is read as its name exactly if it does not have to be quoted. -/
theorem readAs_iff (hf : Dialect.mySql.Laid f) (hrest : Beside (Sql.column name) f)
    (hsplit : f = before ++ Sql.column name ++ after) :
    Backquoted.ReadAs name.toList before.chars (Sql.column name).chars after.chars ↔
      needsQuoting name = false := by
  have htokens := tokens_split hsplit
  constructor
  · intro hread
    refine Bool.eq_false_iff.mpr fun hquoting => ?_
    rw [hsplit, column_of_needsQuoting hquoting, List.append_assoc] at hf
    rw [column_of_needsQuoting hquoting, Dialect.chars_singleton] at hread
    exact Backquoted.not_readAs_quoted (getLast?_ne_of_laid hf) name hread
  · intro hbare
    have hcolumn : (Sql.column name).tokens = [.word name.toList] := by
      rw [Dialect.tokens_column, hbare]
      rfl
    have hplain : ∀ t ∈ f.tokens, t.isPlain = true := by
      intro t ht
      refine (hrest t ht).elim id fun hmem => ?_
      rw [hcolumn] at hmem
      obtain rfl := List.mem_singleton.mp hmem
      rfl
    have hwhole := lex_of_isPlain hf hplain
    have hlaid := hf
    rw [hsplit] at hlaid
    obtain ⟨hleft, hafter⟩ := hlaid.of_append
    obtain ⟨hbefore, -⟩ := hleft.of_append
    rw [htokens] at hplain
    obtain ⟨hleftPlain, hafterPlain⟩ := List.forall_mem_append.mp hplain
    obtain ⟨hbeforePlain, -⟩ := List.forall_mem_append.mp hleftPlain
    refine ⟨before.tokens, after.tokens, .word name.toList, lex_of_isPlain hbefore hbeforePlain,
      lex_of_isPlain hafter hafterPlain, ?_, rfl⟩
    rw [htokens, hcolumn, hsplit, chars_append, chars_append, List.append_assoc] at hwhole
    rw [List.append_assoc, hwhole]
    simp

/-- A name that has to be quoted is read as a string with these characters, if no backslash
stands in it. -/
theorem lex_of_needsQuoting (hf : Dialect.mySql.Laid f) (hrest : Beside (Sql.column name) f)
    (hsplit : f = before ++ Sql.column name ++ after) (hquoting : needsQuoting name = true)
    (hslash : '\\' ∉ name.toList) :
    Backquoted.lex f.chars = some (before.tokens.map Token.asLiteral ++
      .literal name.toList :: after.tokens.map Token.asLiteral) := by
  have hcolumn : (Sql.column name).tokens = [.identifier name.toList] := by
    rw [Dialect.tokens_column, hquoting]
    rfl
  have hread := Backquoted.lex_eq hf.lex
    (fun hmem => ?_) fun written hmem => ?_
  · rw [tokens_split hsplit, hcolumn, List.map_append, List.map_append] at hread
    rw [hread, List.append_assoc]
    rfl
  · rcases hrest _ hmem with hplain | hmem
    · exact absurd hplain (by decide)
    · rw [hcolumn] at hmem
      exact absurd hmem (by simp)
  · rcases hrest _ hmem with hplain | hmem
    · exact absurd hplain Bool.false_ne_true
    · rw [hcolumn] at hmem
      obtain ⟨rfl⟩ := Token.identifier.inj (List.mem_singleton.mp hmem)
      exact hslash

end Fragment
end Sql

namespace Dialect

open Sql Sql.Fragment

variable {column parameter : Fragment} {place : Location} {parameters : List Fragment}

/-! ## MySQL -/

theorem around_jsonAt (column : Fragment) (path : Path) :
    Around column (mySql.jsonAt column path) :=
  around_call "JSON_EXTRACT" (by decide) (around_self column)
    (List.forall_mem_singleton.mpr (beside_literal _ _))

theorem around_textAt (column : Fragment) (path : Path) :
    Around column (mySql.textAt column path) :=
  around_call "JSON_UNQUOTE" (by decide) (around_jsonAt column path)
    (fun _ h => absurd h List.not_mem_nil)

theorem around_comparable (place : Location) : Around place.column (mySql.comparable place) := by
  cases place with
  | identity column => exact around_self column
  | document column path => exact around_textAt column path

theorem around_orderable (place : Location) : Around place.column (mySql.orderable place) := by
  cases place with
  | identity column => exact around_self column
  | document column path =>
    exact around_castBy "CAST" "DECIMAL(65,30)" (by decide) (by decide) (around_textAt column path)

theorem around_readable (place : Location) : Around place.column (mySql.readable place) := by
  cases place with
  | identity column =>
    exact around_castBy "CAST" "CHAR" (by decide) (by decide) (around_self column)
  | document column path => exact around_textAt column path

theorem beside_jsonParameter (hp : Beside column parameter) :
    Beside column (mySql.jsonParameter parameter) :=
  ((beside_sql (by decide)).append hp).append (beside_sql (by decide))

theorem around_equality (negated structured : Bool) (hp : Beside place.column parameter) :
    Around place.column (mySql.equality place negated structured parameter).fragment := by
  have hscalar : Around place.column
      (if negated then mySql.differs place parameter
        else mySql.equals place parameter).fragment := by
    cases negated with
    | false => exact around_compare (around_comparable place) .equal hp
    | true =>
      cases place with
      | identity column => exact around_compare (around_self column) .notEqual hp
      | document column path =>
        have htext := around_textAt column path
        exact around_orAbsent htext (around_compare htext .notEqual hp)
  unfold equality
  split
  · next column path =>
    have hjson := around_jsonAt column path
    have hjsonParameter := beside_jsonParameter hp
    cases negated with
    | false => exact around_compare hjson .equal hjsonParameter
    | true => exact around_orAbsent hjson (around_compare hjson .notEqual hjsonParameter)
  · exact hscalar

theorem around_membership (negated : Bool) (hne : parameters ≠ [])
    (hps : ∀ p ∈ parameters, Beside place.column p) :
    Around place.column (mySql.membership place negated parameters).fragment := by
  obtain ⟨p, ps, rfl⟩ := List.exists_cons_of_ne_nil hne
  cases negated with
  | false => exact around_among (around_comparable place) hps
  | true =>
    cases place with
    | identity column => exact around_notAmong (around_self column) hps
    | document column path =>
      have htext := around_textAt column path
      exact around_orAbsent htext (around_notAmong htext hps)

theorem around_matching (ignoreCase : Bool) (hp : Beside place.column parameter) :
    Around place.column (mySql.matching place ignoreCase parameter).fragment :=
  around_call "REGEXP_LIKE" (by decide) (around_readable place)
    (List.forall_mem_cons.mpr ⟨hp, List.forall_mem_singleton.mpr (beside_literal _ _)⟩)

theorem around_isPresent (place : Location) (wanted : Bool) :
    Around place.column (mySql.isPresent place wanted).fragment := by
  cases place with
  | identity column => exact around_nonNullIf wanted (around_self column)
  | document column path =>
    have harguments : ∀ g ∈ [mySql.literal "one", mySql.pathLiteral path], Beside column g :=
      List.forall_mem_cons.mpr
        ⟨beside_literal _ _, List.forall_mem_singleton.mpr (beside_literal _ _)⟩
    exact around_holdsIf wanted
      (around_call "JSON_CONTAINS_PATH" (by decide) (around_self column) harguments)

theorem around_named {subject : Fragment} (hs : Around column subject) (names : List String) :
    Around column (mySql.named subject names).fragment := by
  unfold named
  split
  · exact around_compare hs .equal (beside_literal _ _)
  · refine around_among hs fun f hf => ?_
    obtain ⟨name, -, rfl⟩ := List.mem_map.mp hf
    exact beside_literal _ _

theorem around_hasType (place : Location) (type : JsonType) :
    Around place.column (mySql.hasType place type).fragment := by
  cases place with
  | identity column => exact around_nonNullIf _ (around_self column)
  | document column path =>
    exact around_named (around_call "JSON_TYPE" (by decide) (around_jsonAt column path)
      fun _ h => absurd h List.not_mem_nil) _

end Dialect
end DocFilter
