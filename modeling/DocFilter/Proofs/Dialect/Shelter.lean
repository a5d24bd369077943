import DocFilter.Dialect.Page
import DocFilter.Proofs.Dialect.Condition
import DocFilter.Proofs.Sql.Passage

/-!
# Nothing in an expression looks like a new clause

A clause of a statement begins with a word, and the items of a list are set apart by commas.
Both can also stand inside of a clause: where a condition asks for a row of the entries of a
document, it holds a `WHERE` of its own, and every call has commas between its arguments.  But
all of these are in parentheses.  A fragment is `Sheltered` when it has no such word and no comma
outside of them, and closes the parentheses it opens; every expression and every condition a
dialect has for a place is, whatever the path and whatever the columns are called.
-/

namespace DocFilter
namespace Sql

/-- The words that begin a clause. -/
def clauseWords : List String := ["where", "order", "limit", "offset"]

namespace Token

/-- The token begins a clause. -/
def isClauseWord (t : Token) : Bool := clauseWords.any t.isKeyword

/-- The token sets items of a list apart. -/
def isComma (t : Token) : Bool := t == .symbol ','

/-- The token divides a text. -/
def divides (t : Token) : Bool := t.isClauseWord || t.isComma

end Token

namespace Fragment

variable {f g h : Fragment} {n m k : Nat} {text : String}

/-- With `n` parentheses open in front of the fragment, `m` are open behind it, and nothing in it
divides it where none is open. -/
def Levels (n m : Nat) (f : Fragment) : Prop := level Token.divides n f.tokens = some m

/-- A fragment in one piece. -/
abbrev Sheltered (f : Fragment) : Prop := f.Levels 0 0

theorem Levels.append (hf : f.Levels n m) (hg : g.Levels m k) : (f ++ g).Levels n k := by
  rw [Levels, tokens_append, level_append, hf, Option.bind_some, hg]

/-- A fragment in one piece is in one piece inside parentheses. -/
theorem Levels.within (hf : f.Sheltered) (n : Nat) : f.Levels n n := by
  have hwithin := level_within hf n
  rwa [Nat.zero_add] at hwithin

/-- A fragment in one piece has no clause word of its own. -/
theorem Levels.clauseless (hf : f.Sheltered) : level Token.isClauseWord 0 f.tokens = some 0 :=
  level_of_imp (fun _ ht => Bool.or_eq_true_iff.mpr (.inl ht)) hf

/-- A fragment in one piece has no comma of its own. -/
theorem Levels.commaless (hf : f.Sheltered) : level Token.isComma 0 f.tokens = some 0 :=
  level_of_imp (fun _ ht => Bool.or_eq_true_iff.mpr (.inr ht)) hf

theorem levels_sql (h : level Token.divides n (Dialect.bareTokens text) = some m) :
    (sql text).Levels n m := by
  rw [Levels, sql, Dialect.tokens_singleton]
  exact h

/-- Plain SQL behind. -/
theorem Levels.closed (hf : f.Levels n m) (text : String)
    (h : level Token.divides m (Dialect.bareTokens text) = some k) :
    (f ++ sql text).Levels n k := hf.append (levels_sql h)

/-- Plain SQL in front. -/
theorem Levels.opened (text : String)
    (h : level Token.divides n (Dialect.bareTokens text) = some m) (hg : g.Levels m k) :
    (sql text ++ g).Levels n k := (levels_sql h).append hg

/-- Plain SQL between. -/
theorem Levels.linked (hf : f.Levels n m) (text : String)
    (h : level Token.divides m (Dialect.bareTokens text) = some k) (hg : g.Sheltered) :
    (f ++ sql text ++ g).Levels n k := (hf.closed text h).append (hg.within k)

/-- A word in a place of its own, unless it begins a clause. -/
theorem levels_word {w : List Char} (h : ∀ k ∈ clauseWords, w.map Char.toLower ≠ k.toList) :
    level Token.divides 0 [.word w] = some 0 := by
  have hword : Token.divides (.word w) = false := by
    rw [Token.divides, Token.isClauseWord, Bool.or_eq_false_iff]
    refine ⟨List.any_eq_false.mpr fun k hk => ?_, rfl⟩
    simpa [Token.isKeyword] using h k hk
  simp [level, levelStep, hword]

@[simp] theorem sheltered_nil : Sheltered [] := rfl

/-- A column, whatever its name. -/
@[simp] theorem sheltered_column (name : String) : (column name).Sheltered := by
  rw [Sheltered, Levels, Dialect.tokens_column]
  cases hq : needsQuoting name with
  | true => rfl
  | false =>
    obtain ⟨-, -, hreserved⟩ := word_of_not_needsQuoting hq
    exact levels_word fun k hk => hreserved k (by revert k; decide)

@[simp] theorem sheltered_number (n : Nat) : (number n).Sheltered := by
  rw [Sheltered, Levels, Dialect.tokens_number]
  refine levels_word fun k hk he => ?_
  have hletters : clauseWords.all (fun k => k.toList.any fun x => !x.isDigit) = true := rfl
  obtain ⟨x, hx, hletter⟩ := List.any_eq_true.mp (List.all_eq_true.mp hletters k hk)
  rw [← he, List.mem_map] at hx
  obtain ⟨c, hc, rfl⟩ := hx
  have hdigit := Nat.isDigit_of_mem_toDigits (by decide) (by decide) hc
  rw [Text.toLower_of_isDigit hdigit, hdigit] at hletter
  exact absurd hletter Bool.false_ne_true

/-- Texts set apart by commas, inside parentheses. -/
theorem levels_join {fs : List Fragment} (h : ∀ f ∈ fs, f.Sheltered) :
    (join ", " fs).Levels 1 1 := by
  induction fs with
  | nil => exact sheltered_nil.within 1
  | cons f fs ih =>
    obtain ⟨hf, hfs⟩ := List.forall_mem_cons.mp h
    cases fs with
    | nil => exact hf.within 1
    | cons g fs =>
      have hcomma := (Levels.within hf 1).closed ", " (k := 1) (by decide)
      exact hcomma.append (ih hfs)

/-- The name of a function can stand in front of its arguments. -/
def callable (function : String) : Bool :=
  level Token.divides 0 (Dialect.bareTokens (function ++ "(")) == some 1

theorem sheltered_call {function : String} (hfun : callable function = true)
    {arguments : List Fragment} (h : ∀ f ∈ arguments, f.Sheltered) :
    (call function arguments).Sheltered :=
  (Levels.opened _ (beq_iff_eq.mp hfun) (levels_join h)).closed ")" (by decide)

/-- The name of a type can stand behind the value converted to it. -/
def convertible (type : String) : Bool :=
  level Token.divides 1 (Dialect.bareTokens (" AS " ++ type ++ ")")) == some 0

theorem sheltered_castBy {function type : String} (hfun : callable function = true)
    (htype : convertible type = true) (hf : f.Sheltered) :
    (castBy function f type).Sheltered :=
  (Levels.opened _ (beq_iff_eq.mp hfun) (hf.within 1)).closed _ (beq_iff_eq.mp htype)

@[simp] theorem sheltered_parens (hf : f.Sheltered) : (parens f).Sheltered :=
  (Levels.opened "(" (by decide) (hf.within 1)).closed ")" (by decide)

end Fragment
end Sql

namespace Dialect

open Sql Sql.Fragment

variable {d : Dialect} {f g column parameter : Fragment} {place : Location}

@[simp] theorem sheltered_literal (content : String) : (d.literal content).Sheltered := rfl

/-- The place of a parameter: its name has an underscore in it. -/
theorem sheltered_placeholder {name : String} (h : '_' ∈ name.toList) :
    (d.placeholder name).Sheltered := by
  have hsigil : levelStep Token.divides 0 (.symbol d.sigil) = some 0 := by cases d <;> rfl
  have hword : level Token.divides 0 [.word name.toList] = some 0 := by
    refine levels_word fun k hk he => ?_
    have hletters : ∀ k ∈ clauseWords, '_' ∉ k.toList := by decide
    refine hletters k hk ?_
    rw [← he]
    exact List.mem_map.mpr ⟨'_', h, rfl⟩
  rw [Sheltered, Levels, placeholder, tokens_singleton, Piece.tokens, level_cons, hsigil]
  exact hword

/-! ## Taking a value out of a document -/

theorem sheltered_arrow (hc : column.Sheltered) (path : Path) (asText : Bool) :
    (arrow column path asText).Sheltered := by
  have hstep {g : Fragment} (hg : g.Sheltered) :
      (column ++ sql (if asText then " ->> " else " -> ") ++ g).Sheltered := by
    cases asText
    · exact hc.linked " -> " (by decide) hg
    · exact hc.linked " ->> " (by decide) hg
  dsimp only [arrow]
  split
  · exact hstep (sheltered_literal _)
  · exact hstep (sheltered_number _)
  · cases asText
    · exact hc.linked " #> " (by decide) (sheltered_literal _)
    · exact hc.linked " #>> " (by decide) (sheltered_literal _)

/-- A call on a column and a path into it. -/
theorem sheltered_pathCall {function : String} (hfun : callable function = true)
    (hc : column.Sheltered) (path : Path) :
    (call function [column, d.pathLiteral path]).Sheltered :=
  sheltered_call hfun (by simp [hc, pathLiteral])

@[simp] theorem sheltered_jsonAt (hc : column.Sheltered) (path : Path) :
    (d.jsonAt column path).Sheltered := by
  cases d with
  | postgres => exact sheltered_arrow hc path false
  | mySql => exact sheltered_pathCall (by decide) hc path
  | sqlite => exact sheltered_pathCall (by decide) hc path
  | sqlServer => exact sheltered_pathCall (by decide) hc path

@[simp] theorem sheltered_textAt (hc : column.Sheltered) (path : Path) :
    (d.textAt column path).Sheltered := by
  cases d with
  | postgres => exact sheltered_arrow hc path true
  | mySql => exact sheltered_call (by decide) (by simp [hc])
  | sqlite =>
    have htype : (call "json_type" [column, sqlite.pathLiteral path]).Sheltered :=
      sheltered_pathCall (by decide) hc path
    have hjson : (cast (sqlite.jsonAt column path) "TEXT").Sheltered :=
      sheltered_castBy (by decide) (by decide) (sheltered_jsonAt hc path)
    have hword (s : String) := sheltered_literal (d := .sqlite) s
    have hcase := Levels.opened (n := 0) "CASE " (by decide) htype
    have htrue := (hcase.linked " WHEN " (k := 0) (by decide) (hword "true")).linked " THEN "
      (k := 0) (by decide) (hword "true")
    have hfalse := (htrue.linked " WHEN " (k := 0) (by decide) (hword "false")).linked " THEN "
      (k := 0) (by decide) (hword "false")
    exact (hfalse.linked " ELSE " (k := 0) (by decide) hjson).closed " END" (by decide)
  | sqlServer => exact sheltered_pathCall (by decide) hc path

@[simp] theorem sheltered_numberAt (hc : column.Sheltered) (path : Path) :
    (d.numberAt column path).Sheltered := by
  cases d with
  | postgres =>
    have htype : (call "jsonb_typeof" [arrow column path false]).Sheltered :=
      sheltered_call (by decide) (by simp [sheltered_arrow hc])
    have hvalue := sheltered_parens (sheltered_arrow hc path true)
    have hcase := Levels.opened (n := 0) "CASE WHEN " (by decide) htype
    have hwhen := hcase.linked " = " (k := 0) (by decide)
      (sheltered_literal (d := .postgres) "number")
    exact (hwhen.linked " THEN " (k := 0) (by decide) hvalue).closed "::numeric END" (by decide)
  | mySql => exact sheltered_castBy (by decide) (by decide) (sheltered_textAt hc path)
  | sqlite => exact sheltered_castBy (by decide) (by decide) (sheltered_jsonAt hc path)
  | sqlServer => exact sheltered_castBy (by decide) (by decide) (sheltered_textAt hc path)

@[simp] theorem sheltered_columnAsText (hc : column.Sheltered) :
    (d.columnAsText column).Sheltered := by
  cases d <;> exact sheltered_castBy (by decide) (by decide) hc

@[simp] theorem sheltered_jsonParameter (hp : parameter.Sheltered) :
    (d.jsonParameter parameter).Sheltered := by
  cases d with
  | postgres => exact sheltered_castBy (by decide) (by decide) hp
  | mySql => exact sheltered_castBy (by decide) (by decide) hp
  | sqlite => exact sheltered_call (by decide) (by simpa using hp)
  | sqlServer => exact hp

@[simp] theorem sheltered_comparable (h : place.column.Sheltered) :
    (d.comparable place).Sheltered := by
  cases place with
  | identity column => exact h
  | document column path => exact sheltered_textAt h path

@[simp] theorem sheltered_orderable (h : place.column.Sheltered) :
    (d.orderable place).Sheltered := by
  cases place with
  | identity column => exact h
  | document column path => exact sheltered_numberAt h path

@[simp] theorem sheltered_readable (h : place.column.Sheltered) :
    (d.readable place).Sheltered := by
  cases place with
  | identity column => exact sheltered_columnAsText h
  | document column path => exact sheltered_textAt h path

/-- An item of an order. -/
theorem sheltered_orderItem (h : place.column.Sheltered) (direction : Direction) :
    (d.orderItem place direction).Sheltered := by
  cases direction with
  | ascending => exact (sheltered_comparable h).closed " ASC" (by decide)
  | descending => exact (sheltered_comparable h).closed " DESC" (by decide)

end Dialect

/-! ## Formulas -/

namespace Sql.Formula

open Fragment

variable {f g e : Fragment} {fs : List Fragment} {φ : Formula} {φs : List Formula}

/-- The text of the formula is in one piece. -/
abbrev Sheltered (φ : Formula) : Prop := φ.fragment.Sheltered

@[simp] theorem sheltered_compare (hf : f.Sheltered) (relation : Relation) (hg : g.Sheltered) :
    (atom (.compare f relation g)).Sheltered := by
  cases relation <;> exact hf.linked _ (by decide) hg

@[simp] theorem sheltered_among (hf : f.Sheltered) (hfs : ∀ f ∈ fs, f.Sheltered) :
    (atom (.among f fs)).Sheltered :=
  ((hf.closed " IN (" (by decide)).append (levels_join hfs)).closed ")" (by decide)

@[simp] theorem sheltered_notAmong (hf : f.Sheltered) (hfs : ∀ f ∈ fs, f.Sheltered) :
    (atom (.notAmong f fs)).Sheltered :=
  ((hf.closed " NOT IN (" (by decide)).append (levels_join hfs)).closed ")" (by decide)

@[simp] theorem sheltered_like (hf : f.Sheltered) (hg : g.Sheltered) (he : e.Sheltered) :
    (atom (.like f g e)).Sheltered :=
  (hf.linked " LIKE " (k := 0) (by decide) hg).linked " ESCAPE " (by decide) he

@[simp] theorem sheltered_isNull (hf : f.Sheltered) : (atom (.isNull f)).Sheltered :=
  hf.closed " IS NULL" (by decide)

@[simp] theorem sheltered_isNotNull (hf : f.Sheltered) : (atom (.isNotNull f)).Sheltered :=
  hf.closed " IS NOT NULL" (by decide)

@[simp] theorem sheltered_holds (hf : f.Sheltered) : (atom (.holds f)).Sheltered := hf

@[simp] theorem sheltered_fails (hf : f.Sheltered) : (atom (.fails f)).Sheltered :=
  Levels.opened "NOT " (by decide) hf

theorem levels_tailFragment (word : String)
    (hword : level Token.divides 1 (Dialect.bareTokens word) = some 1)
    (h : ∀ φ ∈ φs, φ.Sheltered) : (tailFragment word φs).Levels 1 1 := by
  induction φs with
  | nil => exact sheltered_nil.within 1
  | cons φ φs ih =>
    obtain ⟨hφ, hφs⟩ := List.forall_mem_cons.mp h
    exact (Levels.opened word hword (hφ.within 1)).append (ih hφs)

@[simp] theorem sheltered_not (hφ : φ.Sheltered) : (not φ).Sheltered :=
  (Levels.opened "NOT (" (by decide) (hφ.within 1)).closed ")" (by decide)

@[simp] theorem sheltered_all (h : ∀ φ ∈ φs, φ.Sheltered) : (all φs).Sheltered := by
  cases φs with
  | nil => exact levels_sql (by decide)
  | cons φ φs =>
    obtain ⟨hφ, hφs⟩ := List.forall_mem_cons.mp h
    have htail := levels_tailFragment " AND " (by decide) hφs
    exact (Levels.opened "(" (by decide) ((hφ.within 1).append htail)).closed ")" (by decide)

@[simp] theorem sheltered_any (h : ∀ φ ∈ φs, φ.Sheltered) : (any φs).Sheltered := by
  cases φs with
  | nil => exact levels_sql (by decide)
  | cons φ φs =>
    obtain ⟨hφ, hφs⟩ := List.forall_mem_cons.mp h
    have htail := levels_tailFragment " OR " (by decide) hφs
    exact (Levels.opened "(" (by decide) ((hφ.within 1).append htail)).closed ")" (by decide)

end Sql.Formula

/-! ## Conditions on a place -/

namespace Dialect

open Sql Sql.Fragment

variable {d : Dialect} {column parameter escape : Fragment} {parameters : List Fragment}
  {place : Location}

@[simp] theorem sheltered_likes {subject : Fragment} (hs : subject.Sheltered)
    (hp : parameter.Sheltered) (he : escape.Sheltered) (ignoreCase : Bool) :
    (likes subject parameter escape ignoreCase).Sheltered := by
  have hlower {f : Fragment} (hf : f.Sheltered) : (call "LOWER" [f]).Sheltered :=
    sheltered_call (by decide) (by simpa using hf)
  cases ignoreCase <;> simp [likes, hs, hp, he, hlower]

@[simp] theorem sheltered_orAbsent {subject : Fragment} {a : Atom} (hs : subject.Sheltered)
    (ha : (Formula.atom a).Sheltered) : (orAbsent subject a).Sheltered :=
  Formula.sheltered_any (by simp [hs, ha])

@[simp] theorem sheltered_nonNullIf {subject : Fragment} (wanted : Bool)
    (hs : subject.Sheltered) : (nonNullIf wanted subject).Sheltered := by
  cases wanted
  · exact Formula.sheltered_isNull hs
  · exact Formula.sheltered_isNotNull hs

@[simp] theorem sheltered_holdsIf {test : Fragment} (wanted : Bool) (ht : test.Sheltered) :
    (holdsIf wanted test).Sheltered := by
  cases wanted
  · exact Formula.sheltered_fails ht
  · exact Formula.sheltered_holds ht

theorem sheltered_equals (h : place.column.Sheltered) (hp : parameter.Sheltered) :
    (d.equals place parameter).Sheltered :=
  Formula.sheltered_compare (sheltered_comparable h) .equal hp

theorem sheltered_differs (h : place.column.Sheltered) (hp : parameter.Sheltered) :
    (d.differs place parameter).Sheltered := by
  cases place with
  | identity column => exact Formula.sheltered_compare h .notEqual hp
  | document column path =>
    have htext := sheltered_textAt (d := d) h path
    exact sheltered_orAbsent htext (Formula.sheltered_compare htext .notEqual hp)

theorem sheltered_equalsJson (hc : column.Sheltered) (path : Path) (hp : parameter.Sheltered) :
    (d.equalsJson column path parameter).Sheltered :=
  Formula.sheltered_compare (sheltered_jsonAt hc path) .equal (sheltered_jsonParameter hp)

theorem sheltered_differsJson (hc : column.Sheltered) (path : Path) (hp : parameter.Sheltered) :
    (d.differsJson column path parameter).Sheltered :=
  sheltered_orAbsent (sheltered_jsonAt hc path)
    (Formula.sheltered_compare (sheltered_jsonAt hc path) .notEqual (sheltered_jsonParameter hp))

theorem sheltered_compares (h : place.column.Sheltered) (relation : Relation)
    (hp : parameter.Sheltered) : (d.compares place relation parameter).Sheltered :=
  Formula.sheltered_compare (sheltered_orderable h) relation hp

theorem sheltered_holdsOneOf (h : place.column.Sheltered)
    (hps : ∀ p ∈ parameters, p.Sheltered) : (d.holdsOneOf place parameters).Sheltered :=
  Formula.sheltered_among (sheltered_comparable h) hps

theorem sheltered_holdsNoneOf (h : place.column.Sheltered)
    (hps : ∀ p ∈ parameters, p.Sheltered) : (d.holdsNoneOf place parameters).Sheltered := by
  cases place with
  | identity column => exact Formula.sheltered_notAmong h hps
  | document column path =>
    have htext := sheltered_textAt (d := d) h path
    exact sheltered_orAbsent htext (Formula.sheltered_notAmong htext hps)

theorem sheltered_matchesWildcard (h : place.column.Sheltered) (hp : parameter.Sheltered)
    (ignoreCase : Bool) : (d.matchesWildcard place parameter ignoreCase).Sheltered := by
  have hs := sheltered_readable (d := d) h
  have he : d.escapeLiteral.Sheltered := sheltered_literal _
  cases d with
  | postgres => exact sheltered_likes hs hp he ignoreCase
  | mySql => exact sheltered_likes hs hp he ignoreCase
  | sqlite =>
    cases ignoreCase
    · exact Formula.sheltered_compare hs .glob hp
    · exact sheltered_likes hs hp he true
  | sqlServer =>
    cases ignoreCase
    · exact sheltered_likes (hs.closed _ (by decide)) hp he false
    · exact sheltered_likes hs hp he true

theorem sheltered_matchesRegex (h : place.column.Sheltered) (hp : parameter.Sheltered)
    (ignoreCase : Bool) : (d.matchesRegex place parameter ignoreCase).Sheltered := by
  have hs := sheltered_readable (d := d) h
  cases d with
  | postgres => exact Formula.sheltered_compare hs _ hp
  | mySql =>
    exact sheltered_holdsIf true (sheltered_call (by decide) (by simp [hs, hp]))
  | sqlite => exact sheltered_matchesWildcard (d := .sqlite) h hp ignoreCase
  | sqlServer => exact sheltered_matchesWildcard (d := .sqlServer) h hp ignoreCase

/-- The one condition with a clause word in it: a `WHERE` inside the parentheses of `EXISTS`. -/
@[simp] theorem sheltered_entryExists (hc : column.Sheltered) (path : Path)
    (type : Option Nat) : (entryExists column path type).Sheltered := by
  have hcall : (call "OPENJSON" [column, sqlServer.pathLiteral path.parent]).Sheltered :=
    sheltered_pathCall (by decide) hc _
  have hfrom := Levels.opened (n := 0) "EXISTS (SELECT 1 FROM " (by decide) (hcall.within 1)
  have hwhere := hfrom.closed " WHERE [key] = N" (k := 1) (by decide)
  have hlabel (label : String) :=
    hwhere.append ((sheltered_literal (d := .sqlServer) label).within 1)
  cases type with
  | none => exact ((hlabel _).append (sheltered_nil.within 1)).closed ")" (by decide)
  | some n =>
    have htype := Levels.opened (n := 1) " AND [type] = " (by decide)
      ((sheltered_number n).within 1)
    exact ((hlabel _).append htype).closed ")" (by decide)

theorem sheltered_isPresent (h : place.column.Sheltered) (wanted : Bool) :
    (d.isPresent place wanted).Sheltered := by
  cases place with
  | identity column => exact sheltered_nonNullIf wanted h
  | document column path =>
    have hcolumn : column.Sheltered := h
    cases d with
    | postgres =>
      exact sheltered_nonNullIf wanted (sheltered_parens (sheltered_jsonAt hcolumn path))
    | mySql =>
      exact sheltered_holdsIf wanted
        (sheltered_call (by decide) (by simp [hcolumn, pathLiteral]))
    | sqlite => exact sheltered_nonNullIf wanted (sheltered_pathCall (by decide) hcolumn path)
    | sqlServer => exact sheltered_holdsIf wanted (sheltered_entryExists hcolumn path none)

theorem sheltered_named {subject : Fragment} (hs : subject.Sheltered) (names : List String) :
    (d.named subject names).Sheltered := by
  unfold named
  split
  · exact Formula.sheltered_compare hs .equal (sheltered_literal _)
  · exact Formula.sheltered_among hs (by simp)

theorem sheltered_hasType (h : place.column.Sheltered) (type : JsonType) :
    (d.hasType place type).Sheltered := by
  cases place with
  | identity column => exact sheltered_nonNullIf _ h
  | document column path =>
    have hcolumn : column.Sheltered := h
    cases d with
    | postgres =>
      have hcall : (call "jsonb_typeof" [postgres.jsonAt column path]).Sheltered :=
        sheltered_call (by decide) (by simp [hcolumn])
      exact sheltered_named hcall [type.name]
    | mySql =>
      have hcall : (call "JSON_TYPE" [mySql.jsonAt column path]).Sheltered :=
        sheltered_call (by decide) (by simp [hcolumn])
      exact sheltered_named hcall (mySqlTypeNames type)
    | sqlite =>
      have hcall : (call "json_type" [column, sqlite.pathLiteral path]).Sheltered :=
        sheltered_pathCall (by decide) hcolumn path
      exact sheltered_named hcall (sqliteTypeNames type)
    | sqlServer => exact sheltered_holdsIf true (sheltered_entryExists hcolumn path _)

end Dialect
end DocFilter
