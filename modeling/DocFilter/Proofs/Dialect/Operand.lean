import DocFilter.Dialect.Basic
import DocFilter.Proofs.Sql.Mark
import DocFilter.Proofs.Sql.Name
import DocFilter.Proofs.Sql.Nesting
import DocFilter.Sql.Formula
import Mathlib.Data.List.Chain

/-!
# Fragments that can stand anywhere

The builders put a statement together from pieces, and a database takes its text apart
into tokens.  `Laid` says of a fragment that nothing is lost on the way: every piece is
one that the dialect writes, and no two neighbours run into each other, so that the
tokens of the text are the tokens of the pieces (`Laid.lex`).

## Operands

A fragment that closes every bracket it opens, and joins no conditions outside of them,
is an `Operand`: it means the same whatever is written around it.  The fragments from
which an operand is built do leave brackets open.  `Spans` keeps count of them, and there
is one rule for each way in which a builder adds plain SQL: in front, behind, between.
What the rules ask of plain SQL is computed from its text, so for a text that is known
the answer is a computation.
-/

namespace DocFilter
namespace Dialect

open Sql

/-! ## Plain SQL -/

/-- A character outside quotes that neither opens one nor marks a parameter. -/
def isInert (c : Char) : Bool := !(['\'', '\"', ':', '@', '$', '?'].contains c)

/-- The one text in which a colon is no mark of a parameter: the end of a number read by
the arrow operators. -/
def numericCast : String := "::numeric END"

/-- The tokens of plain SQL; a text without quotes has some. -/
def bareTokens (text : String) : List Token := (lex .plain text.toList).getD []

/-- The text leads from some open brackets to others, and is not all blank. -/
def shifts (before after : List Bracket) (text : String) : Bool :=
  (text.toList.all isInert || text == numericCast) &&
    depth before (bareTokens text) == some after && (bareTokens text).any (!·.isBlank)

/-- The first character of the text is a token of its own. -/
def startsApart (text : String) : Bool := text.toList.head?.all isSymbol

/-- The last character of the text is a token of its own. -/
def endsApart (text : String) : Bool := text.toList.getLast?.all isSymbol

/-! ## Pieces -/

/-- The piece is one that is written for the dialect. -/
def Writes (d : Dialect) : Piece → Prop
  | .bare text => text.toList ≠ [] ∧ (text.toList.all isInert = true ∨ text = numericCast)
  | .literal style _ => style = d.literalStyle
  | .identifier _ => True
  | .placeholder sigil name => sigil = d.sigil ∧ ∃ field n, name = parameterName field n

end Dialect

namespace Sql

/-- The tokens of a piece. -/
def Piece.tokens : Piece → List Token
  | .bare text => Dialect.bareTokens text
  | .literal _ content => [.literal content.toList]
  | .identifier name => [.identifier name.toList]
  | .placeholder sigil name => [.symbol sigil, .word name.toList]

/-- The tokens of the pieces, in order. -/
def Fragment.tokens (f : Fragment) : List Token := f.flatMap Piece.tokens

theorem Fragment.tokens_append (f g : Fragment) :
    Fragment.tokens (f ++ g) = Fragment.tokens f ++ Fragment.tokens g := List.flatMap_append

/-- The name of the parameter whose place the piece is. -/
def Piece.name? : Piece → Option String
  | .placeholder _ name => some name
  | _ => none

/-- The names of the parameters whose places are in the fragment, in order. -/
def Fragment.names (f : Fragment) : List String := f.filterMap Piece.name?

theorem Fragment.names_append (f g : Fragment) :
    Fragment.names (f ++ g) = Fragment.names f ++ Fragment.names g := List.filterMap_append

/-- The tokens of a text without quotes do not depend on what a backslash means in one. -/
theorem exists_lexFrom_of_quoteless {cs : List Char}
    (h : ∀ c ∈ cs, Quote.ofChar? c = none) (w : List Char) :
    ∃ ts, ∀ style, lexFrom style (.outside w) cs = some ts := by
  induction cs generalizing w with
  | nil => exact ⟨LexState.wordToken w, fun _ => rfl⟩
  | cons c cs ih =>
    have hq := h c List.mem_cons_self
    have hcs (x : Char) (hx : x ∈ cs) := h x (List.mem_cons_of_mem _ hx)
    by_cases hw : isWordChar c = true
    · obtain ⟨ts, hts⟩ := ih hcs (c :: w)
      refine ⟨ts, fun style => ?_⟩
      rw [lexFrom, LexState.step, if_pos hw, hts]
      rfl
    · obtain ⟨ts, hts⟩ := ih hcs []
      refine ⟨LexState.wordToken w ++ .symbol c :: ts, fun style => ?_⟩
      rw [lexFrom, LexState.step, if_neg hw, LexState.first, hq]
      simp only [if_neg hw]
      rw [hts, Option.map_some, List.append_assoc]
      rfl

end Sql

namespace Dialect

open Sql

variable {d : Dialect}

theorem isSymbol_sigil (d : Dialect) : isSymbol d.sigil = true := by
  cases d <;> rfl

theorem Writes.chars_ne_nil {p : Piece} (h : d.Writes p) : p.chars ≠ [] := by
  cases p with
  | bare text => exact h.1
  | literal style content => exact List.cons_ne_nil _ _
  | identifier name => exact List.cons_ne_nil _ _
  | placeholder sigil name => exact List.cons_ne_nil _ _

theorem ofChar?_of_isInert {c : Char} (h : isInert c = true) : Quote.ofChar? c = none := by
  unfold Quote.ofChar?
  split_ifs with h₁ h₂
  · rw [h₁] at h; exact absurd h (by decide)
  · rw [h₂] at h; exact absurd h (by decide)
  · rfl

/-- Plain SQL opens no quote. -/
theorem Writes.quoteless {text : String} (h : d.Writes (.bare text)) :
    ∀ c ∈ text.toList, Quote.ofChar? c = none := by
  rcases h.2 with h | rfl
  · exact fun c hc => ofChar?_of_isInert (List.all_eq_true.mp h c hc)
  · have hcast : numericCast.toList.all (fun c => (Quote.ofChar? c).isNone) = true := rfl
    exact fun c hc => Option.isNone_iff_eq_none.mp (List.all_eq_true.mp hcast c hc)

/-- The tokens of a piece are read from its text. -/
theorem Writes.lex {p : Piece} (h : d.Writes p) :
    lex d.literalStyle p.chars = some p.tokens := by
  cases p with
  | bare text =>
    obtain ⟨ts, hts⟩ := exists_lexFrom_of_quoteless h.quoteless []
    have hplain : bareTokens text = ts := by
      rw [bareTokens, Sql.lex, hts, Option.getD_some]
    rw [Piece.tokens, hplain]
    exact hts _
  | literal style content =>
    have hs : style = d.literalStyle := h
    rw [hs]
    exact lex_literalChars _ content
  | identifier name => exact lex_identifierChars _ name
  | placeholder sigil name =>
    obtain ⟨rfl, field, n, rfl⟩ := h
    rw [Piece.chars, lex_symbol (isSymbol_sigil d),
      lex_word (List.ne_nil_of_mem (underscore_mem_parameterName field n))
        fun c hc => isWordChar_of_mem_parameterName hc]
    rfl

/-- Plain SQL, literals and identifiers hold no mark, but for the one conversion. -/
theorem symbol_notMem_tokens {p : Piece} (hp : d.Writes p) (hname : p.name? = none) {m : Char}
    (hm : isInert m = false)
    (hcast : p = .bare numericCast → Token.symbol m ∉ bareTokens numericCast) :
    Token.symbol m ∉ p.tokens := by
  intro hmem
  cases p with
  | bare text =>
    rcases hp.2 with hinert | rfl
    · have hlex := hp.lex
      have hc := mem_of_symbol_mem_lexFrom hlex hmem
      rw [List.all_eq_true.mp hinert m hc] at hm
      exact absurd hm (by simp)
    · exact hcast rfl hmem
  | literal style content => exact absurd hmem (by simp [Piece.tokens])
  | identifier name => exact absurd hmem (by simp [Piece.tokens])
  | placeholder sigil name => exact absurd hname (by simp [Piece.name?])

/-! ## Pieces side by side -/

/-- Every piece is one the dialect writes, and neighbours do not run into each
other. -/
structure Laid (d : Dialect) (f : Fragment) : Prop where
  writes : ∀ p ∈ f, d.Writes p
  apart : f.IsChain fun p q => Apart p.chars q.chars

theorem head?_chars_cons {p : Piece} (hp : p.chars ≠ []) (f : Fragment) :
    (Fragment.chars (p :: f)).head? = p.chars.head? := by
  rw [Fragment.chars_cons, List.head?_append_of_ne_nil _ hp]

theorem getLast?_chars_concat {p : Piece} (hp : p.chars ≠ []) (f : Fragment) :
    (Fragment.chars (f ++ [p])).getLast? = p.chars.getLast? := by
  rw [Fragment.chars_append, Fragment.chars_cons, Fragment.chars_nil, List.append_nil,
    List.getLast?_append_of_ne_nil _ hp]

namespace Laid

/-- Laid fragments that stand apart are laid side by side. -/
theorem append {f g : Fragment} (hf : d.Laid f) (hg : d.Laid g)
    (h : Apart f.chars g.chars) : d.Laid (f ++ g) := by
  refine ⟨fun p hp => ?_, List.isChain_append.mpr ⟨hf.apart, hg.apart, ?_⟩⟩
  · rcases List.mem_append.mp hp with hp | hp
    · exact hf.writes p hp
    · exact hg.writes p hp
  · intro p hp q hq
    have hpw := hf.writes p (List.mem_of_getLast? hp)
    have hqw := hg.writes q (List.mem_of_head? hq)
    obtain ⟨f', rfl⟩ := List.getLast?_eq_some_iff.mp hp
    obtain ⟨g', rfl⟩ := List.head?_eq_some_iff.mp hq
    rw [Apart, getLast?_chars_concat hpw.chars_ne_nil, head?_chars_cons hqw.chars_ne_nil] at h
    exact h

/-- The parts of a laid fragment are laid. -/
theorem of_append {f g : Fragment} (h : d.Laid (f ++ g)) : d.Laid f ∧ d.Laid g := by
  obtain ⟨hf, hg, -⟩ := List.isChain_append.mp h.apart
  exact ⟨⟨fun p hp => h.writes p (List.mem_append_left g hp), hf⟩,
    ⟨fun p hp => h.writes p (List.mem_append_right f hp), hg⟩⟩

/-- The first piece, and a laid rest that stands apart from it. -/
theorem of_cons {p : Piece} {f : Fragment} (h : d.Laid (p :: f)) :
    d.Writes p ∧ d.Laid f ∧ Apart p.chars f.chars := by
  refine ⟨h.writes p List.mem_cons_self,
    ⟨fun q hq => h.writes q (List.mem_cons_of_mem _ hq), h.apart.tail⟩, ?_⟩
  cases f with
  | nil => exact fun x _ y hy => absurd hy (by simp)
  | cons q f =>
    have hq := h.writes q (List.mem_cons_of_mem _ List.mem_cons_self)
    rw [Apart, head?_chars_cons hq.chars_ne_nil]
    exact (List.isChain_cons_cons.mp h.apart).1

/-- The tokens of a laid fragment are read from its text. -/
theorem lex {f : Fragment} (h : d.Laid f) : lex d.literalStyle f.chars = some f.tokens := by
  induction f with
  | nil => rfl
  | cons p f ih =>
    obtain ⟨hp, hf, hapart⟩ := h.of_cons
    rw [Fragment.chars_cons]
    exact lex_append hp.lex (ih hf) hapart

end Laid

/-! ## Brackets left open -/

/-- A laid fragment that leads from some open brackets to others, has the places of these
parameters in it, and is not all blank. -/
structure Spans (d : Dialect) (before after : List Bracket) (names : List String)
    (f : Fragment) : Prop where
  laid : d.Laid f
  depth : Sql.depth before f.tokens = some after
  names_eq : f.names = names
  speaks : ∃ t ∈ f.tokens, t.isBlank = false

/-- A fragment that closes the brackets it opens, and joins nothing outside of them. -/
abbrev Operand (d : Dialect) (names : List String) (f : Fragment) : Prop :=
  d.Spans [] [] names f

variable {before middle outer after : List Bracket} {ns ms : List String} {f g : Fragment}
  {text : String}

theorem laid_singleton {p : Piece} (h : d.Writes p) : d.Laid [p] :=
  ⟨fun q hq => by rw [List.mem_singleton.mp hq]; exact h, List.isChain_singleton p⟩

theorem tokens_singleton (p : Piece) : Fragment.tokens [p] = p.tokens := List.append_nil _

theorem chars_singleton (p : Piece) : Fragment.chars [p] = p.chars := List.append_nil _

theorem spans_sql (h : shifts before after text = true) :
    d.Spans before after [] (Fragment.sql text) := by
  simp only [shifts, Bool.and_eq_true, Bool.or_eq_true, beq_iff_eq] at h
  obtain ⟨⟨hinert, hdepth⟩, hspeaks⟩ := h
  obtain ⟨t, ht, hblank⟩ := List.any_eq_true.mp hspeaks
  have hne : text.toList ≠ [] := by
    intro hnil
    rw [bareTokens, hnil] at ht
    exact absurd ht (by simp [Sql.lex, lexFrom, LexState.finish, LexState.wordToken])
  refine ⟨laid_singleton ⟨hne, hinert⟩, ?_, rfl, t, ?_, by simpa using hblank⟩
  · rw [Fragment.sql, tokens_singleton]
    exact hdepth
  · rw [Fragment.sql, tokens_singleton]
    exact ht

namespace Spans

theorem append (hf : d.Spans before middle ns f) (hg : d.Spans middle after ms g)
    (h : Apart f.chars g.chars) : d.Spans before after (ns ++ ms) (f ++ g) := by
  refine ⟨hf.laid.append hg.laid h, ?_, ?_, ?_⟩
  · rw [Fragment.tokens_append, depth_append, hf.depth, Option.bind_some, hg.depth]
  · rw [Fragment.names_append, hf.names_eq, hg.names_eq]
  · obtain ⟨t, ht, hb⟩ := hf.speaks
    exact ⟨t, by rw [Fragment.tokens_append]; exact List.mem_append_left _ ht, hb⟩

theorem self (hf : d.Spans before after ns f) : d.Spans before after f.names f := by
  rw [hf.names_eq]
  exact hf

/-- What a fragment does to the brackets it finds open, it does inside others. -/
theorem within (hf : d.Spans before after ns f) (around : List Bracket) :
    d.Spans (before ++ around) (after ++ around) ns f :=
  ⟨hf.laid, depth_frame hf.depth around, hf.names_eq, hf.speaks⟩

end Spans

theorem apart_sql_left (h : endsApart text = true) (cs : List Char) :
    Apart (Fragment.sql text).chars cs := by
  refine apart_of_getLast fun x hx => ?_
  rw [Fragment.sql, chars_singleton, Piece.chars] at hx
  rw [endsApart, Option.mem_def.mp hx] at h
  exact h

theorem apart_sql_right (h : startsApart text = true) (cs : List Char) :
    Apart cs (Fragment.sql text).chars := by
  refine apart_of_head fun y hy => ?_
  rw [Fragment.sql, chars_singleton, Piece.chars] at hy
  rw [startsApart, Option.mem_def.mp hy] at h
  exact h

/-! ## Plain SQL in front, behind and between -/

namespace Spans

/-- Plain SQL in front. -/
theorem opened (text : String) (h : (shifts [] middle text && endsApart text) = true)
    (hg : d.Spans middle after ms g) : d.Spans [] after ms (Fragment.sql text ++ g) := by
  obtain ⟨hs, he⟩ := Bool.and_eq_true_iff.mp h
  exact (spans_sql hs).append hg (apart_sql_left he _)

/-- Plain SQL behind. -/
theorem closed (hf : d.Spans before middle ns f) (text : String)
    (h : (shifts middle after text && startsApart text) = true) :
    d.Spans before after ns (f ++ Fragment.sql text) := by
  obtain ⟨hs, he⟩ := Bool.and_eq_true_iff.mp h
  have := hf.append (spans_sql hs) (apart_sql_right he _)
  rwa [List.append_nil] at this

/-- Plain SQL between. -/
theorem linked (hf : d.Spans before middle ns f) (text : String)
    (h : (shifts middle outer text && startsApart text && endsApart text) = true)
    (hg : d.Spans outer after ms g) :
    d.Spans before after (ns ++ ms) (f ++ Fragment.sql text ++ g) := by
  obtain ⟨h, he⟩ := Bool.and_eq_true_iff.mp h
  obtain ⟨hs, -⟩ := Bool.and_eq_true_iff.mp h
  refine (hf.closed text h).append hg (apart_of_getLast fun x hx => ?_)
  have hne : (Piece.bare text).chars ≠ [] :=
    ((spans_sql (d := d) hs).laid.writes _ List.mem_cons_self).chars_ne_nil
  rw [Fragment.sql, getLast?_chars_concat hne, Piece.chars] at hx
  rw [endsApart, Option.mem_def.mp hx] at he
  exact he

/-- The rest of a parenthesis that the text opens. -/
theorem enclosed (text : String) (h : (shifts [] [.paren] text && endsApart text) = true)
    (hf : d.Spans [.paren] [.paren] ns f) :
    d.Operand ns (Fragment.sql text ++ f ++ Fragment.sql ")") :=
  (opened text h hf).closed ")" (by decide)

end Spans

end Dialect
end DocFilter
