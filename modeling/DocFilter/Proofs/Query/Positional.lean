import DocFilter.Proofs.Query.Rewriting
import DocFilter.Proofs.Query.Translator

/-!
# Translations with positions

The text with positions has the tokens of the fragment with positions (`lex_positioned`), so
that outside of quotes there is one position for each name, numbered from one on in their
order, and no name is left (`Translator.positioned_of_translate`).
-/

namespace DocFilter

/-! ## The tokens of positions -/

namespace Dialect

open Sql

variable {d : Dialect} {f : Fragment}

/-- The character in front of a position. -/
def positionMark : Dialect → Char
  | .postgres => '$'
  | .mySql | .sqlite => '?'
  | .sqlServer => '@'

/-- What is written of a position behind the mark. -/
def positionLabel (d : Dialect) (n : Nat) : List Char :=
  match d with
  | .postgres => Nat.toDigits 10 n
  | .mySql | .sqlite => []
  | .sqlServer => 'P' :: Nat.toDigits 10 n

theorem positional_toList (d : Dialect) (n : Nat) :
    (d.positional n).toList = d.positionMark :: d.positionLabel n := by
  cases d with
  | postgres => rw [positional, String.toList_append, Nat.toList_repr]; rfl
  | mySql => exact show "?".toList = ['?'] by decide
  | sqlite => exact show "?".toList = ['?'] by decide
  | sqlServer => rw [positional, String.toList_append, Nat.toList_repr]; rfl

/-- The tokens of a position. -/
def positionTokens (d : Dialect) (n : Nat) : List Token :=
  .symbol d.positionMark :: LexState.wordToken (d.positionLabel n).reverse

theorem isWordChar_of_mem_positionLabel {n : Nat} {c : Char} (h : c ∈ d.positionLabel n) :
    isWordChar c = true := by
  cases d with
  | postgres => exact isWordChar_of_mem_toDigits h
  | mySql => exact absurd h (by simp [positionLabel])
  | sqlite => exact absurd h (by simp [positionLabel])
  | sqlServer =>
    rcases List.mem_cons.mp h with rfl | h
    · rfl
    · exact isWordChar_of_mem_toDigits h

theorem isSymbol_positionMark (d : Dialect) : isSymbol d.positionMark = true := by
  cases d <;> rfl

theorem lex_positional (d : Dialect) (n : Nat) (style : LiteralStyle) :
    lex style (d.positional n).toList = some (d.positionTokens n) := by
  rw [positional_toList, lex_symbol (isSymbol_positionMark d), lex,
    lexFrom_word [] _ fun c hc => isWordChar_of_mem_positionLabel hc, List.append_nil]
  rfl

/-- The tokens of a fragment with positions for names. -/
def positionedTokens (d : Dialect) (n : Nat) : Fragment → List Token
  | [] => []
  | p :: f =>
    match p.name? with
    | some _ => d.positionTokens n ++ positionedTokens d (n + 1) f
    | none => p.tokens ++ positionedTokens d n f

/-- A fragment with positions for names begins as the fragment does, or with a mark. -/
theorem head?_positioned (hf : d.Laid f) (n : Nat) :
    (Fragment.positioned d n f).chars.head? = f.chars.head? ∨
      (Fragment.positioned d n f).chars.head? = some d.positionMark := by
  cases f with
  | nil => exact Or.inl rfl
  | cons p f =>
    cases hp : p.name? with
    | some name =>
      right
      have hchars := Fragment.chars_cons (.bare (d.positional n)) (Fragment.positioned d (n + 1) f)
      simp only [Fragment.positioned, hp]
      rw [hchars, Piece.chars, positional_toList]
      rfl
    | none =>
      left
      have hne := hf.of_cons.1.chars_ne_nil
      simp only [Fragment.positioned, hp]
      rw [head?_chars_cons hne, head?_chars_cons hne]

theorem apart_positioned (hf : d.Laid f) {cs : List Char} (h : Apart cs f.chars) (n : Nat) :
    Apart cs (Fragment.positioned d n f).chars := by
  rcases head?_positioned hf n with hhead | hhead
  · rw [Apart, hhead]
    exact h
  · refine apart_of_head fun y hy => ?_
    rw [hhead] at hy
    rw [← Option.some.inj hy]
    exact isSymbol_positionMark d

/-- A position can stand where the place of a parameter stood. -/
theorem apart_positional {rest : List Char} (h : ∀ c ∈ rest.head?, isWordChar c = false)
    (n : Nat) : Apart (d.positional n).toList rest := by
  intro x hx y hy
  rw [positional_toList] at hx
  have hquote : Quote.ofChar? x = none := by
    rcases List.mem_cons.mp (List.mem_of_getLast? hx) with rfl | hlabel
    · cases d <;> rfl
    · exact ofChar?_of_isInert (isInert_of_isWordChar (isWordChar_of_mem_positionLabel hlabel))
  refine ⟨fun hw => ?_, fun hq => ?_⟩
  · rw [h y hy] at hw
    exact absurd hw.2 (by simp)
  · rw [hquote] at hq
    exact absurd hq.2 (by simp)

theorem isWordChar_head?_positioned (hf : d.Laid f)
    (h : ∀ c ∈ f.chars.head?, isWordChar c = false) (n : Nat) :
    ∀ c ∈ (Fragment.positioned d n f).chars.head?, isWordChar c = false := by
  intro c hc
  rcases head?_positioned hf n with hhead | hhead
  · rw [hhead] at hc
    exact h c hc
  · rw [hhead] at hc
    rw [← Option.some.inj hc]
    cases d <;> rfl

/-- The place of a parameter in front: the rest goes on with no word. -/
theorem isWordChar_head?_of_laid {p : Piece} (hf : d.Laid (p :: f)) (hp : p.name?.isSome = true) :
    ∀ c ∈ f.chars.head?, isWordChar c = false := by
  obtain ⟨hwrites, -, hapart⟩ := hf.of_cons
  cases p with
  | placeholder sigil name =>
    obtain ⟨-, field, k, rfl⟩ := hwrites
    exact isWordChar_head?_of_apart hapart
  | _ => exact absurd hp (by simp [Piece.name?])

theorem lex_positioned (hf : d.Laid f) (n : Nat) :
    lex d.literalStyle (Fragment.positioned d n f).chars = some (d.positionedTokens n f) := by
  induction f generalizing n with
  | nil => rfl
  | cons p f ih =>
    obtain ⟨hp, hrest, hapart⟩ := hf.of_cons
    cases hname : p.name? with
    | some name =>
      have hhead := isWordChar_head?_of_laid hf (by rw [hname]; rfl)
      simp only [Fragment.positioned, positionedTokens, hname]
      rw [Fragment.chars_cons]
      exact lex_append (lex_positional d n _) (ih hrest (n + 1))
        (apart_positional (isWordChar_head?_positioned hrest hhead (n + 1)) n)
    | none =>
      simp only [Fragment.positioned, positionedTokens, hname]
      rw [Fragment.chars_cons]
      exact lex_append hp.lex (ih hrest n) (apart_positioned hrest hapart n)

/-! ## The marks of a fragment with positions -/

theorem wordAhead_positionedTokens (hf : d.Laid f)
    (h : ∀ c ∈ f.chars.head?, isWordChar c = false) (n : Nat) :
    wordAhead (d.positionedTokens n f) = [] := by
  cases f with
  | nil => rfl
  | cons p f =>
    have hp := hf.of_cons.1
    cases p with
    | placeholder sigil name => rfl
    | literal style content => rfl
    | identifier name => rfl
    | bare text =>
      rw [head?_chars_cons hp.chars_ne_nil] at h
      obtain ⟨c, cs, hcs⟩ := List.exists_cons_of_ne_nil hp.1
      have hword : isWordChar c = false := h c (by rw [Piece.chars, hcs]; rfl)
      have hquote : Quote.ofChar? c = none :=
        hp.quoteless c (by rw [hcs]; exact List.mem_cons_self)
      have hsymbol : isSymbol c = true := by
        rw [isSymbol, hword, hquote]
        rfl
      have hlex := hp.lex
      rw [Piece.chars, hcs, lex_symbol hsymbol, Option.map_eq_some_iff] at hlex
      obtain ⟨ts, -, hts⟩ := hlex
      simp only [positionedTokens, Piece.name?]
      rw [← hts]
      rfl

theorem marks_positionTokens (d : Dialect) (n : Nat) {ts : List Token} (h : wordAhead ts = []) :
    marks d.positionMark (d.positionTokens n ++ ts) =
      d.positionLabel n :: marks d.positionMark ts := by
  rw [positionTokens, List.cons_append, marks, if_pos rfl]
  by_cases hl : d.positionLabel n = []
  · rw [hl]
    exact congrArg (· :: marks d.positionMark ts) h
  · rw [wordToken_reverse hl, List.singleton_append, marks, if_neg (by simp)]
    rfl

/-- The marks of positions are those of the positions, in order. -/
theorem marks_positionMark (hf : d.Laid f) (n : Nat) :
    marks d.positionMark (d.positionedTokens n f) =
      (List.range' n f.names.length).map d.positionLabel := by
  induction f generalizing n with
  | nil => rfl
  | cons p f ih =>
    obtain ⟨hp, hrest, -⟩ := hf.of_cons
    cases hname : p.name? with
    | some name =>
      have hahead := wordAhead_positionedTokens hrest
        (isWordChar_head?_of_laid hf (by rw [hname]; rfl)) (n + 1)
      simp only [positionedTokens, Fragment.names, List.filterMap_cons, hname]
      rw [marks_positionTokens d n hahead, ih hrest (n + 1)]
      rfl
    | none =>
      have hnotMem := symbol_notMem_tokens (m := d.positionMark) hp hname (by cases d <;> rfl)
        fun _ => by cases d <;> decide
      simp only [positionedTokens, Fragment.names, List.filterMap_cons, hname]
      rw [marks_append_of_notMem hnotMem, ih hrest n]
      rfl

theorem underscore_notMem_positionLabel (d : Dialect) (n : Nat) : '_' ∉ d.positionLabel n := by
  cases d with
  | postgres => exact Nat.underscore_not_in_toDigits
  | mySql => exact List.not_mem_nil
  | sqlite => exact List.not_mem_nil
  | sqlServer =>
    rw [positionLabel, List.mem_cons, not_or]
    exact ⟨by decide, Nat.underscore_not_in_toDigits⟩

/-- Behind the sigil of a name there is a position or a type left, and neither has an
underscore in it. -/
theorem underscore_notMem_of_mem_marks (hf : d.Laid f) (n : Nat) {w : List Char}
    (h : w ∈ marks d.sigil (d.positionedTokens n f)) : '_' ∉ w := by
  induction f generalizing n with
  | nil => exact absurd h (by simp [positionedTokens, marks])
  | cons p f ih =>
    obtain ⟨hp, hrest, -⟩ := hf.of_cons
    cases hname : p.name? with
    | some name =>
      have hahead := wordAhead_positionedTokens hrest
        (isWordChar_head?_of_laid hf (by rw [hname]; rfl)) (n + 1)
      simp only [positionedTokens, hname] at h
      by_cases hsigil : d.sigil = d.positionMark
      · rw [hsigil, marks_positionTokens d n hahead, ← hsigil] at h
        rcases List.mem_cons.mp h with rfl | h
        · exact underscore_notMem_positionLabel d n
        · exact ih hrest (n + 1) h
      · rw [marks_append_of_notMem] at h
        · exact ih hrest (n + 1) h
        · rw [positionTokens, List.mem_cons, not_or]
          exact ⟨fun he => hsigil (Token.symbol.inj he), symbol_notMem_wordToken _ _⟩
    | none =>
      simp only [positionedTokens, hname] at h
      by_cases hcast : p = .bare numericCast ∧ d.sigil = ':'
      · obtain ⟨rfl, hcolon⟩ := hcast
        have htokens : Piece.tokens (.bare numericCast) = [.symbol ':', .symbol ':',
          .word "numeric".toList, .symbol ' ', .word "END".toList] := by decide
        have hmarks (ts : List Token) : marks ':' ([.symbol ':', .symbol ':',
            .word "numeric".toList, .symbol ' ', .word "END".toList] ++ ts) =
            [] :: "numeric".toList :: marks ':' ts := rfl
        rw [htokens, hcolon, hmarks, List.mem_cons, List.mem_cons] at h
        rcases h with rfl | rfl | h
        · exact List.not_mem_nil
        · decide
        · exact ih hrest n (by rw [hcolon]; exact h)
      · have hnotMem := symbol_notMem_tokens (m := d.sigil) hp hname (by cases d <;> rfl)
          fun he => by
            cases d with
            | sqlServer => decide
            | _ => exact absurd ⟨he, rfl⟩ hcast
        rw [marks_append_of_notMem hnotMem] at h
        exact ih hrest n h

end Dialect

/-! ## Translations -/

/-- Positions stand for names, and nothing else has changed. -/
structure Translation.Positioned (out : Translation) (d : Dialect) : Prop where
  /-- The values are those of the bindings, in their order. -/
  values_eq : (out.positional d).2 = out.bindings.values
  /-- No name is bound twice. -/
  nodup_keys : out.bindings.keys.Nodup
  /-- The names and the positions have the same texts around them, and both stand in
  order. -/
  spreads : ∃ first gaps, gaps.length = out.bindings.length ∧
    (out.conditionText.getD "").toList =
      spread first (out.bindings.keys.map fun name => d.sigil :: name.toList) gaps ∧
    (out.positional d).1.toList =
      spread first ((List.range' 1 out.bindings.length).map fun i => (d.positional i).toList) gaps
  /-- Outside quotes the marks of positions are those of the positions from one on, and no
  bound name is left behind a sigil. -/
  marks : ∃ tokens, Sql.lex d.literalStyle (out.positional d).1.toList = some tokens ∧
    (Sql.marks d.positionMark tokens).map (d.positionMark :: ·) =
      (List.range' 1 out.bindings.length).map (fun i => (d.positional i).toList) ∧
    ∀ w ∈ Sql.marks d.sigil tokens, String.ofList w ∉ out.bindings.keys

namespace Translator

variable {t : Translator} {c c' : Nat} {out : Translation}

theorem underscored_of_fresh {d : Dialect} {fields : List String} {p : Predicate}
    (h : p.Fresh d c fields) : Dialect.Underscored p.bindings := by
  intro k hk
  rw [h.keys_eq] at hk
  obtain ⟨field, n, -, -, rfl⟩ := Sql.exists_of_mem_parameterNames hk
  exact Sql.underscore_mem_parameterName field n

theorem find?_keys {bindings : Bindings} (h : bindings.keys.Nodup) :
    bindings.keys.map (fun name => Dict.find? name bindings) = bindings.values.map some := by
  rw [Dict.keys, Dict.values, List.map_map, List.map_map]
  exact List.map_congr_left fun e he => Dict.find?_of_mem h he

/-- Where there is no condition, nothing is rewritten and nothing is bound. -/
theorem positioned_of_none {d : Dialect} (hcondition : out.condition = none)
    (hbindings : out.bindings = []) : out.Positioned d := by
  have hpositional : out.positional d = ("", []) := by
    simp only [Translation.positional, Translation.conditionText, hcondition, Option.map_none]
  have hgiven : out.conditionText.getD "" = "" := by
    simp only [Translation.conditionText, hcondition, Option.map_none, Option.getD_none]
  refine ⟨?_, ?_, ⟨[], [], ?_⟩, ⟨[], ?_⟩⟩
  · rw [hpositional, hbindings]
    rfl
  · rw [hbindings]
    exact List.nodup_nil
  · rw [hpositional, hgiven, hbindings]
    exact ⟨rfl, rfl, rfl⟩
  · rw [hpositional, hbindings]
    exact ⟨rfl, rfl, fun w hw => absurd hw List.not_mem_nil⟩

/-- A predicate with the names of its bindings in it, in their order, can be given
positions. -/
theorem positioned_of_fresh {d : Dialect} {fields : List String} {p : Predicate}
    (hcondition : out.condition = some p.condition) (hbindings : out.bindings = p.bindings)
    (hfresh : p.Fresh d c fields) : out.Positioned d := by
  have hlaid := hfresh.clause.operand.laid
  have hnames := hfresh.clause.operand.names_eq
  have hlength : p.condition.fragment.names.length = p.bindings.length := by
    rw [hnames, Dict.keys, List.length_map]
  have hnodup : p.bindings.keys.Nodup := by
    rw [hfresh.keys_eq]
    exact Sql.nodup_parameterNames _ _
  have hrewrite := Dialect.rewriteFrom_laid (underscored_of_fresh hfresh) hlaid
    (by rw [hnames]; exact find?_keys hnodup) 1
  have htext : p.condition.text.toList = p.condition.fragment.chars := String.toList_ofList
  have hpositional : out.positional d =
      (String.ofList (Sql.Fragment.positioned d 1 p.condition.fragment).chars,
        p.bindings.values) := by
    simp only [Translation.positional, Translation.conditionText, hcondition, hbindings,
      Option.map_some, Dialect.rewrite, htext]
    exact congrArg (fun r : Rewritten => (String.ofList r.chars, r.values)) hrewrite
  have hgiven : (out.conditionText.getD "").toList = p.condition.fragment.chars := by
    simp only [Translation.conditionText, hcondition, Option.map_some, Option.getD_some, htext]
  refine ⟨?_, ?_, ⟨p.condition.fragment.firstGap, p.condition.fragment.gaps, ?_, ?_, ?_⟩,
    ⟨d.positionedTokens 1 p.condition.fragment, ?_, ?_, fun w hw hk => ?_⟩⟩
  · rw [hpositional, hbindings]
  · rw [hbindings]
    exact hnodup
  · rw [Sql.Fragment.length_gaps, hlength, hbindings]
  · rw [hgiven, hbindings, ← hnames]
    exact Dialect.chars_eq_spread hlaid
  · rw [hpositional, hbindings, String.toList_ofList, ← hlength]
    exact Dialect.chars_positioned d 1 p.condition.fragment
  · rw [hpositional, String.toList_ofList]
    exact Dialect.lex_positioned hlaid 1
  · rw [Dialect.marks_positionMark hlaid 1, hlength, hbindings, List.map_map]
    exact List.map_congr_left fun i _ => (Dialect.positional_toList d i).symm
  · rw [hbindings] at hk
    have hmem := underscored_of_fresh hfresh _ hk
    rw [String.toList_ofList] at hmem
    exact Dialect.underscore_notMem_of_mem_marks hlaid 1 hw hmem

/-- Every translation can be given positions for names. -/
theorem positioned_of_translate {r : Request} (h : (t.translate r).run c = (.ok out, c')) :
    out.Positioned t.dialect := by
  obtain ⟨filter, -, hread⟩ := translate_eq_ok.mp h
  obtain ⟨p, keys, hp, -, hcondition, hbindings, -⟩ := translateRead_eq_ok hread
  by_cases halways : p.condition.isAlways = true
  · rw [if_pos halways] at hcondition hbindings
    exact positioned_of_none hcondition hbindings
  · rw [if_neg halways] at hcondition hbindings
    exact positioned_of_fresh hcondition hbindings (Filter.compile_fresh filter hp).1

/-- A range, a list and the identity, under names with quotes and colons in them, for the
dialect whose conversions have colons too. -/
theorem positioned_of_translate_postgres : ∃ out c',
    ((permissive .postgres).translate (.ofFilter [("$or", .array [
      .object [("a.b", .object [("$gte", .number (.integer 5)), ("$lte", .string "9")])],
      .object [("o'k:p_1", .object [("$in", .array [.string "x", .bool true])])],
      .object [("_id", .object [("$ne", .string "7")])]])])).run 41 = (.ok out, c') ∧
    out.Positioned .postgres := by
  obtain ⟨out, c', h⟩ := Minting.exists_run_eq_ok (x := (permissive .postgres).translate
    (.ofFilter [("$or", .array [
      .object [("a.b", .object [("$gte", .number (.integer 5)), ("$lte", .string "9")])],
      .object [("o'k:p_1", .object [("$in", .array [.string "x", .bool true])])],
      .object [("_id", .object [("$ne", .string "7")])]])])) (c := 41) rfl
  exact ⟨out, c', h, positioned_of_translate h⟩

end Translator
end DocFilter
