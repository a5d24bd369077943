import DocFilter.Proofs.Sql.Mark

/-!
# The skeleton of a text

What a client may choose stands in three places of a text: in string literals, in the
numerals behind an arrow, and in the names behind a mark.  The skeleton is what is left of
the tokens when these are taken out.  It is found from the tokens alone, so that whoever
reads the text finds the same: a name is the word behind a mark that is not doubled, and
the numeral of an index the digits behind `->` or `->>` and a blank.
-/

namespace DocFilter
namespace Sql

/-- What the tokens just read make of a word that comes next. -/
inductive Ahead where
  | anything
  /-- A name, behind a mark. -/
  | name
  /-- A dash, which may begin an arrow. -/
  | dash
  /-- An arrow, which may go on. -/
  | arrow
  /-- An index, behind an arrow and a blank. -/
  | index
  deriving DecidableEq, Repr

namespace Ahead

/-- What is ahead after one more token.  A mark behind a mark is a conversion, and marks
nothing. -/
def after (m : Char) (s : Ahead) : Token → Ahead
  | .symbol c =>
    if c = m then if s = .name then .anything else .name
    else if c = '-' then .dash
    else if c = '>' ∧ (s = .dash ∨ s = .arrow) then .arrow
    else if c = ' ' ∧ s = .arrow then .index
    else .anything
  | _ => .anything

/-- What is ahead after some tokens. -/
def afterAll (m : Char) (s : Ahead) (ts : List Token) : Ahead := ts.foldl (after m) s

/-- Only a mark puts a name ahead. -/
theorem after_ne_name {m : Char} {s : Ahead} {t : Token} (h : t ≠ .symbol m) :
    after m s t ≠ .name := by
  cases t with
  | symbol c =>
    have hc : c ≠ m := fun hc => h (congrArg Token.symbol hc)
    rw [after, if_neg hc]
    split_ifs
    all_goals exact fun h => nomatch h
  | word w => exact fun h => nomatch h
  | literal content => exact fun h => nomatch h
  | identifier name => exact fun h => nomatch h

theorem afterAll_ne_name {m : Char} {s : Ahead} {ts : List Token} (hs : s ≠ .name)
    (h : Token.symbol m ∉ ts) : afterAll m s ts ≠ .name := by
  induction ts generalizing s with
  | nil => exact hs
  | cons t ts ih =>
    rw [List.mem_cons, not_or] at h
    exact ih (after_ne_name (Ne.symm h.1)) h.2

end Ahead

/-- What is kept of a token. -/
def keep (s : Ahead) : Token → List Token
  | .literal _ => [.literal []]
  | .word w => if s = .name ∨ s = .index ∧ w.all Char.isDigit then [] else [.word w]
  | t => [t]

/-- The skeleton of the tokens that follow. -/
def skeletonFrom (m : Char) : Ahead → List Token → List Token
  | _, [] => []
  | s, t :: ts => keep s t ++ skeletonFrom m (s.after m t) ts

/-- The skeleton of a text, where a mark and a style of literals are given; a text that ends
inside a quote has none. -/
def skeleton? (m : Char) (style : LiteralStyle) (text : String) : Option (List Token) :=
  (lex style text.toList).map (skeletonFrom m .anything)

theorem skeletonFrom_append (m : Char) (s : Ahead) (ts us : List Token) :
    skeletonFrom m s (ts ++ us) =
      skeletonFrom m s ts ++ skeletonFrom m (s.afterAll m ts) us := by
  induction ts generalizing s with
  | nil => rfl
  | cons t ts ih =>
    rw [List.cons_append, skeletonFrom, skeletonFrom, ih, List.append_assoc]
    rfl

end Sql
end DocFilter
