import DocFilter.Sql.Name
import Mathlib.Tactic.SplitIfs

/-!
# Reading SQL text as tokens

`Sql.Fragment` knows which characters are SQL and which are the content of a quote
because it put them together.  A database knows only the text.  `lex` reads the text
the way a database does: words, single characters, string literals and quoted
identifiers, in one pass from left to right.  A quote inside a quote is written
twice, and where a backslash escapes, the character after it belongs to the literal
whatever it is.  A text that ends inside a quote has no tokens.

## Texts side by side

A word goes on as long as it can, and a quote that follows a quote of its kind does
not begin a new one.  So the tokens of two texts side by side are the tokens of each
(`lex_append`) only where the two do not run into each other, which `Apart` says of
the characters that meet.
-/

namespace DocFilter
namespace Sql

/-- The two kinds of quotes. -/
inductive Quote where
  | single
  | double
  deriving DecidableEq, Repr

/-- The character of a quote. -/
def Quote.char : Quote → Char
  | .single => '\''
  | .double => '\"'

/-- The quote a character is, if it is one. -/
def Quote.ofChar? (c : Char) : Option Quote :=
  if c = '\'' then some .single else if c = '\"' then some .double else none

/-- A token of SQL text. -/
inductive Token where
  /-- A run of letters, digits and underscores. -/
  | word (chars : List Char)
  /-- Any other character outside quotes. -/
  | symbol (c : Char)
  /-- A string literal, by its content. -/
  | literal (content : List Char)
  /-- A quoted identifier, by its name. -/
  | identifier (name : List Char)
  deriving DecidableEq, Repr

/-- The token between two quotes of a kind. -/
def Quote.token : Quote → List Char → Token
  | .single, content => .literal content
  | .double, name => .identifier name

/-- Where a reading stands.  The characters of an unfinished token are kept newest
first. -/
inductive LexState where
  /-- Outside quotes, after these characters of a word. -/
  | outside (word : List Char)
  /-- Inside a quote. -/
  | inside (q : Quote) (content : List Char)
  /-- Inside a string literal, after a backslash. -/
  | escaped (content : List Char)
  /-- After a quote that ends the token, unless another one follows. -/
  | closing (q : Quote) (content : List Char)

namespace LexState

/-- A character where a token begins: the tokens it completes, and the state after
it. -/
def first (c : Char) : List Token × LexState :=
  match Quote.ofChar? c with
  | some q => ([], .inside q [])
  | none => if isWordChar c then ([], .outside [c]) else ([.symbol c], .outside [])

/-- The word that ends here, if there is one. -/
def wordToken : List Char → List Token
  | [] => []
  | w => [.word w.reverse]

/-- One character read: the tokens it completes, and the state after it. -/
def step (style : LiteralStyle) : LexState → Char → List Token × LexState
  | .outside w, c =>
    if isWordChar c then ([], .outside (c :: w))
    else (wordToken w ++ (first c).1, (first c).2)
  | .inside q content, c =>
    if c = q.char then ([], .closing q content)
    else if c = '\\' ∧ q = .single ∧ style = .escaping then ([], .escaped content)
    else ([], .inside q (c :: content))
  | .escaped content, c => ([], .inside .single (c :: content))
  | .closing q content, c =>
    if c = q.char then ([], .inside q (c :: content))
    else (q.token content.reverse :: (first c).1, (first c).2)

/-- The tokens that the end of the text completes; none inside a quote. -/
def finish : LexState → Option (List Token)
  | .outside w => some (wordToken w)
  | .inside _ _ => none
  | .escaped _ => none
  | .closing q content => some [q.token content.reverse]

end LexState

/-- The tokens of the rest of a text. -/
def lexFrom (style : LiteralStyle) : LexState → List Char → Option (List Token)
  | s, [] => s.finish
  | s, c :: rest => (lexFrom style (s.step style c).2 rest).map ((s.step style c).1 ++ ·)

/-- The tokens of a text. -/
def lex (style : LiteralStyle) (cs : List Char) : Option (List Token) :=
  lexFrom style (.outside []) cs

/-! ## Characters that meet -/

/-- A character that is a token by itself. -/
def isSymbol (c : Char) : Bool := !isWordChar c && (Quote.ofChar? c).isNone

/-- No two characters that meet between the texts belong to one token. -/
def Apart (a b : List Char) : Prop :=
  ∀ x ∈ a.getLast?, ∀ y ∈ b.head?,
    ¬ (isWordChar x = true ∧ isWordChar y = true) ∧ ¬ (x = y ∧ (Quote.ofChar? x).isSome)

theorem Quote.ofChar?_char (q : Quote) : Quote.ofChar? q.char = some q := by
  cases q <;> rfl

theorem Quote.isWordChar_char (q : Quote) : isWordChar q.char = false := by
  cases q <;> rfl

theorem Quote.char_of_ofChar? {c : Char} {q : Quote} (h : Quote.ofChar? c = some q) :
    q.char = c := by
  unfold Quote.ofChar? at h
  split_ifs at h with h1 h2
  · rw [← Option.some.inj h, h1]; rfl
  · rw [← Option.some.inj h, h2]; rfl

theorem apart_of_head {a b : List Char} (h : ∀ y ∈ b.head?, isSymbol y = true) :
    Apart a b := by
  intro x _ y hy
  have hs := h y hy
  simp only [isSymbol, Bool.and_eq_true, Bool.not_eq_true', Option.isNone_iff_eq_none] at hs
  refine ⟨fun hw => ?_, fun hq => ?_⟩
  · rw [hs.1] at hw
    exact absurd hw.2 (by simp)
  · rw [hq.1, hs.2] at hq
    exact absurd hq.2 (by simp)

theorem apart_of_getLast {a b : List Char} (h : ∀ x ∈ a.getLast?, isSymbol x = true) :
    Apart a b := by
  intro x hx y _
  have hs := h x hx
  simp only [isSymbol, Bool.and_eq_true, Bool.not_eq_true', Option.isNone_iff_eq_none] at hs
  refine ⟨fun hw => ?_, fun hq => ?_⟩
  · rw [hs.1] at hw
    exact absurd hw.1 (by simp)
  · rw [hs.2] at hq
    exact absurd hq.2 (by simp)

namespace LexState

/-- The character begins a token of its own when it follows in this state. -/
def Breaks : LexState → Char → Prop
  | .outside w, c => w = [] ∨ isWordChar c = false
  | .closing q _, c => c ≠ q.char
  | _, _ => True

/-- The state after a text. -/
def after (style : LiteralStyle) (s : LexState) (cs : List Char) : LexState :=
  cs.foldl (fun s c => (s.step style c).2) s

theorem first_eq_step (style : LiteralStyle) (c : Char) :
    first c = (LexState.outside []).step style c := by
  unfold first step first
  by_cases hw : isWordChar c = true
  · have hq : Quote.ofChar? c = none := by
      cases hq : Quote.ofChar? c with
      | none => rfl
      | some q =>
        rw [← Quote.char_of_ofChar? hq, Quote.isWordChar_char] at hw
        exact absurd hw (by simp)
    simp only [hq, hw, if_true]
  · simp only [hw, wordToken, List.nil_append]
    simp

/-- Where a token can end, a character that breaks the token off is read as if the
text began with it. -/
theorem lexFrom_of_breaks {style : LiteralStyle} {s : LexState} {c : Char} {ts : List Token}
    (hf : s.finish = some ts) (hb : s.Breaks c) (rest : List Char) :
    lexFrom style s (c :: rest) = (lex style (c :: rest)).map (ts ++ ·) := by
  have hstep : s.step style c = (ts ++ (first c).1, (first c).2) := by
    cases s with
    | outside w =>
      have hts : ts = wordToken w := (Option.some.inj hf).symm
      rcases hb with rfl | hc
      · rw [hts, first_eq_step style]; rfl
      · simp [step, hc, hts]
    | inside q content => exact absurd hf (by simp [finish])
    | escaped content => exact absurd hf (by simp [finish])
    | closing q content =>
      have hts : ts = [q.token content.reverse] := (Option.some.inj hf).symm
      simp [step, if_neg hb, hts]
  rw [lex, lexFrom, lexFrom, hstep, ← first_eq_step, Option.map_map]
  congr 1
  funext ts'
  simp

/-- A step breaks off at every character that stands apart from the one it read: only
the last character says which token is unfinished. -/
theorem breaks_step {style : LiteralStyle} (s : LexState) {x c : Char}
    (h : Apart [x] [c]) : (s.step style x).2.Breaks c := by
  obtain ⟨hword, hquote⟩ := h x rfl c rfl
  have hfirst : (first x).2.Breaks c := by
    rw [first]
    cases hq : Quote.ofChar? x with
    | some q => trivial
    | none =>
      by_cases hw : isWordChar x = true
      · simp only [hw, if_true]
        exact Or.inr (by simpa [hw] using hword)
      · simp only [if_neg hw]
        exact Or.inl rfl
  cases s with
  | outside w =>
    by_cases hw : isWordChar x = true
    · simp only [step, hw, if_true]
      exact Or.inr (by simpa [hw] using hword)
    · simpa only [step, if_neg hw] using hfirst
  | inside q content =>
    simp only [step]
    split_ifs with h1 h2
    · intro hc
      refine hquote ⟨h1.trans hc.symm, ?_⟩
      rw [h1, Quote.ofChar?_char]
      rfl
    · trivial
    · trivial
  | escaped content => trivial
  | closing q content =>
    simp only [step]
    split_ifs with h1
    · trivial
    · exact hfirst

/-- After the last character of a text, whatever stands apart from it breaks the token
off. -/
theorem breaks_after {style : LiteralStyle} (s : LexState) {a b : List Char} {c : Char}
    (ha : a ≠ []) (h : Apart a (c :: b)) : (s.after style a).Breaks c := by
  obtain ⟨init, x, rfl⟩ : ∃ init x, a = init ++ [x] :=
    ⟨a.dropLast, a.getLast ha, (List.dropLast_concat_getLast ha).symm⟩
  rw [after, List.foldl_append, List.foldl_cons, List.foldl_nil]
  refine breaks_step _ fun y hy z hz => ?_
  rw [List.getLast?_singleton] at hy
  rw [List.head?_cons] at hz
  exact h y (by simpa using hy) z (by simpa using hz)

theorem lexFrom_append {style : LiteralStyle} {a b : List Char} {ts us : List Token}
    {s : LexState} (ha : lexFrom style s a = some ts)
    (hb : ∀ c rest, b = c :: rest → (s.after style a).Breaks c)
    (hlex : lex style b = some us) : lexFrom style s (a ++ b) = some (ts ++ us) := by
  induction a generalizing s ts with
  | nil =>
    cases b with
    | nil =>
      have hus : us = [] := by
        rw [lex, lexFrom, finish, wordToken] at hlex
        exact (Option.some.inj hlex).symm
      rw [hus, List.append_nil, List.append_nil]
      exact ha
    | cons c rest =>
      rw [List.nil_append, lexFrom_of_breaks ha (hb c rest rfl), hlex]
      rfl
  | cons x a ih =>
    rw [lexFrom, Option.map_eq_some_iff] at ha
    obtain ⟨ts', hts', rfl⟩ := ha
    rw [List.cons_append, lexFrom, ih hts' (fun c rest h => hb c rest h), Option.map_some,
      List.append_assoc]

end LexState

/-- Texts that stand apart have the tokens of both. -/
theorem lex_append {style : LiteralStyle} {a b : List Char} {ts us : List Token}
    (ha : lex style a = some ts) (hb : lex style b = some us) (h : Apart a b) :
    lex style (a ++ b) = some (ts ++ us) := by
  cases a with
  | nil =>
    have hts : ts = [] := (Option.some.inj ha).symm
    rw [hts]
    exact hb
  | cons x a =>
    refine LexState.lexFrom_append ha (fun c rest hc => ?_) hb
    rw [hc] at h
    exact LexState.breaks_after _ (List.cons_ne_nil x a) h

/-! ## The tokens of single pieces -/

theorem doubled_cons (q c : Char) (cs : List Char) :
    doubled q (c :: cs) = (if c = q then [q, q] else [c]) ++ doubled q cs := rfl

theorem lexFrom_quoted {style : LiteralStyle} {q : Quote} (content cs : List Char)
    (h : style = .escaping → q = .single → '\\' ∉ cs) :
    lexFrom style (.inside q content) (doubled q.char cs ++ [q.char]) =
      some [q.token (content.reverse ++ cs)] := by
  induction cs generalizing content with
  | nil => simp [doubled, lexFrom, LexState.step, LexState.finish]
  | cons c cs ih =>
    have ih' := ih (c :: content) fun h1 h2 hm => h h1 h2 (List.mem_cons_of_mem _ hm)
    rw [doubled_cons]
    by_cases hc : c = q.char
    · rw [if_pos hc]
      simp only [List.cons_append, List.nil_append, lexFrom, LexState.step, if_true, ← hc]
      simp only [hc] at ih' ⊢
      simp [ih']
    · rw [if_neg hc]
      have hesc : ¬ (c = '\\' ∧ q = .single ∧ style = .escaping) := by
        rintro ⟨rfl, hq, hs⟩
        exact h hs hq List.mem_cons_self
      simp only [List.cons_append, List.nil_append, lexFrom, LexState.step, if_neg hc,
        if_neg hesc]
      simp [ih']

/-- Inside a literal whose backslashes escape, a backslash written twice is one. -/
theorem lexFrom_escaping (content cs : List Char) :
    lexFrom .escaping (.inside .single content)
        (doubled '\'' (doubled '\\' cs) ++ ['\'']) =
      some [.literal (content.reverse ++ cs)] := by
  induction cs generalizing content with
  | nil => simp [doubled, lexFrom, LexState.step, LexState.finish, Quote.char, Quote.token]
  | cons c cs ih =>
    have ih' := ih (c :: content)
    rw [doubled_cons]
    by_cases hb : c = '\\'
    · subst hb
      simp only [if_true, List.cons_append, List.nil_append, doubled_cons,
        show ¬ ('\\' = '\'') by decide, if_false, lexFrom, LexState.step, Quote.char]
      simp [ih']
    · rw [if_neg hb]
      simp only [List.cons_append, List.nil_append, doubled_cons]
      by_cases hq : c = '\''
      · subst hq
        simp only [if_true, List.cons_append, List.nil_append, lexFrom, LexState.step,
          Quote.char]
        simp [ih']
      · simp only [if_neg hq, List.cons_append, List.nil_append, lexFrom, LexState.step,
          Quote.char, hb, false_and, if_false]
        simp [ih']

/-- A string literal is read back as its content, whatever the content. -/
theorem lex_literalChars (style : LiteralStyle) (content : String) :
    lex style (literalChars style content) = some [.literal content.toList] := by
  have hopen (rest : List Char) :
      lex style ('\'' :: rest) = lexFrom style (.inside .single []) rest := by
    rw [lex, lexFrom]
    simp [LexState.step, LexState.first, LexState.wordToken, Quote.ofChar?,
      show isWordChar '\'' = false by decide]
  rw [literalChars, hopen]
  cases style with
  | plain => exact lexFrom_quoted [] _ (fun h => absurd h (by simp))
  | escaping => exact lexFrom_escaping [] _

/-- A quoted identifier is read back as its name, whatever the name. -/
theorem lex_identifierChars (style : LiteralStyle) (name : String) :
    lex style (identifierChars name) = some [.identifier name.toList] := by
  have hopen (rest : List Char) :
      lex style ('\"' :: rest) = lexFrom style (.inside .double []) rest := by
    rw [lex, lexFrom]
    simp [LexState.step, LexState.first, LexState.wordToken, Quote.ofChar?,
      show isWordChar '\"' = false by decide]
  rw [identifierChars, hopen]
  exact lexFrom_quoted [] _ (fun _ h => absurd h (by simp))

theorem lexFrom_word {style : LiteralStyle} (w cs : List Char)
    (h : ∀ c ∈ cs, isWordChar c = true) :
    lexFrom style (.outside w) cs = some (LexState.wordToken (cs.reverse ++ w)) := by
  induction cs generalizing w with
  | nil => rfl
  | cons c cs ih =>
    have hc := h c List.mem_cons_self
    have ih' := ih (c :: w) fun x hx => h x (List.mem_cons_of_mem _ hx)
    simp only [lexFrom, LexState.step, hc, if_true]
    simp [ih']

theorem wordToken_reverse {cs : List Char} (hne : cs ≠ []) :
    LexState.wordToken cs.reverse = [.word cs] := by
  obtain ⟨c, rest, hr⟩ := List.exists_cons_of_ne_nil (List.reverse_ne_nil_iff.mpr hne)
  rw [hr, LexState.wordToken, ← hr, List.reverse_reverse]
  simp

/-- A word is one token. -/
theorem lex_word {style : LiteralStyle} {cs : List Char} (hne : cs ≠ [])
    (h : ∀ c ∈ cs, isWordChar c = true) : lex style cs = some [.word cs] := by
  rw [lex, lexFrom_word [] cs h, List.append_nil, wordToken_reverse hne]

/-- A symbol in front of a text is a token of its own. -/
theorem lex_symbol {style : LiteralStyle} {c : Char} (h : isSymbol c = true)
    (cs : List Char) : lex style (c :: cs) = (lex style cs).map (.symbol c :: ·) := by
  simp only [isSymbol, Bool.and_eq_true, Bool.not_eq_true', Option.isNone_iff_eq_none] at h
  rw [lex, lexFrom]
  simp [LexState.step, LexState.first, LexState.wordToken, h.1, h.2, lex]

end Sql
end DocFilter
