import DocFilter.Proofs.Sql.Mark
import Mathlib.Data.List.Infix

/-!
# Names between backquotes

There are databases that read a text between double quotes as a string, unless they are told
otherwise, and keep the backquote for names.  `Backquoted.lex` reads a text under these rules.
Both kinds of strings know the backslash, so a string can begin where a name was meant, and can
also be left open by a name that ends in a backslash.

Where no backquote stands outside quotes, and no backslash between double quotes, the tokens are
those of `Sql.lex`, but that every name is a string (`Backquoted.lex_eq`).  A text behind which a
double quote begins goes on with a string, or does not end (`Backquoted.not_readAs_quoted`).
-/

namespace DocFilter
namespace Sql
namespace Backquoted

/-! ## The rules -/

/-- What stands on both sides of a token. -/
inductive Delimiter where
  | single
  | double
  | back
  deriving DecidableEq, Repr

/-- The character of a delimiter. -/
def Delimiter.char : Delimiter → Char
  | .single => '\''
  | .double => '\"'
  | .back => '`'

/-- The delimiter a character is, if it is one. -/
def Delimiter.ofChar? (c : Char) : Option Delimiter :=
  if c = '\'' then some .single
  else if c = '\"' then some .double
  else if c = '`' then some .back
  else none

/-- The token between two delimiters of a kind. -/
def Delimiter.token : Delimiter → List Char → Token
  | .back, name => .identifier name
  | _, content => .literal content

/-- Where a reading stands.  The characters of an unfinished token are kept newest first. -/
inductive State where
  /-- Outside delimiters, after these characters of a word. -/
  | outside (word : List Char)
  /-- Between two delimiters. -/
  | inside (q : Delimiter) (content : List Char)
  /-- Between two delimiters, after a backslash. -/
  | escaped (q : Delimiter) (content : List Char)
  /-- After a delimiter that ends the token, unless another one follows. -/
  | closing (q : Delimiter) (content : List Char)

namespace State

/-- A character where a token begins. -/
def first (c : Char) : List Token × State :=
  match Delimiter.ofChar? c with
  | some q => ([], .inside q [])
  | none => if isWordChar c then ([], .outside [c]) else ([.symbol c], .outside [])

/-- One character read: the tokens it completes, and the state after it. -/
def step : State → Char → List Token × State
  | .outside w, c =>
    if isWordChar c then ([], .outside (c :: w))
    else (LexState.wordToken w ++ (first c).1, (first c).2)
  | .inside q content, c =>
    if c = q.char then ([], .closing q content)
    else if c = '\\' ∧ q ≠ .back then ([], .escaped q content)
    else ([], .inside q (c :: content))
  | .escaped q content, c => ([], .inside q (c :: content))
  | .closing q content, c =>
    if c = q.char then ([], .inside q (c :: content))
    else (q.token content.reverse :: (first c).1, (first c).2)

/-- The tokens that the end of the text completes; none between delimiters. -/
def finish : State → Option (List Token)
  | .outside w => some (LexState.wordToken w)
  | .inside _ _ => none
  | .escaped _ _ => none
  | .closing q content => some [q.token content.reverse]

end State

/-- The tokens of the rest of a text. -/
def lexFrom : State → List Char → Option (List Token)
  | s, [] => s.finish
  | s, c :: rest => (lexFrom (s.step c).2 rest).map ((s.step c).1 ++ ·)

/-- The tokens of a text. -/
def lex (cs : List Char) : Option (List Token) := lexFrom (.outside []) cs

end Backquoted

/-- The name that a token is, written bare or between delimiters. -/
def Token.name? : Token → Option (List Char)
  | .word w => some w
  | .identifier name => some name
  | _ => none

/-- Between two texts that are read by themselves, the expression is read as one name, and as
this one. -/
def Backquoted.ReadAs (name before expression after : List Char) : Prop :=
  ∃ ts us t, Backquoted.lex before = some ts ∧ Backquoted.lex after = some us ∧
    Backquoted.lex (before ++ expression ++ after) = some (ts ++ t :: us) ∧ t.name? = some name

/-! ## Names between double quotes are strings -/

/-- A name between double quotes, as it is read where these hold strings. -/
def Token.asLiteral : Token → Token
  | .identifier name => .literal name
  | t => t

theorem map_asLiteral_wordToken (w : List Char) :
    (LexState.wordToken w).map Token.asLiteral = LexState.wordToken w := by
  cases w <;> rfl

namespace LexState

/-- The content of an unfinished token between quotes. -/
def pending? : LexState → Option (Quote × List Char)
  | .outside _ => none
  | .inside q content => some (q, content)
  | .escaped content => some (.single, content)
  | .closing q content => some (q, content)

end LexState

variable {style : LiteralStyle} {cs : List Char} {ts us : List Token}

/-- An unfinished token is the first one, and has what was read of it in front. -/
theorem exists_token_of_pending {s : LexState} {q : Quote} {content : List Char}
    (h : lexFrom style s cs = some ts) (hpending : s.pending? = some (q, content)) :
    ∃ more us, ts = q.token (content.reverse ++ more) :: us := by
  induction cs generalizing s content ts with
  | nil =>
    cases s with
    | closing q' content' =>
      cases hpending
      exact ⟨[], [], by rw [← Option.some.inj h, List.append_nil]⟩
    | outside w => exact absurd hpending (by simp [LexState.pending?])
    | inside q' content' => exact absurd h (by simp [lexFrom, LexState.finish])
    | escaped content' => exact absurd h (by simp [lexFrom, LexState.finish])
  | cons c cs ih =>
    rw [lexFrom, Option.map_eq_some_iff] at h
    obtain ⟨ts', hts', rfl⟩ := h
    -- the character belongs to the token
    have hgrown {s' : LexState} (hs : s' = .inside q (c :: content))
        (hstep : lexFrom style s' cs = some ts') :
        ∃ more us, ts' = q.token (content.reverse ++ more) :: us := by
      obtain ⟨more, us, rfl⟩ := ih hstep (by rw [hs]; rfl)
      exact ⟨c :: more, us, by rw [List.reverse_cons, List.append_assoc]; rfl⟩
    cases s with
    | outside w => exact absurd hpending (by simp [LexState.pending?])
    | inside q' content' =>
      cases hpending
      unfold LexState.step at hts' ⊢
      dsimp only at hts' ⊢
      split_ifs at hts' ⊢ with hclose hescape
      · exact ih hts' rfl
      · exact ih hts' (by rw [hescape.2.1]; rfl)
      · exact hgrown rfl hts'
    | escaped content' =>
      cases hpending
      exact hgrown rfl hts'
    | closing q' content' =>
      cases hpending
      unfold LexState.step at hts' ⊢
      dsimp only at hts' ⊢
      split_ifs at hts' ⊢ with hdoubled
      · exact hgrown rfl hts'
      · exact ⟨[], _, by rw [List.append_nil]; rfl⟩

namespace Backquoted

/-- The delimiter that a quote is. -/
def Delimiter.ofQuote : Quote → Delimiter
  | .single => .single
  | .double => .double

/-- The same place of a reading. -/
def State.ofLexState : LexState → State
  | .outside w => .outside w
  | .inside q content => .inside (.ofQuote q) content
  | .escaped content => .escaped .single content
  | .closing q content => .closing (.ofQuote q) content

theorem char_ofQuote (q : Quote) : (Delimiter.ofQuote q).char = q.char := by cases q <;> rfl

theorem token_ofQuote (q : Quote) (content : List Char) :
    (Delimiter.ofQuote q).token content = (q.token content).asLiteral := by cases q <;> rfl

/-- Where a token begins, only the backquote makes a difference. -/
theorem first_eq {c : Char} (h : Token.symbol '`' ∉ (LexState.first c).1) :
    State.first c =
      ((LexState.first c).1.map Token.asLiteral, .ofLexState (LexState.first c).2) := by
  have hback : c ≠ '`' := by
    rintro rfl
    exact h (by simp [LexState.first, Quote.ofChar?, show isWordChar '`' = false by decide])
  unfold State.first LexState.first Delimiter.ofChar? Quote.ofChar?
  by_cases hsingle : c = '\''
  · rw [if_pos hsingle, if_pos hsingle]
    rfl
  · rw [if_neg hsingle, if_neg hsingle]
    by_cases hdouble : c = '\"'
    · rw [if_pos hdouble, if_pos hdouble]
      rfl
    · rw [if_neg hdouble, if_neg hdouble, if_neg hback]
      dsimp only
      split_ifs <;> rfl

/-- Two readings stay together at each character that is not one of the two that matter. -/
theorem step_eq {s : LexState} {c : Char}
    (hback : Token.symbol '`' ∉ (s.step .escaping c).1)
    (hslash : ∀ content, s = .inside .double content → c ≠ '\\') :
    (State.ofLexState s).step c =
      ((s.step .escaping c).1.map Token.asLiteral, .ofLexState (s.step .escaping c).2) := by
  cases s with
  | outside w =>
    unfold LexState.step at hback ⊢
    dsimp only [State.ofLexState, State.step] at hback ⊢
    split_ifs at hback ⊢ with hword
    · rfl
    · rw [first_eq fun hmem => hback (List.mem_append_right _ hmem), List.map_append,
        map_asLiteral_wordToken]
      rfl
  | inside q content =>
    dsimp only [State.ofLexState, State.step, LexState.step]
    rw [char_ofQuote]
    cases q with
    | single =>
      split_ifs with hclose hescape hescape' hescape'
      · rfl
      · rfl
      · exact absurd ⟨hescape.1, rfl, rfl⟩ hescape'
      · exact absurd ⟨hescape'.1, by decide⟩ hescape
      · rfl
    | double =>
      have hc : c ≠ '\\' := hslash content rfl
      split_ifs with hclose hescape hescape' hescape'
      · rfl
      · exact absurd hescape.1 hc
      · exact absurd hescape.1 hc
      · exact absurd hescape'.1 hc
      · rfl
  | escaped content => rfl
  | closing q content =>
    unfold LexState.step at hback ⊢
    dsimp only [State.ofLexState, State.step] at hback ⊢
    rw [char_ofQuote]
    split_ifs at hback ⊢ with hdoubled
    · rfl
    · rw [first_eq fun hmem => hback (List.mem_cons_of_mem _ hmem), List.map_cons, token_ofQuote]
      rfl

theorem finish_eq (s : LexState) :
    (State.ofLexState s).finish = s.finish.map (List.map Token.asLiteral) := by
  cases s with
  | outside w => exact congrArg some (map_asLiteral_wordToken w).symm
  | inside q content => rfl
  | escaped content => rfl
  | closing q content =>
    rw [State.ofLexState, State.finish, token_ofQuote]
    rfl

/-- A backslash between double quotes ends up in a name. -/
theorem exists_identifier_of_backslash {content : List Char}
    (h : Sql.lexFrom .escaping (.inside .double content) ('\\' :: cs) = some ts) :
    ∃ name, Token.identifier name ∈ ts ∧ '\\' ∈ name := by
  rw [Sql.lexFrom, Option.map_eq_some_iff] at h
  obtain ⟨us, hus, rfl⟩ := h
  have hpending : (LexState.inside .double ('\\' :: content)).pending? =
    some (.double, '\\' :: content) := rfl
  obtain ⟨more, rest, rfl⟩ := exists_token_of_pending hus hpending
  exact ⟨_, List.mem_append_right _ List.mem_cons_self,
    List.mem_append_left _ (List.mem_reverse.mpr List.mem_cons_self)⟩

theorem lexFrom_eq {s : LexState} (h : Sql.lexFrom .escaping s cs = some ts)
    (hback : Token.symbol '`' ∉ ts) (hslash : ∀ name, Token.identifier name ∈ ts → '\\' ∉ name) :
    lexFrom (.ofLexState s) cs = some (ts.map Token.asLiteral) := by
  induction cs generalizing s ts with
  | nil =>
    rw [Sql.lexFrom] at h
    rw [lexFrom, finish_eq, h, Option.map_some]
  | cons c cs ih =>
    have hread := h
    rw [Sql.lexFrom, Option.map_eq_some_iff] at h
    obtain ⟨ts', hts', rfl⟩ := h
    have hstep : (State.ofLexState s).step c = ((s.step .escaping c).1.map Token.asLiteral,
        .ofLexState (s.step .escaping c).2) := by
      refine step_eq (fun hmem => hback (List.mem_append_left _ hmem)) fun content hs hc => ?_
      rw [hs, hc] at hread
      obtain ⟨name, hname, hmem⟩ := exists_identifier_of_backslash hread
      rw [hs, hc] at hslash
      exact hslash name hname hmem
    rw [lexFrom, hstep, ih hts' (fun hmem => hback (List.mem_append_right _ hmem))
      fun name hmem => hslash name (List.mem_append_right _ hmem), Option.map_some, List.map_append]

/-- Without backquotes, and without backslashes in names, the tokens are the same, but that every
name between quotes is a string. -/
theorem lex_eq (h : Sql.lex .escaping cs = some ts) (hback : Token.symbol '`' ∉ ts)
    (hslash : ∀ name, Token.identifier name ∈ ts → '\\' ∉ name) :
    lex cs = some (ts.map Token.asLiteral) := lexFrom_eq h hback hslash

/-! ## A double quote begins a string -/

/-- What begins with a delimiter is one token, and that is the first. -/
theorem exists_token_of_inside {q : Delimiter} {content : List Char}
    (h : lexFrom (.inside q content) cs = some ts ∨ lexFrom (.escaped q content) cs = some ts ∨
      lexFrom (.closing q content) cs = some ts) :
    ∃ content' us, ts = q.token content' :: us := by
  induction cs generalizing content ts with
  | nil =>
    obtain h | h | h := h
    · exact absurd h (by simp [lexFrom, State.finish])
    · exact absurd h (by simp [lexFrom, State.finish])
    · exact ⟨_, [], (Option.some.inj h).symm⟩
  | cons c cs ih =>
    obtain h | h | h := h
    · rw [lexFrom, State.step] at h
      split_ifs at h with hclose hescape
      · exact ih (.inr (.inr (by simpa using h)))
      · exact ih (.inr (.inl (by simpa using h)))
      · exact ih (.inl (by simpa using h))
    · rw [lexFrom, State.step] at h
      exact ih (.inl (by simpa using h))
    · rw [lexFrom, State.step] at h
      split_ifs at h with hdoubled
      · exact ih (.inl (by simpa using h))
      · obtain ⟨us, -, rfl⟩ := Option.map_eq_some_iff.mp h
        exact ⟨_, _, rfl⟩

theorem first_double : State.first '\"' = ([], .inside .double []) := rfl

theorem first_ne_closing (c : Char) (q : Delimiter) (content : List Char) :
    (State.first c).2 ≠ .closing q content := by
  unfold State.first
  split
  · simp
  · split_ifs <;> simp

/-- Only the delimiter itself can close what it opened. -/
theorem eq_char_of_step_closing {s : State} {c : Char} {q : Delimiter} {content : List Char}
    (h : (s.step c).2 = .closing q content) : c = q.char := by
  cases s with
  | outside w =>
    rw [State.step] at h
    split_ifs at h
    exact absurd h (first_ne_closing c q content)
  | inside q' content' =>
    rw [State.step] at h
    split_ifs at h with hclose
    cases h
    exact hclose
  | escaped q' content' => exact absurd h (by simp [State.step])
  | closing q' content' =>
    rw [State.step] at h
    split_ifs at h
    exact absurd h (first_ne_closing c q content)

/-- Where a text can end, a double quote begins a string, unless it doubles another one. -/
theorem step_double {s : State} (h : s.finish = some ts)
    (hs : ∀ content, s ≠ .closing .double content) : s.step '\"' = (ts, .inside .double []) := by
  cases s with
  | outside w =>
    rw [State.step, if_neg (by decide), first_double, List.append_nil]
    exact congrArg (·, _) (Option.some.inj h)
  | inside q content => exact absurd h (by simp [State.finish])
  | escaped q content => exact absurd h (by simp [State.finish])
  | closing q content =>
    have hq : ('\"' : Char) ≠ q.char := by
      cases q with
      | single => decide
      | double => exact absurd rfl (hs content)
      | back => decide
    rw [State.step, if_neg hq, first_double]
    exact congrArg (·, _) (Option.some.inj h)

/-- Behind a text that ends in another character, a double quote begins a string. -/
theorem lexFrom_append_double {s : State} (h : lexFrom s cs = some ts)
    (hs : ∀ content, s = .closing .double content → cs ≠ [])
    (hlast : cs.getLast? ≠ some '\"') (rest : List Char) :
    lexFrom s (cs ++ '\"' :: rest) = (lexFrom (.inside .double []) rest).map (ts ++ ·) := by
  induction cs generalizing s ts with
  | nil => rw [List.nil_append, lexFrom, step_double h fun content hc => hs content hc rfl]
  | cons c cs ih =>
    rw [lexFrom, Option.map_eq_some_iff] at h
    obtain ⟨ts', hts', rfl⟩ := h
    have hrest : cs.getLast? ≠ some '\"' := by
      intro hget
      have hne : cs ≠ [] := by
        rintro rfl
        exact absurd hget (by simp)
      exact hlast (by rw [List.getLast?_cons, hget]; rfl)
    have hclosing (content : List Char) (hstep : (s.step c).2 = .closing .double content) :
        cs ≠ [] := by
      rintro rfl
      exact hlast (congrArg some (eq_char_of_step_closing hstep))
    rw [List.cons_append, lexFrom, ih hts' hclosing hrest, Option.map_map]
    congr 1
    funext us
    exact (List.append_assoc _ _ _).symm

/-- What stands between double quotes is not read as a name. -/
theorem not_readAs_quoted {name before after : List Char} (hlast : before.getLast? ≠ some '\"')
    (column : String) : ¬ ReadAs name before (identifierChars column) after := by
  rintro ⟨ts, us, t, hbefore, -, hwhole, hname⟩
  have hsplit := lexFrom_append_double hbefore (fun content h => absurd h (by simp)) hlast
    (doubled '\"' column.toList ++ ['\"'] ++ after)
  rw [lex, identifierChars, List.append_assoc, List.cons_append, hsplit,
    Option.map_eq_some_iff] at hwhole
  obtain ⟨vs, hvs, htokens⟩ := hwhole
  obtain ⟨content, ws, rfl⟩ := exists_token_of_inside (.inl hvs)
  obtain ⟨rfl, -⟩ := List.cons.inj (List.append_cancel_left htokens)
  exact absurd hname (by simp [Delimiter.token, Token.name?])

end Backquoted
end Sql
end DocFilter
