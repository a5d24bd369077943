import DocFilter.Proofs.Sql.Token

/-!
# Marks in SQL text

A parameter is marked by a character in front of it, and its name or its position is the
word behind.  `marks` collects these words from the tokens of a text, so that a mark inside
a quote is none.  A text in which the character does not stand at all has none either
(`mem_of_symbol_mem_lexFrom`).
-/

namespace DocFilter
namespace Sql

/-- The word that the tokens begin with, empty where they begin with none. -/
def wordAhead : List Token → List Char
  | .word w :: _ => w
  | _ => []

/-- The words behind a mark, one for each time it stands outside quotes. -/
def marks (m : Char) : List Token → List (List Char)
  | [] => []
  | t :: ts => if t = .symbol m then wordAhead ts :: marks m ts else marks m ts

theorem marks_append_of_notMem {m : Char} {ts : List Token} (h : Token.symbol m ∉ ts)
    (us : List Token) : marks m (ts ++ us) = marks m us := by
  induction ts with
  | nil => rfl
  | cons t ts ih =>
    rw [List.mem_cons, not_or] at h
    rw [List.cons_append, marks, if_neg (Ne.symm h.1), ih h.2]

theorem eq_of_symbol_mem_first {x c : Char} (h : Token.symbol c ∈ (LexState.first x).1) :
    c = x := by
  unfold LexState.first at h
  split at h
  · exact absurd h (by simp)
  · split_ifs at h
    · exact absurd h (by simp)
    · exact Token.symbol.inj (List.mem_singleton.mp h)

theorem symbol_notMem_wordToken (c : Char) (w : List Char) :
    Token.symbol c ∉ LexState.wordToken w := by
  cases w with
  | nil => simp [LexState.wordToken]
  | cons x w => simp [LexState.wordToken]

theorem symbol_ne_quoteToken (c : Char) (q : Quote) (content : List Char) :
    Token.symbol c ≠ q.token content := by
  cases q <;> simp [Quote.token]

/-- The only symbol a step completes is the character it reads. -/
theorem eq_of_symbol_mem_step {style : LiteralStyle} {s : LexState} {x c : Char}
    (h : Token.symbol c ∈ (s.step style x).1) : c = x := by
  cases s with
  | outside w =>
    rw [LexState.step] at h
    split_ifs at h
    · exact absurd h (by simp)
    · rcases List.mem_append.mp h with h | h
      · exact absurd h (symbol_notMem_wordToken c w)
      · exact eq_of_symbol_mem_first h
  | inside q content =>
    rw [LexState.step] at h
    split_ifs at h
    all_goals exact absurd h (by simp)
  | escaped content => exact absurd h (by simp [LexState.step])
  | closing q content =>
    rw [LexState.step] at h
    split_ifs at h
    · exact absurd h (by simp)
    · rcases List.mem_cons.mp h with h | h
      · exact absurd h (symbol_ne_quoteToken c q _)
      · exact eq_of_symbol_mem_first h

/-- The symbols among the tokens of a text are characters of the text. -/
theorem mem_of_symbol_mem_lexFrom {style : LiteralStyle} {cs : List Char} {s : LexState}
    {ts : List Token} (h : lexFrom style s cs = some ts) {c : Char} (hc : Token.symbol c ∈ ts) :
    c ∈ cs := by
  induction cs generalizing s ts with
  | nil =>
    cases s with
    | outside w =>
      rw [← Option.some.inj h] at hc
      exact absurd hc (symbol_notMem_wordToken c w)
    | inside q content => exact absurd h (by simp [lexFrom, LexState.finish])
    | escaped content => exact absurd h (by simp [lexFrom, LexState.finish])
    | closing q content =>
      rw [← Option.some.inj h, List.mem_singleton] at hc
      exact absurd hc (symbol_ne_quoteToken c q _)
  | cons x cs ih =>
    rw [lexFrom, Option.map_eq_some_iff] at h
    obtain ⟨us, hus, rfl⟩ := h
    rcases List.mem_append.mp hc with hstep | hus'
    · rw [eq_of_symbol_mem_step hstep]
      exact List.mem_cons_self
    · exact List.mem_cons_of_mem _ (ih hus hus')

end Sql
end DocFilter
