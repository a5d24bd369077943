import DocFilter.Proofs.Sql.Nesting

/-!
# Taking a text apart outside of its parentheses

A reader who looks for certain words of a statement, or for the commas of a list, has to pass
over what stands in quotes and in parentheses.  Quotes are tokens, so only parentheses have to be
counted.  `level` counts them, and refuses a mark where none is open; `cut` takes the tokens
apart at the marks where none is open.  A text that `level` leads from no open parenthesis to
none is passed over as a whole (`cut_append`), so a text that is put together from such texts and
marks is taken apart into just these (`cut_passages`).
-/

namespace DocFilter
namespace Sql

/-! ## Tokens as they are written -/

/-- The characters of a token. -/
def Token.chars (style : LiteralStyle) : Token → List Char
  | .word w => w
  | .symbol c => [c]
  | .literal content => literalChars style (String.ofList content)
  | .identifier name => identifierChars (String.ofList name)

/-- The text of some tokens. -/
def textOf (style : LiteralStyle) (ts : List Token) : String :=
  String.ofList (ts.flatMap (Token.chars style))

/-- Nothing of a text without quotes is lost in its tokens. -/
theorem flatMap_chars_of_quoteless {style style' : LiteralStyle} {cs w : List Char}
    {ts : List Token} (h : ∀ c ∈ cs, Quote.ofChar? c = none)
    (hts : lexFrom style (.outside w) cs = some ts) :
    ts.flatMap (Token.chars style') = w.reverse ++ cs := by
  have hword (w : List Char) : (LexState.wordToken w).flatMap (Token.chars style') = w.reverse := by
    cases w with
    | nil => rfl
    | cons c w => exact List.append_nil _
  induction cs generalizing w ts with
  | nil =>
    rw [← Option.some.inj hts, hword, List.append_nil]
  | cons c cs ih =>
    obtain ⟨hc, hcs⟩ := List.forall_mem_cons.mp h
    rw [lexFrom, LexState.step] at hts
    by_cases hw : isWordChar c = true
    · rw [if_pos hw, Option.map_eq_some_iff] at hts
      obtain ⟨ts', hts', rfl⟩ := hts
      rw [List.nil_append, ih hcs hts', List.reverse_cons, List.append_assoc]
      rfl
    · rw [if_neg hw, LexState.first, hc] at hts
      simp only [if_neg hw, Option.map_eq_some_iff] at hts
      obtain ⟨ts', hts', rfl⟩ := hts
      rw [List.flatMap_append, List.flatMap_append, hword, ih hcs hts', List.append_assoc]
      rfl

/-! ## Counting parentheses -/

/-- How many parentheses are open after a token; nothing where it closes what is not open, or is
a mark where none is open. -/
def levelStep (marks : Token → Bool) (n : Nat) (t : Token) : Option Nat :=
  if t = .symbol '(' then some (n + 1)
  else if t = .symbol ')' then (if n = 0 then none else some (n - 1))
  else if n = 0 ∧ marks t = true then none
  else some n

/-- How many parentheses are open after some tokens. -/
def level (marks : Token → Bool) (n : Nat) (ts : List Token) : Option Nat :=
  ts.foldlM (levelStep marks) n

variable {marks : Token → Bool} {n m k : Nat} {t : Token} {ts us : List Token}

theorem level_cons : level marks n (t :: ts) =
    (levelStep marks n t).bind fun m => level marks m ts := by
  rw [level, List.foldlM_cons]
  rfl

theorem level_append : level marks n (ts ++ us) =
    (level marks n ts).bind fun m => level marks m us := by
  rw [level, List.foldlM_append]
  rfl

/-- Parentheses around a token stay open. -/
theorem levelStep_within (h : levelStep marks n t = some m) (k : Nat) :
    levelStep marks (n + k) t = some (m + k) := by
  unfold levelStep at h ⊢
  grind

/-- Parentheses around a text stay open. -/
theorem level_within (h : level marks n ts = some m) (k : Nat) :
    level marks (n + k) ts = some (m + k) := by
  induction ts generalizing n with
  | nil =>
    rw [← Option.some.inj h]
    rfl
  | cons t ts ih =>
    rw [level_cons, Option.bind_eq_some_iff] at h
    obtain ⟨n', hstep, hrest⟩ := h
    rw [level_cons, levelStep_within hstep, Option.bind_some, ih hrest]

/-- With fewer marks, less is refused. -/
theorem level_of_imp {marks' : Token → Bool} (himp : ∀ t, marks' t = true → marks t = true)
    (h : level marks n ts = some m) : level marks' n ts = some m := by
  induction ts generalizing n with
  | nil => exact h
  | cons t ts ih =>
    rw [level_cons, Option.bind_eq_some_iff] at h
    obtain ⟨n', hstep, hrest⟩ := h
    have hstep' : levelStep marks' n t = some n' := by
      unfold levelStep at hstep ⊢
      have := himp t
      grind
    rw [level_cons, hstep', Option.bind_some, ih hrest]

/-! ## Taking apart -/

/-- A mark, and the tokens behind it up to the next one. -/
abbrev Passage := Token × List Token

/-- The tokens in front of the first mark, and the passages from there on. -/
def cut (marks : Token → Bool) (n : Nat) : List Token → Option (List Token × List Passage)
  | [] => if n = 0 then some ([], []) else none
  | t :: ts =>
    match levelStep marks n t with
    | some m => (cut marks m ts).map fun r => (t :: r.1, r.2)
    | none => if marks t then (cut marks 0 ts).map fun r => ([], (t, r.1) :: r.2) else none

/-- A text without a mark of its own stays in front. -/
theorem cut_append (h : level marks n ts = some m) :
    cut marks n (ts ++ us) = (cut marks m us).map fun r => (ts ++ r.1, r.2) := by
  induction ts generalizing n with
  | nil =>
    rw [← Option.some.inj h]
    exact Option.map_id'.symm
  | cons t ts ih =>
    rw [level_cons, Option.bind_eq_some_iff] at h
    obtain ⟨n', hstep, hrest⟩ := h
    rw [List.cons_append, cut, hstep]
    dsimp only
    rw [ih hrest, Option.map_map]
    rfl

/-- A passage that is read as one: a mark, and a text without one. -/
def IsPassage (marks : Token → Bool) (p : Passage) : Prop :=
  levelStep marks 0 p.1 = none ∧ marks p.1 = true ∧ level marks 0 p.2 = some 0

/-- A text and passages behind it are taken apart into themselves. -/
theorem cut_passages (h : level marks 0 ts = some 0) {ps : List Passage}
    (hps : ∀ p ∈ ps, IsPassage marks p) :
    cut marks 0 (ts ++ ps.flatMap fun p => p.1 :: p.2) = some (ts, ps) := by
  rw [cut_append h]
  induction ps generalizing ts with
  | nil =>
    rw [List.flatMap_nil, cut, if_pos rfl, Option.map_some, List.append_nil]
  | cons p ps ih =>
    obtain ⟨⟨hstep, hmark, hlevel⟩, hps⟩ := List.forall_mem_cons.mp hps
    have hrest := ih hlevel hps
    rw [List.flatMap_cons, List.cons_append, cut, hstep]
    dsimp only
    rw [if_pos hmark, cut_append hlevel, hrest, Option.map_some, Option.map_some, List.append_nil]

end Sql
end DocFilter
