import DocFilter.Proofs.Dialect.Shelter
import DocFilter.Proofs.Number.Numeral

/-!
# Clauses, and the window of rows they ask for

A database takes the end of a statement apart into clauses: `clauses?` looks for the words that
begin one, outside of quotes and parentheses, each between two blanks.  From clauses that are in
one piece it gets back what they were put together from (`clauses?_chars`).

Each database has its own way to ask for a page.  `Dialect.window?` reads the clauses as the
database does, and `Window.rows` are the rows it then returns.  The clauses a dialect writes for a
limit and an offset ask for just these (`Dialect.window?_pageClauses`); only the greatest limit of
MySQL is also its way to ask for no limit, which no table can tell from it (`Window.Same`).
-/

namespace DocFilter

open Sql Sql.Fragment

/-! ## Windows -/

/-- The rows behind the first ones, all of them or up to a limit. -/
structure Window where
  offset : Nat
  limit : Option Nat
  deriving DecidableEq, Repr

namespace Window

variable {α : Type}

/-- The rows that are returned, of all that there are. -/
def rows (w : Window) (all : List α) : List α :=
  match w.limit with
  | some n => (all.drop w.offset).take n
  | none => all.drop w.offset

/-- The window that is asked for by a limit and an offset, if either is there. -/
def asked (limit offset : Option Nat) : Option Window :=
  if limit = none ∧ offset = none then none else some ⟨offset.getD 0, limit⟩

/-- The windows have the same rows, in every table that a database can number. -/
def Same (w w' : Window) : Prop :=
  ∀ {α : Type} (all : List α), all.length ≤ Dialect.greatestLimit → w.rows all = w'.rows all

theorem Same.refl (w : Window) : w.Same w := fun _ _ => rfl

/-- A limit that no table reaches is none. -/
theorem same_greatestLimit (offset : Nat) :
    Same ⟨offset, none⟩ ⟨offset, some Dialect.greatestLimit⟩ := fun all h =>
  (List.take_of_length_le ((List.drop_suffix _ all).length_le.trans h)).symm

end Window

/-! ## Clauses -/

namespace Sql

/-- The blank between two words. -/
def blank : Token := .symbol ' '

/-- Tokens without the blank on either side of them. -/
def unpad? (ts : List Token) : Option (List Token) :=
  match ts with
  | t :: rest => if t = blank ∧ rest.getLast? = some blank then some rest.dropLast else none
  | [] => none

/-- The clauses of a text, each with the word it begins with.  Behind the text there might as
well be another blank. -/
def clauses? (style : LiteralStyle) (cs : List Char) : Option (List Passage) := do
  let ts ← lex style cs
  let (lead, passages) ← cut Token.isClauseWord 0 (ts ++ [blank])
  if lead = [blank] then passages.mapM fun p => (unpad? p.2).map (p.1, ·) else none

/-- The number that the tokens are. -/
def number? : List Token → Option Nat
  | [.word w] => if isDigits w then some (digitsValue w) else none
  | _ => none

/-- The window behind `OFFSET` where it is one of rows. -/
def rows? (ts : List Token) : Option Window :=
  match ts.filter (!·.isBlank) with
  | [m, rows] =>
    if rows.isKeyword "rows" then (number? [m]).map fun m => ⟨m, none⟩ else none
  | [m, rows, fetch, next, n, rows', only] =>
    if rows.isKeyword "rows" ∧ fetch.isKeyword "fetch" ∧ next.isKeyword "next" ∧
        rows'.isKeyword "rows" ∧ only.isKeyword "only" then
      (number? [m]).bind fun m => (number? [n]).map fun n => ⟨m, some n⟩
    else none
  | _ => none

end Sql

namespace Dialect

/-- What stands behind `LIMIT`; a dialect has its own way to say that there is no limit. -/
def limit? : Dialect → List Token → Option (Option Nat)
  | .postgres, ts => (number? ts).map some
  | .mySql, ts => (number? ts).map fun n => if n = greatestLimit then none else some n
  | .sqlite, .symbol '-' :: ts => (number? ts).map fun _ => none
  | .sqlite, ts => (number? ts).map some
  | .sqlServer, _ => none

/-- What stands behind an `OFFSET` without a `LIMIT` in front of it; SQL Server takes it of
ordered rows only. -/
def offset? (d : Dialect) (ordered : Bool) (ts : List Token) : Option Window :=
  match d with
  | .postgres => (number? ts).map fun m => ⟨m, none⟩
  | .sqlServer => if ordered then rows? ts else none
  | .mySql | .sqlite => none

/-- The window the clauses ask for, if they are the clauses of a page. -/
def window? (d : Dialect) (ordered : Bool) : List Passage → Option (Option Window)
  | [] => some none
  | [(word, ts)] =>
    if word.isKeyword "limit" then (d.limit? ts).map fun n => some ⟨0, n⟩
    else if word.isKeyword "offset" then (d.offset? ordered ts).map some
    else none
  | [(word, ts), (word', ts')] =>
    if word.isKeyword "limit" ∧ word'.isKeyword "offset" then
      (d.limit? ts).bind fun n => (number? ts').map fun m => some ⟨m, n⟩
    else none
  | _ => none

end Dialect

namespace Sql

/-- The words clauses are written with. -/
def writtenWords : List String := ["WHERE", "ORDER", "LIMIT", "OFFSET"]

/-- Clauses as they are written: each behind a word, between blanks. -/
def clausesFragment (cs : List (String × Fragment)) : Fragment :=
  cs.flatMap fun c => sql (" " ++ c.1 ++ " ") ++ c.2

/-- A clause as it is read. -/
def passage (c : String × Fragment) : Passage := (.word c.1.toList, c.2.tokens)

/-- A clause that is read back. -/
structure Standing (d : Dialect) (c : String × Fragment) : Prop where
  word_mem : c.1 ∈ writtenWords
  laid : d.Laid c.2
  level : level Token.isClauseWord 0 c.2.tokens = some 0

variable {d : Dialect} {c : String × Fragment} {cs : List (String × Fragment)}

/-- A word and the blanks around it. -/
theorem bareTokens_writtenWord {word : String} (h : word ∈ writtenWords) :
    Dialect.bareTokens (" " ++ word ++ " ") = [blank, .word word.toList, blank] := by
  revert word
  decide

theorem tokens_clausesFragment (h : ∀ c ∈ cs, c.1 ∈ writtenWords) :
    (clausesFragment cs).tokens ++ [blank] =
      [blank] ++ (cs.map fun c => ((passage c).1, blank :: (passage c).2 ++ [blank])).flatMap
        fun p => p.1 :: p.2 := by
  induction cs with
  | nil => rfl
  | cons c cs ih =>
    obtain ⟨hc, hcs⟩ := List.forall_mem_cons.mp h
    have hword : (sql (" " ++ c.1 ++ " ")).tokens = [blank, .word c.1.toList, blank] := by
      rw [sql, Dialect.tokens_singleton]
      exact bareTokens_writtenWord hc
    have hrest : clausesFragment (c :: cs) =
        sql (" " ++ c.1 ++ " ") ++ c.2 ++ clausesFragment cs := rfl
    rw [hrest, tokens_append, tokens_append, hword, List.append_assoc, ih hcs]
    simp [passage]

theorem laid_writtenWord {word : String} (h : word ∈ writtenWords) :
    d.Laid (sql (" " ++ word ++ " ")) := by
  refine Dialect.laid_singleton ⟨?_, .inl ?_⟩ <;> (revert word; decide)

/-- Clauses begin with a blank, if there are any. -/
theorem head?_chars_clausesFragment (cs : List (String × Fragment)) :
    ∀ y ∈ (clausesFragment cs).chars.head?, isSymbol y = true := by
  intro y hy
  cases cs with
  | nil => exact absurd hy (by simp [clausesFragment])
  | cons c cs =>
    simp [clausesFragment, sql, Piece.chars, String.toList_append] at hy
    rw [← hy]
    rfl

theorem laid_clausesFragment (h : ∀ c ∈ cs, Standing d c) : d.Laid (clausesFragment cs) := by
  induction cs with
  | nil => exact ⟨fun p hp => absurd hp List.not_mem_nil, List.isChain_nil⟩
  | cons c cs ih =>
    obtain ⟨hc, hcs⟩ := List.forall_mem_cons.mp h
    have hapart : Apart (sql (" " ++ c.1 ++ " ")).chars c.2.chars := by
      refine Dialect.apart_sql_left ?_ _
      have hword := hc.word_mem
      generalize c.1 = word at hword
      revert word
      decide
    exact ((laid_writtenWord hc.word_mem).append hc.laid hapart).append (ih hcs)
      (apart_of_head (head?_chars_clausesFragment cs))

/-- With a blank on either side, a clause is a passage. -/
theorem Standing.isPassage (h : Standing d c) :
    IsPassage Token.isClauseWord ((passage c).1, blank :: (passage c).2 ++ [blank]) := by
  have hword : ∀ word ∈ writtenWords, levelStep Token.isClauseWord 0 (.word word.toList) = none ∧
      Token.isClauseWord (.word word.toList) = true := by decide
  refine ⟨(hword c.1 h.word_mem).1, (hword c.1 h.word_mem).2, ?_⟩
  have hblank : Sql.level Token.isClauseWord 0 [blank] = some 0 := by decide
  have hbody : Sql.level Token.isClauseWord 0 (passage c).2 = some 0 := h.level
  rw [← List.singleton_append, List.append_assoc, level_append, hblank, Option.bind_some,
    level_append, hbody, Option.bind_some, hblank]

theorem unpad?_blank (ts : List Token) : unpad? (blank :: ts ++ [blank]) = some ts := by
  rw [List.cons_append, unpad?, if_pos ⟨rfl, List.getLast?_concat⟩, List.dropLast_concat]

/-- Clauses in one piece are read back as they are. -/
theorem clauses?_chars (h : ∀ c ∈ cs, Standing d c) :
    clauses? d.literalStyle (clausesFragment cs).chars = some (cs.map passage) := by
  have hcut : cut Token.isClauseWord 0 ((clausesFragment cs).tokens ++ [blank]) =
      some ([blank], cs.map fun c => ((passage c).1, blank :: (passage c).2 ++ [blank])) := by
    rw [tokens_clausesFragment fun c hc => (h c hc).word_mem]
    refine cut_passages (by decide) fun p hp => ?_
    obtain ⟨c, hc, rfl⟩ := List.mem_map.mp hp
    exact (h c hc).isPassage
  have hunpad : (cs.map fun c => ((passage c).1, blank :: (passage c).2 ++ [blank])).mapM
      (fun p : Passage => (unpad? p.2).map (p.1, ·)) = some (cs.map passage) := by
    refine mapM_eq_some ?_
    rw [List.forall₂_map_left_iff, List.forall₂_map_right_iff, List.forall₂_same]
    intro c _
    rw [unpad?_blank]
    rfl
  rw [clauses?, (laid_clausesFragment h).lex]
  simp only [Option.bind_eq_bind, Option.bind_some, hcut, if_true]
  exact hunpad

end Sql

/-! ## Pages -/

namespace Dialect

/-- The clauses of a page. -/
def pageClauses (d : Dialect) (limit offset : Option Nat) : List (String × Fragment) :=
  match d, limit, offset with
  | _, none, none => []
  | .sqlServer, some n, m =>
    [("OFFSET", number (m.getD 0) ++ sql " ROWS FETCH NEXT " ++ number n ++ sql " ROWS ONLY")]
  | .sqlServer, none, some m => [("OFFSET", number m ++ sql " ROWS")]
  | _, some n, none => [("LIMIT", number n)]
  | _, some n, some m => [("LIMIT", number n), ("OFFSET", number m)]
  | .postgres, none, some m => [("OFFSET", number m)]
  | .mySql, none, some m => [("LIMIT", number greatestLimit), ("OFFSET", number m)]
  | .sqlite, none, some m => [("LIMIT", sql "-1"), ("OFFSET", number m)]

variable {d : Dialect} {limit offset : Option Nat}

/-- A page is written as its clauses. -/
theorem chars_pageClauses (d : Dialect) (limit offset : Option Nat) :
    (clausesFragment (d.pageClauses limit offset)).chars =
      (match d.page? limit offset with
        | some clause => " " ++ clause
        | none => "").toList := by
  cases d <;> cases limit <;> cases offset <;>
    simp [clausesFragment, pageClauses, page?, number, sql, Piece.chars, String.toList_append]

/-- The clauses of a page begin with other words than those in front of them. -/
theorem word_of_mem_pageClauses {c : String × Fragment} (h : c ∈ d.pageClauses limit offset) :
    c.1 = "LIMIT" ∨ c.1 = "OFFSET" := by
  cases d <;> cases limit <;> cases offset <;>
    simp only [pageClauses, List.mem_cons, List.not_mem_nil, or_false] at h <;> grind

theorem standing_of_operand {word : String} {ns : List String} {f : Fragment}
    (hword : word ∈ writtenWords) (hf : d.Operand ns f) (hs : f.Sheltered) :
    Standing d (word, f) :=
  ⟨hword, hf.laid, hs.clauseless⟩

theorem standing_number {word : String} (hword : word ∈ writtenWords) (n : Nat) :
    Standing d (word, number n) :=
  standing_of_operand hword (number_operand n) (sheltered_number n)

theorem standing_pageClauses (d : Dialect) (limit offset : Option Nat) :
    ∀ c ∈ d.pageClauses limit offset, Standing d c := by
  have hlimit (n : Nat) : Standing d ("LIMIT", number n) := standing_number (by decide) n
  have hoffset (m : Nat) : Standing d ("OFFSET", number m) := standing_number (by decide) m
  have hunlimited : Standing d ("LIMIT", sql "-1") :=
    standing_of_operand (by decide) (spans_sql (by decide)) (levels_sql (by decide))
  have hrows (m : Nat) : Standing d ("OFFSET", number m ++ sql " ROWS") :=
    standing_of_operand (by decide) ((number_operand m).closed " ROWS" (by decide))
      ((sheltered_number m).closed " ROWS" (by decide))
  have hfetch (m n : Nat) : Standing d
      ("OFFSET", number m ++ sql " ROWS FETCH NEXT " ++ number n ++ sql " ROWS ONLY") :=
    standing_of_operand (by decide)
      (((number_operand m).linked " ROWS FETCH NEXT " (by decide) (number_operand n)).closed
        " ROWS ONLY" (by decide))
      (((sheltered_number m).linked " ROWS FETCH NEXT " (k := 0) (by decide)
        (sheltered_number n)).closed " ROWS ONLY" (by decide))
  intro c hc
  cases d <;> cases limit <;> cases offset <;>
    simp only [pageClauses, List.mem_cons, List.not_mem_nil, or_false] at hc <;>
    grind

/-! ## Reading pages -/

theorem number?_toDigits (n : Nat) : number? [.word (Nat.toDigits 10 n)] = some n := by
  rw [number?, if_pos (isDigits_toDigits n), digitsValue_toDigits]

theorem number?_number (n : Nat) : number? (number n).tokens = some n := by
  rw [tokens_number, number?_toDigits]

/-- The limit that is read where this one is written. -/
def limitRead (d : Dialect) (limit : Option Nat) : Option Nat :=
  if d = .mySql ∧ limit = some greatestLimit then none else limit

/-- The windows have the same rows, whatever the limit is read as. -/
theorem same_limitRead (d : Dialect) (w : Window) :
    Window.Same ⟨w.offset, d.limitRead w.limit⟩ w := by
  obtain ⟨offset, limit⟩ := w
  by_cases h : d = .mySql ∧ limit = some greatestLimit
  · rw [limitRead, if_pos h, h.2]
    exact Window.same_greatestLimit offset
  · rw [limitRead, if_neg h]
    exact Window.Same.refl _

theorem limit?_number (h : d ≠ .sqlServer) (n : Nat) :
    d.limit? (number n).tokens = some (d.limitRead (some n)) := by
  rw [tokens_number]
  cases d with
  | postgres => simp [limit?, number?_toDigits, limitRead]
  | mySql => simp [limit?, number?_toDigits, limitRead]
  | sqlite => simp [limit?, number?_toDigits, limitRead]
  | sqlServer => exact absurd rfl h

theorem rows?_rows (m : Nat) : rows? (number m ++ sql " ROWS").tokens = some ⟨m, none⟩ := by
  have hsql : (sql " ROWS").tokens = [blank, .word "ROWS".toList] := by decide
  rw [tokens_append, tokens_number, hsql]
  have hfilter : ([.word (Nat.toDigits 10 m), blank, .word "ROWS".toList] : List Token).filter
      (!·.isBlank) = [.word (Nat.toDigits 10 m), .word "ROWS".toList] := rfl
  rw [List.singleton_append, rows?, hfilter]
  dsimp only
  rw [if_pos (by decide), number?_toDigits]
  rfl

theorem rows?_fetch (m n : Nat) :
    rows? (number m ++ sql " ROWS FETCH NEXT " ++ number n ++ sql " ROWS ONLY").tokens =
      some ⟨m, some n⟩ := by
  have hnext : (sql " ROWS FETCH NEXT ").tokens = [blank, .word "ROWS".toList, blank,
      .word "FETCH".toList, blank, .word "NEXT".toList, blank] := by decide
  have honly : (sql " ROWS ONLY").tokens =
      [blank, .word "ROWS".toList, blank, .word "ONLY".toList] := by decide
  rw [tokens_append, tokens_append, tokens_append, tokens_number, tokens_number, hnext, honly,
    rows?]
  simp only [List.cons_append, List.nil_append]
  have hfilter : ([.word (Nat.toDigits 10 m), blank, .word "ROWS".toList, blank,
      .word "FETCH".toList, blank, .word "NEXT".toList, blank, .word (Nat.toDigits 10 n), blank,
      .word "ROWS".toList, blank, .word "ONLY".toList] : List Token).filter (!·.isBlank) =
    [.word (Nat.toDigits 10 m), .word "ROWS".toList, .word "FETCH".toList, .word "NEXT".toList,
      .word (Nat.toDigits 10 n), .word "ROWS".toList, .word "ONLY".toList] := rfl
  rw [hfilter]
  dsimp only
  rw [if_pos (by decide), number?_toDigits, number?_toDigits]
  rfl

section

variable {ordered : Bool} {f g : Fragment}

theorem isKeyword_limit : Token.isKeyword "limit" (.word "LIMIT".toList) = true := by decide

theorem isKeyword_offset : Token.isKeyword "offset" (.word "OFFSET".toList) = true := by decide

theorem window?_limit : d.window? ordered [passage ("LIMIT", f)] =
    (d.limit? f.tokens).map fun n => some ⟨0, n⟩ := by
  rw [passage, window?, if_pos isKeyword_limit]

theorem window?_offset : d.window? ordered [passage ("OFFSET", f)] =
    (d.offset? ordered f.tokens).map some := by
  have hnot : ¬ Token.isKeyword "limit" (.word "OFFSET".toList) = true := by decide
  rw [passage, window?, if_neg hnot, if_pos isKeyword_offset]

theorem window?_limit_offset :
    d.window? ordered [passage ("LIMIT", f), passage ("OFFSET", g)] =
      (d.limit? f.tokens).bind fun n => (number? g.tokens).map fun m => some ⟨m, n⟩ := by
  rw [passage, passage, window?, if_pos ⟨isKeyword_limit, isKeyword_offset⟩]

/-- SQLite and MySQL cannot say an offset without a limit. -/
theorem limit?_unlimited :
    mySql.limit? (number greatestLimit).tokens = some none ∧
      sqlite.limit? (sql "-1").tokens = some none := by
  refine ⟨?_, ?_⟩
  · rw [limit?_number (by decide), limitRead, if_pos ⟨rfl, rfl⟩]
  · have htokens : (sql "-1").tokens = [.symbol '-', .word ['1']] := by decide
    rw [htokens, limit?]
    rfl

/-- Where a limit can be asked for by itself, it is read back, with or without an offset. -/
theorem window?_pageClauses_some (hd : d ≠ .sqlServer) (n : Nat) (offset : Option Nat) :
    d.window? ordered ((d.pageClauses (some n) offset).map passage) =
      some (some ⟨offset.getD 0, d.limitRead (some n)⟩) := by
  cases offset with
  | none =>
    have hclauses : d.pageClauses (some n) none = [("LIMIT", number n)] := by
      cases d <;> first | rfl | exact absurd rfl hd
    rw [hclauses, List.map_singleton, window?_limit, limit?_number hd]
    rfl
  | some m =>
    have hclauses : d.pageClauses (some n) (some m) =
        [("LIMIT", number n), ("OFFSET", number m)] := by
      cases d <;> first | rfl | exact absurd rfl hd
    rw [hclauses, List.map_cons, List.map_singleton, window?_limit_offset, limit?_number hd,
      number?_number]
    rfl

/-- The clauses of a page ask for its window. -/
theorem window?_pageClauses (ordered : Bool) (limit offset : Option Nat)
    (h : d = .sqlServer → (d.page? limit offset).isSome = true → ordered = true) :
    d.window? ordered ((d.pageClauses limit offset).map passage) =
      some ((Window.asked limit offset).map fun w => ⟨w.offset, d.limitRead w.limit⟩) := by
  match d, limit, offset with
  | d, none, none => cases d <;> rfl
  | .sqlServer, some n, m =>
    rw [pageClauses, List.map_singleton, window?_offset, offset?, h rfl rfl, if_pos rfl,
      rows?_fetch]
    rfl
  | .sqlServer, none, some m =>
    rw [pageClauses, List.map_singleton, window?_offset, offset?, h rfl rfl, if_pos rfl, rows?_rows]
    rfl
  | .postgres, none, some m =>
    rw [pageClauses, List.map_singleton, window?_offset, offset?, number?_number]
    rfl
  | .mySql, none, some m =>
    rw [pageClauses, List.map_cons, List.map_singleton, window?_limit_offset, limit?_unlimited.1,
      number?_number]
    rfl
  | .sqlite, none, some m =>
    rw [pageClauses, List.map_cons, List.map_singleton, window?_limit_offset, limit?_unlimited.2,
      number?_number]
    rfl
  | .postgres, some n, m => exact window?_pageClauses_some (by decide) n m
  | .mySql, some n, m => exact window?_pageClauses_some (by decide) n m
  | .sqlite, some n, m => exact window?_pageClauses_some (by decide) n m

end

end Dialect
end DocFilter
