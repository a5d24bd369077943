import DocFilter.Proofs.Dialect.Window
import DocFilter.Proofs.Filter.Renaming
import DocFilter.Proofs.Filter.Shelter
import DocFilter.Proofs.Query.Agreement
import DocFilter.Proofs.Query.Columns
import DocFilter.Proofs.Query.Outline

/-!
# The end of a statement is read back

A database gets the clauses of a translation as one text, the end of a statement.
`Dialect.readTail?` takes this text apart as the database does: a condition, an order with its
items, and a page.  Names of fields and columns and the conditions themselves can have anything
in them, words and commas of SQL included, so what is read is settled in two steps.  If the parts
of a translation are each in one piece, its end is read as these parts
(`Translation.Whole.readTail?`); and the parts of what is translated from a request are
(`Translator.exists_whole`).

So the condition comes back as it is, the order as one item for each key of the sort, and the
window of rows as it was asked for, whatever the dialect (`Translator.readsBack_of_translate`).
-/

namespace DocFilter

open Sql Sql.Fragment

/-! ## Reading -/

/-- What the end of a statement is read as. -/
structure TailReading where
  /-- The text of the condition, if there is one. -/
  condition : Option String
  /-- The texts of the items of the order; none where there is no order. -/
  order : List String
  /-- The window of rows, if there is a clause for it. -/
  window : Option Window

namespace Sql

/-- The tokens behind the first word if it is this one, and the clauses after it. -/
def splitClause (keyword : String) : List Passage → Option (List Token) × List Passage
  | (word, ts) :: rest =>
    if word.isKeyword keyword then (some ts, rest) else (none, (word, ts) :: rest)
  | [] => (none, [])

/-- Tokens without the blank in front of them. -/
def behindBlank? : List Token → Option (List Token)
  | t :: ts => if t = blank then some ts else none
  | [] => none

/-- The items of an order, from what stands behind `ORDER`. -/
def items? : List Token → Option (List (List Token))
  | word :: ts =>
    if word.isKeyword "by" then do
      let r ← cut Token.isComma 0 (← behindBlank? ts)
      let others ← r.2.mapM fun p => behindBlank? p.2
      return r.1 :: others
    else none
  | [] => none

end Sql

/-- The end of a statement, read as the database reads it. -/
def Dialect.readTail? (d : Dialect) (tail : String) : Option TailReading := do
  let clauses ← clauses? d.literalStyle tail.toList
  let (condition, clauses) := splitClause "where" clauses
  let (order, clauses) := splitClause "order" clauses
  let items ← match order with
    | some ts => items? ts
    | none => some []
  let window ← d.window? order.isSome clauses
  return ⟨condition.map (textOf d.literalStyle), items.map (textOf d.literalStyle), window⟩

/-- The text of a laid fragment is read off its tokens. -/
theorem Dialect.Laid.textOf_tokens {d : Dialect} {f : Fragment} (h : d.Laid f) :
    textOf d.literalStyle f.tokens = f.text := by
  have hpiece : ∀ p ∈ f, p.tokens.flatMap (Token.chars d.literalStyle) = p.chars := by
    intro p hp
    have hwrites := h.writes p hp
    cases p with
    | bare text =>
      obtain ⟨ts, hts⟩ := exists_lexFrom_of_quoteless hwrites.quoteless []
      rw [Piece.tokens, bareTokens, Sql.lex, hts, Option.getD_some]
      exact flatMap_chars_of_quoteless hwrites.quoteless (hts .plain)
    | literal style content =>
      have hstyle : style = d.literalStyle := hwrites
      simp [Piece.tokens, Token.chars, Piece.chars, hstyle]
    | identifier name => simp [Piece.tokens, Token.chars, Piece.chars]
    | placeholder sigil name => simp [Piece.tokens, Token.chars, Piece.chars]
  rw [textOf, Fragment.text, Fragment.tokens, List.flatMap_assoc, Fragment.chars]
  exact congrArg String.ofList (List.flatMap_congr hpiece)

/-! ## Orders -/

namespace Sql

variable {items : List Fragment}

/-- The comma between two items. -/
def comma : Token := .symbol ','

theorem tokens_foldl (items : List Fragment) (order : Fragment) :
    (items.foldl (fun order item => order ++ sql ", " ++ item) order).tokens =
      order.tokens ++ (items.map fun f => (comma, blank :: f.tokens)).flatMap
        fun p : Passage => p.1 :: p.2 := by
  have hcomma : (sql ", ").tokens = [comma, blank] := by decide
  induction items generalizing order with
  | nil => exact (List.append_nil _).symm
  | cons item items ih =>
    rw [List.foldl_cons, ih, tokens_append, tokens_append, hcomma]
    simp

/-- An item of an order behind its comma. -/
theorem isPassage_item {f : Fragment} (hf : f.Sheltered) :
    IsPassage Token.isComma (comma, blank :: f.tokens) := by
  have hcomma : levelStep Token.isComma 0 comma = none ∧ comma.isComma = true := by decide
  refine ⟨hcomma.1, hcomma.2, ?_⟩
  have hblank : levelStep Token.isComma 0 blank = some 0 := by decide
  rw [level_cons, hblank]
  exact hf.commaless

/-- The items of an order are read back, in order. -/
theorem items?_order {item : Fragment} (h : ∀ f ∈ item :: items, f.Sheltered) :
    items? (sql "BY " ++ items.foldl (fun order item => order ++ sql ", " ++ item) item).tokens =
      some ((item :: items).map Fragment.tokens) := by
  obtain ⟨hitem, hitems⟩ := List.forall_mem_cons.mp h
  have hby : (sql "BY ").tokens = [.word "BY".toList, blank] := by decide
  have hpassages : ∀ p ∈ items.map fun f => (comma, blank :: f.tokens),
      IsPassage Token.isComma p := by
    intro p hp
    obtain ⟨f, hf, rfl⟩ := List.mem_map.mp hp
    exact isPassage_item (hitems f hf)
  have hcut := cut_passages hitem.commaless hpassages
  have hothers : (items.map fun f => (comma, blank :: f.tokens)).mapM
      (fun p : Passage => behindBlank? p.2) = some (items.map Fragment.tokens) := by
    refine mapM_eq_some ?_
    rw [List.forall₂_map_left_iff, List.forall₂_map_right_iff, List.forall₂_same]
    intro f _
    rw [behindBlank?, if_pos rfl]
  have hkeyword : Token.isKeyword "by" (.word "BY".toList) = true := by decide
  rw [tokens_append, hby, tokens_foldl, List.cons_append, items?, if_pos hkeyword,
    List.singleton_append, behindBlank?, if_pos rfl]
  simp only [Option.bind_eq_bind, Option.bind_some, hcut, hothers]
  rfl

/-- The commas of an order begin no clause. -/
theorem level_order {item : Fragment} (h : ∀ f ∈ item :: items, f.Sheltered) :
    level Token.isClauseWord 0
      (items.foldl (fun order item => order ++ sql ", " ++ item) item).tokens = some 0 := by
  obtain ⟨hitem, hitems⟩ := List.forall_mem_cons.mp h
  rw [tokens_foldl, level_append, hitem.clauseless, Option.bind_some]
  clear h hitem
  induction items with
  | nil => rfl
  | cons f items ih =>
    obtain ⟨hf, hrest⟩ := List.forall_mem_cons.mp hitems
    have hcomma : level Token.isClauseWord 0 [comma, blank] = some 0 := by decide
    have hcons : ((f :: items).map fun f => (comma, blank :: f.tokens)).flatMap
          (fun p : Passage => p.1 :: p.2) =
        [comma, blank] ++ (f.tokens ++ (items.map fun f => (comma, blank :: f.tokens)).flatMap
          fun p : Passage => p.1 :: p.2) := by simp
    rw [hcons, level_append, hcomma, Option.bind_some, level_append, hf.clauseless,
      Option.bind_some, ih hrest]

end Sql

/-! ## Statements -/

namespace Translation

variable {out : Translation} {d : Dialect}

/-- The clause for the order; where a page needs one and none was asked for, any will do. -/
def orderClauses (out : Translation) (d : Dialect) : List (String × Fragment) :=
  match out.order with
  | some order => [("ORDER", sql "BY " ++ order)]
  | none =>
    if (out.page? d).isSome && d.pageNeedsOrder then [("ORDER", sql "BY (SELECT NULL)")] else []

/-- The clauses at the end of the statement. -/
def clauses (out : Translation) (d : Dialect) : List (String × Fragment) :=
  (out.condition.toList.map fun φ => ("WHERE", φ.fragment)) ++ out.orderClauses d ++
    d.pageClauses out.limit out.offset

/-- Both clauses are written where they are there at all. -/
structure Spoken (out : Translation) : Prop where
  hasCondition_eq : out.hasCondition = out.condition.isSome
  hasOrder_eq : out.hasOrder = out.order.isSome

/-- The end of a statement is written as its clauses. -/
theorem Spoken.toList_tail (h : out.Spoken) (d : Dialect) :
    (out.tail d).toList = (clausesFragment (out.clauses d)).chars := by
  have happend (cs cs' : List (String × Fragment)) : clausesFragment (cs ++ cs') =
      clausesFragment cs ++ clausesFragment cs' := List.flatMap_append
  have hwhere : (clausesFragment (out.condition.toList.map fun φ => ("WHERE", φ.fragment))).chars =
      (if out.condition.isSome then " WHERE " ++ out.conditionText.getD "" else "").toList := by
    rw [conditionText]
    cases out.condition with
    | none => rfl
    | some φ =>
      simp [clausesFragment, sql, Piece.chars, String.toList_append, Formula.toList_text]
  have horder : (clausesFragment (out.orderClauses d)).chars =
      (if out.order.isSome then " ORDER BY " ++ out.orderText.getD ""
        else if (out.page? d).isSome && d.pageNeedsOrder then arbitraryOrder else "").toList := by
    rw [orderText, orderClauses]
    cases out.order with
    | none =>
      dsimp only [Option.isSome_none]
      split <;> simp_all [clausesFragment, sql, Piece.chars, arbitraryOrder]
    | some order =>
      simp [clausesFragment, sql, Piece.chars, String.toList_append, Fragment.text]
  rw [tail, h.hasCondition_eq, h.hasOrder_eq, clauses, happend, happend, chars_append,
    chars_append, Dialect.chars_pageClauses, hwhere, horder, String.toList_append,
    String.toList_append]
  rfl

/-- The condition and the items of the order are each in one piece. -/
structure Whole (out : Translation) (d : Dialect) (items : List Fragment) : Prop where
  spoken : out.Spoken
  condition : ∀ φ, out.condition = some φ → d.Laid φ.fragment ∧ φ.Sheltered
  order_eq : out.order = orderOf items
  laid_items : ∀ f ∈ items, d.Operand [] f
  sheltered_items : ∀ f ∈ items, f.Sheltered

variable {items : List Fragment}

/-- What the end of the statement is read as. -/
def reading (out : Translation) (d : Dialect) (items : List Fragment) : TailReading where
  condition := out.conditionText
  order :=
    if items = [] then
      if (out.page? d).isSome && d.pageNeedsOrder then ["(SELECT NULL)"] else []
    else items.map Fragment.text
  window := (Window.asked out.limit out.offset).map fun w => ⟨w.offset, d.limitRead w.limit⟩

/-- A clause for the order, and the items it is read as. -/
structure Orders (out : Translation) (d : Dialect) (f : Fragment) (items : List Fragment) :
    Prop where
  clauses_eq : out.orderClauses d = [("ORDER", f)]
  standing : Standing d ("ORDER", f)
  items_eq : items? f.tokens = some (items.map Fragment.tokens)
  laid_items : ∀ f ∈ items, d.Laid f

/-- There is no clause for the order, where a page needs none; or there is one, and it is read
back. -/
theorem Whole.orders (h : out.Whole d items) :
    (out.orderClauses d = [] ∧ (out.reading d items).order = [] ∧
      ((out.page? d).isSome && d.pageNeedsOrder) = false) ∨
    ∃ f fs, out.Orders d f fs ∧ (out.reading d items).order = fs.map Fragment.text := by
  have hmem : "ORDER" ∈ writtenWords := by decide
  have horder := h.order_eq
  cases items with
  | nil =>
    rw [orderOf] at horder
    cases hneeds : (out.page? d).isSome && d.pageNeedsOrder with
    | false =>
      refine .inl ⟨?_, ?_, rfl⟩
      · rw [orderClauses, horder]
        dsimp only
        rw [hneeds, if_neg Bool.false_ne_true]
      · rw [reading, if_pos rfl, hneeds, if_neg Bool.false_ne_true]
    | true =>
      have hnull : d.Operand [] (sql "(SELECT NULL)") := Dialect.spans_sql (by decide)
      refine .inr ⟨sql "BY (SELECT NULL)", [sql "(SELECT NULL)"], ⟨?_, ?_, by decide, ?_⟩, ?_⟩
      · rw [orderClauses, horder]
        dsimp only
        rw [hneeds, if_pos rfl]
      · exact Dialect.standing_of_operand hmem (Dialect.spans_sql (by decide))
          (levels_sql (by decide))
      · exact List.forall_mem_singleton.mpr hnull.laid
      · have htext : (sql "(SELECT NULL)").text = "(SELECT NULL)" := by decide
        rw [reading, if_pos rfl, hneeds, if_pos rfl, List.map_singleton, htext]
  | cons item items =>
    rw [orderOf] at horder
    have hoperand := orderOf_operand h.laid_items rfl
    refine .inr ⟨_, item :: items, ⟨?_, ⟨hmem, ?_, ?_⟩, items?_order h.sheltered_items, fun f hf =>
      (h.laid_items f hf).laid⟩, ?_⟩
    · rw [orderClauses, horder]
    · exact (Dialect.Spans.opened "BY " (by decide) hoperand).laid
    · have hby : level Token.isClauseWord 0 (sql "BY ").tokens = some 0 := by decide
      rw [tokens_append, level_append, hby, Option.bind_some]
      exact level_order h.sheltered_items
    · rw [reading, if_neg (List.cons_ne_nil _ _)]

/-- A clause for the order, asked for or not, is read back. -/
theorem Whole.of_mem_orderClauses (h : out.Whole d items) {c : String × Fragment}
    (hc : c ∈ out.orderClauses d) : c.1 = "ORDER" ∧ Standing d c := by
  rcases h.orders with ⟨hnone, -⟩ | ⟨f, fs, horders, -⟩
  · rw [hnone] at hc
    exact absurd hc List.not_mem_nil
  · rw [horders.clauses_eq, List.mem_singleton] at hc
    rw [hc]
    exact ⟨rfl, horders.standing⟩

theorem Whole.standing (h : out.Whole d items) : ∀ c ∈ out.clauses d, Standing d c := by
  have hmem : "WHERE" ∈ writtenWords := by decide
  have hcondition : ∀ c ∈ out.condition.toList.map fun φ => ("WHERE", φ.fragment),
      Standing d c := by
    intro c hc
    obtain ⟨φ, hφ, rfl⟩ := List.mem_map.mp hc
    obtain ⟨hlaid, hsheltered⟩ := h.condition φ (Option.mem_toList.mp hφ)
    exact ⟨hmem, hlaid, hsheltered.clauseless⟩
  intro c hc
  rcases List.mem_append.mp hc with hc | hc
  · rcases List.mem_append.mp hc with hc | hc
    · exact hcondition c hc
    · exact (h.of_mem_orderClauses hc).2
  · exact Dialect.standing_pageClauses d _ _ c hc

theorem splitClause_of_other {keyword : String} {cs : List (String × Fragment)}
    (h : ∀ c ∈ cs, Token.isKeyword keyword (.word c.1.toList) = false) :
    splitClause keyword (cs.map passage) = (none, cs.map passage) := by
  cases cs with
  | nil => rfl
  | cons c cs =>
    have hc := h c List.mem_cons_self
    rw [List.map_cons, passage, splitClause, hc, if_neg Bool.false_ne_true]

theorem splitClause_cons {keyword : String} {c : String × Fragment}
    (h : Token.isKeyword keyword (.word c.1.toList) = true) (cs : List (String × Fragment)) :
    splitClause keyword ((c :: cs).map passage) = (some c.2.tokens, cs.map passage) := by
  rw [List.map_cons, passage, splitClause, h, if_pos rfl]

theorem splitClause_where (h : out.Whole d items) :
    splitClause "where" ((out.clauses d).map passage) =
      (out.condition.map fun φ => φ.fragment.tokens,
        (out.orderClauses d ++ d.pageClauses out.limit out.offset).map passage) := by
  have hwhere : Token.isKeyword "where" (.word "WHERE".toList) = true := by decide
  rw [clauses, List.append_assoc]
  cases out.condition with
  | some φ => exact splitClause_cons hwhere _
  | none =>
    rw [Option.toList_none, List.map_nil, List.nil_append]
    refine splitClause_of_other fun c hc => ?_
    have hword : c.1 ∈ ["ORDER", "LIMIT", "OFFSET"] := by
      rcases List.mem_append.mp hc with hc | hc
      · rw [(h.of_mem_orderClauses hc).1]
        exact List.mem_cons_self
      · rcases Dialect.word_of_mem_pageClauses hc with hc | hc <;> rw [hc] <;> decide
    generalize c.1 = word at hword
    revert word
    decide

theorem splitClause_page (d : Dialect) (limit offset : Option Nat) :
    splitClause "order" ((d.pageClauses limit offset).map passage) =
      (none, (d.pageClauses limit offset).map passage) :=
  splitClause_of_other fun c hc => by
    rcases Dialect.word_of_mem_pageClauses hc with hc | hc <;> rw [hc] <;> decide

/-- The end of a statement is read back. -/
theorem Whole.readTail? (h : out.Whole d items) :
    d.readTail? (out.tail d) = some (out.reading d items) := by
  have hclauses : clauses? d.literalStyle (out.tail d).toList =
      some ((out.clauses d).map passage) := by
    rw [h.spoken.toList_tail, clauses?_chars h.standing]
  have hcondition : (out.condition.map fun φ => φ.fragment.tokens).map
      (textOf d.literalStyle) = out.conditionText := by
    rw [conditionText]
    cases hφ : out.condition with
    | none => rfl
    | some φ => exact congrArg some (h.condition φ hφ).1.textOf_tokens
  have hshape : out.reading d items = ⟨out.conditionText, (out.reading d items).order,
    (Window.asked out.limit out.offset).map fun w => ⟨w.offset, d.limitRead w.limit⟩⟩ := rfl
  rw [Dialect.readTail?, hclauses]
  simp only [Option.bind_eq_bind, Option.bind_some, splitClause_where h]
  rcases h.orders with ⟨hnone, hreading, hneeds⟩ | ⟨f, fs, horders, hreading⟩
  · have hunordered : d = .sqlServer → (out.page? d).isSome = true → false = true := by
      intro hd hpage
      rw [hpage, hd] at hneeds
      exact hneeds.symm
    have hwindow := Dialect.window?_pageClauses false out.limit out.offset hunordered
    rw [hnone, List.nil_append, splitClause_page]
    simp only [hwindow, Option.bind_some, Option.isSome_none]
    rw [hcondition, hshape, hreading]
    rfl
  · have horder : Token.isKeyword "order" (.word "ORDER".toList) = true := by decide
    have hwindow := Dialect.window?_pageClauses (d := d) true out.limit out.offset fun _ _ => rfl
    have hitems : (fs.map Fragment.tokens).map (textOf d.literalStyle) =
        fs.map Fragment.text := by
      rw [List.map_map]
      exact List.map_congr_left fun f hf => (horders.laid_items f hf).textOf_tokens
    rw [horders.clauses_eq, List.singleton_append, splitClause_cons horder]
    simp only [horders.items_eq, hwindow, Option.bind_some, Option.isSome_some]
    rw [hcondition, hitems, hshape, hreading]
    rfl

end Translation

/-! ## Requests -/

namespace Translator

open Translation

variable {t : Translator} {r : Request} {d : Dialect} {c c' : Nat} {out : Translation}
  {keys : List SortKey}

/-- A translation has its parts in one piece. -/
theorem exists_whole (h : (t.translate r).run c = (.ok out, c')) :
    ∃ keys, sortKeys r.options = .ok keys ∧ out.Whole t.dialect (keys.map t.orderItem) ∧
      out.limit = t.effectiveLimit r.options.limit ∧ out.offset = asked r.options.skip := by
  obtain ⟨filter, keys, projection, hadmitted, rfl, -⟩ := exists_of_translate h
  have hns := filter.names_parameterNames c
  generalize parameterNames c filter.binders = ns at hns
  have hcondition := condition_assemble t r.options keys projection (filter.predicate t.target ns)
  have halways := filter.isAlways_predicate (t := t.target) hns.length_eq
  refine ⟨keys, hadmitted.keys_eq, ⟨⟨?_, ?_⟩, fun φ hφ => ?_, order_assemble _ _ _ _ _,
    orderItems_operand t keys, fun f hf => ?_⟩, rfl, rfl⟩
  · rw [hasCondition_assemble hns.length_eq, hcondition, halways]
    cases filter.isVacuous <;> rfl
  · rw [hasOrder_assemble, order_assemble]
    cases keys <;> rfl
  · rw [hcondition] at hφ
    split at hφ
    · exact nomatch hφ
    · rw [← Option.some.inj hφ]
      refine ⟨(Filter.laid_predicate hadmitted.sound hns).1, filter.sheltered_predicate ?_⟩
      intro name hname
      obtain ⟨field, n, rfl⟩ := hns.named name hname
      exact underscore_mem_parameterName field n
  · obtain ⟨key, -, rfl⟩ := List.mem_map.mp hf
    exact Dialect.sheltered_orderItem (t.layout.sheltered_column key.field) key.direction

theorem isSome_page? (d : Dialect) (limit offset : Option Nat) :
    (d.page? limit offset).isSome = (Window.asked limit offset).isSome := by
  cases d <;> cases limit <;> cases offset <;> rfl

theorem pageNeedsOrder_iff : d.pageNeedsOrder = true ↔ d = .sqlServer := by
  cases d <;> decide

theorem text_orderItem (d : Dialect) (place : Location) (direction : Direction) :
    (d.orderItem place direction).text =
      (d.comparable place).text ++ " " ++ direction.keyword := by
  rw [← String.toList_inj]
  simp [Dialect.orderItem, Fragment.text, sql, Piece.chars, String.toList_append]

/-- An item for a key ends in its direction, and is no constant. -/
theorem text_orderItem_ne (d : Dialect) (place : Location) (direction : Direction) :
    (d.orderItem place direction).text ≠ "(SELECT NULL)" := by
  intro h
  have hlast := congrArg (fun s : String => s.toList.getLast?) h
  simp only [text_orderItem, String.toList_append] at hlast
  cases direction <;> simp [Direction.keyword] at hlast

theorem needsOrder_iff (out : Translation) (d : Dialect) (items : List Fragment) :
    ((out.page? d).isSome && d.pageNeedsOrder) = true ↔
      d = .sqlServer ∧ (out.reading d items).window.isSome = true := by
  have hpage : (out.page? d).isSome = (out.reading d items).window.isSome := by
    rw [reading, Option.isSome_map]
    exact isSome_page? d out.limit out.offset
  rw [Bool.and_eq_true, pageNeedsOrder_iff, hpage, and_comm]

/-- An item of the order for a key, as it is read. -/
def itemText (t : Translator) (d : Dialect) (key : SortKey) : String :=
  (d.comparable (t.layout.locate key.field)).text ++ " " ++ key.direction.keyword

/-- The items of an order that is read: one for each key, in order, or where a page needs an
order and none was asked for, a constant. -/
structure OrdersBack (t : Translator) (d : Dialect) (keys : List SortKey) (paged : Bool)
    (order : List String) : Prop where
  keyed : keys ≠ [] → order = keys.map (t.itemText d)
  unkeyed : keys = [] → ¬ (d = .sqlServer ∧ paged = true) → order = []
  selectNull_iff : "(SELECT NULL)" ∈ order ↔ keys = [] ∧ d = .sqlServer ∧ paged = true
  ordered : d = .sqlServer → paged = true → order ≠ []

theorem ordersBack_of_ne_nil (h : keys ≠ []) (paged : Bool) :
    t.OrdersBack d keys paged (keys.map (t.itemText d)) where
  keyed _ := rfl
  unkeyed hnil := absurd hnil h
  selectNull_iff := by
    refine ⟨fun hmem => ?_, fun hnull => absurd hnull.1 h⟩
    obtain ⟨key, -, hkey⟩ := List.mem_map.mp hmem
    rw [itemText, ← text_orderItem] at hkey
    exact absurd hkey (text_orderItem_ne _ _ _)
  ordered _ _ := mt List.map_eq_nil_iff.mp h

theorem ordersBack_nil (t : Translator) (d : Dialect) (paged : Bool) :
    t.OrdersBack d [] paged
      (if d = .sqlServer ∧ paged = true then ["(SELECT NULL)"] else []) := by
  by_cases h : d = .sqlServer ∧ paged = true
  · rw [if_pos h]
    exact ⟨fun hne => absurd rfl hne, fun _ hnot => absurd h hnot,
      ⟨fun _ => ⟨rfl, h⟩, fun _ => List.mem_cons_self⟩, fun _ _ => List.cons_ne_nil _ _⟩
  · rw [if_neg h]
    exact ⟨fun hne => absurd rfl hne, fun _ _ => rfl,
      ⟨fun hmem => absurd hmem List.not_mem_nil, fun hnull => absurd hnull.2 h⟩,
      fun hd hpaged => absurd ⟨hd, hpaged⟩ h⟩

theorem ordersBack_reading (out : Translation) (t : Translator) (d : Dialect)
    (keys : List SortKey) {reading : TailReading}
    (h : reading = out.reading d (keys.map (t.onDialect d).orderItem)) :
    t.OrdersBack d keys reading.window.isSome reading.order := by
  cases keys with
  | nil =>
    have hneeds := needsOrder_iff out d ([].map (t.onDialect d).orderItem)
    have horder : reading.order =
        if d = .sqlServer ∧ reading.window.isSome = true then ["(SELECT NULL)"] else [] := by
      rw [h, ← if_congr hneeds rfl rfl, List.map_nil, Translation.reading, if_pos rfl]
    rw [horder]
    exact ordersBack_nil t d _
  | cons key keys =>
    have horder : reading.order = (key :: keys).map (t.itemText d) := by
      rw [h, Translation.reading, if_neg (mt List.map_eq_nil_iff.mp (List.cons_ne_nil _ _)),
        List.map_map]
      exact List.map_congr_left fun key _ => text_orderItem d _ _
    rw [horder]
    exact ordersBack_of_ne_nil (List.cons_ne_nil _ _) _

/-- The end of a statement in a dialect, read as the database reads it: the condition as it is,
the items of the order, and the window that is asked for, which does not depend on the
dialect. -/
structure ReadsBack (t : Translator) (r : Request) (d : Dialect) (out : Translation)
    (keys : List SortKey) (reading : TailReading) : Prop where
  reads : d.readTail? (out.tail d) = some reading
  condition_eq : reading.condition = out.conditionText
  orders : t.OrdersBack d keys reading.window.isSome reading.order
  window_same : Option.Rel Window.Same reading.window
    (Window.asked (t.effectiveLimit r.options.limit) (asked r.options.skip))
  /-- Only MySQL reads its greatest limit as none. -/
  window_eq : (d = .mySql → t.effectiveLimit r.options.limit ≠ some Dialect.greatestLimit) →
    reading.window = Window.asked (t.effectiveLimit r.options.limit) (asked r.options.skip)

/-- The end of every statement is read back, and the window of rows is the same in every
dialect. -/
theorem readsBack_of_translate (h : ((t.onDialect d).translate r).run c = (.ok out, c')) :
    ∃ keys reading, sortKeys r.options = .ok keys ∧
      keys.map SortKey.field = r.options.sort.keys ∧ t.ReadsBack r d out keys reading := by
  obtain ⟨keys, hkeys, hwhole, hlimit, hoffset⟩ := exists_whole h
  have hwhole : out.Whole d (keys.map (t.onDialect d).orderItem) := hwhole
  have hlimit : out.limit = t.effectiveLimit r.options.limit := hlimit
  have hwindow : (out.reading d (keys.map (t.onDialect d).orderItem)).window =
      (Window.asked (t.effectiveLimit r.options.limit) (asked r.options.skip)).map
        fun w => ⟨w.offset, d.limitRead w.limit⟩ := by
    rw [Translation.reading, hlimit, hoffset]
  refine ⟨keys, _, hkeys, map_field_sortKeys hkeys, hwhole.readTail?, rfl,
    ordersBack_reading out t d keys rfl, ?_, fun hgreatest => ?_⟩
  · rw [hwindow]
    cases Window.asked (t.effectiveLimit r.options.limit) (asked r.options.skip) with
    | none => exact .none
    | some w => exact .some (Dialect.same_limitRead d w)
  · have hread : d.limitRead (t.effectiveLimit r.options.limit) =
        t.effectiveLimit r.options.limit := if_neg fun h => hgreatest h.1 h.2
    rw [hwindow, Window.asked]
    split
    · rfl
    · rw [Option.map_some, hread]

/-- Names that look like clauses, a condition with a `WHERE` of its own, and a page. -/
theorem readsBack_of_translate_sqlServer : ∃ r out c₁ keys reading,
    (((permissive .postgres).onDialect .sqlServer).translate r).run 0 = (.ok out, c₁) ∧
    r.filter.keys = ["a, b", " LIMIT 1"] ∧ keys.map SortKey.field = [" ORDER BY 'c", "_id"] ∧
    (permissive .postgres).ReadsBack r .sqlServer out keys reading ∧
    reading.order.length = 2 ∧ reading.window = some ⟨10, some 5⟩ := by
  let r : Request := ⟨[("a, b", .object [("$exists", .bool true)]),
      (" LIMIT 1", .object [("$in", .array [.string "x", .bool true])])],
    ⟨[(" ORDER BY 'c", .string "desc"), ("_id", .number (.integer 1))], some 5, some 10, none⟩⟩
  obtain ⟨out, c₁, h⟩ := Minting.exists_run_eq_ok
    (x := ((permissive .postgres).onDialect .sqlServer).translate r) (c := 0) rfl
  obtain ⟨keys, reading, -, hfields, hreads⟩ := readsBack_of_translate h
  refine ⟨r, out, c₁, keys, reading, h, rfl, hfields, hreads, ?_, ?_⟩
  · have hlength : keys.length = 2 :=
      (List.length_map _).symm.trans (congrArg List.length hfields)
    have hne : keys ≠ [] := List.ne_nil_of_length_eq_add_one hlength
    rw [hreads.orders.keyed hne, List.length_map, hlength]
  · exact hreads.window_eq fun hd => absurd hd (by decide)

end Translator
end DocFilter
