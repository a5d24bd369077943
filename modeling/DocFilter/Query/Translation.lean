import DocFilter.Dialect.Page
import DocFilter.Query.Positional
import DocFilter.Query.Projection

/-!
# What a request is translated to

The clauses of a statement without the words in front of them, the values bound to
their parameters, and the page.  A translation is built up step by step: predicates
are joined to the condition, items are added to the order.
-/

namespace DocFilter

/-- A request translated. -/
structure Translation where
  condition : Option Sql.Formula
  order : Option Sql.Fragment
  bindings : Bindings
  limit : Option Nat
  offset : Option Nat
  projection : Option Projection

namespace Translation

/-- A translation without clauses. -/
def empty : Translation := ⟨none, none, [], none, none, none⟩

/-- The predicate joined to the condition; one that every row meets is left
out. -/
def addPredicate (t : Translation) (p : Predicate) : Translation :=
  if p.condition.isAlways then t
  else
    { t with
      condition := match t.condition with
        | some c => some (.all [c, p.condition])
        | none => some p.condition
      bindings := t.bindings.insertAll p.bindings }

/-- One more item of the order. -/
def addOrder (t : Translation) (item : Sql.Fragment) : Translation :=
  { t with
    order := match t.order with
      | some order => some (order ++ Sql.Fragment.sql ", " ++ item)
      | none => some item }

/-- The text of the condition. -/
def conditionText (t : Translation) : Option String := t.condition.map Sql.Formula.text

/-- The text of the order. -/
def orderText (t : Translation) : Option String := t.order.map Sql.Fragment.text

/-- Whether there is a condition that says something. -/
def hasCondition (t : Translation) : Bool :=
  match t.conditionText with
  | some s => !Text.isBlankText s && s != Sql.Formula.alwaysText
  | none => false

/-- Whether there is an order. -/
def hasOrder (t : Translation) : Bool :=
  match t.orderText with
  | some s => !Text.isBlankText s
  | none => false

/-- The clause for the page. -/
def page? (t : Translation) (d : Dialect) : Option String := d.page? t.limit t.offset

/-- The condition with positions instead of names, and the values in order. -/
def positional (t : Translation) (d : Dialect) : String × List Bound :=
  match t.conditionText with
  | some s =>
    let r := d.rewrite t.bindings s
    (String.ofList r.chars, r.values)
  | none => ("", [])

/-- The order a page is taken in where a page needs one and none was asked for. -/
def arbitraryOrder : String := " ORDER BY (SELECT NULL)"

/-- The end of a statement: condition, order and page, with the words in front of
them. -/
def tail (t : Translation) (d : Dialect) : String :=
  let page := t.page? d
  (if t.hasCondition then " WHERE " ++ t.conditionText.getD "" else "") ++
    (if t.hasOrder then " ORDER BY " ++ t.orderText.getD ""
     else if page.isSome && d.pageNeedsOrder then arbitraryOrder
     else "") ++
    (match page with
      | some clause => " " ++ clause
      | none => "")

end Translation
end DocFilter
