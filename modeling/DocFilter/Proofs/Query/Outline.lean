import DocFilter.Dialect.Page
import DocFilter.Proofs.Filter.Outline
import DocFilter.Proofs.Query.Translator

/-!
# What the clauses give away

Whatever a client calls its fields, the clauses of a translation are whole texts, with every
quote closed that is opened, and their skeletons depend on the outline of the request alone
(`Translator.sealed_of_translate`): on the columns, the shape of the filter, its operators
and operands, the directions of the order, and what kind each field is.
-/

namespace DocFilter

open Sql

/-! ## Orders -/

namespace Dialect

variable {d : Dialect} {place place' : Location}

theorem orderItem_operand (h : d.Operand [] place.column) (direction : Direction) :
    d.Operand [] (d.orderItem place direction) := by
  cases direction with
  | ascending => exact (comparable_operand h).closed " ASC" (by decide)
  | descending => exact (comparable_operand h).closed " DESC" (by decide)

theorem orderItem_alike (h : place.Alike place') (direction : Direction) :
    Alike (d.orderItem place direction) (d.orderItem place' direction) :=
  (comparable_alike h).closed _

end Dialect

namespace Translation

theorem orderOf_operand {d : Dialect} {items : List Fragment} (h : ∀ f ∈ items, d.Operand [] f)
    {order : Fragment} (ho : orderOf items = some order) : d.Operand [] order := by
  have hfold (items : List Fragment) : ∀ order, (∀ f ∈ items, d.Operand [] f) →
      d.Operand [] order → d.Operand []
        (items.foldl (fun order item => order ++ Fragment.sql ", " ++ item) order) := by
    induction items with
    | nil => exact fun _ _ h => h
    | cons item items ih =>
      intro order hitems horder
      obtain ⟨hitem, hrest⟩ := List.forall_mem_cons.mp hitems
      exact ih _ hrest (horder.linked ", " (by decide) hitem)
  cases items with
  | nil => exact nomatch ho
  | cons item items =>
    obtain ⟨hitem, hrest⟩ := List.forall_mem_cons.mp h
    rw [← Option.some.inj ho]
    exact hfold items item hrest hitem

/-- Alike items, in orders that are both there or both not. -/
theorem orderOf_alike {items items' : List Fragment} (h : AlikeAll items items') :
    Option.Rel Alike (orderOf items) (orderOf items') := by
  have hfold {items items' : List Fragment} (h : AlikeAll items items') :
      ∀ order order', Alike order order' →
        Alike (items.foldl (fun order item => order ++ Fragment.sql ", " ++ item) order)
          (items'.foldl (fun order item => order ++ Fragment.sql ", " ++ item) order') := by
    induction h with
    | nil => exact fun _ _ h => h
    | cons hitem _ ih => exact fun order order' h => ih _ _ (h.linked ", " hitem)
  cases h with
  | nil => exact .none
  | cons hitem hrest => exact .some (hfold hrest _ _ hitem)

end Translation

/-! ## Requests -/

namespace Translator

/-- What a request says without the names of its fields: its filter, and the order asked
for. -/
def outline (t : Translator) (r : Request) :
    Except QueryError (Outline × List (FieldKind × Direction)) := do
  let filter ← t.readFilter r.filter
  let keys ← sortKeys r.options
  return (filter.outline t.layout, keys.map fun key => (t.layout.kind key.field, key.direction))

/-- The skeleton of a clause. -/
def skeleton? (t : Translator) (clause : Option String) : Option (Option (List Token)) :=
  clause.map (Sql.skeleton? t.dialect.sigil t.dialect.literalStyle)

/-- The clauses of a translation end outside of quotes, and their skeletons are those of any
other request with the same outline. -/
structure Seals (t : Translator) (r : Request) (out : Translation) : Prop where
  condition_closed : ∀ text, out.conditionText = some text →
    (lex t.dialect.literalStyle text.toList).isSome = true
  order_closed : ∀ text, out.orderText = some text →
    (lex t.dialect.literalStyle text.toList).isSome = true
  condition_eq : ∀ {t' : Translator} {r' : Request} {c c' : Nat} {out' : Translation},
    (t'.translate r').run c = (.ok out', c') → t.target.Agree t'.target →
      t.outline r = t'.outline r' → t.skeleton? out.conditionText = t.skeleton? out'.conditionText
  order_eq : ∀ {t' : Translator} {r' : Request} {c c' : Nat} {out' : Translation},
    (t'.translate r').run c = (.ok out', c') → t.target.Agree t'.target →
      t.outline r = t'.outline r' → t.skeleton? out.orderText = t.skeleton? out'.orderText

/-- The skeleton of a laid fragment is that of its tokens. -/
theorem skeleton?_text {d : Dialect} {f : Fragment} (h : d.Laid f) :
    Sql.skeleton? d.sigil d.literalStyle f.text =
      some (skeletonFrom d.sigil .anything f.tokens) := by
  rw [Sql.skeleton?, Fragment.text, String.toList_ofList, h.lex, Option.map_some]

theorem lex_text_isSome {d : Dialect} {f : Fragment} (h : d.Laid f) :
    (lex d.literalStyle f.text.toList).isSome = true := by
  rw [Fragment.text, String.toList_ofList, h.lex]
  rfl

theorem skeleton?_eq_of_alike {d : Dialect} {f g : Fragment} (h : Alike f g) (hf : d.Laid f)
    (hg : d.Laid g) : Sql.skeleton? d.sigil d.literalStyle f.text =
      Sql.skeleton? d.sigil d.literalStyle g.text := by
  rw [skeleton?_text hf, skeleton?_text hg, h.skeletonFrom_eq hf.writes (by decide)]

theorem isAlways_of_alike {d : Dialect} {φ ψ : Formula} (h : Alike φ.fragment ψ.fragment)
    (hφ : d.Laid φ.fragment) (halways : φ.isAlways = true) : ψ.isAlways = true := by
  have hplain : φ.fragment.chars.all (fun c => Dialect.isInert c && c != '-') = true := by
    rw [Formula.chars_of_isAlways halways]
    rfl
  have hsame : ψ.fragment = φ.fragment := h.eq_of_chars hφ.writes fun c hc => by
    simpa using List.all_eq_true.mp hplain c hc
  rwa [Formula.isAlways, Formula.text, hsame]

variable {t t' : Translator} {r r' : Request} {c c₁ : Nat} {out : Translation}

/-- What a translation has read and compiled. -/
structure Reads (t : Translator) (r : Request) (out : Translation) (p : Predicate)
    (filter : Filter) (keys : List SortKey) : Prop where
  filter_eq : t.readFilter r.filter = .ok filter
  keys_eq : sortKeys r.options = .ok keys
  laid : t.dialect.Laid p.condition.fragment
  condition_eq : out.condition = if p.condition.isAlways then none else some p.condition
  order_eq : out.order = Translation.orderOf (keys.map t.orderItem)

theorem Reads.outline_eq {p : Predicate} {filter : Filter} {keys : List SortKey}
    (h : t.Reads r out p filter keys) :
    t.outline r = .ok (filter.outline t.layout,
      keys.map fun key => (t.layout.kind key.field, key.direction)) := by
  rw [outline, h.filter_eq, h.keys_eq]
  rfl

theorem exists_reads (h : (t.translate r).run c = (.ok out, c₁)) :
    ∃ p filter keys, t.Reads r out p filter keys ∧
      (filter.compile t.target).run c = (.ok p, c₁) := by
  obtain ⟨filter, hfilter, hread⟩ := translate_eq_ok.mp h
  obtain ⟨p, keys, hp, hkeys, hcondition, -, horder⟩ := translateRead_eq_ok hread
  exact ⟨p, filter, keys, ⟨hfilter, hkeys,
    (Filter.compile_fresh filter hp).1.clause.operand.laid, hcondition, horder⟩, hp⟩

theorem orderItems_operand (t : Translator) (keys : List SortKey) :
    ∀ f ∈ keys.map t.orderItem, t.dialect.Operand [] f := by
  intro f hf
  obtain ⟨key, -, rfl⟩ := List.mem_map.mp hf
  exact Dialect.orderItem_operand (Condition.locate_operand _ _ _) key.direction

theorem orderItems_alike (h : t.target.Agree t'.target) {keys keys' : List SortKey}
    (hkeys : keys.map (fun key => (t.layout.kind key.field, key.direction)) =
      keys'.map fun key => (t'.layout.kind key.field, key.direction)) :
    AlikeAll (keys.map t.orderItem) (keys'.map t'.orderItem) := by
  induction keys generalizing keys' with
  | nil =>
    rw [List.map_eq_nil_iff.mp hkeys.symm]
    exact .nil
  | cons key keys ih =>
    cases keys' with
    | nil => exact nomatch hkeys
    | cons key' keys' =>
      obtain ⟨hkey, hrest⟩ := List.cons.inj hkeys
      obtain ⟨hkind, hdirection⟩ := Prod.mk.inj hkey
      refine .cons ?_ (ih hrest)
      have hdialect : t'.dialect = t.dialect := h.dialect
      rw [orderItem, orderItem, hdirection, hdialect]
      exact Dialect.orderItem_alike (locate_alike h hkind) _

section Reads

variable {p p' : Predicate} {filter filter' : Filter} {keys keys' : List SortKey}
  {out' : Translation}

theorem Reads.condition_closed (h : t.Reads r out p filter keys) (text : String)
    (htext : out.conditionText = some text) :
    (lex t.dialect.literalStyle text.toList).isSome = true := by
  rw [Translation.conditionText, h.condition_eq] at htext
  split_ifs at htext
  · exact nomatch htext
  · rw [← Option.some.inj htext]
    exact lex_text_isSome h.laid

theorem Reads.order_closed (h : t.Reads r out p filter keys) (text : String)
    (htext : out.orderText = some text) :
    (lex t.dialect.literalStyle text.toList).isSome = true := by
  rw [Translation.orderText, Option.map_eq_some_iff] at htext
  obtain ⟨order, horder, rfl⟩ := htext
  rw [h.order_eq] at horder
  exact lex_text_isSome (Translation.orderOf_operand (orderItems_operand t keys) horder).laid

/-- Alike conditions are both left out or both there, with one skeleton. -/
theorem Reads.condition_skeleton (h : t.Reads r out p filter keys)
    (h' : t'.Reads r' out' p' filter' keys') (hdialect : t'.dialect = t.dialect)
    (halike : Alike p.condition.fragment p'.condition.fragment) :
    t.skeleton? out.conditionText = t.skeleton? out'.conditionText := by
  have hlaid' : t.dialect.Laid p'.condition.fragment := hdialect ▸ h'.laid
  rw [Translation.conditionText, Translation.conditionText, h.condition_eq, h'.condition_eq]
  by_cases ha : p.condition.isAlways = true
  · rw [if_pos ha, if_pos (isAlways_of_alike halike h.laid ha)]
  · have ha' : ¬ p'.condition.isAlways = true := fun ha' =>
      ha (isAlways_of_alike halike.symm hlaid' ha')
    rw [if_neg ha, if_neg ha']
    exact congrArg some (skeleton?_eq_of_alike halike h.laid hlaid')

/-- Alike items make orders that are both left out or both there, with one skeleton. -/
theorem Reads.order_skeleton (h : t.Reads r out p filter keys)
    (h' : t'.Reads r' out' p' filter' keys') (hdialect : t'.dialect = t.dialect)
    (halike : AlikeAll (keys.map t.orderItem) (keys'.map t'.orderItem)) :
    t.skeleton? out.orderText = t.skeleton? out'.orderText := by
  have hrel := Translation.orderOf_alike halike
  rw [Translation.orderText, Translation.orderText, h.order_eq, h'.order_eq]
  cases horder : Translation.orderOf (keys.map t.orderItem) with
  | none =>
    cases horder' : Translation.orderOf (keys'.map t'.orderItem) with
    | none => rfl
    | some order' =>
      rw [horder, horder'] at hrel
      exact nomatch hrel
  | some order =>
    cases horder' : Translation.orderOf (keys'.map t'.orderItem) with
    | none =>
      rw [horder, horder'] at hrel
      exact nomatch hrel
    | some order' =>
      rw [horder, horder'] at hrel
      cases hrel with
      | some horders =>
        have hoperand := Translation.orderOf_operand (orderItems_operand t keys) horder
        have hoperand' := Translation.orderOf_operand (orderItems_operand t' keys') horder'
        rw [hdialect] at hoperand'
        exact congrArg some (skeleton?_eq_of_alike horders hoperand.laid hoperand'.laid)

end Reads

/-- Every translation seals the names in its request. -/
theorem sealed_of_translate (h : (t.translate r).run c = (.ok out, c₁)) : t.Seals r out := by
  obtain ⟨p, filter, keys, hreads, hp⟩ := exists_reads h
  refine ⟨hreads.condition_closed, hreads.order_closed, fun h' hagree ho => ?_,
    fun h' hagree ho => ?_⟩
  · obtain ⟨p', filter', keys', hreads', hp'⟩ := exists_reads h'
    rw [hreads.outline_eq, hreads'.outline_eq] at ho
    have hfilter := (Prod.mk.inj (Except.ok.inj ho)).1
    exact hreads.condition_skeleton hreads' hagree.dialect
      (Filter.compile_alike hagree filter filter' hfilter hp hp')
  · obtain ⟨p', filter', keys', hreads', hp'⟩ := exists_reads h'
    rw [hreads.outline_eq, hreads'.outline_eq] at ho
    have hkeys := (Prod.mk.inj (Except.ok.inj ho)).2
    exact hreads.order_skeleton hreads' hagree.dialect (orderItems_alike hagree hkeys)

/-- Names with quotes, marks and backslashes in them, against plain ones. -/
theorem sealed_of_translate_postgres : ∃ out c₁ out' c₁',
    ((permissive .postgres).translate ⟨[("$or", .array [
        .object [("o'k\\:p_1", .object [("$in", .array [.string "x", .bool true])])],
        .object [("7", .object [("$exists", .bool false)])]])],
      ⟨[("a'.-- b", .string "desc")], none, none, none⟩⟩).run 0 = (.ok out, c₁) ∧
    ((permissive .postgres).translate ⟨[("$or", .array [
        .object [("name", .object [("$in", .array [.string "x", .bool true])])],
        .object [("1234", .object [("$exists", .bool false)])]])],
      ⟨[("a.b.c", .string "desc")], none, none, none⟩⟩).run 99 = (.ok out', c₁') ∧
    (permissive .postgres).skeleton? out.conditionText =
      (permissive .postgres).skeleton? out'.conditionText ∧
    (permissive .postgres).skeleton? out.orderText =
      (permissive .postgres).skeleton? out'.orderText := by
  obtain ⟨out, c₁, h⟩ := Minting.exists_run_eq_ok (x := (permissive .postgres).translate
    ⟨[("$or", .array [
        .object [("o'k\\:p_1", .object [("$in", .array [.string "x", .bool true])])],
        .object [("7", .object [("$exists", .bool false)])]])],
      ⟨[("a'.-- b", .string "desc")], none, none, none⟩⟩) (c := 0) rfl
  obtain ⟨out', c₁', h'⟩ := Minting.exists_run_eq_ok (x := (permissive .postgres).translate
    ⟨[("$or", .array [
        .object [("name", .object [("$in", .array [.string "x", .bool true])])],
        .object [("1234", .object [("$exists", .bool false)])]])],
      ⟨[("a.b.c", .string "desc")], none, none, none⟩⟩) (c := 99) rfl
  have hseals := sealed_of_translate h
  have hagree : (permissive .postgres).target.Agree (permissive .postgres).target := ⟨rfl, rfl, rfl⟩
  exact ⟨out, c₁, out', c₁', h, h', hseals.condition_eq h' hagree rfl,
    hseals.order_eq h' hagree rfl⟩

end Translator
end DocFilter
