import DocFilter.Proofs.Filter.Compile
import DocFilter.Query.Translator

/-!
# What a translation is made of

A translation that is not refused has read a filter, compiled it, and read an order.  Its
condition is that of the compiled predicate, unless every row meets it; its bindings are
those of the same predicate; its order is one item for each key.
-/

namespace DocFilter

namespace Translation

theorem condition_foldl_addOrder (items : List Sql.Fragment) (t : Translation) :
    (items.foldl addOrder t).condition = t.condition := by
  induction items generalizing t with
  | nil => rfl
  | cons item items ih => exact ih (t.addOrder item)

theorem bindings_foldl_addOrder (items : List Sql.Fragment) (t : Translation) :
    (items.foldl addOrder t).bindings = t.bindings := by
  induction items generalizing t with
  | nil => rfl
  | cons item items ih => exact ih (t.addOrder item)

/-- The items of an order, with a comma between each two. -/
def orderOf : List Sql.Fragment → Option Sql.Fragment
  | [] => none
  | item :: items =>
    some (items.foldl (fun order item => order ++ Sql.Fragment.sql ", " ++ item) item)

theorem order_foldl_addOrder (items : List Sql.Fragment) {t : Translation}
    (h : t.order = none) : (items.foldl addOrder t).order = orderOf items := by
  have hsome : ∀ (items : List Sql.Fragment) (t : Translation) (order : Sql.Fragment),
      t.order = some order → (items.foldl addOrder t).order =
        some (items.foldl (fun order item => order ++ Sql.Fragment.sql ", " ++ item) order) := by
    intro items
    induction items with
    | nil => exact fun t order h => h
    | cons item items ih =>
      intro t order h
      refine ih (t.addOrder item) _ ?_
      rw [addOrder, h]
  cases items with
  | nil => exact h
  | cons item items =>
    refine hsome items (t.addOrder item) item ?_
    rw [addOrder, h]

theorem addPredicate_empty (p : Predicate) :
    (empty.addPredicate p).condition =
        (if p.condition.isAlways then none else some p.condition) ∧
      (empty.addPredicate p).bindings =
        (if p.condition.isAlways then [] else Dict.ofEntries p.bindings) ∧
      (empty.addPredicate p).order = none := by
  unfold addPredicate
  split
  · exact ⟨rfl, rfl, rfl⟩
  · exact ⟨rfl, rfl, rfl⟩

end Translation

namespace Translator

open Translation

/-- A translator for a dialect that takes every text for a regular expression.  To a request
whose patterns are regular expressions it is like any other. -/
def permissive (d : Dialect) : Translator := ofDialect (fun _ => true) d

variable {t : Translator} {c c' : Nat} {filter : Filter} {out : Translation}

/-- The empty filter compiles to a predicate that is left out, so it adds nothing either
way. -/
theorem run_translateFilter_eq_ok :
    (t.translateFilter filter).run c = (.ok out, c') ↔
      ∃ p, (filter.compile t.target).run c = (.ok p, c') ∧
        Translation.empty.addPredicate p = out := by
  unfold translateFilter
  split
  · next he =>
    have hall : filter = .all [] := by
      unfold Filter.isEverything at he
      split at he
      · rfl
      · exact absurd he (by simp)
    have hempty : Translation.empty.addPredicate (Predicate.conjoin []) = .empty :=
      if_pos (by decide)
    rw [hall]
    constructor
    · intro h
      obtain ⟨ho, rfl⟩ := Prod.mk.inj h
      exact ⟨Predicate.conjoin [], rfl, hempty.trans (Except.ok.inj ho)⟩
    · rintro ⟨p, hp, rfl⟩
      obtain ⟨hresult, rfl⟩ := Prod.mk.inj hp
      rw [← Except.ok.inj hresult, hempty]
      rfl
  · rw [Minting.bind_eq_andThen, Minting.run_andThen_eq_ok]
    constructor
    · rintro ⟨p, c₁, hp, hdone⟩
      obtain ⟨ho, rfl⟩ := Prod.mk.inj hdone
      exact ⟨p, hp, Except.ok.inj ho⟩
    · rintro ⟨p, hp, rfl⟩
      exact ⟨p, c', hp, rfl⟩

/-- The translation of a filter that has been read. -/
theorem translateRead_eq_ok {options : RequestOptions}
    (h : (t.translateRead filter options).run c = (.ok out, c')) :
    ∃ p keys, (filter.compile t.target).run c = (.ok p, c') ∧
      sortKeys options = .ok keys ∧
      out.condition = (if p.condition.isAlways then none else some p.condition) ∧
      out.bindings = (if p.condition.isAlways then [] else p.bindings) ∧
      out.order = orderOf (keys.map t.orderItem) := by
  obtain ⟨clauses, c₁, hclauses, h⟩ := Minting.run_andThen_eq_ok.mp h
  obtain ⟨keys, c₂, hkeys, h⟩ := Minting.run_andThen_eq_ok.mp h
  obtain ⟨projection, c₃, hprojection, h⟩ := Minting.run_andThen_eq_ok.mp h
  obtain ⟨hsorted, rfl⟩ := Prod.mk.inj hkeys
  obtain ⟨-, rfl⟩ := Prod.mk.inj hprojection
  obtain ⟨ho, rfl⟩ := Prod.mk.inj h
  obtain ⟨p, hp, rfl⟩ := run_translateFilter_eq_ok.mp hclauses
  obtain ⟨hcondition, hbindings, horder⟩ := addPredicate_empty p
  refine ⟨p, keys, hp, hsorted, ?_, ?_, ?_⟩
  · rw [← Except.ok.inj ho, ← hcondition]
    exact condition_foldl_addOrder _ _
  · have hnodup : p.bindings.keys.Nodup := by
      rw [(Filter.compile_fresh filter hp).1.keys_eq]
      exact Sql.nodup_parameterNames _ _
    rw [Dict.ofEntries_of_nodup hnodup] at hbindings
    rw [← Except.ok.inj ho, ← hbindings]
    exact bindings_foldl_addOrder _ _
  · rw [← Except.ok.inj ho]
    exact order_foldl_addOrder _ horder

theorem translate_eq_ok {r : Request} :
    (t.translate r).run c = (.ok out, c') ↔
      ∃ filter, t.readFilter r.filter = .ok filter ∧
        (t.translateRead filter r.options).run c = (.ok out, c') := by
  rw [translate, Minting.bind_eq_andThen, Minting.run_andThen_eq_ok]
  constructor
  · rintro ⟨filter, c₁, hread, h⟩
    obtain ⟨hfilter, rfl⟩ := Prod.mk.inj hread
    exact ⟨filter, hfilter, h⟩
  · rintro ⟨filter, hread, h⟩
    exact ⟨filter, c, by rw [Minting.run_ofExcept, hread], h⟩

end Translator
end DocFilter
