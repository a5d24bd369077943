import DocFilter.Proofs.Filter.Binding
import DocFilter.Proofs.Filter.Vacuous
import DocFilter.Proofs.Query.Translator

/-!
# A translation follows a course

The translation of a request follows a course as the compilation of its filter does: first
the filter is read, then the names are asked for, then the order and the projection are
read (`Translator.course`).  What is made of the names is a translation whose clauses are
known (`Translator.made`), and `translate` is the two together
(`Translator.translate_eq_follow`).

A request whose course has no fault is `Admitted`: everything in it could be read.
-/

namespace DocFilter
namespace Translator

open Sql Translation

/-- The translation of a compiled filter, with an order, a page and a projection. -/
def assemble (t : Translator) (options : RequestOptions) (keys : List SortKey)
    (projection : Option Projection) (p : Predicate) : Translation :=
  { (keys.map t.orderItem).foldl addOrder (Translation.empty.addPredicate p) with
    limit := t.effectiveLimit options.limit
    offset := Translator.asked options.skip
    projection := projection }

/-- The course of a request. -/
def course (t : Translator) (r : Request) : Course :=
  match t.readFilter r.filter with
  | .ok filter =>
    (filter.course t.isPattern t.layout).andThen
      ((Course.ofExcept (sortKeys r.options)).andThen
        (Course.ofExcept (t.readProjection r.options.projection)))
  | .error e => .stop e

/-- The translation of a request that can be read, with these names for its parameters. -/
def made (t : Translator) (r : Request) (names : List String) : Translation :=
  match t.readFilter r.filter, sortKeys r.options, t.readProjection r.options.projection with
  | .ok filter, .ok keys, .ok projection =>
    t.assemble r.options keys projection (filter.predicate t.target names)
  | _, _, _ => .empty

variable {t : Translator} {r : Request} {filter : Filter} {keys : List SortKey}
  {projection : Option Projection}

theorem addPredicate_compile (t : Translator) (filter : Filter) :
    t.translateFilter filter =
      Minting.follow (filter.course t.isPattern t.layout) fun ns =>
        Translation.empty.addPredicate (filter.predicate t.target ns) := by
  unfold translateFilter
  split
  · next he =>
    have hall : filter = .all [] := by
      unfold Filter.isEverything at he
      split at he
      · rfl
      · exact absurd he (by simp)
    rw [hall]
    rfl
  · rw [Filter.compile_eq_follow]
    exact Minting.follow_map _ _ _

/-- The empty filter is compiled like any other. -/
theorem translateFilter_eq_andThen (t : Translator) (filter : Filter) :
    t.translateFilter filter = (filter.compile t.target).andThen fun p =>
      Minting.result (Translation.empty.addPredicate p) := by
  rw [addPredicate_compile, Filter.compile_eq_follow]
  exact (Minting.follow_map _ _ _).symm

/-- Filters that compile to the same are translated to the same. -/
theorem translateRead_congr {filter' : Filter}
    (h : filter'.compile t.target = filter.compile t.target) (options : RequestOptions) :
    t.translateRead filter' options = t.translateRead filter options := by
  rw [translateRead, translateRead, translateFilter_eq_andThen, translateFilter_eq_andThen, h]

/-- A request is translated along its course. -/
theorem translate_eq_follow (t : Translator) (r : Request) :
    t.translate r = Minting.follow (t.course r) (t.made r) := by
  unfold translate course made
  cases t.readFilter r.filter with
  | error e => rfl
  | ok filter =>
    change t.translateRead filter r.options = _
    unfold translateRead
    rw [addPredicate_compile]
    have hrefuse (e : QueryError) : ((Minting.follow (filter.course t.isPattern t.layout) fun ns =>
          Translation.empty.addPredicate (filter.predicate t.target ns)).andThen
        fun _ => Minting.refuse e) =
        Minting.follow ((filter.course t.isPattern t.layout).andThen (.stop e)) fun _ =>
          Translation.empty :=
      Minting.follow_andThen _ (.stop e) _ fun _ _ => Translation.empty
    cases sortKeys r.options with
    | error e => exact hrefuse e
    | ok keys =>
      cases t.readProjection r.options.projection with
      | error e => exact hrefuse e
      | ok projection =>
        dsimp only [Course.ofExcept]
        rw [Course.done_andThen, Course.andThen_done]
        exact Minting.follow_map _ _ _

/-- The run of a translation: it spends a number for each field of the course, and its
outcome is the verdict of the course. -/
theorem run_translate (t : Translator) (r : Request) (c : Nat) :
    (t.translate r).run c =
      ((t.course r).verdict (t.made r (parameterNames c (t.course r).fields)),
        c + (t.course r).fields.length) := by
  rw [translate_eq_follow, Minting.run_follow]

/-! ## Requests without a fault -/

/-- Everything in the request can be read, and no condition of its filter is refused. -/
structure Admitted (t : Translator) (r : Request) (filter : Filter) (keys : List SortKey)
    (projection : Option Projection) : Prop where
  filter_eq : t.readFilter r.filter = .ok filter
  sound : (filter.course t.isPattern t.layout).fault = none
  keys_eq : sortKeys r.options = .ok keys
  projection_eq : t.readProjection r.options.projection = .ok projection

theorem exists_admitted (h : (t.course r).fault = none) :
    ∃ filter keys projection, t.Admitted r filter keys projection := by
  unfold course at h
  cases hfilter : t.readFilter r.filter with
  | error e =>
    rw [hfilter] at h
    exact absurd h (by simp [Course.stop])
  | ok filter =>
    rw [hfilter] at h
    obtain ⟨hsound, hrest⟩ := Course.andThen_fault_eq_none.mp h
    obtain ⟨hkeys, hprojection⟩ := Course.andThen_fault_eq_none.mp hrest
    obtain ⟨keys, hkeys⟩ := Course.ofExcept_fault_eq_none.mp hkeys
    obtain ⟨projection, hprojection⟩ := Course.ofExcept_fault_eq_none.mp hprojection
    exact ⟨filter, keys, projection, hfilter, hsound, hkeys, hprojection⟩

namespace Admitted

variable (h : t.Admitted r filter keys projection)
include h

/-- The course of an admitted request asks for the fields of the parameters of its filter. -/
theorem fields_eq : (t.course r).fields = filter.binders := by
  unfold course
  rw [h.filter_eq, h.keys_eq, h.projection_eq]
  dsimp only [Course.ofExcept]
  rw [Course.done_andThen, Course.andThen_done]
  exact Filter.fields_course filter h.sound

theorem made_eq (ns : List String) :
    t.made r ns = t.assemble r.options keys projection (filter.predicate t.target ns) := by
  unfold made
  rw [h.filter_eq, h.keys_eq, h.projection_eq]

end Admitted

/-- A translation that is not refused is made of an admitted request. -/
theorem exists_of_translate {c c' : Nat} {out : Translation}
    (h : (t.translate r).run c = (.ok out, c')) :
    ∃ filter keys projection, t.Admitted r filter keys projection ∧
      out = t.assemble r.options keys projection
        (filter.predicate t.target (parameterNames c filter.binders)) ∧
      c' = c + filter.binders.length := by
  rw [run_translate] at h
  obtain ⟨hverdict, hc⟩ := Prod.mk.inj h
  obtain ⟨hfault, hmade⟩ := Course.verdict_eq_ok.mp hverdict
  obtain ⟨filter, keys, projection, hadmitted⟩ := exists_admitted hfault
  refine ⟨filter, keys, projection, hadmitted, ?_, ?_⟩
  · rw [← hmade, hadmitted.made_eq, hadmitted.fields_eq]
  · rw [← hc, hadmitted.fields_eq]

/-! ## The clauses of a translation -/

section Assemble

variable (t : Translator) (options : RequestOptions) (keys : List SortKey)
  (projection : Option Projection) (p : Predicate)

theorem condition_assemble :
    (t.assemble options keys projection p).condition =
      if p.condition.isAlways then none else some p.condition :=
  (condition_foldl_addOrder _ _).trans (addPredicate_empty p).1

/-- No value is lost: the names are bound to the values of the filter, in order, also where
its condition is left out. -/
theorem bindings_assemble {filter : Filter} {ns : List String} (hn : ns.Nodup)
    (hl : ns.length = filter.binders.length) :
    (t.assemble options keys projection (filter.predicate t.target ns)).bindings =
      ns.zip (filter.values t.dialect t.layout) := by
  have hpredicate : (filter.predicate t.target ns).bindings =
      ns.zip (filter.values t.dialect t.layout) := Filter.bindings_predicate filter hn hl
  have hkeys : (filter.predicate t.target ns).bindings.keys = ns := by
    rw [hpredicate]
    exact Dict.keys_zip (hl.trans (filter.length_values _ _).symm)
  refine (bindings_foldl_addOrder _ _).trans ((addPredicate_empty _).2.1.trans ?_)
  split
  · next halways =>
    rw [Filter.isAlways_predicate filter hl] at halways
    rw [Filter.binders_of_isVacuous halways] at hl
    rw [List.eq_nil_of_length_eq_zero hl]
    rfl
  · rw [Dict.ofEntries_of_nodup (by rw [hkeys]; exact hn)]
    exact hpredicate

theorem keys_assemble {filter : Filter} {ns : List String} (hn : ns.Nodup)
    (hl : ns.length = filter.binders.length) :
    (t.assemble options keys projection (filter.predicate t.target ns)).bindings.keys = ns := by
  rw [bindings_assemble t options keys projection hn hl]
  exact Dict.keys_zip (hl.trans (filter.length_values _ _).symm)

theorem values_assemble {filter : Filter} {ns : List String} (hn : ns.Nodup)
    (hl : ns.length = filter.binders.length) :
    (t.assemble options keys projection (filter.predicate t.target ns)).bindings.values =
      filter.values t.dialect t.layout := by
  rw [bindings_assemble t options keys projection hn hl]
  exact Dict.values_zip (hl.trans (filter.length_values _ _).symm)

theorem order_assemble :
    (t.assemble options keys projection p).order =
      Translation.orderOf (keys.map t.orderItem) :=
  order_foldl_addOrder _ (addPredicate_empty p).2.2

end Assemble

end Translator
end DocFilter
