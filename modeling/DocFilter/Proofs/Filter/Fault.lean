import DocFilter.Proofs.Filter.Admissible
import DocFilter.Proofs.Filter.Shape

/-!
# Why a filter is refused

Faults come in two stages.  Reading a document refuses it for its shape and for its operators,
and what it lets through has the shape of `Filter.Shaped`.  Such a filter is compiled exactly
if each of its conditions is admissible.  Otherwise the first condition that is not, in the
order of the document, is what the filter is refused for, as a fault of a value on its field
(`Filter.staged_of_read`).
-/

namespace DocFilter
namespace Filter

variable {isPattern : String → Bool} {l : Layout}

theorem conditionsOfAll_eq_flatMap (fs : List Filter) :
    conditionsOfAll fs = fs.flatMap conditions := by
  induction fs with
  | nil => rfl
  | cons f rest ih => rw [conditionsOfAll, ih, List.flatMap_cons]

theorem Shaped.options {f : Filter} (h : f.Shaped) :
    ∀ b ∈ f.conditions, b.2.options.isSome = true → b.2.operator = .matching := by
  induction h with
  | all _ _ ih =>
    rw [conditions, conditionsOfAll_eq_flatMap]
    intro b hb
    obtain ⟨f, hf, hb⟩ := List.mem_flatMap.mp hb
    exact ih f hf b hb
  | field _ _ hoptions =>
    rw [conditions]
    intro b hb
    obtain ⟨c, hc, rfl⟩ := List.mem_map.mp hb
    exact hoptions c hc
  | joined _ _ ih =>
    rw [conditions, conditionsOfAll_eq_flatMap]
    intro b hb
    obtain ⟨f, hf, hb⟩ := List.mem_flatMap.mp hb
    exact ih f hf b hb

/-- The fault of a condition on its field. -/
def faultOf (isPattern : String → Bool) (l : Layout) (b : String × Condition) :
    Option QueryError :=
  (b.2.course isPattern l b.1).fault

theorem fault_conditions (name : String) (cs : List Condition) :
    (Condition.courseAll isPattern l name cs).fault =
      (cs.map fun c => (name, c)).findSome? (faultOf isPattern l) := by
  induction cs with
  | nil => rfl
  | cons c rest ih =>
    rw [Condition.courseAll, Course.andThen_fault, ih, List.map_cons, List.findSome?_cons]
    cases h : (c.course isPattern l name).fault <;> simp [faultOf, h]

theorem fault_conditionsOfAll {fs : List Filter}
    (h : ∀ f ∈ fs, (f.course isPattern l).fault = f.conditions.findSome? (faultOf isPattern l)) :
    (courseAll isPattern l fs).fault = (conditionsOfAll fs).findSome? (faultOf isPattern l) := by
  induction fs with
  | nil => rfl
  | cons f rest ih =>
    obtain ⟨hf, hrest⟩ := List.forall_mem_cons.mp h
    rw [courseAll, Course.andThen_fault, hf, ih hrest, conditionsOfAll, List.findSome?_append]

/-- Joining the parts of a filter that was read adds no fault to theirs. -/
theorem Shaped.fault_course {f : Filter} (h : f.Shaped) :
    (f.course isPattern l).fault = f.conditions.findSome? (faultOf isPattern l) := by
  induction h with
  | all _ _ ih => exact fault_conditionsOfAll ih
  | field _ _ _ => exact fault_conditions _ _
  | @joined op fs harity _ ih =>
    have hjoin : (Predicate.joinCourse op fs.length).fault = none := by
      rw [Predicate.joinCourse, if_neg fun h => h.2 (harity h.1)]
      rfl
    rw [course, Course.andThen_fault, hjoin, Option.or_none, conditions]
    exact fault_conditionsOfAll ih

theorem faultOf_eq_none_iff {f : Filter} (h : f.Shaped) {b : String × Condition}
    (hb : b ∈ f.conditions) : faultOf isPattern l b = none ↔ b.2.Admissible isPattern l b.1 :=
  Condition.course_fault_eq_none_iff (h.options b hb)

/-- The first condition of the filter, in the order of the document, that cannot be compiled. -/
def Offends (t : Target) (f : Filter) (name : String) (c : Condition) : Prop :=
  ∃ before after, f.conditions = before ++ (name, c) :: after ∧
    (∀ b ∈ before, b.2.Admissible t.isPattern t.layout b.1) ∧
    ¬ c.Admissible t.isPattern t.layout name

/-- How a value that was read as a filter is compiled. -/
structure Staged (t : Target) (value : Json) (f : Filter) (counter : Nat) : Prop where
  /-- What reading lets through has the shape that compiling relies on. -/
  shaped : f.Shaped
  /-- The conditions stand in the order of the document. -/
  order : f.conditions.map statement = statedBehind value
  /-- The filter is compiled exactly if each of its conditions is admissible. -/
  compiles_iff : (∃ p counter', (f.compile t).run counter = (.ok p, counter')) ↔
    ∀ b ∈ f.conditions, b.2.Admissible t.isPattern t.layout b.1
  /-- Otherwise it is refused for the first condition that is not, as a fault of a value on its
  field, and for nothing else. -/
  refused : ∀ e counter', (f.compile t).run counter = (.error e, counter') →
    ∃ name c, f.Offends t name c ∧ e.kind = .invalidFilterValue ∧ e.field = some name ∧
      ∃ operator fault, e = .value operator name fault

theorem exists_offends_of_fault {t : Target} {f : Filter} (h : f.Shaped) {e : QueryError}
    (he : f.conditions.findSome? (faultOf t.isPattern t.layout) = some e) :
    ∃ name c, f.Offends t name c ∧ ∃ operator fault, e = .value operator name fault := by
  obtain ⟨before, ⟨name, c⟩, after, hsplit, hfault, hbefore⟩ := List.findSome?_eq_some_iff.mp he
  have hmem : (name, c) ∈ f.conditions := hsplit ▸ List.mem_append_right _ List.mem_cons_self
  refine ⟨name, c, ⟨before, after, hsplit, fun b hb => ?_, fun hadmissible => ?_⟩,
    Condition.course_blames _ _ name c e hfault⟩
  · exact (faultOf_eq_none_iff h (hsplit ▸ List.mem_append_left _ hb)).mp (hbefore b hb)
  · have hnone := (faultOf_eq_none_iff h hmem).mpr hadmissible
    exact absurd (hnone.symm.trans hfault) (by simp)

/-- A filter that was read is compiled exactly if all of its conditions are admissible, and
otherwise it is refused for the first that is not. -/
theorem staged_of_read {limit : Nat} {value : Json} {f : Filter} (h : read limit value = .ok f)
    (t : Target) (counter : Nat) : Staged t value f counter := by
  have hshaped := shaped_of_read h
  have hrun := Minting.run_follow (f.course t.isPattern t.layout) (f.predicate t) counter
  rw [← compile_eq_follow, Course.verdict, hshaped.fault_course] at hrun
  have hnone : f.conditions.findSome? (faultOf t.isPattern t.layout) = none ↔
      ∀ b ∈ f.conditions, b.2.Admissible t.isPattern t.layout b.1 := by
    rw [List.findSome?_eq_none_iff]
    exact forall₂_congr fun b hb => faultOf_eq_none_iff hshaped hb
  refine ⟨hshaped, stated_of_read h, ?_, ?_⟩
  · rw [hrun, ← hnone]
    split
    · next hfault => exact ⟨fun _ => hfault, fun _ => ⟨_, _, rfl⟩⟩
    · next e hfault =>
      constructor
      · rintro ⟨p, counter', heq⟩
        exact absurd (Prod.mk.inj heq).1 (by simp)
      · exact fun hfault' => absurd (hfault'.symm.trans hfault) (by simp)
  · intro e counter' he
    rw [hrun] at he
    split at he
    · exact absurd (Prod.mk.inj he).1 (by simp)
    · next e' hfault =>
      obtain rfl : e' = e := Except.error.inj (Prod.mk.inj he).1
      obtain ⟨name, c, hoffends, operator, fault, rfl⟩ := exists_offends_of_fault hshaped hfault
      exact ⟨name, c, hoffends, rfl, rfl, operator, fault, rfl⟩

/-- Conditions that cannot be compiled, under a negation and beside it: the filter is refused
for the one that was written first.  The pattern in front of them is a regular expression, and
the one behind them, with a group left open, is none. -/
theorem staged_of_read_negated :
    let value : Json := .object [("$not", .object [("c", .object [("$regex", .string "^x")]),
        ("a", .object [("$in", .array [.null])])]),
      ("b", .object [("$gt", .string "x"), ("$regex", .string "(x")])]
    let t : Target := ⟨.mySql, .standard, fun pattern => pattern != "(x"⟩
    ∃ f, read 2 value = .ok f ∧ Staged t value f 0 ∧
      ((f.compile t).run 0).1 = .error (.value "$in" "a" (.elementNotScalar .null)) ∧
      ¬ (⟨.matching, .string "(x", none⟩ : Condition).Admissible t.isPattern t.layout "b" := by
  intro value t
  have hread : read 2 value = .ok _ := rfl
  refine ⟨_, hread, staged_of_read hread t 0, rfl, fun hadmissible => ?_⟩
  exact absurd (hadmissible.pattern rfl "(x" rfl) (by decide)

end Filter
end DocFilter
