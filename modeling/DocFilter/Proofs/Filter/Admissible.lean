import DocFilter.Proofs.Filter.Course
import Mathlib.Tactic.MkIffOfInductiveProp

/-!
# Conditions that can be compiled

Whether a condition is compiled is decided by the condition, its field, the layout and the
library that reads patterns (`Condition.course_fault_eq_none_iff`): its operand is one for its
operator, the identity is held equal to a scalar, the elements of a list are scalars, a pattern
is a regular expression to the library, and its options are letters that are known
(`Condition.Admissible`).  Whatever a condition is refused for is a fault of a value on its
field (`Condition.course_blames`).
-/

namespace DocFilter

theorem Json.isScalar_iff {v : Json} :
    v.isScalar = true ↔ v.type ≠ .null ∧ v.isStructured = false := by
  cases v <;> simp [isScalar, type, isStructured]

/-! ## Courses that blame one field -/

namespace Course

/-- Every refusal of the course is a fault of a value on the field. -/
def Blames (field : String) (course : Course) : Prop :=
  ∀ e, course.fault = some e → ∃ operator fault, e = .value operator field fault

variable {field : String} {a b : Course}

theorem blames_of_fault_eq_none (h : a.fault = none) : a.Blames field :=
  fun _ he => absurd (h.symm.trans he) (by simp)

theorem blames_stop (operator field : String) (fault : ValueFault) :
    (stop (.value operator field fault)).Blames field :=
  fun _ he => ⟨operator, fault, (Option.some.inj he).symm⟩

theorem Blames.andThen (ha : a.Blames field) (hb : b.Blames field) :
    (a.andThen b).Blames field := by
  intro e he
  rw [andThen_fault] at he
  cases h : a.fault with
  | none =>
    rw [h, Option.none_or] at he
    exact hb e he
  | some e' =>
    rw [h, Option.some_or] at he
    exact ha e (h.trans he)

end Course

/-! ## Conditions -/

namespace Condition

/-- The condition can be compiled on the field. -/
@[mk_iff]
structure Admissible (isPattern : String → Bool) (l : Layout) (field : String)
    (c : Condition) : Prop where
  /-- Its operand is one for its operator. -/
  operand : c.operator.accepts c.operand = true
  /-- The identity is held equal to scalars only. -/
  identity : field = l.identityField → c.operator = .equal ∨ c.operator = .notEqual →
    c.operand.isScalar = true
  /-- A list holds scalars only. -/
  elements : c.operator = .among ∨ c.operator = .notAmong →
    ∀ vs, c.operand = .array vs → ∀ v ∈ vs, v.isScalar = true
  /-- A pattern is a regular expression. -/
  pattern : c.operator = .matching → ∀ text, c.operand = .string text → isPattern text = true
  /-- Options are letters that are known. -/
  flags : ∀ letters, c.options = some letters →
    ∀ letter ∈ letters.toList, letter ∈ ['i', 'm', 's', 'x']

variable {isPattern : String → Bool} {l : Layout} {field : String}

theorem elementsCourse_fault_eq_none_iff {comparison : Comparison} {vs : List Json} :
    (elementsCourse comparison field vs).fault = none ↔ ∀ v ∈ vs, v.isScalar = true := by
  induction vs with
  | nil => exact ⟨fun _ v hv => absurd hv List.not_mem_nil, fun _ => rfl⟩
  | cons v rest ih =>
    rw [elementsCourse, List.forall_mem_cons]
    split
    · next hv =>
      rw [Course.andThen_fault_eq_none, ih]
      exact and_congr_left fun _ => ⟨fun _ => hv, fun _ => rfl⟩
    · next hv => exact ⟨fun h => absurd h (by simp [Course.stop]), fun h => absurd h.1 hv⟩

theorem elementsCourse_blames (comparison : Comparison) (vs : List Json) :
    (elementsCourse comparison field vs).Blames field := by
  induction vs with
  | nil => exact Course.blames_of_fault_eq_none rfl
  | cons v rest ih =>
    rw [elementsCourse]
    split
    · exact .andThen (Course.blames_of_fault_eq_none rfl) ih
    · exact Course.blames_stop _ _ _

theorem equalityCourse_fault_eq_none_iff {negated : Bool} {v : Json} :
    (equalityCourse l field negated v).fault = none ↔
      (field = l.identityField → v.isStructured = false) := by
  rw [equalityCourse, Course.andThen_fault_eq_none, Layout.isIdentity_locate, Layout.isIdentity]
  by_cases hfield : field = l.identityField <;> cases v.isStructured <;>
    simp [hfield, Course.ask, Course.stop, Course.done]

theorem equalityCourse_blames (negated : Bool) (v : Json) :
    (equalityCourse l field negated v).Blames field := by
  refine .andThen (Course.blames_of_fault_eq_none rfl) ?_
  split
  · exact Course.blames_stop _ _ _
  · exact Course.blames_of_fault_eq_none rfl

theorem readFrom_fault_eq_none_iff {options : PatternOptions} {letters : List Char} :
    (Course.ofExcept (PatternOptions.readFrom field options letters)).fault = none ↔
      ∀ letter ∈ letters, letter ∈ ['i', 'm', 's', 'x'] := by
  induction letters generalizing options with
  | nil => exact ⟨fun _ v hv => absurd hv List.not_mem_nil, fun _ => rfl⟩
  | cons letter rest ih =>
    rw [PatternOptions.readFrom, List.forall_mem_cons]
    split
    · next hi => simp [ih, hi]
    · split
      · next hi hother => simp [ih, hother]
      · next hi hother => simp [hi, hother, Course.ofExcept, Course.stop]

theorem readFrom_blames (options : PatternOptions) (letters : List Char) :
    (Course.ofExcept (PatternOptions.readFrom field options letters)).Blames field := by
  induction letters generalizing options with
  | nil => exact Course.blames_of_fault_eq_none rfl
  | cons letter rest ih =>
    rw [PatternOptions.readFrom]
    split
    · exact ih _
    · split
      · exact ih _
      · exact Course.blames_stop _ _ _

theorem readOptions_fault_eq_none_iff {c : Condition} :
    (Course.ofExcept (c.readOptions field)).fault = none ↔ ∀ letters, c.options = some letters →
      ∀ letter ∈ letters.toList, letter ∈ ['i', 'm', 's', 'x'] := by
  obtain ⟨operator, operand, options⟩ := c
  cases options with
  | none => exact ⟨fun _ letters h => absurd h (by simp), fun _ => rfl⟩
  | some letters =>
    have hread : (Course.ofExcept (PatternOptions.read field letters)).fault = none ↔
        ∀ letter ∈ letters.toList, letter ∈ ['i', 'm', 's', 'x'] := readFrom_fault_eq_none_iff
    exact hread.trans (by simp)

theorem readOptions_blames (c : Condition) :
    (Course.ofExcept (c.readOptions field)).Blames field := by
  unfold readOptions
  split
  · exact Course.blames_of_fault_eq_none rfl
  · exact readFrom_blames _ _

theorem patternCourse_fault_eq_none_iff {pattern : String} :
    (patternCourse isPattern field pattern).fault = none ↔ isPattern pattern = true := by
  unfold patternCourse
  split
  · next h => exact ⟨fun _ => h, fun _ => rfl⟩
  · next h => exact ⟨fun hfault => absurd hfault (by simp [Course.stop]), fun h' => absurd h' h⟩

theorem patternCourse_blames (pattern : String) :
    (patternCourse isPattern field pattern).Blames field := by
  unfold patternCourse
  split
  · exact Course.blames_of_fault_eq_none rfl
  · exact Course.blames_stop _ _ _

/-- A condition with options on patterns only is without a fault exactly if it is
admissible. -/
theorem course_fault_eq_none_iff {c : Condition}
    (hoptions : c.options.isSome = true → c.operator = .matching) :
    (c.course isPattern l field).fault = none ↔ c.Admissible isPattern l field := by
  have hnone (h : c.operator ≠ .matching) : c.options = none :=
    Option.not_isSome_iff_eq_none.mp (mt hoptions h)
  obtain ⟨operator, operand, options⟩ := c
  rw [admissible_iff, course]
  cases haccepts : operator.accepts operand with
  | false => simp [Course.stop]
  | true =>
    rw [if_pos rfl]
    cases operator with
    | equal | notEqual =>
      obtain rfl : options = none := hnone (by simp)
      have hnull : operand.type ≠ .null := bne_iff_ne.mp haccepts
      simp [equalityCourse_fault_eq_none_iff, Json.isScalar_iff, hnull]
    | greater | greaterEqual | less | lessEqual | present | ofType =>
      obtain rfl : options = none := hnone (by simp)
      simp [Course.ask, Course.done]
    | among | notAmong =>
      obtain rfl : options = none := hnone (by simp)
      cases operand with
      | array elements => simp [elementsCourse_fault_eq_none_iff]
      | _ => exact absurd haccepts Bool.false_ne_true
    | matching =>
      cases operand with
      | string pattern =>
        simp [Course.andThen_fault_eq_none, readOptions_fault_eq_none_iff,
          patternCourse_fault_eq_none_iff, and_comm]
      | _ => exact absurd haccepts Bool.false_ne_true

/-- Whatever a condition is refused for is a fault of a value on its field. -/
theorem course_blames (isPattern : String → Bool) (l : Layout) (field : String)
    (c : Condition) : (c.course isPattern l field).Blames field := by
  unfold course
  split
  · split
    · exact equalityCourse_blames _ _
    · exact equalityCourse_blames _ _
    · exact elementsCourse_blames _ _
    · exact elementsCourse_blames _ _
    · exact (readOptions_blames c).andThen (patternCourse_blames _)
    all_goals exact Course.blames_of_fault_eq_none rfl
  · exact Course.blames_stop _ _ _

end Condition

end DocFilter
