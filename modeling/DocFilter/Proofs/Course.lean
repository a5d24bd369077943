import DocFilter.Proofs.Minting
import DocFilter.Proofs.Sql.Name

/-!
# Questions that do not depend on the answers

A computation that asks for numbers could ask for more or fewer of them, or be refused, by
what it was answered before.  The computations here never do: the fields they ask names
for, and the refusal they end in, can be said in advance.  That is their `Course`, and
`Minting.follow` is the computation with a course that makes something of the names.

Computations that follow a course are closed under taking one step after another
(`follow_andThen`), so a compiler is brought into this form step by step.  What is known of
the course then holds of every run, whoever answers: a run from a counter spends as many
numbers as there are fields, also when it is refused (`run_follow`).
-/

namespace DocFilter

open Sql

/-- The fields that a computation asks names for, in order, and the refusal it ends in, if
it is refused. -/
structure Course where
  fields : List String
  fault : Option QueryError

namespace Course

variable {α : Type}

/-- Nothing asked, and nothing refused. -/
def done : Course := ⟨[], none⟩

/-- One name for a field. -/
def ask (field : String) : Course := ⟨[field], none⟩

/-- A refusal. -/
def stop (e : QueryError) : Course := ⟨[], some e⟩

/-- One course after the other; a refusal ends both. -/
def andThen (a b : Course) : Course :=
  match a.fault with
  | none => ⟨a.fields ++ b.fields, b.fault⟩
  | some _ => a

/-- The course of an outcome that needs no name. -/
def ofExcept : Except QueryError α → Course
  | .ok _ => done
  | .error e => stop e

/-- A result at the end of the course, unless the course ends in a refusal. -/
def verdict (course : Course) (a : α) : Except QueryError α :=
  match course.fault with
  | none => .ok a
  | some e => .error e

theorem andThen_of_fault_eq_none {a : Course} (h : a.fault = none) (b : Course) :
    a.andThen b = ⟨a.fields ++ b.fields, b.fault⟩ := by
  unfold andThen
  rw [h]

theorem andThen_of_fault_eq_some {a : Course} {e : QueryError} (h : a.fault = some e)
    (b : Course) : a.andThen b = a := by
  unfold andThen
  rw [h]

@[simp] theorem done_andThen (a : Course) : done.andThen a = a := rfl

@[simp] theorem andThen_done (a : Course) : a.andThen done = a := by
  cases h : a.fault with
  | none =>
    rw [andThen_of_fault_eq_none h, done, List.append_nil, ← h]
  | some e => exact andThen_of_fault_eq_some h done

/-- A course of two parts is free of faults when both parts are, and asks for the fields of
both. -/
theorem andThen_fault_eq_none {a b : Course} :
    (a.andThen b).fault = none ↔ a.fault = none ∧ b.fault = none := by
  cases h : a.fault with
  | none => simp [andThen_of_fault_eq_none h]
  | some e => simp [andThen_of_fault_eq_some h, h]

/-- The fault of two parts is that of the first part that has one. -/
theorem andThen_fault (a b : Course) : (a.andThen b).fault = a.fault.or b.fault := by
  cases h : a.fault with
  | none => rw [andThen_of_fault_eq_none h, Option.none_or]
  | some e => rw [andThen_of_fault_eq_some h, h, Option.some_or]

/-- An outcome that is no refusal adds nothing to a course. -/
theorem ofExcept_andThen {x : Except QueryError α} {a : Course}
    (h : ((ofExcept x).andThen a).fault = none) : (ofExcept x).andThen a = a := by
  cases x with
  | ok _ => rfl
  | error e => exact absurd h (by simp [ofExcept, stop, andThen])

theorem ofExcept_fault_eq_none {x : Except QueryError α} :
    (ofExcept x).fault = none ↔ ∃ a, x = .ok a := by
  cases x with
  | ok a => simp [ofExcept, done]
  | error e => simp [ofExcept, stop]

theorem verdict_eq_ok {course : Course} {a b : α} :
    course.verdict a = .ok b ↔ course.fault = none ∧ a = b := by
  unfold verdict
  cases course.fault with
  | none => simp
  | some e => simp

end Course

namespace Minting

variable {α β γ : Type}

/-- A fresh name for each field, in order. -/
def names : List String → Minting (List String)
  | [] => result []
  | field :: fields =>
    fresh.andThen fun n =>
      (names fields).andThen fun ns => result (parameterName field n :: ns)

/-- The computation that asks for the names of a course, and makes something of them unless
the course ends in a refusal. -/
def follow (course : Course) (made : List String → α) : Minting α :=
  (names course.fields).andThen fun ns => ofExcept (course.verdict (made ns))

/-! ## Names -/

theorem names_append (fs gs : List String) :
    names (fs ++ gs) =
      (names fs).andThen fun ns => (names gs).andThen fun ms => result (ns ++ ms) := by
  induction fs with
  | nil => exact (andThen_result (names gs)).symm
  | cons f fs ih =>
    rw [List.cons_append, names, names, andThen_assoc]
    refine congrArg ask (funext fun n => ?_)
    change (names (fs ++ gs)).andThen _ = ((names fs).andThen _).andThen _
    rw [ih, andThen_assoc, andThen_assoc]
    refine congrArg _ (funext fun ns => ?_)
    rw [andThen_assoc]
    rfl

/-- What follows only matters for as many names as there are fields. -/
theorem names_andThen_congr {fields : List String} {f g : List String → Minting α}
    (h : ∀ ns, ns.length = fields.length → f ns = g ns) :
    (names fields).andThen f = (names fields).andThen g := by
  induction fields generalizing f g with
  | nil => exact h [] rfl
  | cons field fields ih =>
    refine congrArg ask (funext fun n => ?_)
    change ((names fields).andThen _).andThen f = ((names fields).andThen _).andThen g
    rw [andThen_assoc, andThen_assoc]
    refine ih fun ns hns => h _ ?_
    rw [List.length_cons, List.length_cons, hns]

theorem run_names (fields : List String) (counter : Nat) :
    (names fields).run counter =
      (.ok (parameterNames counter fields), counter + fields.length) := by
  induction fields generalizing counter with
  | nil => rfl
  | cons field fields ih =>
    rw [names, run_andThen_of_ok (run_fresh counter), run_andThen_of_ok (ih (counter + 1)),
      List.length_cons, Nat.add_right_comm, Nat.add_assoc]
    rfl

/-! ## Following a course -/

theorem follow_congr {course : Course} {f g : List String → α}
    (h : course.fault = none → ∀ ns, ns.length = course.fields.length → f ns = g ns) :
    follow course f = follow course g := by
  refine names_andThen_congr fun ns hns => ?_
  unfold Course.verdict
  cases hfault : course.fault with
  | none => rw [h hfault ns hns]
  | some e => rfl

/-- Following one course after the other is following both; the names are shared out in
order. -/
theorem follow_andThen (a b : Course) (f : List String → α) (g : α → List String → β) :
    (follow a f).andThen (fun x => follow b (g x)) =
      follow (a.andThen b) fun ns =>
        g (f (ns.take a.fields.length)) (ns.drop a.fields.length) := by
  rw [follow, andThen_assoc]
  cases h : a.fault with
  | some e =>
    rw [Course.andThen_of_fault_eq_some h, follow]
    refine congrArg _ (funext fun ns => ?_)
    rw [Course.verdict, Course.verdict, h]
    rfl
  | none =>
    have hverdict (x : α) : a.verdict x = .ok x := by rw [Course.verdict, h]
    rw [Course.andThen_of_fault_eq_none h, follow, names_append, andThen_assoc]
    refine names_andThen_congr fun ns hns => ?_
    rw [hverdict, andThen_assoc]
    change (names b.fields).andThen _ = (names b.fields).andThen _
    refine congrArg _ (funext fun ms => ?_)
    change ofExcept _ = ofExcept _
    rw [List.take_left' hns, List.drop_left' hns]
    rfl

/-- Following a course, and putting the result into another form. -/
theorem follow_map (a : Course) (f : List String → α) (g : α → β) :
    ((follow a f).andThen fun x => result (g x)) = follow a fun ns => g (f ns) := by
  rw [follow, andThen_assoc]
  refine congrArg _ (funext fun ns => ?_)
  unfold Course.verdict
  cases a.fault with
  | none => rfl
  | some e => rfl

/-- Following a course, and holding the result against a condition whose verdict is known in
advance. -/
theorem follow_check (a b : Course) (f : List String → α) {g : α → Except QueryError β}
    (g' : α → β) (hb : b.fields = []) (hg : ∀ ns, g (f ns) = b.verdict (g' (f ns))) :
    ((follow a f).andThen fun x => ofExcept (g x)) =
      follow (a.andThen b) fun ns => g' (f ns) := by
  have hfields : (a.andThen b).fields = a.fields := by
    unfold Course.andThen
    split
    · exact (congrArg (a.fields ++ ·) hb).trans (List.append_nil _)
    · rfl
  rw [follow, follow, andThen_assoc, hfields]
  refine congrArg _ (funext fun ns => ?_)
  cases h : a.fault with
  | none =>
    rw [Course.andThen_of_fault_eq_none h, Course.verdict, h]
    exact congrArg ofExcept (hg ns)
  | some e =>
    rw [Course.andThen_of_fault_eq_some h, Course.verdict, Course.verdict, h]
    rfl

/-- Following two courses for the members of a list, the first member and the others. -/
theorem follow_cons (a b : Course) (f : List String → α) (g : List String → List α) :
    ((follow a f).andThen fun x => (follow b g).andThen fun xs => result (x :: xs)) =
      follow (a.andThen b) fun ns =>
        f (ns.take a.fields.length) :: g (ns.drop a.fields.length) := by
  have htail (x : α) : ((follow b g).andThen fun xs => result (x :: xs)) =
      follow b fun ns => x :: g ns := follow_map b g (x :: ·)
  rw [funext htail]
  exact follow_andThen a b f fun x ns => x :: g ns

/-- A run along a course spends a number for each field, also when it ends in a refusal. -/
theorem run_follow (course : Course) (made : List String → α) (counter : Nat) :
    (follow course made).run counter =
      (course.verdict (made (parameterNames counter course.fields)),
        counter + course.fields.length) := by
  rw [follow, run_andThen_of_ok (run_names course.fields counter), run_ofExcept]

end Minting
end DocFilter
