import DocFilter.Filter.Tree
import Mathlib.Data.List.Lex

/-!
# Where a condition stands in a filter

The place of a condition is the way down to it: which child to take at each node.  One
place is earlier than another when it turns off to an earlier child, so earlier places are
those that were written first.

`FirstFault` says what a check of everything a structure holds comes to: it passes when
every member does, and otherwise its fault is that of the earliest member with one.  A list
is checked in this way when its members are (`FirstFault.forM`), and so are the conditions
of a filter, however deep they stand (`Filter.firstFault_conditions`).
-/

namespace DocFilter

/-- One place is reached before another. -/
def Earlier (p q : List Nat) : Prop := List.Lex (· < ·) p q

namespace Earlier

theorem cons_iff {i j : Nat} {p q : List Nat} :
    Earlier (i :: p) (j :: q) ↔ i < j ∨ i = j ∧ Earlier p q := List.cons_lex_cons_iff

theorem not_nil (p : List Nat) : ¬ Earlier p [] := fun h => nomatch h

theorem lt_or_eq_or_gt (p q : List Nat) : Earlier p q ∨ p = q ∨ Earlier q p := by
  by_cases hpq : Earlier p q
  · exact .inl hpq
  by_cases hqp : Earlier q p
  · exact .inr (.inr hqp)
  exact .inr (.inl ((List.Lex.trichotomous (· < ·)).trichotomous p q hpq hqp))

end Earlier

/-! ## Checks that stop at the first fault -/

variable {α β ε : Type}

/-- The place begins with the position of a member, and goes on to something the member
holds. -/
inductive Among (held : α → List Nat → β → Prop) (xs : List α) : List Nat → β → Prop
  | intro {i : Nat} {x : α} {p : List Nat} {b : β} (hx : xs[i]? = some x) (hb : held x p b) :
      Among held xs (i :: p) b

namespace Among

variable {held : α → List Nat → β → Prop} {x : α} {xs : List α} {i : Nat} {p : List Nat} {b : β}

theorem cons_zero : Among held (x :: xs) (0 :: p) b ↔ held x p b := by
  constructor
  · rintro ⟨hx, hb⟩
    rwa [Option.some.inj hx]
  · exact fun h => ⟨rfl, h⟩

theorem cons_succ : Among held (x :: xs) ((i + 1) :: p) b ↔ Among held xs (i :: p) b := by
  constructor
  · rintro ⟨hx, hb⟩
    exact ⟨hx, hb⟩
  · rintro ⟨hx, hb⟩
    exact ⟨hx, hb⟩

end Among

/-- The outcome is that of checking all that is held: the fault of the earliest that has
one. -/
def FirstFault (held : List Nat → β → Prop) (check : β → Except ε Unit) :
    Except ε Unit → Prop
  | .ok _ => ∀ p b, held p b → check b = .ok ()
  | .error e => ∃ p b, held p b ∧ check b = .error e ∧
      ∀ q b', held q b' → Earlier q p → check b' = .ok ()

namespace FirstFault

variable {held : α → List Nat → β → Prop} {check : β → Except ε Unit} {x : α} {xs : List α}

theorem nil : FirstFault (Among held []) check (.ok ()) := by
  rintro p b ⟨hx, -⟩
  exact absurd hx (by simp)

/-- A list is checked by checking its first member and then the others. -/
theorem cons {r r' : Except ε Unit} (h : FirstFault (held x) check r)
    (h' : FirstFault (Among held xs) check r') :
    FirstFault (Among held (x :: xs)) check (r >>= fun _ => r') := by
  cases r with
  | error e =>
    obtain ⟨p, b, hb, he, hearlier⟩ := h
    refine ⟨0 :: p, b, Among.cons_zero.mpr hb, he, fun q b' hq hlt => ?_⟩
    cases q with
    | nil => exact nomatch hq
    | cons j q =>
      obtain hj | ⟨rfl, hqp⟩ := Earlier.cons_iff.mp hlt
      · exact absurd hj (Nat.not_lt_zero j)
      · exact hearlier q b' (Among.cons_zero.mp hq) hqp
  | ok _ =>
    cases r' with
    | ok _ =>
      intro p b hb
      cases p with
      | nil => exact nomatch hb
      | cons i p =>
        cases i with
        | zero => exact h p b (Among.cons_zero.mp hb)
        | succ i => exact h' (i :: p) b (Among.cons_succ.mp hb)
    | error e =>
      obtain ⟨p, b, hb, he, hearlier⟩ := h'
      cases p with
      | nil => exact nomatch hb
      | cons i p =>
        refine ⟨(i + 1) :: p, b, Among.cons_succ.mpr hb, he, fun q b' hq hlt => ?_⟩
        cases q with
        | nil => exact nomatch hq
        | cons j q =>
          cases j with
          | zero => exact h q b' (Among.cons_zero.mp hq)
          | succ j =>
            refine hearlier (j :: q) b' (Among.cons_succ.mp hq) ?_
            rw [Earlier.cons_iff] at hlt ⊢
            exact hlt.imp Nat.lt_of_succ_lt_succ (And.imp_left Nat.succ.inj)

/-- A list is checked member by member. -/
theorem forM (g : α → β) (xs : List α) :
    FirstFault (Among (fun x p b => p = [] ∧ b = g x) xs) check ((xs.map g).forM check) := by
  induction xs with
  | nil => exact nil
  | cons x xs ih =>
    refine cons ?_ ih
    cases hx : check (g x) with
    | ok _ =>
      rintro p b ⟨-, rfl⟩
      exact hx
    | error e =>
      exact ⟨[], g x, ⟨rfl, rfl⟩, hx, fun q b' _ hq => absurd hq (Earlier.not_nil q)⟩

/-- Where a place holds one thing only, the fault of the earliest that has one is the
outcome. -/
theorem eq_error {held : List Nat → β → Prop} {r : Except ε Unit}
    (h : FirstFault held check r) (hunique : ∀ p b b', held p b → held p b' → b = b')
    {p : List Nat} {b : β} {e : ε} (hb : held p b) (he : check b = .error e)
    (hearlier : ∀ q b', held q b' → Earlier q p → check b' = .ok ()) : r = .error e := by
  cases r with
  | ok _ => exact absurd ((h p b hb).symm.trans he) (by simp)
  | error e' =>
    obtain ⟨p', b', hb', he', hearlier'⟩ := h
    obtain hlt | rfl | hgt := Earlier.lt_or_eq_or_gt p p'
    · exact absurd ((hearlier' p b hb hlt).symm.trans he) (by simp)
    · rw [← hunique p b b' hb hb', he] at he'
      exact he'.symm
    · exact absurd ((hearlier p' b' hb' hgt).symm.trans he') (by simp)

/-- Where everything held passes, so does the check of all. -/
theorem eq_ok {held : List Nat → β → Prop} {r : Except ε Unit}
    (h : FirstFault held check r) (hall : ∀ p b, held p b → check b = .ok ()) : r = .ok () := by
  cases r with
  | ok _ => rfl
  | error e =>
    obtain ⟨p, b, hb, he, -⟩ := h
    exact absurd ((hall p b hb).symm.trans he) (by simp)

end FirstFault

/-! ## The conditions of a filter -/

namespace Filter

/-- The condition on this field stands at this place of the filter. -/
inductive Holds : Filter → List Nat → String × Condition → Prop
  | all {fs : List Filter} {i : Nat} {f : Filter} {p : List Nat} {b : String × Condition}
      (hf : fs[i]? = some f) (hb : f.Holds p b) : (Filter.all fs).Holds (i :: p) b
  | field {name : String} {cs : List Condition} {i : Nat} {c : Condition}
      (hc : cs[i]? = some c) : (Filter.field name cs).Holds [i] (name, c)
  | joined {op : Connective} {fs : List Filter} {i : Nat} {f : Filter} {p : List Nat}
      {b : String × Condition} (hf : fs[i]? = some f) (hb : f.Holds p b) :
      (Filter.joined op fs).Holds (i :: p) b

/-- One condition stands at a place. -/
theorem Holds.unique {f : Filter} {p : List Nat} {b b' : String × Condition}
    (h : f.Holds p b) (h' : f.Holds p b') : b = b' := by
  induction h with
  | all hf _ ih =>
    cases h' with
    | all hf' hb' => exact ih (Option.some.inj (hf.symm.trans hf') ▸ hb')
  | field hc =>
    cases h' with
    | field hc' => rw [Option.some.inj (hc.symm.trans hc')]
  | joined hf _ ih =>
    cases h' with
    | joined hf' hb' => exact ih (Option.some.inj (hf.symm.trans hf') ▸ hb')

theorem holds_all (fs : List Filter) : (Filter.all fs).Holds = Among Holds fs := by
  funext p b
  refine propext ⟨?_, ?_⟩
  · intro h
    cases h with
    | all hf hb => exact ⟨hf, hb⟩
  · rintro ⟨hf, hb⟩
    exact .all hf hb

theorem holds_joined (op : Connective) (fs : List Filter) :
    (Filter.joined op fs).Holds = Among Holds fs := by
  funext p b
  refine propext ⟨?_, ?_⟩
  · intro h
    cases h with
    | joined hf hb => exact ⟨hf, hb⟩
  · rintro ⟨hf, hb⟩
    exact .joined hf hb

theorem holds_field (name : String) (cs : List Condition) :
    (Filter.field name cs).Holds = Among (fun c p b => p = [] ∧ b = (name, c)) cs := by
  funext p b
  refine propext ⟨?_, ?_⟩
  · intro h
    cases h with
    | field hc => exact ⟨hc, rfl, rfl⟩
  · rintro ⟨hc, rfl, rfl⟩
    exact .field hc

mutual

/-- Checking the conditions of a filter stops at the first that fails, wherever it
stands. -/
theorem firstFault_conditions (check : String × Condition → Except ε Unit) :
    ∀ f : Filter, FirstFault f.Holds check (f.conditions.forM check)
  | .all fs => by
    rw [holds_all]
    exact firstFault_conditionsOfAll check fs
  | .field name cs => by
    rw [holds_field]
    exact FirstFault.forM (fun c => (name, c)) cs
  | .joined op fs => by
    rw [holds_joined]
    exact firstFault_conditionsOfAll check fs

/-- Checking the conditions of filters stops at the first that fails. -/
theorem firstFault_conditionsOfAll (check : String × Condition → Except ε Unit) :
    ∀ fs : List Filter, FirstFault (Among Holds fs) check ((conditionsOfAll fs).forM check)
  | [] => FirstFault.nil
  | f :: rest => by
    have happend : (conditionsOfAll (f :: rest)).forM check =
        f.conditions.forM check >>= fun _ => (conditionsOfAll rest).forM check :=
      List.forM_append
    rw [happend]
    exact .cons (firstFault_conditions check f) (firstFault_conditionsOfAll check rest)

end

end Filter
end DocFilter
