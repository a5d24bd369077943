import DocFilter.Minting

/-!
# Runs that end in a result

A computation in steps ends in a result exactly when each of its steps does, the next one
from the counter that the last one left.
-/

namespace DocFilter
namespace Minting

variable {α β : Type}

@[simp] theorem run_ofExcept (outcome : Except QueryError α) (counter : Nat) :
    (ofExcept outcome).run counter = (outcome, counter) := rfl

theorem run_andThen_eq_ok {x : Minting α} {f : α → Minting β} {c c'' : Nat} {b : β} :
    (x.andThen f).run c = (.ok b, c'') ↔
      ∃ a c', x.run c = (.ok a, c') ∧ (f a).run c' = (.ok b, c'') := by
  rw [run_andThen]
  constructor
  · intro h
    split at h
    · next a c' hx => exact ⟨a, c', hx, h⟩
    · next e c' hx => exact absurd (Prod.mk.inj h).1 (by simp)
  · rintro ⟨a, c', hx, hf⟩
    rw [hx]
    exact hf

/-- A run that can be seen to end in a result has one. -/
theorem exists_run_eq_ok {x : Minting α} {c : Nat} (h : (x.run c).1.isOk = true) :
    ∃ a c', x.run c = (.ok a, c') := by
  generalize x.run c = result at h ⊢
  obtain ⟨outcome, c'⟩ := result
  cases outcome with
  | ok a => exact ⟨a, c', rfl⟩
  | error e => exact absurd h Bool.false_ne_true

/-- A step whose result is only put into another form. -/
theorem exists_of_run_map {x : Minting α} {f : α → β} {c c' : Nat} {b : β}
    (h : (x.andThen fun a => result (f a)).run c = (.ok b, c')) :
    ∃ a, x.run c = (.ok a, c') ∧ f a = b := by
  obtain ⟨a, c₁, hx, hdone⟩ := run_andThen_eq_ok.mp h
  obtain ⟨hb, rfl⟩ := Prod.mk.inj hdone
  exact ⟨a, hx, Except.ok.inj hb⟩

/-- A step whose result is only held against a condition. -/
theorem exists_of_run_check {x : Minting α} {f : α → Except QueryError β} {c c' : Nat} {b : β}
    (h : (x.andThen fun a => ofExcept (f a)).run c = (.ok b, c')) :
    ∃ a, x.run c = (.ok a, c') ∧ f a = .ok b := by
  obtain ⟨a, c₁, hx, hdone⟩ := run_andThen_eq_ok.mp h
  obtain ⟨hb, rfl⟩ := Prod.mk.inj hdone
  exact ⟨a, hx, hb⟩

/-- A step for the first member of a list, and then the others. -/
theorem exists_of_run_cons {x : Minting α} {xs : Minting (List α)} {c c' : Nat} {as : List α}
    (h : (x.andThen fun a => xs.andThen fun as => result (a :: as)).run c = (.ok as, c')) :
    ∃ a as' c₁, x.run c = (.ok a, c₁) ∧ xs.run c₁ = (.ok as', c') ∧ a :: as' = as := by
  obtain ⟨a, c₁, hx, hrest⟩ := run_andThen_eq_ok.mp h
  obtain ⟨as', hxs, has⟩ := exists_of_run_map hrest
  exact ⟨a, as', c₁, hx, hxs, has⟩

/-- What a step leaves to the next one. -/
theorem run_andThen_of_ok {x : Minting α} {f : α → Minting β} {c c' : Nat} {a : α}
    (h : x.run c = (.ok a, c')) : (x.andThen f).run c = (f a).run c' := by
  rw [run_andThen, h]

end Minting
end DocFilter
