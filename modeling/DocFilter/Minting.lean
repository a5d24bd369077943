import DocFilter.Error

/-!
# Numbers for parameters

Every parameter carries a number that no other parameter has, whatever fields they
are bound for.  A computation that binds parameters therefore asks for numbers as it
goes, and it keeps what it was given: a computation that fails has used up the
numbers it asked for before.

## Asking, and being answered

`Minting` is the computation as a conversation: it is done, with a result or a
refusal, or it asks for a number and goes on with the answer.  Who answers is left
open.  `run` answers from a counter; several computations that share one counter are
the same conversations with their questions interleaved.
-/

namespace DocFilter

/-- A computation that may ask for fresh numbers, and may be refused. -/
inductive Minting (α : Type) where
  | done (outcome : Except QueryError α)
  | ask (next : Nat → Minting α)

namespace Minting

variable {α β : Type}

/-- A result without a question. -/
def result (a : α) : Minting α := .done (.ok a)

/-- A refusal without a question. -/
def refuse (e : QueryError) : Minting α := .done (.error e)

/-- Ask for a number. -/
def fresh : Minting Nat := .ask result

/-- A computation that ends in a result goes on with it. -/
def andThen (x : Minting α) (f : α → Minting β) : Minting β :=
  match x with
  | .done (.ok a) => f a
  | .done (.error e) => .done (.error e)
  | .ask next => .ask fun n => (next n).andThen f

/-- An outcome that needs no number. -/
def ofExcept (outcome : Except QueryError α) : Minting α := .done outcome

instance : Monad Minting where
  pure := result
  bind := andThen

/-- Answer every question with the next number after a counter: the outcome, and
the counter afterwards. -/
def run : Minting α → Nat → Except QueryError α × Nat
  | .done outcome, counter => (outcome, counter)
  | .ask next, counter => (next (counter + 1)).run (counter + 1)

@[simp] theorem pure_eq_result (a : α) : (pure a : Minting α) = result a := rfl

@[simp] theorem bind_eq_andThen (x : Minting α) (f : α → Minting β) :
    x >>= f = x.andThen f := rfl

@[simp] theorem run_result (a : α) (counter : Nat) : (result a).run counter = (.ok a, counter) :=
  rfl

@[simp] theorem run_refuse (e : QueryError) (counter : Nat) :
    (refuse e : Minting α).run counter = (.error e, counter) := rfl

@[simp] theorem run_fresh (counter : Nat) : fresh.run counter = (.ok (counter + 1), counter + 1) :=
  rfl

/-- Running one computation after another hands the counter on, also past a
refusal. -/
theorem run_andThen (x : Minting α) (f : α → Minting β) (counter : Nat) :
    (x.andThen f).run counter =
      match x.run counter with
      | (.ok a, counter) => (f a).run counter
      | (.error e, counter) => (.error e, counter) := by
  induction x generalizing counter with
  | done outcome => cases outcome <;> rfl
  | ask next ih => exact ih (counter + 1) (counter + 1)

/-- A computation whose result goes on as it is. -/
theorem andThen_result (x : Minting α) : x.andThen result = x := by
  induction x with
  | done outcome => cases outcome <;> rfl
  | ask next ih => exact congrArg ask (funext ih)

/-- Going on twice is going on once with both steps. -/
theorem andThen_assoc {γ : Type} (x : Minting α) (f : α → Minting β) (g : β → Minting γ) :
    (x.andThen f).andThen g = x.andThen fun a => (f a).andThen g := by
  induction x with
  | done outcome => cases outcome <;> rfl
  | ask next ih => exact congrArg ask (funext ih)

instance : LawfulMonad Minting :=
  LawfulMonad.mk' Minting (fun x => andThen_result x) (fun _ _ => rfl) andThen_assoc

end Minting
end DocFilter
