import DocFilter.Proofs.Course
import Mathlib.Data.List.Nodup

/-!
# Computations that share a counter

Several computations may ask for numbers at the same time, of one counter.  A question is
answered in one step that nothing comes between: the counter is raised, and the answer is
what it was raised to.  So all that can happen is that the computations take turns, in some
order or other (`Pool.play`).

Each computation then is where it would be if it had been given its numbers alone, and no
number is given twice (`Pool.Tracks`).  One turn preserves this (`Tracks.turn`), and so every
schedule of turns does (`Tracks.play`).
-/

namespace DocFilter

open Sql

/-! ## Answers one by one -/

namespace Minting

variable {α : Type}

/-- What is left of a computation after answers to its first questions. -/
def answer : Minting α → List Nat → Minting α
  | x, [] => x
  | .ask next, n :: ns => (next n).answer ns
  | .done outcome, _ :: _ => .done outcome

@[simp] theorem answer_nil (x : Minting α) : x.answer [] = x := by
  cases x <;> rfl

theorem answer_append (x : Minting α) (ms ns : List Nat) :
    x.answer (ms ++ ns) = (x.answer ms).answer ns := by
  induction ms generalizing x with
  | nil => rw [List.nil_append, answer_nil]
  | cons m ms ih =>
    cases x with
    | done outcome => cases ns <;> rfl
    | ask next => exact ih (next m)

/-- Names that have all been asked for are there. -/
theorem answer_names {fields : List String} (k : List String → Minting α) {ms : List Nat}
    (h : ms.length = fields.length) :
    ((names fields).andThen k).answer ms = k (List.zipWith parameterName fields ms) := by
  induction fields generalizing k ms with
  | nil =>
    rw [List.eq_nil_of_length_eq_zero h, answer_nil]
    rfl
  | cons field fields ih =>
    obtain ⟨m, ms, rfl⟩ := List.exists_cons_of_length_eq_add_one h
    change (((names fields).andThen _).andThen k).answer ms = _
    rw [andThen_assoc]
    exact ih _ (Nat.succ.inj h)

/-- Names are asked for until all are there. -/
theorem exists_answer_names {fields : List String} (k : List String → Minting α) {ms : List Nat}
    (h : ms.length < fields.length) :
    ∃ next, ((names fields).andThen k).answer ms = .ask next := by
  induction fields generalizing k ms with
  | nil => exact absurd h (Nat.not_lt_zero _)
  | cons field fields ih =>
    cases ms with
    | nil => exact ⟨_, answer_nil _⟩
    | cons m ms =>
      change ∃ next, (((names fields).andThen _).andThen k).answer ms = .ask next
      rw [andThen_assoc]
      exact ih _ (Nat.lt_of_succ_lt_succ h)

/-- A computation that has been given all the numbers of its course is done. -/
theorem answer_follow {course : Course} (made : List String → α) {ms : List Nat}
    (h : ms.length = course.fields.length) :
    (follow course made).answer ms =
      .done (course.verdict (made (List.zipWith parameterName course.fields ms))) :=
  answer_names _ h

/-- A computation that has not been given all the numbers of its course asks for one. -/
theorem exists_answer_follow {course : Course} (made : List String → α) {ms : List Nat}
    (h : ms.length < course.fields.length) :
    ∃ next, (follow course made).answer ms = .ask next := exists_answer_names _ h

end Minting

/-! ## Taking turns -/

/-- Computations under way: the counter they share, and for each of them what is left of it
and the numbers it has been given, in order. -/
structure Pool (ι α : Type) where
  counter : Nat
  left : ι → Minting α
  given : ι → List Nat

namespace Pool

variable {ι α : Type} [DecidableEq ι]

/-- The computations before their first questions. -/
def start (counter : Nat) (jobs : ι → Minting α) : Pool ι α := ⟨counter, jobs, fun _ => []⟩

/-- The turn of one computation: if it asks, the counter is raised and answers. -/
def turn (p : Pool ι α) (i : ι) : Pool ι α :=
  match p.left i with
  | .done _ => p
  | .ask next =>
    ⟨p.counter + 1, Function.update p.left i (next (p.counter + 1)),
      Function.update p.given i (p.given i ++ [p.counter + 1])⟩

/-- The turns of a schedule, one after the other. -/
def play (p : Pool ι α) (schedule : List ι) : Pool ι α := schedule.foldl turn p

theorem turn_of_done {p : Pool ι α} {i : ι} {outcome : Except QueryError α}
    (h : p.left i = .done outcome) : p.turn i = p := by
  unfold turn
  rw [h]

theorem turn_of_ask {p : Pool ι α} {i : ι} {next : Nat → Minting α} (h : p.left i = .ask next) :
    p.turn i = ⟨p.counter + 1, Function.update p.left i (next (p.counter + 1)),
      Function.update p.given i (p.given i ++ [p.counter + 1])⟩ := by
  unfold turn
  rw [h]

/-- A computation is where its own numbers have brought it, has asked for every one of them,
and was given none twice; all of them are counts of the counter. -/
structure Served (job : Minting α) (c counter : Nat) (left : Minting α) (given : List Nat) :
    Prop where
  left_eq : left = job.answer given
  asked : ∀ k < given.length, ∃ next, job.answer (given.take k) = .ask next
  bounds : ∀ n ∈ given, c < n ∧ n ≤ counter
  nodup : given.Nodup

/-- All computations of the pool are served, and no two were given the same number. -/
structure Tracks (jobs : ι → Minting α) (c : Nat) (p : Pool ι α) : Prop where
  le_counter : c ≤ p.counter
  served : ∀ i, Served (jobs i) c p.counter (p.left i) (p.given i)
  disjoint : ∀ i j, i ≠ j → (p.given i).Disjoint (p.given j)

variable {jobs : ι → Minting α} {c : Nat} {p : Pool ι α}

/-- A computation is not touched by the questions of others. -/
theorem Served.raise {job left : Minting α} {counter : Nat} {given : List Nat}
    (h : Served job c counter left given) : Served job c (counter + 1) left given :=
  { h with bounds := fun n hn => ⟨(h.bounds n hn).1, Nat.le_succ_of_le (h.bounds n hn).2⟩ }

/-- The answer to a question is a number that was not given before. -/
theorem Served.ask {job : Minting α} {counter : Nat} {next : Nat → Minting α} {given : List Nat}
    (h : Served job c counter (.ask next) given) (hc : c ≤ counter) :
    Served job c (counter + 1) (next (counter + 1)) (given ++ [counter + 1]) := by
  refine ⟨?_, fun k hk => ?_, fun n hn => ?_, ?_⟩
  · rw [Minting.answer_append, ← h.left_eq]
    exact (Minting.answer_nil _).symm
  · rw [List.length_append, List.length_singleton] at hk
    rw [List.take_append_of_le_length (Nat.le_of_lt_succ hk)]
    rcases Nat.lt_succ_iff_lt_or_eq.mp hk with hk | rfl
    · exact h.asked k hk
    · rw [List.take_length]
      exact ⟨next, h.left_eq.symm⟩
  · rcases List.mem_append.mp hn with hn | hn
    · exact h.raise.bounds n hn
    · rw [List.mem_singleton.mp hn]
      omega
  · refine List.nodup_append.mpr ⟨h.nodup, List.nodup_singleton _, fun m hm n hn => ?_⟩
    have hle := (h.bounds m hm).2
    rw [List.mem_singleton.mp hn]
    omega

omit [DecidableEq ι] in
theorem tracks_start (c : Nat) (jobs : ι → Minting α) : Tracks jobs c (start c jobs) where
  le_counter := Nat.le_refl c
  served i := ⟨(Minting.answer_nil (jobs i)).symm, fun k hk => absurd hk (Nat.not_lt_zero k),
    fun _ hn => absurd hn List.not_mem_nil, List.nodup_nil⟩
  disjoint _ _ _ := List.disjoint_nil_left _

/-- One turn preserves what is known of the pool. -/
theorem Tracks.turn (h : Tracks jobs c p) (i : ι) : Tracks jobs c (p.turn i) := by
  cases hleft : p.left i with
  | done outcome =>
    rw [turn_of_done hleft]
    exact h
  | ask next =>
    have hserved := h.served i
    rw [hleft] at hserved
    have hnew (j : ι) : (p.given j).Disjoint [p.counter + 1] := by
      rw [List.disjoint_singleton]
      intro hmem
      have := ((h.served j).bounds _ hmem).2
      omega
    rw [turn_of_ask hleft]
    refine ⟨Nat.le_succ_of_le h.le_counter, fun j => ?_, fun j j' hj => ?_⟩
    · by_cases hji : j = i
      · subst hji
        simp only [Function.update_self]
        exact hserved.ask h.le_counter
      · simp only [Function.update_of_ne hji]
        exact (h.served j).raise
    · by_cases hji : j = i
      · subst hji
        simp only [Function.update_self, Function.update_of_ne hj.symm]
        exact List.disjoint_append_left.mpr ⟨h.disjoint j j' hj, fun n hn hn' => hnew j' hn' hn⟩
      · by_cases hji' : j' = i
        · subst hji'
          simp only [Function.update_self, Function.update_of_ne hji]
          exact List.disjoint_append_right.mpr ⟨h.disjoint j j' hj, hnew j⟩
        · simp only [Function.update_of_ne hji, Function.update_of_ne hji']
          exact h.disjoint j j' hj

/-- Every schedule of turns preserves what is known of the pool. -/
theorem Tracks.play (h : Tracks jobs c p) (schedule : List ι) :
    Tracks jobs c (p.play schedule) := by
  induction schedule generalizing p with
  | nil => exact h
  | cons i schedule ih => exact ih (h.turn i)

/-! ## Computations that follow a course -/

section Follow

variable {course : Course} {made : List String → α} {counter : Nat} {left : Minting α}
  {given : List Nat}

/-- A computation is never given more numbers than its course has fields. -/
theorem Served.length_le (h : Served (Minting.follow course made) c counter left given) :
    given.length ≤ course.fields.length := by
  by_contra hlt
  obtain ⟨next, hask⟩ := h.asked course.fields.length (Nat.lt_of_not_le hlt)
  have hlength : (given.take course.fields.length).length = course.fields.length := by
    rw [List.length_take]
    omega
  rw [Minting.answer_follow made hlength] at hask
  exact absurd hask (by simp)

/-- A computation is done when it has been given a number for each field of its course, and
not before; what it ends in is said by the course and the names. -/
theorem Served.done_iff (h : Served (Minting.follow course made) c counter left given)
    (outcome : Except QueryError α) :
    left = .done outcome ↔ given.length = course.fields.length ∧
      outcome = course.verdict (made (List.zipWith parameterName course.fields given)) := by
  rw [h.left_eq]
  rcases Nat.lt_or_eq_of_le h.length_le with hlt | heq
  · obtain ⟨next, hask⟩ := Minting.exists_answer_follow made hlt
    rw [hask]
    constructor
    · exact fun hdone => absurd hdone (by simp)
    · exact fun hlength => absurd hlength.1 (Nat.ne_of_lt hlt)
  · rw [Minting.answer_follow made heq, Minting.done.injEq]
    exact ⟨fun ho => ⟨heq, ho.symm⟩, fun ho => ho.2.symm⟩

end Follow

end Pool
end DocFilter
