import Mathlib.Data.List.Forall2

/-!
# Lists, and outcomes for all their members

General facts about lists that proofs about several parts of the library need.

* Members that are related one by one to those of another list, where the relation leads to
  one (`exists_forall₂`) and what it says of the members (`forall_of_forall₂`).
* Lists that are cut, split, filtered or zipped, and put together again.
* Outcomes: a computation goes through for all members of a list exactly if it does for each
  (`mapM_eq_ok_iff`, `forM_eq_ok_iff`), and otherwise fails at one (`exists_of_forM_eq_error`).
-/

namespace DocFilter

variable {α β ε : Type}

/-! ## Members related one by one -/

section Related

variable {R S : α → β → Prop} {xs : List α} {ys : List β}

theorem exists_forall₂ (h : ∀ x ∈ xs, ∃ y, R x y) : ∃ ys, List.Forall₂ R xs ys := by
  induction xs with
  | nil => exact ⟨[], .nil⟩
  | cons x xs ih =>
    obtain ⟨⟨y, hy⟩, hrest⟩ := List.forall_mem_cons.mp h
    obtain ⟨ys, hys⟩ := ih hrest
    exact ⟨y :: ys, .cons hy hys⟩

theorem exists_of_forall₂ (h : List.Forall₂ R xs ys) : ∀ x ∈ xs, ∃ y, R x y := by
  induction h with
  | nil => exact fun x hx => absurd hx (by simp)
  | cons hxy _ ih => exact List.forall_mem_cons.mpr ⟨⟨_, hxy⟩, ih⟩

/-- Elements that are paired stay so where being paired says more of each of them. -/
theorem forall₂_imp_of_mem (h : List.Forall₂ R xs ys)
    (himp : ∀ x ∈ xs, ∀ y, R x y → S x y) : List.Forall₂ S xs ys :=
  ((List.forall₂_and_left xs ys).mpr ⟨himp, h⟩).imp fun _ y hxy => hxy.1 y hxy.2

/-- What follows from being paired with some element holds of all that are paired. -/
theorem forall_of_forall₂ (h : List.Forall₂ R xs ys) {P : β → Prop}
    (hP : ∀ x ∈ xs, ∀ y, R x y → P y) : ∀ y ∈ ys, P y := by
  induction h with
  | nil => exact fun y hy => absurd hy List.not_mem_nil
  | cons hxy _ ih =>
    obtain ⟨hx, hxs⟩ := List.forall_mem_cons.mp hP
    exact List.forall_mem_cons.mpr ⟨hx _ hxy, ih hxs⟩

end Related

/-! ## Parts of a list -/

theorem dropWhile_of_head? {p : α → Bool} {xs : List α} (h : ∀ x ∈ xs.head?, p x = false) :
    xs.dropWhile p = xs := by
  cases xs with
  | nil => rfl
  | cons x xs => rw [List.dropWhile_cons_of_neg (by simp [h x rfl])]

/-- What stands behind the last separator is the same in both. -/
theorem eq_of_append_cons_eq {a b x y : List α} {c : α} (hx : c ∉ x) (hy : c ∉ y)
    (h : a ++ c :: x = b ++ c :: y) : x = y := by
  rcases List.append_eq_append_iff.mp h with ⟨m, -, hm⟩ | ⟨m, -, hm⟩
  · cases m with
    | nil => exact (List.cons.inj hm).2
    | cons d m =>
      refine absurd ?_ hx
      rw [(List.cons.inj hm).2]
      exact List.mem_append_right _ List.mem_cons_self
  · cases m with
    | nil => exact (List.cons.inj hm).2.symm
    | cons d m =>
      refine absurd ?_ hy
      rw [(List.cons.inj hm).2]
      exact List.mem_append_right _ List.mem_cons_self

/-- Lists with the same separator between each two, apart again. -/
theorem splitOnP_flatMap {p : α → Bool} {sep : α} (hsep : p sep = true)
    (first : List α) (rest : List (List α))
    (h : ∀ xs ∈ first :: rest, ∀ x ∈ xs, p x = false) :
    (first ++ rest.flatMap (sep :: ·)).splitOnP p = first :: rest := by
  induction rest generalizing first with
  | nil =>
    rw [List.flatMap_nil, List.append_nil]
    exact List.splitOnP_eq_singleton (h first List.mem_cons_self)
  | cons next rest ih =>
    rw [List.flatMap_cons, List.cons_append,
      List.splitOnP_append_cons_of_forall_mem (h first List.mem_cons_self) sep hsep,
      ih next fun xs hxs => h xs (List.mem_cons_of_mem _ hxs)]

theorem filterMap_filter_of_none {p : α → Bool} {f : α → Option β}
    (h : ∀ a, p a = false → f a = none) (xs : List α) :
    (xs.filter p).filterMap f = xs.filterMap f := by
  rw [List.filterMap_filter]
  refine List.filterMap_congr fun a _ => ?_
  split
  · rfl
  · next hp => exact (h a (Bool.eq_false_iff.mpr hp)).symm

/-- Keys and values that are zipped in two parts are zipped as a whole. -/
theorem zip_take_append_zip_drop {ks : List α} {n : Nat} (hn : n ≤ ks.length) {vs ws : List β}
    (hvs : vs.length = n) :
    (ks.take n).zip vs ++ (ks.drop n).zip ws = ks.zip (vs ++ ws) := by
  rw [← List.zip_append (by rw [List.length_take, hvs, Nat.min_eq_left hn]),
    List.take_append_drop]

/-! ## Outcomes -/

section Outcome

variable {x : Except ε α} {xs : List α}

theorem bind_eq_ok {f : α → Except ε β} {b : β} :
    x >>= f = .ok b ↔ ∃ a, x = .ok a ∧ f a = .ok b := by
  cases x <;> simp [bind, Except.bind]

theorem map_eq_ok {f : α → β} {b : β} : x.map f = .ok b ↔ ∃ a, x = .ok a ∧ f a = b := by
  cases x <;> simp [Except.map]

theorem map_eq_error {f : α → β} {e : ε} : x.map f = .error e ↔ x = .error e := by
  cases x <;> simp [Except.map]

/-- All members have results, one by one. -/
theorem mapM_eq_ok_iff {f : α → Except ε β} {ys : List β} :
    xs.mapM f = .ok ys ↔ List.Forall₂ (fun x y => f x = .ok y) xs ys := by
  induction xs generalizing ys with
  | nil =>
    rw [List.mapM_nil, List.forall₂_nil_left_iff]
    exact ⟨fun h => (Except.ok.inj h).symm, fun h => congrArg Except.ok h.symm⟩
  | cons x xs ih =>
    rw [List.mapM_cons, List.forall₂_cons_left_iff, bind_eq_ok]
    constructor
    · rintro ⟨y, hy, hrest⟩
      obtain ⟨ys', hys, hcons⟩ := bind_eq_ok.mp hrest
      exact ⟨y, ys', hy, ih.mp hys, (Except.ok.inj hcons).symm⟩
    · rintro ⟨y, ys', hy, hys, rfl⟩
      exact ⟨y, hy, bind_eq_ok.mpr ⟨ys', ih.mpr hys, rfl⟩⟩

theorem mapM_eq_some {f : α → Option β} {ys : List β}
    (h : List.Forall₂ (fun x y => f x = some y) xs ys) : xs.mapM f = some ys := by
  induction h with
  | nil => rfl
  | cons h _ ih =>
    rw [List.mapM_cons, h, ih]
    rfl

/-- A check of a list goes through where it does for all its members. -/
theorem forM_eq_ok_iff {f : α → Except ε Unit} :
    xs.forM f = .ok () ↔ ∀ a ∈ xs, f a = .ok () := by
  induction xs with
  | nil => exact ⟨fun _ a ha => absurd ha List.not_mem_nil, fun _ => rfl⟩
  | cons a xs ih =>
    rw [List.forM_eq_forM, List.forM_cons, bind_eq_ok, List.forall_mem_cons, ← ih]
    exact ⟨fun ⟨_, ha, hxs⟩ => ⟨ha, hxs⟩, fun ⟨ha, hxs⟩ => ⟨(), ha, hxs⟩⟩

/-- A check of a list fails at one of its members. -/
theorem exists_of_forM_eq_error {f : α → Except ε Unit} {e : ε} (h : xs.forM f = .error e) :
    ∃ a ∈ xs, f a = .error e := by
  induction xs with
  | nil => exact absurd h (by simp [pure, Except.pure])
  | cons a xs ih =>
    rw [List.forM_eq_forM, List.forM_cons] at h
    cases ha : f a with
    | error e' =>
      rw [ha] at h
      exact ⟨a, List.mem_cons_self, ha.trans h⟩
    | ok _ =>
      rw [ha] at h
      obtain ⟨b, hb, he⟩ := ih h
      exact ⟨b, List.mem_cons_of_mem _ hb, he⟩

end Outcome

end DocFilter
