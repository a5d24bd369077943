import DocFilter.Proofs.Filter.Entry

/-!
# What the nesting limit decides

The limit stops the reading of a document that goes too deep, and does nothing else
(`Filter.withinLimits_of_le`): a document that is read under one limit is read as the same
filter under every greater one, and what a smaller limit does to it, if anything, is to refuse
it for its depth.

The limit counts maps, while the depth of a filter counts the nodes of the tree.  A map that
is read makes at most two nodes on the way down, a connective and the map of its own entries,
so a filter is at most twice as deep as the limit.
-/

namespace DocFilter

/-! ## Outcomes that only one fault keeps from a result -/

/-- Where the second outcome is a result, the first is the same result or this fault. -/
def FailsOnlyBy {ε α : Type} (e : ε) (x x' : Except ε α) : Prop :=
  ∀ a, x' = .ok a → x = .ok a ∨ x = .error e

namespace FailsOnlyBy

variable {ε α β : Type} {e : ε} {x x' : Except ε α}

theorem refl (x : Except ε α) : FailsOnlyBy e x x := fun _ h => .inl h

theorem bind (h : FailsOnlyBy e x x') {f f' : α → Except ε β}
    (hf : ∀ a, FailsOnlyBy e (f a) (f' a)) : FailsOnlyBy e (x >>= f) (x' >>= f') := by
  intro b hb
  obtain ⟨a, ha, hfa⟩ := bind_eq_ok.mp hb
  obtain rfl | rfl := h a ha
  · exact hf a b hfa
  · exact .inr rfl

theorem map (h : FailsOnlyBy e x x') (f : α → β) : FailsOnlyBy e (x.map f) (x'.map f) := by
  intro b hb
  obtain ⟨a, ha, rfl⟩ := map_eq_ok.mp hb
  obtain rfl | rfl := h a ha
  · exact .inl rfl
  · exact .inr rfl

theorem mapM {xs : List α} {f f' : α → Except ε β}
    (h : ∀ x ∈ xs, FailsOnlyBy e (f x) (f' x)) : FailsOnlyBy e (xs.mapM f) (xs.mapM f') := by
  induction xs with
  | nil => exact refl _
  | cons x xs ih =>
    obtain ⟨hx, hxs⟩ := List.forall_mem_cons.mp h
    rw [List.mapM_cons, List.mapM_cons]
    exact hx.bind fun _ => (ih hxs).bind fun _ => refl _

end FailsOnlyBy

namespace Filter

variable {limit limit' depth : Nat} {entries : Dict String Json} {f : Filter}

/-! ## One fault only -/

/-- A connective that has what it is applied to reads the maps one by one. -/
theorem readOperand_of_operands {op : Connective} {value : Json} {maps : List (Dict String Json)}
    (h : Operands op value maps) :
    readOperand limit depth op value = maps.mapM (readAt limit (depth + 1)) := by
  cases h with
  | negated entries =>
    unfold readOperand
    rw [if_pos rfl, List.mapM_cons, List.mapM_nil]
    rfl
  | listed hop maps =>
    unfold readOperand
    rw [if_neg hop]
    induction maps with
    | nil =>
      unfold readItems
      rfl
    | cons entries maps ih =>
      rw [List.map_cons, List.mapM_cons]
      unfold readItems
      rw [ih]
      rfl

/-- Only its depth keeps a map from being read that another limit admits. -/
theorem readAt_failsOnlyBy (entries : Dict String Json) :
    FailsOnlyBy (.shape (.tooDeep limit)) (readAt limit depth entries)
      (readAt limit' depth entries) := by
  induction entries using map_induction generalizing depth with
  | step entries ih =>
    have hentry : ∀ e ∈ entries, FailsOnlyBy (.shape (.tooDeep limit)) (readEntry limit depth e)
        (readEntry limit' depth e) := by
      rintro ⟨key, value⟩ he
      unfold readEntry
      split
      · next hkey =>
        intro f hf
        obtain ⟨op, hop, hrest⟩ := bind_eq_ok.mp hf
        obtain ⟨gs, hgs, -⟩ := bind_eq_ok.mp hrest
        obtain ⟨maps, hvalue, -⟩ := readOperand_eq_ok_iff.mp hgs
        have hmaps : FailsOnlyBy (.shape (.tooDeep limit)) (readOperand limit depth op value)
            (readOperand limit' depth op value) := by
          rw [readOperand_of_operands hvalue, readOperand_of_operands hvalue]
          exact .mapM fun inner hinner => ih (key, value) he inner
            (.intro hkey (readConnective_eq_ok_iff.mp hop) hvalue hinner)
        rw [hop] at hf ⊢
        exact (hmaps.bind fun _ => .refl _) f hf
      · exact .refl _
    intro f hf
    unfold readAt withinDepth at hf ⊢
    split
    · exact .inr rfl
    · split at hf
      · exact absurd hf (by simp)
      · rw [readEntries_eq_mapM] at hf ⊢
        exact (FailsOnlyBy.mapM hentry).map _ f hf

/-! ## Depth -/

theorem depthOfAll_le {fs : List Filter} {n : Nat} (h : ∀ f ∈ fs, f.depth ≤ n) :
    depthOfAll fs ≤ n := by
  induction fs with
  | nil => exact Nat.zero_le n
  | cons f rest ih =>
    obtain ⟨hf, hrest⟩ := List.forall_mem_cons.mp h
    unfold depthOfAll
    exact Nat.max_le.mpr ⟨hf, ih hrest⟩

/-- The map of the filters adds one level to the deepest of them, or none. -/
theorem depth_ofEntries_le {fs : List Filter} {n : Nat} (h : ∀ f ∈ fs, f.depth ≤ n) :
    (ofEntries fs).depth ≤ n + 1 := by
  match fs with
  | [f] => exact Nat.le_succ_of_le (h f List.mem_cons_self)
  | [] => exact Nat.le_add_left 1 n
  | f :: g :: rest =>
    have hdepth : (ofEntries (f :: g :: rest)).depth = 1 + depthOfAll (f :: g :: rest) := rfl
    have hle := depthOfAll_le h
    omega

/-- Each level that is left below the limit makes at most two nodes of the filter. -/
theorem depth_le_of_readAt (h : readAt limit depth entries = .ok f) :
    f.depth + 2 * depth ≤ 2 * limit + 2 := by
  induction entries using map_induction generalizing depth f with
  | step entries ih =>
    obtain ⟨hlimit, fs, hfs, rfl⟩ := readAt_eq_ok_iff.mp h
    have hentry : ∀ g ∈ fs, g.depth ≤ 2 * limit - 2 * depth + 1 := by
      refine forall_of_forall₂ hfs ?_
      rintro ⟨key, value⟩ he g hg
      obtain ⟨hkey, op, maps, gs, hop, hvalue, hgs, rfl⟩ | ⟨-, hfield⟩ :=
        readEntry_eq_ok_iff.mp hg
      · have hbehind : ∀ g ∈ gs, g.depth ≤ 2 * limit - 2 * depth := by
          refine forall_of_forall₂ hgs fun inner hinner g hg => ?_
          have hdeeper := ih (key, value) he inner (.intro hkey hop hvalue hinner) hg
          omega
        have hall := depthOfAll_le hbehind
        unfold Filter.depth
        omega
      · obtain ⟨-, conditions, -, rfl⟩ := readField_eq_ok_iff.mp hfield
        exact Nat.le_add_left 1 _
    have hmap := depth_ofEntries_le hentry
    omega

/-! ## Two limits -/

/-- What two limits make of one map, the second at least as great as the first. -/
structure WithinLimits (limit limit' : Nat) (entries : Dict String Json) : Prop where
  /-- What the first admits is the same filter under the second. -/
  same : ∀ f, readMap limit entries = .ok f → readMap limit' entries = .ok f
  /-- What only the second admits is refused under the first for its depth, which is a fault
  of the filter. -/
  refused : ∀ f e, readMap limit' entries = .ok f → readMap limit entries = .error e →
    e = .shape (.tooDeep limit) ∧ e.kind = .invalidFilter
  /-- What the first admits is at most twice as deep as it says. -/
  depth_le : ∀ f, readMap limit entries = .ok f → f.depth ≤ 2 * limit

/-- A limit decides whether a document is read, and nothing else: what is read is the same
under every greater limit, what is not is too deep, and what is read is not deep. -/
theorem withinLimits_of_le (h : limit ≤ limit') (entries : Dict String Json) :
    WithinLimits limit limit' entries where
  same := readAt_mono (by omega) entries
  refused f e hf he := by
    obtain hok | hdeep := readAt_failsOnlyBy entries f hf
    · exact absurd (hok.symm.trans he) (by simp)
    · obtain rfl : QueryError.shape (.tooDeep limit) = e := Except.error.inj (hdeep.symm.trans he)
      exact ⟨rfl, rfl⟩
  depth_le f hf := by
    have hdepth : f.depth + 2 * 1 ≤ 2 * limit + 2 := depth_le_of_readAt hf
    omega

/-- Two maps, one inside the other, with two entries each: no filter is deeper within two
levels, and one level is not enough for them. -/
theorem withinLimits_of_le_siblings :
    let doc : Dict String Json :=
      [("a", .ofInt 1), ("$or", .array [.object [("b", .ofInt 2), ("c", .ofInt 3)]])]
    let conditions (n : Int) : List Condition := [⟨.equal, .ofInt n, none⟩]
    let f : Filter := .all [.field "a" (conditions 1),
      .joined .or [.all [.field "b" (conditions 2), .field "c" (conditions 3)]]]
    1 ≤ 2 ∧ readMap 2 doc = .ok f ∧ f.depth = 2 * 2 ∧
      readMap 1 doc = .error (.shape (.tooDeep 1)) ∧ WithinLimits 1 2 doc := by
  intro doc conditions f
  exact ⟨by decide, rfl, by decide, rfl, withinLimits_of_le (by decide) doc⟩

end Filter
end DocFilter
