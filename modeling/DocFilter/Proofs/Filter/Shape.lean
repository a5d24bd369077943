import DocFilter.Proofs.Filter.Grammar

/-!
# The shape of filters that are read

Not every tree is read from a document.  One that is has no map of one entry, no field without
a name or without conditions, no options beside anything but a pattern, and no negation of
more or fewer filters than one (`Filter.Shaped`, `Filter.shaped_of_read`).
-/

namespace DocFilter
namespace Filter

/-- The filter has the shape that reading gives it. -/
inductive Shaped : Filter → Prop
  /-- A map has no entry or several. -/
  | all {fs : List Filter} (hlength : fs.length = 0 ∨ 2 ≤ fs.length)
    (h : ∀ f ∈ fs, Shaped f) : Shaped (.all fs)
  /-- A field has a name and conditions, and options stand on patterns. -/
  | field {name : String} {cs : List Condition} (hname : name ≠ "") (hne : cs ≠ [])
    (hoptions : ∀ c ∈ cs, c.options.isSome = true → c.operator = .matching) :
    Shaped (.field name cs)
  /-- A negation is applied to one filter. -/
  | joined {op : Connective} {fs : List Filter} (harity : op = .not → fs.length = 1)
    (h : ∀ f ∈ fs, Shaped f) : Shaped (.joined op fs)

/-! ## Conditions on a field -/

section Conditions

variable {field options : String} {conditions conditions' : List Condition}

/-- Conditions are read without options, and without options every operator makes one. -/
theorem bare_of_readOperators {operators : Dict String Json} {later : Option String}
    (h : readOperators field operators = .ok (conditions, later)) :
    (∀ c ∈ conditions, c.options = none) ∧
      (later = none → conditions.length = operators.length) := by
  induction operators generalizing conditions later with
  | nil =>
    obtain ⟨rfl, rfl⟩ := Prod.mk.inj (Except.ok.inj h)
    exact ⟨fun c hc => absurd hc List.not_mem_nil, fun _ => rfl⟩
  | cons e rest ih =>
    obtain ⟨key, operand⟩ := e
    unfold readOperators at h
    split at h
    · cases operand with
      | string text =>
        obtain ⟨⟨read, later'⟩, hread, hpair⟩ := bind_eq_ok.mp h
        obtain ⟨rfl, rfl⟩ := Prod.mk.inj (Except.ok.inj hpair)
        exact ⟨(ih hread).1, fun hlater => by cases later' <;> exact absurd hlater (by simp)⟩
      | _ => exact absurd h (by simp)
    · split at h
      · obtain ⟨⟨read, later'⟩, hread, hpair⟩ := bind_eq_ok.mp h
        obtain ⟨rfl, rfl⟩ := Prod.mk.inj (Except.ok.inj hpair)
        obtain ⟨hbare, hlength⟩ := ih hread
        exact ⟨List.forall_mem_cons.mpr ⟨rfl, hbare⟩, fun hlater =>
          congrArg (· + 1) (hlength hlater)⟩
      · exact absurd h (by simp)
      · exact absurd h (by simp)

/-- Options go to a pattern and to nothing else. -/
theorem matching_of_attachOptions? (h : attachOptions? options conditions = some conditions')
    (hnone : ∀ c ∈ conditions, c.options = none) :
    conditions' ≠ [] ∧ ∀ c ∈ conditions', c.options.isSome = true → c.operator = .matching := by
  induction conditions generalizing conditions' with
  | nil => exact absurd h (by simp [attachOptions?])
  | cons c rest ih =>
    obtain ⟨hc, hrest⟩ := List.forall_mem_cons.mp hnone
    have hbare {c' : Condition} (hc' : c'.options = none) :
        c'.options.isSome = true → c'.operator = .matching := fun hsome => by simp [hc'] at hsome
    unfold attachOptions? at h
    split at h
    · next hmatching =>
      rw [← Option.some.inj h]
      exact ⟨List.cons_ne_nil _ _, List.forall_mem_cons.mpr
        ⟨fun _ => hmatching, fun c' hc' => hbare (hrest c' hc')⟩⟩
    · obtain ⟨rest', hattach, rfl⟩ := Option.map_eq_some_iff.mp h
      exact ⟨List.cons_ne_nil _ _, List.forall_mem_cons.mpr ⟨hbare hc, (ih hattach hrest).2⟩⟩

theorem shaped_of_readConditions {value : Json} (h : readConditions field value = .ok conditions) :
    conditions ≠ [] ∧ ∀ c ∈ conditions, c.options.isSome = true → c.operator = .matching := by
  unfold readConditions at h
  split at h
  · exact absurd h (by simp)
  · next operators hne =>
    obtain ⟨⟨read, later⟩, hread, hrest⟩ := bind_eq_ok.mp h
    obtain ⟨hnone, hlength⟩ := bare_of_readOperators hread
    dsimp only at hrest
    split at hrest
    · obtain rfl : read = conditions := Except.ok.inj hrest
      refine ⟨fun hnil => hne (List.eq_nil_of_length_eq_zero ?_), fun c hc hsome => ?_⟩
      · rw [← hlength rfl, hnil, List.length_nil]
      · simp [hnone c hc] at hsome
    · split at hrest
      · next hattach =>
        rw [← Except.ok.inj hrest]
        exact matching_of_attachOptions? hattach hnone
      · exact absurd hrest (by simp)
  · rw [← Except.ok.inj h]
    exact ⟨List.cons_ne_nil _ _, by simp⟩

end Conditions

/-! ## Maps -/

theorem shaped_ofEntries {fs : List Filter} (h : ∀ f ∈ fs, Shaped f) : Shaped (ofEntries fs) := by
  match fs with
  | [] => exact .all (.inl rfl) h
  | [f] => exact h f List.mem_cons_self
  | f :: g :: rest => exact .all (.inr (by simp)) h

/-- A negation is applied to one map. -/
theorem length_of_operands {op : Connective} {value : Json} {maps : List (Dict String Json)}
    (h : Operands op value maps) (hop : op = .not) : maps.length = 1 := by
  cases h with
  | negated entries => rfl
  | listed hne maps => exact absurd hop hne

theorem shaped_of_readAt {limit depth : Nat} {entries : Dict String Json} {f : Filter}
    (h : readAt limit depth entries = .ok f) : Shaped f := by
  induction entries using map_induction generalizing depth f with
  | step entries ih =>
    obtain ⟨-, fs, hfs, rfl⟩ := readAt_eq_ok_iff.mp h
    refine shaped_ofEntries (forall_of_forall₂ hfs ?_)
    rintro ⟨key, value⟩ he g hg
    obtain ⟨hkey, op, maps, gs, hop, hvalue, hgs, rfl⟩ | ⟨-, hfield⟩ := readEntry_eq_ok_iff.mp hg
    · refine .joined (fun hnot => ?_) (forall_of_forall₂ hgs fun inner hinner g hg => ?_)
      · rw [← hgs.length_eq, length_of_operands hvalue hnot]
      · exact ih (key, value) he inner (.intro hkey hop hvalue hinner) hg
    · obtain ⟨hname, conditions, hread, rfl⟩ := readField_eq_ok_iff.mp hfield
      obtain ⟨hne, hoptions⟩ := shaped_of_readConditions hread
      exact .field hname hne hoptions

theorem shaped_of_read {limit : Nat} {value : Json} {f : Filter} (h : read limit value = .ok f) :
    Shaped f := by
  cases value with
  | null =>
    rw [← Except.ok.inj h]
    exact .all (.inl rfl) fun f hf => absurd hf List.not_mem_nil
  | object entries => exact shaped_of_readAt h
  | _ => exact absurd h (by simp [read])

/-- What is read states what stands in the document, in its order. -/
theorem stated_of_read {limit : Nat} {value : Json} {f : Filter} (h : read limit value = .ok f) :
    f.conditions.map statement = statedBehind value := by
  cases value with
  | null =>
    rw [← Except.ok.inj h]
    unfold statedBehind
    rfl
  | object entries =>
    obtain ⟨f', hf', hstated⟩ := exists_readAt entries (inGrammar_of_readAt h)
    obtain rfl : f = f' := Except.ok.inj (h.symm.trans hf')
    unfold statedBehind
    exact hstated
  | _ => exact absurd h (by simp [read])

end Filter
end DocFilter
