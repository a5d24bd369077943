import DocFilter.Proofs.Filter.Binding

/-!
# The numbers of parameters

A filter that compiles binds a parameter for each of its slots: for each condition, in the
order they were written, the values the condition compares with, each under the field of the
condition (`Filter.slots`).  The parameter of a slot is named after its field and has the
number that many places after the counter, so the names are known in advance and differ
(`Filter.numbered_of_compile`).

Bindings are dictionaries, and a name that came twice would silently take the place of the
first.  As none does, the bindings of a filter are those of its parts, side by side.
-/

namespace DocFilter

open Sql

theorem Sql.getElem?_parameterNames (counter : Nat) (fields : List String) (i : Nat) :
    (parameterNames counter fields)[i]? =
      fields[i]?.map fun field => parameterName field (counter + i + 1) := by
  induction fields generalizing counter i with
  | nil => rfl
  | cons field fields ih =>
    cases i with
    | zero => rfl
    | succ i =>
      rw [parameterNames, List.getElem?_cons_succ, List.getElem?_cons_succ, ih,
        Nat.add_assoc counter 1 i, Nat.add_comm 1 i]

/-! ## Slots -/

/-- What a condition on a field binds: each value under the field. -/
def Condition.slots (d : Dialect) (l : Layout) (field : String) (c : Condition) :
    List (String × Bound) := (c.values d (l.locate field)).map (Prod.mk field)

/-- What conditions on fields bind, in their order. -/
def slotsOf (d : Dialect) (l : Layout) (conditions : List (String × Condition)) :
    List (String × Bound) := conditions.flatMap fun e => e.2.slots d l e.1

/-- What a filter binds: the slots of its conditions, in the order they were written. -/
def Filter.slots (d : Dialect) (l : Layout) (f : Filter) : List (String × Bound) :=
  slotsOf d l f.conditions

theorem Condition.slots_eq_zip (d : Dialect) (l : Layout) (field : String) (c : Condition) :
    c.slots d l field = (List.replicate c.arity field).zip (c.values d (l.locate field)) := by
  rw [← length_values d (l.locate field), slots]
  induction c.values d (l.locate field) with
  | nil => rfl
  | cons v vs ih =>
    rw [List.map_cons, ih, List.length_cons, List.replicate_succ, List.zip_cons_cons]

theorem slotsOf_eq_zip (d : Dialect) (l : Layout) (conditions : List (String × Condition)) :
    slotsOf d l conditions = (bindersOf conditions).zip (valuesOf d l conditions) := by
  induction conditions with
  | nil => rfl
  | cons e rest ih =>
    have hbinders : bindersOf (e :: rest) = List.replicate e.2.arity e.1 ++ bindersOf rest := rfl
    have hvalues : valuesOf d l (e :: rest) = e.2.values d (l.locate e.1) ++ valuesOf d l rest :=
      rfl
    have hlength :
        (List.replicate e.2.arity e.1).length = (e.2.values d (l.locate e.1)).length := by
      rw [List.length_replicate, Condition.length_values]
    rw [hbinders, hvalues, List.zip_append hlength, ← Condition.slots_eq_zip, ← ih]
    rfl

/-! ## Parts -/

/-- The predicates of the parts of a filter, before they are joined. -/
def Filter.compileParts (t : Target) : Filter → Minting (List Predicate)
  | .all children | .joined _ children => compileAll t children
  | .field name conditions => Condition.compileAll t name conditions

namespace Predicate

variable {d : Dialect} {counter : Nat} {fields : List String} {ps : List Predicate}

theorem FreshAll.nodup_keys (h : FreshAll d counter fields ps) :
    (ps.flatMap fun p => p.bindings.keys).Nodup := by
  rw [h.keys_eq]
  exact nodup_parameterNames counter fields

theorem bindings_of_combine {op : Connective} {p : Predicate} (h : combine op ps = .ok p)
    (hps : (ps.flatMap fun p => p.bindings.keys).Nodup) : p.bindings = ps.flatMap bindings := by
  rw [combine_eq_verdict] at h
  obtain ⟨-, rfl⟩ := Course.verdict_eq_ok.mp h
  exact bindings_joined op hps

end Predicate

namespace Filter

open Predicate

variable {t : Target} {c c' : Nat} {p : Predicate}

/-- A filter that compiles has the bindings of its parts, one part after the other. -/
theorem exists_parts_of_compile : ∀ {f : Filter}, (f.compile t).run c = (.ok p, c') →
    ∃ ps, (f.compileParts t).run c = (.ok ps, c') ∧ p.bindings = ps.flatMap bindings
  | .all children, h => by
    obtain ⟨ps, hps, rfl⟩ := Minting.exists_of_run_map h
    exact ⟨ps, hps, bindings_conjoin (compileAll_fresh children hps).1.nodup_keys⟩
  | .field name conditions, h => by
    obtain ⟨ps, hps, rfl⟩ := Minting.exists_of_run_map h
    exact ⟨ps, hps, bindings_conjoin (Condition.compileAll_fresh hps).1.nodup_keys⟩
  | .joined connective children, h => by
    obtain ⟨ps, hps, hp⟩ := Minting.exists_of_run_check h
    exact ⟨ps, hps, bindings_of_combine hp (compileAll_fresh children hps).1.nodup_keys⟩

/-- What a run of the compiler binds, and where it leaves the counter. -/
theorem bindings_of_compile {f : Filter} (h : (f.compile t).run c = (.ok p, c')) :
    p.bindings = (parameterNames c f.binders).zip (f.values t.dialect t.layout) ∧
      c' = c + f.binders.length := by
  rw [compile_eq_follow, Minting.run_follow] at h
  obtain ⟨hverdict, hc⟩ := Prod.mk.inj h
  obtain ⟨hfault, rfl⟩ := Course.verdict_eq_ok.mp hverdict
  rw [fields_course f hfault] at hc ⊢
  exact ⟨bindings_predicate f (nodup_parameterNames c f.binders)
    (length_parameterNames c f.binders), hc.symm⟩

end Filter

/-! ## Numbers -/

/-- The parameters of a filter whose predicate was made between two counters. -/
structure Numbered (t : Target) (f : Filter) (c c' : Nat) (p : Predicate) : Prop where
  counter_eq : c' = c + p.bindings.length
  /-- The parameter of each slot has the field of the slot and the next number in its name,
  and is bound to the value of the slot; there are no others. -/
  getElem?_bindings : ∀ i, p.bindings[i]? =
    (f.slots t.dialect t.layout)[i]?.map fun slot => (parameterName slot.1 (c + i + 1), slot.2)
  nodup_keys : p.bindings.keys.Nodup
  /-- Nothing that a part binds is written over by another part. -/
  parts : ∃ ps, (f.compileParts t).run c = (.ok ps, c') ∧
    p.bindings = ps.flatMap Predicate.bindings

namespace Filter

variable {t : Target} {f : Filter} {c c' : Nat} {p : Predicate}

/-- A filter that compiles numbers its parameters in order, and loses none of them. -/
theorem numbered_of_compile (h : (f.compile t).run c = (.ok p, c')) : Numbered t f c c' p := by
  obtain ⟨hbindings, hc⟩ := bindings_of_compile h
  have hlength : (parameterNames c f.binders).length = (f.values t.dialect t.layout).length := by
    rw [length_parameterNames, length_values]
  refine ⟨?_, fun i => ?_, ?_, exists_parts_of_compile h⟩
  · rw [hc, hbindings, List.length_zip, ← hlength, Nat.min_self, length_parameterNames]
  · have hslots : f.slots t.dialect t.layout = f.binders.zip (f.values t.dialect t.layout) :=
      slotsOf_eq_zip t.dialect t.layout f.conditions
    rw [hbindings, hslots, List.zip_eq_zipWith, List.zip_eq_zipWith, List.getElem?_zipWith,
      List.getElem?_zipWith, getElem?_parameterNames]
    cases f.binders[i]? <;> cases (f.values t.dialect t.layout)[i]? <;> rfl
  · rw [hbindings, Dict.keys_zip hlength]
    exact nodup_parameterNames c f.binders

/-- One field in four conditions, below a connective and in a map, with a list and an
identity between them. -/
theorem numbered_of_compile_price : ∃ p c',
    ((joined .nor [
      field "price" [⟨.greater, .string " 7", none⟩,
        ⟨.notAmong, .array [.bool true, .string "free"], none⟩],
      all [field "_id" [⟨.notEqual, .ofInt 3, none⟩, ⟨.present, .bool true, none⟩],
        field "price" [⟨.matching, .string "^1", some "i"⟩]]]).compile
        ⟨.sqlServer, .standard, fun _ => true⟩).run 40 = (.ok p, c') ∧
    Numbered ⟨.sqlServer, .standard, fun _ => true⟩ (joined .nor [
      field "price" [⟨.greater, .string " 7", none⟩,
        ⟨.notAmong, .array [.bool true, .string "free"], none⟩],
      all [field "_id" [⟨.notEqual, .ofInt 3, none⟩, ⟨.present, .bool true, none⟩],
        field "price" [⟨.matching, .string "^1", some "i"⟩]]]) 40 c' p ∧
    p.bindings.keys = ["price_41", "price_42", "price_43", "p__id_44", "price_45"] :=
  ⟨_, _, rfl, numbered_of_compile rfl, by decide +kernel⟩

end Filter
end DocFilter
