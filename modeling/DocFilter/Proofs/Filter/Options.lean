import DocFilter.Proofs.Filter.Grammar
import DocFilter.Proofs.Filter.Compile

/-!
# Which pattern the options are for

In a map of operators the options stand in an entry of their own, and the map can name a pattern
more than once, since the names of operators are found in any case and without their dollar sign.
What is read of a map depends on two lists, the conditions that its entries make and the options
that its entries give (`Filter.readConditions_operators`), and so not on the place of the options
among the other entries.  Of several options the last are meant.

They are given to the first pattern, and to no other (`Filter.optioned_of_readConditions`): a
second pattern in the map is matched with regard to case, whatever the options say
(`Filter.exists_pattern_without_options`).
-/

namespace DocFilter
namespace Filter

open Sql

/-! ## What the entries of a map hold -/

/-- The options that an entry gives. -/
def optionsOf? (e : String × Json) : Option String :=
  match isOptionsKey e.1, e.2 with
  | true, .string options => some options
  | _, _ => none

/-- The condition that an entry makes. -/
def conditionOf? (e : String × Json) : Option Condition :=
  match Operator.ofSymbol? e.1 with
  | some (.comparison op) => some ⟨op, e.2, none⟩
  | _ => none

/-- The same entries, those with options in their order and the others in theirs. -/
structure SameButPlace (operators operators' : Dict String Json) : Prop where
  options_eq : (operators'.filter fun e => isOptionsKey e.1) =
    operators.filter fun e => isOptionsKey e.1
  others_eq : (operators'.filter fun e => !isOptionsKey e.1) =
    operators.filter fun e => !isOptionsKey e.1

variable {field options : String} {operators operators' : Dict String Json}
  {conditions conditions' : List Condition} {e : String × Json}

theorem optionsOf?_of_not (h : isOptionsKey e.1 = false) : optionsOf? e = none := by
  rw [optionsOf?, h]

theorem conditionOf?_of_isOptionsKey (h : isOptionsKey e.1 = true) : conditionOf? e = none := by
  rw [conditionOf?, ofSymbol?_of_isOptionsKey h]

theorem SameButPlace.filterMap_optionsOf? (h : SameButPlace operators operators') :
    operators'.filterMap optionsOf? = operators.filterMap optionsOf? := by
  rw [← filterMap_filter_of_none fun e => optionsOf?_of_not (e := e), h.options_eq,
    filterMap_filter_of_none fun e => optionsOf?_of_not (e := e)]

theorem SameButPlace.filterMap_conditionOf? (h : SameButPlace operators operators') :
    operators'.filterMap conditionOf? = operators.filterMap conditionOf? := by
  have hnone (e : String × Json) (hkey : (!isOptionsKey e.1) = false) : conditionOf? e = none :=
    conditionOf?_of_isOptionsKey (by simpa using hkey)
  rw [← filterMap_filter_of_none hnone, h.others_eq, filterMap_filter_of_none hnone]

theorem SameButPlace.mem (h : SameButPlace operators operators') (he : e ∈ operators') :
    e ∈ operators := by
  cases hkey : isOptionsKey e.1 with
  | true =>
    have hmem : e ∈ operators.filter fun e => isOptionsKey e.1 := by
      rw [← h.options_eq]
      exact List.mem_filter.mpr ⟨he, hkey⟩
    exact (List.mem_filter.mp hmem).1
  | false =>
    have hmem : e ∈ operators.filter fun e => !isOptionsKey e.1 := by
      rw [← h.others_eq]
      exact List.mem_filter.mpr ⟨he, by rw [hkey]; rfl⟩
    exact (List.mem_filter.mp hmem).1

/-! ## Reading a map -/

theorem readOperators_eq (field : String) (h : ∀ e ∈ operators, OperatorEntry e) :
    readOperators field operators =
      .ok (operators.filterMap conditionOf?, (operators.filterMap optionsOf?).getLast?) := by
  induction operators with
  | nil => rfl
  | cons e rest ih =>
    obtain ⟨he, hrest⟩ := List.forall_mem_cons.mp h
    have hread := ih hrest
    cases he with
    | @options key text hkey =>
      have hcondition : conditionOf? (key, .string text) = none :=
        conditionOf?_of_isOptionsKey hkey
      have hoptions : optionsOf? (key, .string text) = some text := by
        rw [optionsOf?, hkey]
      rw [readOperators, if_pos hkey, hread, List.filterMap_cons_none hcondition,
        List.filterMap_cons_some hoptions, List.getLast?_cons]
      cases (rest.filterMap optionsOf?).getLast? <;> rfl
    | @comparison key op operand hkey =>
      have hfind := Operator.ofSymbol?_eq_some_iff.mpr hkey
      have hnot : isOptionsKey key = false := by
        refine Bool.eq_false_iff.mpr fun hoptionsKey => ?_
        rw [ofSymbol?_of_isOptionsKey hoptionsKey] at hfind
        exact absurd hfind (by simp)
      have hcondition : conditionOf? (key, operand) = some ⟨op, operand, none⟩ := by
        rw [conditionOf?, hfind]
      have hoptions : optionsOf? (key, operand) = none := optionsOf?_of_not hnot
      unfold readOperators
      rw [hnot, hfind, hread, List.filterMap_cons_some hcondition,
        List.filterMap_cons_none hoptions]
      rfl

/-- What is read of a map, by the conditions and the options in it. -/
theorem readConditions_operators (field : String) (hne : operators ≠ [])
    (h : ∀ e ∈ operators, OperatorEntry e) :
    readConditions field (.object operators) =
      match (operators.filterMap optionsOf?).getLast? with
      | none => .ok (operators.filterMap conditionOf?)
      | some options =>
        match attachOptions? options (operators.filterMap conditionOf?) with
        | some conditions => .ok conditions
        | none => .error (.shape (.optionsWithoutPattern field)) := by
  obtain ⟨e, rest, rfl⟩ := List.exists_cons_of_ne_nil hne
  rw [readConditions, readOperators_eq field h]
  · generalize (e :: rest).filterMap conditionOf? = conditions
    cases ((e :: rest).filterMap optionsOf?).getLast? with
    | none => rfl
    | some options =>
      dsimp only [bind, Except.bind]
      cases attachOptions? options conditions <;> rfl
  · simp

/-- A map that is read has entries, and each is one that a map of operators may have. -/
theorem operatorEntries_of_readConditions
    (h : readConditions field (.object operators) = .ok conditions) :
    operators ≠ [] ∧ ∀ e ∈ operators, OperatorEntry e := by
  cases fieldValue_of_readConditions h with
  | operand hvalue => exact absurd rfl hvalue
  | operators hne hentries => exact ⟨hne, hentries⟩

/-- Where the options stand among the other entries does not matter. -/
theorem readConditions_sameButPlace
    (h : readConditions field (.object operators) = .ok conditions)
    (hplace : SameButPlace operators operators') (hne : operators' ≠ []) :
    readConditions field (.object operators') = .ok conditions := by
  obtain ⟨hne₀, hentries⟩ := operatorEntries_of_readConditions h
  rw [readConditions_operators field hne₀ hentries] at h
  rwa [readConditions_operators field hne fun e he => hentries e (hplace.mem he),
    hplace.filterMap_optionsOf?, hplace.filterMap_conditionOf?]

/-! ## The first pattern -/

theorem exists_first_of_attachOptions? (h : attachOptions? options conditions = some conditions') :
    ∃ before first after, conditions = before ++ first :: after ∧
      conditions' = before ++ { first with options := some options } :: after ∧
      (∀ c ∈ before, c.operator ≠ .matching) ∧ first.operator = .matching := by
  induction conditions generalizing conditions' with
  | nil => exact absurd h (by simp [attachOptions?])
  | cons c rest ih =>
    unfold attachOptions? at h
    split at h
    · next hc =>
      exact ⟨[], c, rest, rfl, (Option.some.inj h).symm, fun _ hmem => absurd hmem (by simp), hc⟩
    · next hc =>
      obtain ⟨rest', hattach, rfl⟩ := Option.map_eq_some_iff.mp h
      obtain ⟨before, first, after, rfl, rfl, hbefore, hfirst⟩ := ih hattach
      exact ⟨c :: before, first, after, rfl, rfl, List.forall_mem_cons.mpr ⟨hc, hbefore⟩, hfirst⟩

theorem options_conditionOf? {c : Condition} (h : conditionOf? e = some c) : c.options = none := by
  unfold conditionOf? at h
  split at h
  · rw [← Option.some.inj h]
  · exact absurd h (by simp)

/-- A map gives options where one of its entries has their key. -/
theorem exists_getLast?_optionsOf? (hentries : ∀ e ∈ operators, OperatorEntry e)
    (h : ∃ e ∈ operators, isOptionsKey e.1 = true) :
    ∃ options, (operators.filterMap optionsOf?).getLast? = some options := by
  obtain ⟨e, he, hkey⟩ := h
  have hgiven : ∃ options, optionsOf? e = some options := by
    cases hentries e he with
    | @options key text _ => exact ⟨text, by rw [optionsOf?, hkey]⟩
    | comparison hop =>
      have hnone := ofSymbol?_of_isOptionsKey hkey
      rw [Operator.ofSymbol?_eq_some_iff.mpr hop] at hnone
      exact absurd hnone (by simp)
  obtain ⟨options, hoptions⟩ := hgiven
  have hmem : options ∈ operators.filterMap optionsOf? := List.mem_filterMap.mpr ⟨e, he, hoptions⟩
  exact ⟨_, List.getLast?_eq_getLast_of_ne_nil (List.ne_nil_of_mem hmem)⟩

/-- A pattern that compiles is matched with the regard to case that its options ask for. -/
theorem condition_of_compile_matching {t : Target} {c : Condition} {n n' : Nat} {p : Predicate}
    (hc : c.operator = .matching) (h : (c.compile t field).run n = (.ok p, n')) :
    p.condition = t.dialect.matching (t.layout.locate field) c.ignoresCase
      (t.dialect.placeholder (parameterName field (n + 1))) := by
  obtain ⟨operator, operand, options⟩ := c
  cases hc
  exact (Condition.made_of_compile h).1.condition_eq

/-- The conditions of a map with options: some that are no patterns, the first pattern, and
others. -/
structure Optioned (field : String) (operators : Dict String Json) (options : String)
    (before : List Condition) (first : Condition) (after : List Condition) : Prop where
  /-- Of several options, the last are meant. -/
  given : (operators.filterMap optionsOf?).getLast? = some options
  before_bare : ∀ c ∈ before, c.operator ≠ .matching
  first_matching : first.operator = .matching
  first_options : first.options = some options
  others_bare : ∀ c ∈ before ++ after, c.options = none
  /-- The conditions are those of the entries, but for the options of the first pattern. -/
  stated : before ++ { first with options := none } :: after = operators.filterMap conditionOf?
  /-- The first pattern is matched without regard to case exactly if the options say so. -/
  first_compiled : ∀ {t : Target} {n n' : Nat} {p : Predicate},
    (first.compile t field).run n = (.ok p, n') →
      p.condition = t.dialect.matching (t.layout.locate field) (options.toList.contains 'i')
        (t.dialect.placeholder (parameterName field (n + 1)))
  /-- A pattern behind it is matched with regard to case, whatever the options say. -/
  after_compiled : ∀ c ∈ after, c.operator = .matching →
    ∀ {t : Target} {n n' : Nat} {p : Predicate}, (c.compile t field).run n = (.ok p, n') →
      p.condition = t.dialect.matching (t.layout.locate field) false
        (t.dialect.placeholder (parameterName field (n + 1)))

/-- Every pattern has the options exactly if there is no other behind the first. -/
theorem Optioned.forall_options_iff {before after : List Condition} {first : Condition}
    (h : Optioned field operators options before first after) :
    (∀ c ∈ before ++ first :: after, c.operator = .matching → c.options = some options) ↔
      ∀ c ∈ after, c.operator ≠ .matching := by
  constructor
  · intro hall c hc hmatching
    have hsome := hall c (List.mem_append_right _ (List.mem_cons_of_mem _ hc)) hmatching
    rw [h.others_bare c (List.mem_append_right _ hc)] at hsome
    exact absurd hsome (by simp)
  · intro hafter c hc hmatching
    obtain hc | hc := List.mem_append.mp hc
    · exact absurd hmatching (h.before_bare c hc)
    · obtain rfl | hc := List.mem_cons.mp hc
      · exact h.first_options
      · exact absurd hmatching (hafter c hc)

theorem exists_optioned (hentries : ∀ e ∈ operators, OperatorEntry e) (hne : operators ≠ [])
    (hgiven : (operators.filterMap optionsOf?).getLast? = some options)
    (h : readConditions field (.object operators) = .ok conditions) :
    ∃ before first after, conditions = before ++ first :: after ∧
      Optioned field operators options before first after := by
  rw [readConditions_operators field hne hentries, hgiven] at h
  dsimp only at h
  split at h
  · next hattach =>
    cases Except.ok.inj h
    obtain ⟨before, bare, after, hstated, hconditions, hbefore, hfirst⟩ :=
      exists_first_of_attachOptions? hattach
    have hnone : ∀ c ∈ before ++ bare :: after, c.options = none := by
      rw [← hstated]
      intro c hc
      obtain ⟨e, -, he⟩ := List.mem_filterMap.mp hc
      exact options_conditionOf? he
    obtain ⟨hbeforeNone, hbareNone, hafterNone⟩ :=
      (List.forall_mem_append.mp hnone).imp id List.forall_mem_cons.mp
    have hmatching : ({ bare with options := some options } : Condition).operator = .matching :=
      hfirst
    refine ⟨before, { bare with options := some options }, after, hconditions, hgiven, hbefore,
      hfirst, rfl, List.forall_mem_append.mpr ⟨hbeforeNone, hafterNone⟩, ?_,
      fun hcompile => condition_of_compile_matching hmatching hcompile, ?_⟩
    · rw [hstated, ← hbareNone]
    · intro c hc hmatching t n n' p hcompile
      have hcondition := condition_of_compile_matching hmatching hcompile
      rwa [Condition.ignoresCase, hafterNone c hc] at hcondition
  · exact absurd h (by simp)

/-- Options that stand beside patterns are those of the first one, wherever in the map they
stand and in whatever case their key is written; and every pattern has them exactly if there is
no other pattern behind the first. -/
theorem optioned_of_readConditions (h : readConditions field (.object operators) = .ok conditions)
    (hoptions : ∃ e ∈ operators, isOptionsKey e.1 = true) :
    (∃ options before first after, conditions = before ++ first :: after ∧
      Optioned field operators options before first after ∧
      ((∀ c ∈ conditions, c.operator = .matching → c.options = some options) ↔
        ∀ c ∈ after, c.operator ≠ .matching)) ∧
    ∀ operators', SameButPlace operators operators' →
      readConditions field (.object operators') = .ok conditions := by
  obtain ⟨hne, hentries⟩ := operatorEntries_of_readConditions h
  constructor
  · obtain ⟨options, hgiven⟩ := exists_getLast?_optionsOf? hentries hoptions
    obtain ⟨before, first, after, rfl, hoptioned⟩ := exists_optioned hentries hne hgiven h
    exact ⟨options, before, first, after, rfl, hoptioned, hoptioned.forall_options_iff⟩
  · intro operators' hplace
    refine readConditions_sameButPlace h hplace fun hnil => ?_
    obtain ⟨e, he, hkey⟩ := hoptions
    have hmem : e ∈ operators.filter fun e => isOptionsKey e.1 := List.mem_filter.mpr ⟨he, hkey⟩
    rw [← hplace.options_eq, hnil] at hmem
    exact absurd hmem (by simp)

/-- Options between two patterns and behind a comparison, under a key in mixed case. -/
theorem optioned_of_readConditions_between : ∃ conditions,
    readConditions "name" (.object [("$ne", .string "al"), ("$regex", .string "^a"),
      ("$OPTIONS", .string "mi"), ("Regex ", .string "b$")]) = .ok conditions ∧
    (∃ options before first after, conditions = before ++ first :: after ∧
      Optioned "name" [("$ne", .string "al"), ("$regex", .string "^a"),
        ("$OPTIONS", .string "mi"), ("Regex ", .string "b$")] options before first after) ∧
    readConditions "name" (.object [("$OPTIONS", .string "mi"), ("$ne", .string "al"),
      ("$regex", .string "^a"), ("Regex ", .string "b$")]) = .ok conditions := by
  have hread : readConditions "name" (.object [("$ne", .string "al"), ("$regex", .string "^a"),
      ("$OPTIONS", .string "mi"), ("Regex ", .string "b$")]) =
      .ok [⟨.notEqual, .string "al", none⟩, ⟨.matching, .string "^a", some "mi"⟩,
        ⟨.matching, .string "b$", none⟩] := rfl
  obtain ⟨⟨options, before, first, after, hsplit, hoptioned, -⟩, hmoved⟩ :=
    optioned_of_readConditions hread ⟨("$OPTIONS", .string "mi"), by simp, rfl⟩
  exact ⟨_, hread, ⟨options, before, first, after, hsplit, hoptioned⟩, hmoved _ ⟨rfl, rfl⟩⟩

/-- A map that names a pattern twice, and options that ask for no regard to case: the second
pattern is compiled with regard to case. -/
theorem exists_pattern_without_options : ∃ (operators : Dict String Json) (first second : Condition)
    (p : Predicate) (n : Nat),
    readConditions "name" (.object operators) = .ok [first, second] ∧
    (∃ e ∈ operators, isOptionsKey e.1 = true ∧ optionsOf? e = some "i") ∧
    second.operator = .matching ∧ second.options ≠ some "i" ∧
    (second.compile ⟨.postgres, .standard, fun _ => true⟩ "name").run 0 = (.ok p, n) ∧
    p.text = "data ->> 'name' ~ :name_1" :=
  ⟨[("$regex", .string "^a"), ("regex", .string "b"), ("$options", .string "i")],
    ⟨.matching, .string "^a", some "i"⟩, ⟨.matching, .string "b", none⟩, _, _, rfl,
    ⟨("$options", .string "i"), by simp, rfl, rfl⟩, rfl, by simp, rfl, by decide +kernel⟩

end Filter
end DocFilter
