import DocFilter.Endpoint.Basic
import DocFilter.Proofs.Dict
import DocFilter.Proofs.Filter.Operator
import DocFilter.Proofs.Text.Split

/-!
# Which rule decides about a field

A rule covers the field it is listed under and every field below it, that is, every field its
name begins up to a dot (`Covers`).  Of the listed names that cover a field the longest decides,
and the wildcard decides where none does (`Decides`).  Looking a rule up tries names one after
the other instead: the field, and then what is left of it before each of its dots from the last
to the first.  These are the covering names and no others (`mem_coveringNames_iff`), from the
longest to the shortest (`pairwise_coveringNames`), one more than the field has dots
(`length_coveringNames`), so the first listed one is the one that decides
(`ruleFor?_eq_some_iff`).
-/

namespace DocFilter
namespace Endpoint

/-! ## Runs that begin a list -/

section Runs

variable {α : Type}

theorem mem_leadingRuns_iff {run parts : List α} :
    run ∈ leadingRuns parts ↔ run ≠ [] ∧ run <+: parts := by
  induction parts generalizing run with
  | nil =>
    rw [leadingRuns, List.prefix_nil]
    exact ⟨fun h => absurd h List.not_mem_nil, fun h => absurd h.2 h.1⟩
  | cons part rest ih =>
    rw [leadingRuns, List.mem_append, List.mem_map, List.mem_singleton]
    constructor
    · rintro (⟨run', hrun', rfl⟩ | rfl)
      · exact ⟨List.cons_ne_nil _ _, List.cons_prefix_cons.mpr ⟨rfl, (ih.mp hrun').2⟩⟩
      · exact ⟨List.cons_ne_nil _ _, List.cons_prefix_cons.mpr ⟨rfl, List.nil_prefix⟩⟩
    · rintro ⟨hne, hbegins⟩
      obtain ⟨first, run', rfl⟩ := List.exists_cons_of_ne_nil hne
      obtain ⟨rfl, hrun'⟩ := List.cons_prefix_cons.mp hbegins
      by_cases hnil : run' = []
      · exact .inr (by rw [hnil])
      · exact .inl ⟨run', ih.mpr ⟨hnil, hrun'⟩, rfl⟩

theorem length_leadingRuns (parts : List α) : (leadingRuns parts).length = parts.length := by
  induction parts with
  | nil => rfl
  | cons part rest ih =>
    rw [leadingRuns, List.length_append, List.length_map, ih, List.length_singleton,
      List.length_cons]

/-- Every run begins the runs before it, and each of them goes on. -/
theorem pairwise_leadingRuns (parts : List α) :
    (leadingRuns parts).Pairwise fun run run' => ∃ more, more ≠ [] ∧ run = run' ++ more := by
  induction parts with
  | nil => exact .nil
  | cons part rest ih =>
    rw [leadingRuns, List.pairwise_append, List.pairwise_map]
    refine ⟨ih.imp ?_, List.pairwise_singleton _ _, ?_⟩
    · rintro run run' ⟨more, hmore, rfl⟩
      exact ⟨more, hmore, rfl⟩
    · intro run hrun run' hrun'
      obtain ⟨more, hmore, rfl⟩ := List.mem_map.mp hrun
      rw [List.mem_singleton.mp hrun']
      exact ⟨more, (mem_leadingRuns_iff.mp hmore).1, rfl⟩

end Runs

/-! ## Names that cover a field -/

/-- The name is the field, or begins it up to a dot. -/
def Covers (name field : String) : Prop := name = field ∨ ∃ below, field = name ++ "." ++ below

variable {field : String} {rules : FieldRules}

theorem toList_dotted (name below : String) :
    (name ++ "." ++ below).toList = name.toList ++ '.' :: below.toList := by
  rw [String.toList_append, String.toList_append, List.append_assoc]
  rfl

/-- The names a rule is looked up under are those that cover the field. -/
theorem mem_coveringNames_iff {name : String} :
    name ∈ coveringNames field ↔ Covers name field := by
  have hfield := Text.joinWith_splitAt '.' field.toList
  rw [coveringNames, List.mem_map]
  constructor
  · rintro ⟨run, hrun, rfl⟩
    obtain ⟨hne, rest, hrest⟩ := mem_leadingRuns_iff.mp hrun
    rw [← hrest] at hfield
    by_cases hnil : rest = []
    · left
      rw [hnil, List.append_nil] at hfield
      rw [hfield, String.ofList_toList]
    · right
      refine ⟨String.ofList (Text.joinWith '.' rest), String.toList_inj.mp ?_⟩
      rw [toList_dotted, String.toList_ofList, String.toList_ofList, ← hfield,
        Text.joinWith_append hne hnil]
  · rintro (rfl | ⟨below, rfl⟩)
    · refine ⟨_, mem_leadingRuns_iff.mpr ⟨Text.splitAt_ne_nil _ _, List.prefix_rfl⟩, ?_⟩
      rw [hfield, String.ofList_toList]
    · refine ⟨Text.splitAt '.' name.toList,
        mem_leadingRuns_iff.mpr ⟨Text.splitAt_ne_nil _ _, ?_⟩, ?_⟩
      · rw [toList_dotted, Text.splitAt_append_separator]
        exact List.prefix_append _ _
      · rw [Text.joinWith_splitAt, String.ofList_toList]

theorem length_coveringNames (field : String) :
    (coveringNames field).length = field.toList.count '.' + 1 := by
  rw [coveringNames, List.length_map, length_leadingRuns, Text.length_splitAt]

/-- Every name that is tried is shorter than those before it. -/
theorem pairwise_coveringNames (field : String) :
    (coveringNames field).Pairwise fun name name' => name'.length < name.length := by
  rw [coveringNames, List.pairwise_map]
  refine (pairwise_leadingRuns _).imp_of_mem ?_
  rintro run run' - hrun' ⟨more, hmore, rfl⟩
  rw [String.length_ofList, String.length_ofList,
    Text.joinWith_append (mem_leadingRuns_iff.mp hrun').1 hmore, List.length_append,
    List.length_cons]
  omega

/-- Two names of one length that cover a field are one name. -/
theorem Covers.eq_of_length_eq {name name' : String} (h : Covers name field)
    (h' : Covers name' field) (hlength : name.length = name'.length) : name = name' := by
  have hbegins {other : String} (hother : Covers other field) :
      other.toList <+: field.toList := by
    rcases hother with rfl | ⟨below, rfl⟩
    · exact List.prefix_rfl
    · rw [toList_dotted]
      exact List.prefix_append _ _
  refine String.toList_inj.mp ((List.prefix_of_prefix_length_le (hbegins h) (hbegins h')
    (Nat.le_of_eq ?_)).eq_of_length ?_)
  all_goals rwa [String.length_toList, String.length_toList]

/-! ## The name that decides -/

/-- The rule listed under the name decides about the field: no longer name that is listed
covers it, or none does and the name is the wildcard. -/
inductive Decides (rules : FieldRules) (field : String) : String → Prop where
  | covering {name : String} (listed : name ∈ Dict.keys rules) (covers : Covers name field)
      (longest : ∀ other ∈ Dict.keys rules, Covers other field → other.length ≤ name.length) :
      Decides rules field name
  | fallback (listed : wildcard ∈ Dict.keys rules)
      (uncovered : ∀ other ∈ Dict.keys rules, ¬ Covers other field) :
      Decides rules field wildcard

theorem Decides.listed {name : String} (h : Decides rules field name) :
    name ∈ Dict.keys rules := by
  cases h with
  | covering listed _ _ => exact listed
  | fallback listed _ => exact listed

/-- One rule at most decides. -/
theorem Decides.unique {name name' : String} (h : Decides rules field name)
    (h' : Decides rules field name') : name = name' := by
  cases h with
  | covering listed covers longest =>
    cases h' with
    | covering listed' covers' longest' =>
      exact covers.eq_of_length_eq covers'
        (Nat.le_antisymm (longest' _ listed covers) (longest _ listed' covers'))
    | fallback _ uncovered' => exact absurd covers (uncovered' _ listed)
  | fallback _ uncovered =>
    cases h' with
    | covering listed' covers' _ => exact absurd covers' (uncovered _ listed')
    | fallback _ _ => rfl

theorem exists_find?_of_listed {name : String} (h : name ∈ Dict.keys rules) :
    ∃ symbols, Dict.find? name rules = some symbols :=
  Option.isSome_iff_exists.mp (Dict.contains_iff.mpr h)

/-- The rule that is found is the one listed under the name that decides. -/
theorem ruleFor?_of_decides {name : String} (h : Decides rules field name) :
    ruleFor? rules field = Dict.find? name rules := by
  cases h with
  | covering listed covers longest =>
    obtain ⟨symbols, hsymbols⟩ := exists_find?_of_listed listed
    obtain ⟨before, after, hnames⟩ := List.append_of_mem (mem_coveringNames_iff.mpr covers)
    -- Names before this one are longer, so by maximality they have no rule.
    have hbefore : ∀ other ∈ before, Dict.find? other rules = none := by
      intro other hother
      refine Dict.find?_eq_none fun hlisted => ?_
      have hpairwise := pairwise_coveringNames field
      rw [hnames] at hpairwise
      have hlonger : name.length < other.length :=
        (List.pairwise_append.mp hpairwise).2.2 other hother name List.mem_cons_self
      have hcovers : Covers other field := by
        rw [← mem_coveringNames_iff, hnames]
        exact List.mem_append_left _ hother
      exact absurd (longest other hlisted hcovers) (Nat.not_le.mpr hlonger)
    have hfound : (coveringNames field).findSome? (Dict.find? · rules) = some symbols :=
      List.findSome?_eq_some_iff.mpr ⟨before, name, after, hnames, hsymbols, hbefore⟩
    rw [ruleFor?, hfound, hsymbols]
    rfl
  | fallback _ uncovered =>
    have hnone : (coveringNames field).findSome? (Dict.find? · rules) = none :=
      List.findSome?_eq_none_iff.mpr fun other hother =>
        Dict.find?_eq_none fun hlisted =>
          uncovered other hlisted (mem_coveringNames_iff.mp hother)
    rw [ruleFor?, hnone]
    rfl

/-- Where a rule is found, a name decides. -/
theorem exists_decides {symbols : List String} (h : ruleFor? rules field = some symbols) :
    ∃ name, Decides rules field name := by
  have hlisted {name : String} (hname : Dict.find? name rules = some symbols) :
      name ∈ Dict.keys rules := Dict.contains_iff.mp (Option.isSome_iff_exists.mpr ⟨_, hname⟩)
  cases hfound : (coveringNames field).findSome? (Dict.find? · rules) with
  | none =>
    rw [ruleFor?, hfound] at h
    refine ⟨wildcard, .fallback (hlisted h) fun other hother hcovers => ?_⟩
    have hnone := List.findSome?_eq_none_iff.mp hfound other (mem_coveringNames_iff.mpr hcovers)
    obtain ⟨symbols', hsymbols'⟩ := exists_find?_of_listed hother
    exact Option.some_ne_none _ (hsymbols'.symm.trans hnone)
  | some symbols' =>
    rw [ruleFor?, hfound] at h
    obtain rfl : symbols' = symbols := Option.some.inj h
    obtain ⟨before, name, after, hnames, hname, hbefore⟩ := List.findSome?_eq_some_iff.mp hfound
    refine ⟨name, .covering (hlisted hname) (mem_coveringNames_iff.mp ?_)
      fun other hother hcovers => ?_⟩
    · rw [hnames]
      exact List.mem_append_right _ List.mem_cons_self
    · have hmem := mem_coveringNames_iff.mpr hcovers
      have hpairwise := pairwise_coveringNames field
      rw [hnames] at hmem hpairwise
      rcases List.mem_append.mp hmem with hmem | hmem
      · obtain ⟨symbols'', hsymbols''⟩ := exists_find?_of_listed hother
        exact absurd (hsymbols''.symm.trans (hbefore other hmem)) (Option.some_ne_none _)
      · rcases List.mem_cons.mp hmem with rfl | hmem
        · exact Nat.le_refl _
        · have hshorter : other.length < name.length :=
            (List.pairwise_cons.mp (List.pairwise_append.mp hpairwise).2.1).1 other hmem
          exact Nat.le_of_lt hshorter

theorem ruleFor?_eq_some_iff {symbols : List String} :
    ruleFor? rules field = some symbols ↔
      ∃ name, Decides rules field name ∧ Dict.find? name rules = some symbols := by
  constructor
  · intro h
    obtain ⟨name, hname⟩ := exists_decides h
    exact ⟨name, hname, (ruleFor?_of_decides hname).symm.trans h⟩
  · rintro ⟨name, hname, hsymbols⟩
    exact (ruleFor?_of_decides hname).trans hsymbols

/-! ## What the rule that decides allows -/

/-- The symbols of a rule let the comparison through: one of them is the wildcard, or one names
the comparison. -/
def Permits (symbols : List String) (comparison : Comparison) : Prop :=
  wildcard ∈ symbols ∨ ∃ symbol ∈ symbols, Operator.Named symbol (.comparison comparison)

theorem symbolAllows_iff {comparison : Comparison} {symbol : String} :
    symbolAllows comparison symbol = true ↔
      symbol = wildcard ∨ Operator.Named symbol (.comparison comparison) := by
  rw [symbolAllows, Bool.or_eq_true, beq_iff_eq, beq_iff_eq, Operator.ofSymbol?_eq_some_iff]

theorem any_symbolAllows_iff {comparison : Comparison} {symbols : List String} :
    symbols.any (symbolAllows comparison) = true ↔ Permits symbols comparison := by
  rw [List.any_eq_true, Permits]
  constructor
  · rintro ⟨symbol, hmem, h⟩
    rcases symbolAllows_iff.mp h with rfl | h
    · exact .inl hmem
    · exact .inr ⟨symbol, hmem, h⟩
  · rintro (hmem | ⟨symbol, hmem, h⟩)
    · exact ⟨wildcard, hmem, symbolAllows_iff.mpr (.inl rfl)⟩
    · exact ⟨symbol, hmem, symbolAllows_iff.mpr (.inr h)⟩

variable {e : Endpoint}

theorem allowsField_iff_decides (h : e.filterable = some rules) :
    e.allowsField field = true ↔ ∃ name, Decides rules field name := by
  rw [allowsField, h, Option.isSome_iff_exists]
  constructor
  · rintro ⟨symbols, hsymbols⟩
    exact exists_decides hsymbols
  · rintro ⟨name, hname⟩
    obtain ⟨symbols, hsymbols⟩ := exists_find?_of_listed hname.listed
    exact ⟨symbols, (ruleFor?_of_decides hname).trans hsymbols⟩

theorem allowsOperator_iff_decides (h : e.filterable = some rules) {comparison : Comparison} :
    e.allowsOperator field comparison = true ↔
      ∃ name symbols, Decides rules field name ∧ Dict.find? name rules = some symbols ∧
        Permits symbols comparison := by
  rw [allowsOperator, h]
  constructor
  · intro hallows
    cases hrule : ruleFor? rules field with
    | none =>
      simp only [hrule] at hallows
      exact absurd hallows Bool.false_ne_true
    | some symbols =>
      simp only [hrule] at hallows
      obtain ⟨name, hname, hsymbols⟩ := ruleFor?_eq_some_iff.mp hrule
      exact ⟨name, symbols, hname, hsymbols, any_symbolAllows_iff.mp hallows⟩
  · rintro ⟨name, symbols, hname, hsymbols, hpermits⟩
    simp only [ruleFor?_eq_some_iff.mpr ⟨name, hname, hsymbols⟩]
    exact any_symbolAllows_iff.mpr hpermits

/-- The answers of an endpoint about a field are those of the rule that decides, and the search
for that rule goes through all names that cover the field. -/
structure Ruled (e : Endpoint) (rules : FieldRules) (field : String) : Prop where
  /-- One rule at most decides. -/
  unique : ∀ {name name' : String}, Decides rules field name → Decides rules field name' →
    name = name'
  /-- The field may be filtered if some rule decides about it. -/
  field_iff : e.allowsField field = true ↔ ∃ name, Decides rules field name
  /-- A comparison is allowed if the rule that decides lets it through. -/
  operator_iff : ∀ comparison, e.allowsOperator field comparison = true ↔
    ∃ name symbols, Decides rules field name ∧ Dict.find? name rules = some symbols ∧
      Permits symbols comparison
  /-- No other rule contributes: another endpoint in which a rule with the same symbols decides
  gives the same answers, whatever else it lists. -/
  alone : ∀ {e' : Endpoint} {rules' : FieldRules} {name name' : String},
    e'.filterable = some rules' → Decides rules field name → Decides rules' field name' →
      Dict.find? name rules = Dict.find? name' rules' →
        e.allowsField field = e'.allowsField field ∧
          ∀ comparison, e.allowsOperator field comparison = e'.allowsOperator field comparison
  /-- The search tries the names that cover the field. -/
  tried : ∀ name, name ∈ coveringNames field ↔ Covers name field
  /-- It tries longer names first, and none twice. -/
  shortens : (coveringNames field).Pairwise fun name name' => name'.length < name.length
  /-- It ends after as many names as the field has dots, and one more. -/
  ends : (coveringNames field).length = field.toList.count '.' + 1

theorem ruled (h : e.filterable = some rules) (field : String) : Ruled e rules field where
  unique := Decides.unique
  field_iff := allowsField_iff_decides h
  operator_iff _ := allowsOperator_iff_decides h
  alone := by
    intro e' rules' name name' h' hname hname' hsame
    have hrule : ruleFor? rules field = ruleFor? rules' field := by
      rw [ruleFor?_of_decides hname, ruleFor?_of_decides hname', hsame]
    constructor
    · simp only [allowsField, h, h', hrule]
    · intro comparison
      simp only [allowsOperator, h, h', hrule]
  tried _ := mem_coveringNames_iff
  shortens := pairwise_coveringNames field
  ends := length_coveringNames field

/-- What an endpoint allows on a field is what the rule under the longest covering name allows,
or the one under the wildcard; without rules everything is allowed. -/
theorem allows_iff_decides (e : Endpoint) (field : String) :
    (e.filterable = none →
      e.allowsField field = true ∧ ∀ comparison, e.allowsOperator field comparison = true) ∧
    ∀ rules, e.filterable = some rules → Ruled e rules field := by
  constructor
  · intro hnone
    simp only [allowsField, allowsOperator, hnone]
    exact ⟨trivial, fun _ => trivial⟩
  · exact fun _ h => ruled h field

/-- The rule under `address` decides about what is below it, whatever the wildcard lists, and
lets a membership test through under a name in another case; the rule under `address.city`
overrides it with an equality. -/
theorem allows_iff_decides_address :
    let rules : FieldRules := [("*", ["*"]), ("address", ["IN"]), ("address.city", ["$eq"])]
    let unruled := unrestricted "/people" "people"
    let people := { unruled with filterable := some rules }
    (unruled.filterable = none ∧ unruled.allowsField "address.zip" = true) ∧
    (people.filterable = some rules ∧ Ruled people rules "address.zip" ∧
      people.allowsOperator "address.zip" .among = true ∧
      people.allowsOperator "address.city" .among = false) := by
  refine ⟨⟨rfl, ((allows_iff_decides _ _).1 rfl).1⟩, rfl, (allows_iff_decides _ _).2 _ rfl, ?_⟩
  decide +kernel

end Endpoint
end DocFilter
