import DocFilter.Proofs.Filter.Entry

/-!
# What is a filter

A document is a filter when every map in it stands at an admitted level and has only entries
that a map may have (`Filter.InGrammar`).  The rules for an entry look at that entry alone: a
connective has the maps it needs, a field has an operand or a map of operators, and options
stand beside a pattern.  Reading accepts exactly these documents, and what is read states
exactly what stands in the document, in its order (`Filter.readMap_grammar`).
-/

namespace DocFilter
namespace Filter

/-! ## Entries of maps -/

/-- An entry of a map of operators: options, or a comparison with its operand. -/
inductive OperatorEntry : String × Json → Prop
  | options {key text : String} (hkey : isOptionsKey key = true) :
    OperatorEntry (key, .string text)
  | comparison {key : String} {op : Comparison} {operand : Json}
    (hkey : Operator.Named key (.comparison op)) : OperatorEntry (key, operand)

/-- The value of a field: an operand that is no object, or a map of operators, with a pattern
wherever there are options. -/
inductive FieldValue : Json → Prop
  | operand {value : Json} (hvalue : value.type ≠ .object) : FieldValue value
  | operators {operators : Dict String Json} (hne : operators ≠ [])
    (hentries : ∀ e ∈ operators, OperatorEntry e)
    (hoptions : ∀ e ∈ operators, isOptionsKey e.1 = true →
      ∃ e' ∈ operators, Operator.Named e'.1 (.comparison .matching)) :
    FieldValue (.object operators)

/-- An entry of a map of filters: a connective with the maps it is applied to, or a field with
its value. -/
inductive MapEntry : String × Json → Prop
  | connective {key : String} {op : Connective} {value : Json} {maps : List (Dict String Json)}
    (hkey : isConnectiveKey key = true) (hop : Operator.Named key (.connective op))
    (hvalue : Operands op value maps) : MapEntry (key, value)
  | field {key : String} {value : Json} (hkey : isConnectiveKey key = false) (hne : key ≠ "")
    (hvalue : FieldValue value) : MapEntry (key, value)

/-! ## Levels -/

/-- The map stands at a level of the document, whose own level is the first. -/
inductive MapAt (first : Nat) (doc : Dict String Json) : Nat → Dict String Json → Prop
  | top : MapAt first doc first doc
  | deeper {level : Nat} {entries inner : Dict String Json} {e : String × Json}
    (h : MapAt first doc level entries) (he : e ∈ entries) (hinner : Behind e inner) :
    MapAt first doc (level + 1) inner

theorem MapAt.of_behind {first level : Nat} {doc inner entries : Dict String Json}
    {e : String × Json} (he : e ∈ doc) (hinner : Behind e inner)
    (h : MapAt (first + 1) inner level entries) : MapAt first doc level entries := by
  induction h with
  | top => exact .deeper .top he hinner
  | deeper _ he' hinner' ih => exact .deeper ih he' hinner'

/-- What holds at every level of a document holds of the document, and at every level of the
maps right below. -/
theorem forall_mapAt_iff {P : Nat → Dict String Json → Prop} {first : Nat}
    {doc : Dict String Json} :
    (∀ level entries, MapAt first doc level entries → P level entries) ↔
      P first doc ∧ ∀ e ∈ doc, ∀ inner, Behind e inner →
        ∀ level entries, MapAt (first + 1) inner level entries → P level entries := by
  constructor
  · intro h
    exact ⟨h first doc .top, fun e he inner hinner level entries hat =>
      h level entries (.of_behind he hinner hat)⟩
  · rintro ⟨hdoc, hbelow⟩ level entries hat
    -- `MapAt` grows at its deep end; here it is taken apart at its shallow one
    have hsplit : (level = first ∧ entries = doc) ∨ ∃ e ∈ doc, ∃ inner, Behind e inner ∧
        MapAt (first + 1) inner level entries := by
      induction hat with
      | top => exact .inl ⟨rfl, rfl⟩
      | deeper _ he hinner ih =>
        obtain ⟨rfl, rfl⟩ | ⟨e, hedoc, inner, hbehind, hat⟩ := ih
        · exact .inr ⟨_, he, _, hinner, .top⟩
        · exact .inr ⟨e, hedoc, inner, hbehind, .deeper hat he hinner⟩
    obtain ⟨rfl, rfl⟩ | ⟨e, he, inner, hinner, hat⟩ := hsplit
    · exact hdoc
    · exact hbelow e he inner hinner level entries hat

/-- No map of the document stands below the limit, and every entry of a map is one that a map
may have. -/
def InGrammar (limit first : Nat) (doc : Dict String Json) : Prop :=
  ∀ level entries, MapAt first doc level entries → level ≤ limit ∧ ∀ e ∈ entries, MapEntry e

theorem inGrammar_iff {limit first : Nat} {doc : Dict String Json} :
    InGrammar limit first doc ↔ first ≤ limit ∧ ∀ e ∈ doc, MapEntry e ∧
      ∀ inner, Behind e inner → InGrammar limit (first + 1) inner := by
  rw [InGrammar, forall_mapAt_iff, and_assoc]
  exact and_congr_right fun _ => forall₂_and.symm

/-! ## What a document states -/

/-- A field, a comparison and its operand. -/
abbrev Statement := String × Comparison × Json

/-- What an entry of a map of operators states on the field. -/
def statedBy? (field : String) (e : String × Json) : Option Statement :=
  match Operator.ofSymbol? e.1 with
  | some (.comparison op) => some (field, op, e.2)
  | _ => none

/-- What the value of a field states on it. -/
def statedOn (field : String) : Json → List Statement
  | .object operators => operators.filterMap (statedBy? field)
  | operand => [(field, .equal, operand)]

mutual

/-- What the entries of a map state, in their order. -/
def stated : List (String × Json) → List Statement
  | [] => []
  | (key, value) :: rest =>
    (if isConnectiveKey key then statedBehind value else statedOn key value) ++ stated rest

/-- What the maps behind a connective state, in their order. -/
def statedBehind : Json → List Statement
  | .object entries => stated entries
  | .array items => statedBehindAll items
  | _ => []

/-- What the maps in a list state, in their order. -/
def statedBehindAll : List Json → List Statement
  | [] => []
  | item :: rest => statedBehind item ++ statedBehindAll rest

end

/-- What a condition on a field states. -/
def statement (e : String × Condition) : Statement := (e.1, e.2.operator, e.2.operand)

theorem statedBehind_of_operands {op : Connective} {value : Json}
    {maps : List (Dict String Json)} (h : Operands op value maps) :
    statedBehind value = maps.flatMap stated := by
  cases h with
  | negated entries =>
    unfold statedBehind
    exact (List.append_nil _).symm
  | listed hop maps =>
    unfold statedBehind
    induction maps with
    | nil =>
      unfold statedBehindAll
      rfl
    | cons entries maps ih =>
      rw [List.map_cons]
      unfold statedBehindAll statedBehind
      rw [ih, List.flatMap_cons]

/-! ## Operators on a field -/

variable {field : String}

/-- Entries of a map of operators state their comparisons, and options are noticed. -/
theorem exists_readOperators (field : String) {operators : Dict String Json}
    (h : ∀ e ∈ operators, OperatorEntry e) :
    ∃ conditions options, readOperators field operators = .ok (conditions, options) ∧
      conditions.map (fun c => statement (field, c)) = operators.filterMap (statedBy? field) ∧
      (options.isSome = true ↔ ∃ e ∈ operators, isOptionsKey e.1 = true) := by
  induction operators with
  | nil => exact ⟨[], none, rfl, rfl, by simp⟩
  | cons e rest ih =>
    obtain ⟨conditions, options, hread, hstated, hoptions⟩ :=
      ih fun e' he' => h e' (List.mem_cons_of_mem _ he')
    cases h e List.mem_cons_self with
    | @options key text hkey =>
      refine ⟨conditions, options <|> some text, ?_, ?_, ?_⟩
      · rw [readOperators, if_pos hkey, hread]
        rfl
      · rw [List.filterMap_cons, statedBy?, ofSymbol?_of_isOptionsKey hkey]
        exact hstated
      · cases options <;> simp [hkey]
    | @comparison key op operand hkey =>
      have hfind := Operator.ofSymbol?_eq_some_iff.mpr hkey
      have hnot : isOptionsKey key = false := by
        refine Bool.eq_false_iff.mpr fun hoptionsKey => ?_
        rw [ofSymbol?_of_isOptionsKey hoptionsKey] at hfind
        exact absurd hfind (by simp)
      refine ⟨⟨op, operand, none⟩ :: conditions, options, ?_, ?_, ?_⟩
      · unfold readOperators
        rw [hnot, hfind, hread]
        rfl
      · rw [List.map_cons, hstated, List.filterMap_cons, statedBy?, hfind]
        rfl
      · rw [hoptions, List.exists_mem_cons_iff]
        simp [hnot]

theorem operatorEntry_of_readOperators {operators : Dict String Json}
    {r : List Condition × Option String} (h : readOperators field operators = .ok r) :
    ∀ e ∈ operators, OperatorEntry e := by
  induction operators generalizing r with
  | nil => exact fun e he => absurd he (by simp)
  | cons e rest ih =>
    obtain ⟨key, value⟩ := e
    unfold readOperators at h
    have hboth (hentry : OperatorEntry (key, value)) {r' : List Condition × Option String}
        (hrest : readOperators field rest = .ok r') :
        ∀ e ∈ (key, value) :: rest, OperatorEntry e :=
      List.forall_mem_cons.mpr ⟨hentry, ih hrest⟩
    split at h
    · next hkey =>
      cases value with
      | string text =>
        obtain ⟨r', hrest, -⟩ := bind_eq_ok.mp h
        exact hboth (.options hkey) hrest
      | _ => exact absurd h (by simp)
    · split at h
      · next op hop =>
        obtain ⟨r', hrest, -⟩ := bind_eq_ok.mp h
        exact hboth (.comparison (Operator.ofSymbol?_eq_some_iff.mp hop)) hrest
      · exact absurd h (by simp)
      · exact absurd h (by simp)

/-- Options are given to a pattern where there is one, and change nothing that is stated. -/
theorem attachOptions?_eq_some (field options : String) {conditions : List Condition}
    (h : ∃ c ∈ conditions, c.operator = .matching) :
    ∃ conditions', attachOptions? options conditions = some conditions' ∧
      conditions'.map (fun c => statement (field, c)) =
        conditions.map fun c => statement (field, c) := by
  induction conditions with
  | nil => exact absurd h (by simp)
  | cons c rest ih =>
    unfold attachOptions?
    by_cases hc : c.operator = .matching
    · exact ⟨_, if_pos hc, rfl⟩
    · rw [if_neg hc]
      rw [List.exists_mem_cons_iff] at h
      obtain ⟨rest', hrest, hstated⟩ := ih (h.resolve_left hc)
      rw [hrest]
      exact ⟨c :: rest', rfl, by rw [List.map_cons, List.map_cons, hstated]⟩

theorem exists_of_attachOptions? {options : String} {conditions conditions' : List Condition}
    (h : attachOptions? options conditions = some conditions') :
    ∃ c ∈ conditions, c.operator = .matching := by
  induction conditions generalizing conditions' with
  | nil => exact absurd h (by simp [attachOptions?])
  | cons c rest ih =>
    unfold attachOptions? at h
    split at h
    · next hc => exact ⟨c, List.mem_cons_self, hc⟩
    · obtain ⟨rest', hrest, -⟩ := Option.map_eq_some_iff.mp h
      obtain ⟨c', hc', hmatching⟩ := ih hrest
      exact ⟨c', List.mem_cons_of_mem _ hc', hmatching⟩

/-- A map of operators that names a pattern states a pattern, and the other way round. -/
theorem exists_matching_iff {operators : Dict String Json} {conditions : List Condition}
    (h : conditions.map (fun c => statement (field, c)) =
      operators.filterMap (statedBy? field)) :
    (∃ c ∈ conditions, c.operator = .matching) ↔
      ∃ e ∈ operators, Operator.Named e.1 (.comparison .matching) := by
  have hstated (e : String × Json) (op : Comparison) :
      (∃ s, statedBy? field e = some s ∧ s.2.1 = op) ↔ Operator.Named e.1 (.comparison op) := by
    rw [← Operator.ofSymbol?_eq_some_iff, statedBy?]
    split
    · next op' hop => rw [hop]; simp
    · next hnone =>
      constructor
      · rintro ⟨s, hs, -⟩
        exact absurd hs (by simp)
      · exact fun hop => absurd hop (hnone op)
  calc (∃ c ∈ conditions, c.operator = .matching)
    _ ↔ ∃ s ∈ conditions.map (fun c => statement (field, c)), s.2.1 = .matching := by
      simp [statement]
    _ ↔ ∃ s ∈ operators.filterMap (statedBy? field), s.2.1 = .matching := by rw [h]
    _ ↔ ∃ e ∈ operators, ∃ s, statedBy? field e = some s ∧ s.2.1 = .matching := by
      simp only [List.mem_filterMap]
      constructor
      · rintro ⟨s, ⟨e, he, hs⟩, hmatching⟩
        exact ⟨e, he, s, hs, hmatching⟩
      · rintro ⟨e, he, s, hs, hmatching⟩
        exact ⟨s, ⟨e, he, hs⟩, hmatching⟩
    _ ↔ ∃ e ∈ operators, Operator.Named e.1 (.comparison .matching) := by
      simp only [hstated]

/-! ## Fields -/

theorem type_ne_object_iff {value : Json} :
    value.type ≠ .object ↔ ∀ operators, value ≠ .object operators := by
  cases value <;> simp [Json.type]

/-- The value of a field is read, and what is read states what the value states. -/
theorem exists_readConditions (field : String) {value : Json} (h : FieldValue value) :
    ∃ conditions, readConditions field value = .ok conditions ∧
      conditions.map (fun c => statement (field, c)) = statedOn field value := by
  cases h with
  | operand hvalue =>
    refine ⟨_, readConditions_of_operand hvalue field, ?_⟩
    unfold statedOn
    split
    · exact absurd rfl hvalue
    · rfl
  | @operators operators hne hentries hoptions =>
    obtain ⟨e, rest, rfl⟩ := List.exists_cons_of_ne_nil hne
    obtain ⟨conditions, options, hread, hstated, hsome⟩ :=
      exists_readOperators field hentries
    cases options with
    | none =>
      refine ⟨conditions, ?_, hstated⟩
      rw [readConditions, hread]
      · rfl
      · simp
    | some options =>
      obtain ⟨e', he', hkey⟩ := hsome.mp rfl
      have hmatching := (exists_matching_iff hstated).mpr (hoptions e' he' hkey)
      obtain ⟨conditions', hattach, hsame⟩ :=
        attachOptions?_eq_some field options hmatching
      refine ⟨conditions', ?_, hsame.trans hstated⟩
      rw [readConditions, hread]
      · dsimp only [bind, Except.bind]
        rw [hattach]
        rfl
      · simp

theorem fieldValue_of_readConditions {value : Json} {conditions : List Condition}
    (h : readConditions field value = .ok conditions) : FieldValue value := by
  unfold readConditions at h
  split at h
  · exact absurd h (by simp)
  · next operators hne =>
    obtain ⟨⟨conditions', options⟩, hread, hrest⟩ := bind_eq_ok.mp h
    have hentries := operatorEntry_of_readOperators hread
    obtain ⟨conditions'', options', hread', hstated, hsome⟩ :=
      exists_readOperators field hentries
    obtain ⟨rfl, rfl⟩ := Prod.mk.inj (Except.ok.inj (hread.symm.trans hread'))
    refine .operators (fun hnil => hne hnil) hentries fun e he hkey => ?_
    obtain ⟨text, rfl⟩ := Option.isSome_iff_exists.mp (hsome.mpr ⟨e, he, hkey⟩)
    refine (exists_matching_iff hstated).mp ?_
    dsimp only at hrest
    split at hrest
    · next hattach => exact exists_of_attachOptions? hattach
    · exact absurd hrest (by simp)
  · next hnot => exact .operand (type_ne_object_iff.mpr fun operators heq => hnot operators heq)

/-! ## Maps -/

/-- What an entry of a map states. -/
def statedEntry (e : String × Json) : List Statement :=
  if isConnectiveKey e.1 then statedBehind e.2 else statedOn e.1 e.2

theorem stated_eq_flatMap (entries : List (String × Json)) :
    stated entries = entries.flatMap statedEntry := by
  induction entries with
  | nil =>
    unfold stated
    rfl
  | cons e rest ih =>
    unfold stated
    rw [ih, List.flatMap_cons, statedEntry]

/-- Filters that state what they are read from do so together, in order. -/
theorem map_statement_conditionsOfAll {α : Type} {told : α → List Statement} {xs : List α}
    {fs : List Filter}
    (h : List.Forall₂ (fun x f => f.conditions.map statement = told x) xs fs) :
    (conditionsOfAll fs).map statement = xs.flatMap told := by
  induction h with
  | nil => rfl
  | cons hf _ ih =>
    rw [conditionsOfAll, List.map_append, hf, ih, List.flatMap_cons]

theorem conditions_ofEntries (fs : List Filter) :
    (ofEntries fs).conditions = conditionsOfAll fs := by
  unfold ofEntries
  split
  · rw [conditionsOfAll, conditionsOfAll, List.append_nil]
  · rw [conditions]

theorem Operands.unique {op : Connective} {value : Json} {maps maps' : List (Dict String Json)}
    (h : Operands op value maps) (h' : Operands op value maps') : maps = maps' := by
  cases h with
  | negated entries =>
    cases h' with
    | negated => rfl
  | listed hop maps =>
    generalize hvalue : Json.array (maps.map .object) = value at h'
    cases h' with
    | negated => exact absurd hvalue (by simp)
    | listed _ maps' =>
      exact List.map_injective_iff.mpr (fun _ _ => Json.object.inj) (Json.array.inj hvalue)

variable {limit depth : Nat}

/-- An entry is read where the maps behind it are, and states what they state. -/
theorem exists_readEntry {e : String × Json} (h : MapEntry e)
    (hbehind : ∀ inner, Behind e inner → ∃ f, readAt limit (depth + 1) inner = .ok f ∧
      f.conditions.map statement = stated inner) :
    ∃ f, readEntry limit depth e = .ok f ∧ f.conditions.map statement = statedEntry e := by
  cases h with
  | @connective key op value maps hkey hop hvalue =>
    obtain ⟨gs, hgs⟩ := exists_forall₂ fun inner hinner =>
      hbehind inner (.intro hkey hop hvalue hinner)
    refine ⟨.joined op gs, readEntry_eq_ok_iff.mpr (.inl ⟨hkey, op, maps, gs, hop, hvalue,
      hgs.imp fun _ _ hg => hg.1, rfl⟩), ?_⟩
    rw [conditions, map_statement_conditionsOfAll (hgs.imp fun _ _ hg => hg.2), statedEntry,
      if_pos hkey, statedBehind_of_operands hvalue]
  | @field key value hkey hne hvalue =>
    obtain ⟨conditions, hread, hstated⟩ := exists_readConditions key hvalue
    refine ⟨.field key conditions, readEntry_eq_ok_iff.mpr (.inr ⟨hkey,
      readField_eq_ok_iff.mpr ⟨hne, conditions, hread, rfl⟩⟩), ?_⟩
    rw [Filter.conditions, List.map_map, statedEntry, hkey]
    exact hstated

theorem mapEntry_of_readEntry {e : String × Json} {f : Filter}
    (h : readEntry limit depth e = .ok f) : MapEntry e ∧
      ∀ inner, Behind e inner → ∃ g, readAt limit (depth + 1) inner = .ok g := by
  obtain ⟨key, value⟩ := e
  obtain ⟨hkey, op, maps, gs, hop, hvalue, hgs, -⟩ | ⟨hkey, hfield⟩ := readEntry_eq_ok_iff.mp h
  · refine ⟨.connective hkey hop hvalue, fun inner hbehind => ?_⟩
    cases hbehind with
    | intro _ hop' hvalue' hinner =>
      cases Operator.Named.unique hop hop'
      rw [← hvalue.unique hvalue'] at hinner
      exact exists_of_forall₂ hgs inner hinner
  · obtain ⟨hne, conditions, hread, -⟩ := readField_eq_ok_iff.mp hfield
    refine ⟨.field hkey hne (fieldValue_of_readConditions hread), fun inner hbehind => ?_⟩
    cases hbehind with
    | intro hkey' => exact absurd hkey' (by rw [hkey]; simp)

/-- A document with the entries it may have is read, and what is read states what it
states. -/
theorem exists_readAt (entries : Dict String Json) (h : InGrammar limit depth entries) :
    ∃ f, readAt limit depth entries = .ok f ∧ f.conditions.map statement = stated entries := by
  induction entries using map_induction generalizing depth with
  | step entries ih =>
    obtain ⟨hdepth, hentries⟩ := inGrammar_iff.mp h
    obtain ⟨fs, hfs⟩ := exists_forall₂ fun e he =>
      exists_readEntry (hentries e he).1 fun inner hbehind =>
        ih e he inner hbehind ((hentries e he).2 inner hbehind)
    refine ⟨ofEntries fs, readAt_eq_ok_iff.mpr ⟨hdepth, fs, hfs.imp fun _ _ hf => hf.1, rfl⟩, ?_⟩
    rw [conditions_ofEntries, map_statement_conditionsOfAll (hfs.imp fun _ _ hf => hf.2),
      stated_eq_flatMap]

theorem inGrammar_of_readAt {entries : Dict String Json} {f : Filter}
    (h : readAt limit depth entries = .ok f) : InGrammar limit depth entries := by
  induction entries using map_induction generalizing depth f with
  | step entries ih =>
    obtain ⟨hdepth, fs, hfs, -⟩ := readAt_eq_ok_iff.mp h
    refine inGrammar_iff.mpr ⟨hdepth, fun e he => ?_⟩
    obtain ⟨f', hf'⟩ := exists_of_forall₂ hfs e he
    obtain ⟨hentry, hbehind⟩ := mapEntry_of_readEntry hf'
    refine ⟨hentry, fun inner hinner => ?_⟩
    obtain ⟨g, hg⟩ := hbehind inner hinner
    exact ih e he inner hinner hg

/-- Reading accepts a document exactly when each of its maps, at whatever level, stands within
the limit and has only entries that a map may have; and what is read states what stands in the
document, in its order. -/
theorem readMap_grammar (limit : Nat) (doc : Dict String Json) :
    ((∃ f, readMap limit doc = .ok f) ↔ InGrammar limit 1 doc) ∧
      ∀ f, readMap limit doc = .ok f → f.conditions.map statement = stated doc := by
  refine ⟨⟨fun ⟨f, hf⟩ => inGrammar_of_readAt hf, fun h => ?_⟩, fun f hf => ?_⟩
  · obtain ⟨f, hf, -⟩ := exists_readAt doc h
    exact ⟨f, hf⟩
  · obtain ⟨f', hf', hstated⟩ := exists_readAt doc (inGrammar_of_readAt hf)
    cases Except.ok.inj (hf.symm.trans hf')
    exact hstated

end Filter
end DocFilter
