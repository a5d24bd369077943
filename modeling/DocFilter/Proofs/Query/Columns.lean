import DocFilter.Proofs.Filter.Entry
import DocFilter.Proofs.Query.Course

/-!
# The two columns

A filter and an order see their layout only through the places of the fields they mention
(`Filter.compile_congr`, `Translator.translateRead_congr_layout`).  The place of the identity
does not depend on the column of the document, and the place of any other field does not
depend on the column of the identity.  So what mentions the identity alone is translated to the
same wherever the documents are, and what never mentions it to the same wherever the identity
is (`Translator.run_translateRead_columns`), refusals and spent numbers included.
-/

namespace DocFilter

/-! ## Places -/

namespace Layout

variable {l : Layout} {field : String}

/-- Where the identity is does not depend on where the documents are. -/
theorem locate_identityField (h : field = l.identityField) (column : String) :
    ({ l with documentColumn := column } : Layout).locate field = l.locate field := by
  rw [locate_of_eq h]
  exact locate_of_eq h

/-- Where a document keeps a field does not depend on where the identities are. -/
theorem locate_of_ne_identityField (h : field ≠ l.identityField) (column : String) :
    ({ l with identityColumn := column } : Layout).locate field = l.locate field := by
  rw [locate_of_ne h]
  exact locate_of_ne h

end Layout

/-! ## Conditions -/

namespace Condition

variable {d : Dialect} {isPattern : String → Bool} {l l' : Layout} {field : String}

theorem course_congr (h : l.locate field = l'.locate field) (c : Condition) :
    c.course isPattern l field = c.course isPattern l' field := by
  have hequality (negated : Bool) (operand : Json) :
      equalityCourse l field negated operand = equalityCourse l' field negated operand := by
    rw [equalityCourse, equalityCourse, h]
  simp only [course, hequality]

/-- A condition sees its layout only through the place of its field. -/
theorem compile_congr (h : l.locate field = l'.locate field) (c : Condition) :
    c.compile ⟨d, l, isPattern⟩ field = c.compile ⟨d, l', isPattern⟩ field := by
  have hpredicate :
      c.predicate ⟨d, l, isPattern⟩ field = c.predicate ⟨d, l', isPattern⟩ field := by
    funext names
    rw [predicate, predicate, h]
  rw [compile_eq_follow, compile_eq_follow, course_congr h, hpredicate]

theorem compileAll_congr {cs : List Condition}
    (h : ∀ c ∈ cs, l.locate field = l'.locate field) :
    compileAll ⟨d, l, isPattern⟩ field cs = compileAll ⟨d, l', isPattern⟩ field cs := by
  induction cs with
  | nil => rfl
  | cons c rest ih =>
    obtain ⟨hc, hrest⟩ := List.forall_mem_cons.mp h
    rw [compileAll, compileAll, compile_congr hc, ih hrest]

end Condition

/-! ## Filters -/

namespace Filter

variable {d : Dialect} {isPattern : String → Bool} {l l' : Layout}

mutual

/-- A filter sees its layout only through the places of the fields it mentions. -/
theorem compile_congr : ∀ {f : Filter}, (∀ e ∈ f.conditions, l.locate e.1 = l'.locate e.1) →
    f.compile ⟨d, l, isPattern⟩ = f.compile ⟨d, l', isPattern⟩
  | .all children, h => by
    have hchildren : ∀ e ∈ conditionsOfAll children, l.locate e.1 = l'.locate e.1 := h
    rw [compile, compile, compileAll_congr hchildren]
  | .field name cs, h => by
    have hcs : ∀ c ∈ cs, l.locate name = l'.locate name := fun c hc =>
      h (name, c) (List.mem_map_of_mem hc)
    rw [compile, compile, Condition.compileAll_congr hcs]
  | .joined op children, h => by
    have hchildren : ∀ e ∈ conditionsOfAll children, l.locate e.1 = l'.locate e.1 := h
    rw [compile, compile, compileAll_congr hchildren]

theorem compileAll_congr :
    ∀ {fs : List Filter}, (∀ e ∈ conditionsOfAll fs, l.locate e.1 = l'.locate e.1) →
      compileAll ⟨d, l, isPattern⟩ fs = compileAll ⟨d, l', isPattern⟩ fs
  | [], _ => rfl
  | f :: rest, h => by
    obtain ⟨hf, hrest⟩ := List.forall_mem_append.mp h
    rw [compileAll, compileAll, compile_congr hf, compileAll_congr hrest]

end

end Filter

/-! ## Translations -/

/-- Every field that the filter or the order mentions has the property. -/
structure MentionsOnly (P : String → Prop) (filter : Filter) (options : RequestOptions) :
    Prop where
  filter_fields : ∀ e ∈ filter.conditions, P e.1
  sort_fields : ∀ e ∈ options.sort, P e.1

theorem MentionsOnly.imp {P Q : String → Prop} {filter : Filter} {options : RequestOptions}
    (h : MentionsOnly P filter options) (hPQ : ∀ field, P field → Q field) :
    MentionsOnly Q filter options :=
  ⟨fun e he => hPQ e.1 (h.filter_fields e he), fun e he => hPQ e.1 (h.sort_fields e he)⟩

namespace Translator

variable {t : Translator} {l l' : Layout} {filter : Filter} {options : RequestOptions}

/-- The keys of an order are on the fields it was asked for by. -/
theorem map_field_sortKeys {keys : List SortKey} (h : sortKeys options = .ok keys) :
    keys.map SortKey.field = options.sort.keys := by
  have hread : List.Forall₂ (fun (e : String × Json) (key : SortKey) =>
      (Direction.read e.1 e.2).map (SortKey.mk e.1) = .ok key) options.sort keys :=
    mapM_eq_ok_iff.mp h
  clear h
  generalize options.sort = entries at hread
  induction hread with
  | nil => rfl
  | @cons e key entries keys he _ ih =>
    cases hdirection : Direction.read e.1 e.2 with
    | error x =>
      rw [hdirection] at he
      exact absurd he (by simp [Except.map])
    | ok direction =>
      rw [hdirection] at he
      rw [← Except.ok.inj he, List.map_cons, ih]
      rfl

/-- Layouts with one name for the identity that agree on the places of the fields mentioned
are interchangeable. -/
theorem translateRead_congr_layout (hname : l.identityField = l'.identityField)
    (h : MentionsOnly (fun field => l.locate field = l'.locate field) filter options) :
    (t.withLayout l).translateRead filter options =
      (t.withLayout l').translateRead filter options := by
  have hfilter : (t.withLayout l).translateFilter filter =
      (t.withLayout l').translateFilter filter := by
    rw [translateFilter_eq_andThen, translateFilter_eq_andThen]
    exact congrArg (Minting.andThen · _) (Filter.compile_congr h.filter_fields)
  have hprojection : (t.withLayout l).readProjection options.projection =
      (t.withLayout l').readProjection options.projection := by
    cases options.projection with
    | none => rfl
    | some entries => exact congrArg (fun name => (Projection.read name entries).map some) hname
  unfold translateRead
  rw [hfilter, hprojection]
  refine congrArg (Minting.andThen _) (funext fun clauses => ?_)
  cases hkeys : sortKeys options with
  | error e => rfl
  | ok keys =>
    have hitems : keys.map (t.withLayout l).orderItem = keys.map (t.withLayout l').orderItem := by
      refine List.map_congr_left fun key hkey => ?_
      have hmem : key.field ∈ options.sort.keys :=
        map_field_sortKeys hkeys ▸ List.mem_map_of_mem hkey
      obtain ⟨e, he, hfield⟩ := List.mem_map.mp hmem
      have hplace : l.locate key.field = l'.locate key.field := hfield ▸ h.sort_fields e he
      exact congrArg (t.dialect.orderItem · key.direction) hplace
    refine congrArg (Minting.andThen
      (Minting.ofExcept ((t.withLayout l').readProjection options.projection)))
      (funext fun projection => ?_)
    exact congrArg (fun items => Minting.result { items.foldl Translation.addOrder clauses with
      limit := t.effectiveLimit options.limit
      offset := asked options.skip
      projection := projection }) hitems

/-- What mentions the identity alone is translated to the same whatever the column of the
documents is, and what never mentions the identity to the same whatever its column is: the
clauses, the parameters or the refusal, and the counter afterwards. -/
theorem run_translateRead_columns (t : Translator) (l : Layout) (filter : Filter)
    (options : RequestOptions) (column : String) (c : Nat) :
    (MentionsOnly (· = l.identityField) filter options →
      ((t.withLayout { l with documentColumn := column }).translateRead filter options).run c =
        ((t.withLayout l).translateRead filter options).run c) ∧
    (MentionsOnly (· ≠ l.identityField) filter options →
      ((t.withLayout { l with identityColumn := column }).translateRead filter options).run c =
        ((t.withLayout l).translateRead filter options).run c) :=
  ⟨fun h => congrArg (Minting.run · c) (translateRead_congr_layout rfl
      (h.imp fun _ hfield => Layout.locate_identityField hfield column)),
    fun h => congrArg (Minting.run · c) (translateRead_congr_layout rfl
      (h.imp fun _ hfield => Layout.locate_of_ne_identityField hfield column))⟩

/-- The identity under a negation, among values and beside a pattern; and a disjunction of a
key and a path, with both in the order. -/
theorem run_translateRead_columns_sqlServer :
    let t := permissive .sqlServer
    let l : Layout := ⟨"_id", "id", "data"⟩
    let onIdentity : Filter := .joined .not [.field "_id"
      [⟨.among, .array [Json.ofInt 1, .string "b"], none⟩, ⟨.matching, .string "^a.c", none⟩]]
    let byIdentity : RequestOptions :=
      { RequestOptions.none with sort := [("_id", Json.ofInt (-1))] }
    let offIdentity : Filter := .joined .or [.field "age" [⟨.greater, Json.ofInt 3, none⟩],
      .field "lines.0" [⟨.present, .bool false, none⟩, ⟨.ofType, .string "int", none⟩]]
    let byOthers : RequestOptions :=
      { RequestOptions.none with sort := [("lines.0", Json.ofInt 1), ("age", .string "desc")] }
    MentionsOnly (· = l.identityField) onIdentity byIdentity ∧
    MentionsOnly (· ≠ l.identityField) offIdentity byOthers ∧
    ((t.withLayout ⟨"_id", "id", "payload"⟩).translateRead onIdentity byIdentity).run 4 =
      ((t.withLayout l).translateRead onIdentity byIdentity).run 4 ∧
    ((t.withLayout ⟨"_id", "order", "data"⟩).translateRead offIdentity byOthers).run 4 =
      ((t.withLayout l).translateRead offIdentity byOthers).run 4 := by
  intro t l onIdentity byIdentity offIdentity byOthers
  have hon : MentionsOnly (· = l.identityField) onIdentity byIdentity :=
    ⟨by decide, by decide⟩
  have hoff : MentionsOnly (· ≠ l.identityField) offIdentity byOthers :=
    ⟨by decide, by decide⟩
  exact ⟨hon, hoff, (run_translateRead_columns t l onIdentity byIdentity "payload" 4).1 hon,
    (run_translateRead_columns t l offIdentity byOthers "order" 4).2 hoff⟩

end Translator
end DocFilter
