import DocFilter.Proofs.Dict
import DocFilter.Proofs.List
import DocFilter.Query.Projection

/-!
# What a choice of fields says

A specification gives each field a flag.  `Json.Flag` says which values are flags, and
`Projection.KeepsTo` what a choice is that keeps to a specification.  Reading goes through the
entries once, from left to right, and the first field that is not the identity decides the
mode; `Draft.Holds` is what the entries read so far have settled.  It does not depend on their
order, so neither does what is read in the end: a specification is read exactly when it is
`Uniform`, and a rearrangement of it is read as the same choice with its fields rearranged
(`Projection.read_decides`).

## The identity

A choice keeps the flag of the identity apart from the list of fields, and `includes` looks at
the list alone.  So it answers every other field with its flag, but the identity with what a
field gets that is not named (`Projection.includes_of_read`).  Where the identity has a flag of
its own that is the wrong answer (`Projection.exists_misreported`).
-/

namespace DocFilter

/-- A value is a flag: a truth value, or the integer zero or one. -/
inductive Json.Flag : Json → Bool → Prop where
  | bool (b : Bool) : Flag (.bool b) b
  | zero : Flag (.number (.integer 0)) false
  | one : Flag (.number (.integer 1)) true

theorem Json.Flag.unique {v : Json} {b b' : Bool} (h : v.Flag b) (h' : v.Flag b') : b = b' := by
  cases h <;> cases h' <;> rfl

namespace Projection

variable {identityField field : String} {v : Json} {flag : Bool}
  {entries entries' seen : Dict String Json} {draft draft' : Draft} {p p' : Projection}

/-! ## Specifications -/

/-- Every entry has a flag, and the fields other than the identity have the same. -/
structure Uniform (identityField : String) (entries : Dict String Json) : Prop where
  flags : ∀ e ∈ entries, ∃ b, e.2.Flag b
  agree : ∀ e ∈ entries, ∀ e' ∈ entries, e.1 ≠ identityField → e'.1 ≠ identityField →
    ∀ b b', e.2.Flag b → e'.2.Flag b' → b = b'

/-- The choice keeps to a specification. -/
structure KeepsTo (identityField : String) (entries : Dict String Json) (p : Projection) :
    Prop where
  fields_eq : p.fields = entries.keys.filter (· ≠ identityField)
  keep : ∀ e ∈ entries, e.1 ≠ identityField → e.2.Flag p.keep
  keep_of_fieldless : (∀ e ∈ entries, e.1 = identityField) → p.keep = false
  identity_named : ∀ v, (identityField, v) ∈ entries → v.Flag p.identity
  identity_unnamed : identityField ∉ entries.keys → p.identity = true

theorem Uniform.perm (h : Uniform identityField entries) (hperm : entries.Perm entries') :
    Uniform identityField entries' where
  flags := fun e he => h.flags e (hperm.mem_iff.mpr he)
  agree := fun e he e' he' => h.agree e (hperm.mem_iff.mpr he) e' (hperm.mem_iff.mpr he')

namespace KeepsTo

theorem mem_fields (h : p.KeepsTo identityField entries) :
    field ∈ p.fields ↔ field ∈ entries.keys ∧ field ≠ identityField := by
  rw [h.fields_eq, List.mem_filter, decide_eq_true_eq]

/-- What a specification says does not depend on the order of its entries. -/
theorem perm (h : p.KeepsTo identityField entries) (h' : p'.KeepsTo identityField entries')
    (hperm : entries.Perm entries') :
    p.keep = p'.keep ∧ p.identity = p'.identity ∧ p.fields.Perm p'.fields := by
  refine ⟨?_, ?_, ?_⟩
  · by_cases hfieldless : ∀ e ∈ entries, e.1 = identityField
    · rw [h.keep_of_fieldless hfieldless,
        h'.keep_of_fieldless fun e he => hfieldless e (hperm.mem_iff.mpr he)]
    · push Not at hfieldless
      obtain ⟨e, he, hfield⟩ := hfieldless
      exact (h.keep e he hfield).unique (h'.keep e (hperm.mem_iff.mp he) hfield)
  · by_cases hnamed : identityField ∈ entries.keys
    · obtain ⟨⟨_, v⟩, he, rfl⟩ := List.mem_map.mp hnamed
      exact (h.identity_named v he).unique (h'.identity_named v (hperm.mem_iff.mp he))
    · have hnamed' : identityField ∉ entries'.keys := fun hmem =>
        hnamed ((hperm.map Prod.fst).mem_iff.mpr hmem)
      rw [h.identity_unnamed hnamed, h'.identity_unnamed hnamed']
  · rw [h.fields_eq, h'.fields_eq]
    exact (hperm.map Prod.fst).filter _

end KeepsTo

/-! ## One entry -/

theorem readFlag_eq_ok_iff : readFlag field v = .ok flag ↔ v.Flag flag := by
  constructor
  · intro h
    cases v with
    | bool b =>
      rw [← Except.ok.inj h]
      exact .bool b
    | number n =>
      simp only [readFlag] at h
      split_ifs at h with hzero hone
      · rw [hzero, ← Except.ok.inj h]
        exact .zero
      · rw [hone, ← Except.ok.inj h]
        exact .one
    | _ => exact nomatch h
  · rintro (b | _ | _) <;> rfl

/-- All that one more entry can do. -/
theorem addEntry_eq_ok_iff : addEntry identityField draft (field, v) = .ok draft' ↔
    ∃ flag, v.Flag flag ∧
      (field = identityField ∧ draft' = { draft with identity := flag } ∨
        field ≠ identityField ∧ (∀ mode, draft.mode = some mode → mode = flag) ∧
          draft' = ⟨some flag, field :: draft.fields, draft.identity⟩) := by
  unfold addEntry
  rw [bind_eq_ok]
  refine exists_congr fun flag => and_congr readFlag_eq_ok_iff ?_
  by_cases hidentity : field = identityField
  · rw [if_pos hidentity]
    simp [hidentity, pure, Except.pure, eq_comm]
  · rw [if_neg hidentity]
    obtain ⟨mode, fields, identity⟩ := draft
    cases mode with
    | none => simp [hidentity, pure, Except.pure, eq_comm]
    | some mode =>
      by_cases hmode : mode = flag
      · simp [hidentity, hmode, pure, Except.pure, eq_comm]
      · simp [hidentity, hmode, throw, throwThe, MonadExceptOf.throw]

/-! ## The entries read so far -/

/-- What the entries read so far have settled. -/
structure Draft.Holds (identityField : String) (seen : Dict String Json) (draft : Draft) :
    Prop where
  fields_eq : draft.fields = (seen.keys.filter (· ≠ identityField)).reverse
  mode_eq_none_iff : draft.mode = none ↔ ∀ e ∈ seen, e.1 = identityField
  mode : ∀ mode, draft.mode = some mode → ∀ e ∈ seen, e.1 ≠ identityField → e.2.Flag mode
  identity_named : ∀ v, (identityField, v) ∈ seen → v.Flag draft.identity
  identity_unnamed : identityField ∉ seen.keys → draft.identity = true

theorem holds_nil (identityField : String) : Draft.Holds identityField [] ⟨none, [], true⟩ where
  fields_eq := rfl
  mode_eq_none_iff := by simp
  mode := fun _ h => nomatch h
  identity_named := fun _ h => absurd h List.not_mem_nil
  identity_unnamed := fun _ => rfl

namespace Draft.Holds

/-- The identity, which was not named before, settles nothing but its own flag. -/
theorem addIdentity (h : draft.Holds identityField seen) (hnew : identityField ∉ seen.keys)
    (hflag : v.Flag flag) :
    Draft.Holds identityField (seen ++ [(identityField, v)]) { draft with identity := flag } where
  fields_eq := by
    rw [Dict.keys_append, List.filter_append, h.fields_eq]
    simp [Dict.keys]
  mode_eq_none_iff := by
    rw [List.forall_mem_append, List.forall_mem_singleton, and_iff_left rfl]
    exact h.mode_eq_none_iff
  mode mode hmode := by
    rw [List.forall_mem_append, List.forall_mem_singleton]
    exact ⟨h.mode mode hmode, fun hne => absurd rfl hne⟩
  identity_named v' hv' := by
    rcases List.mem_append.mp hv' with hv' | hv'
    · exact absurd (List.mem_map_of_mem hv') hnew
    · obtain ⟨-, rfl⟩ := Prod.mk.inj (List.mem_singleton.mp hv')
      exact hflag
  identity_unnamed hnot := by
    rw [Dict.keys_append] at hnot
    exact absurd (List.mem_append_right _ List.mem_cons_self) hnot

/-- A field sets the mode, or agrees with it. -/
theorem addField (h : draft.Holds identityField seen) (hfield : field ≠ identityField)
    (hflag : v.Flag flag) (hmode : ∀ mode, draft.mode = some mode → mode = flag) :
    Draft.Holds identityField (seen ++ [(field, v)])
      ⟨some flag, field :: draft.fields, draft.identity⟩ where
  fields_eq := by
    rw [Dict.keys_append, List.filter_append, h.fields_eq]
    simp [Dict.keys, hfield]
  mode_eq_none_iff := by
    rw [List.forall_mem_append, List.forall_mem_singleton]
    exact iff_of_false (Option.some_ne_none flag) fun hall => hfield hall.2
  mode mode hmode' := by
    rw [List.forall_mem_append, List.forall_mem_singleton, ← Option.some.inj hmode']
    refine ⟨fun e he hne => ?_, fun _ => hflag⟩
    cases hold : draft.mode with
    | none => exact absurd (h.mode_eq_none_iff.mp hold e he) hne
    | some mode =>
      rw [← hmode mode hold]
      exact h.mode mode hold e he hne
  identity_named v' hv' := by
    rcases List.mem_append.mp hv' with hv' | hv'
    · exact h.identity_named v' hv'
    · obtain ⟨rfl, -⟩ := Prod.mk.inj (List.mem_singleton.mp hv')
      exact absurd rfl hfield
  identity_unnamed hnot := by
    rw [Dict.keys_append] at hnot
    exact h.identity_unnamed fun hmem => hnot (List.mem_append_left _ hmem)

/-- One more entry settles what the entries up to it say. -/
theorem addEntry (h : draft.Holds identityField seen)
    (hnodup : (Dict.keys (seen ++ [(field, v)])).Nodup)
    (hstep : Projection.addEntry identityField draft (field, v) = .ok draft') :
    draft'.Holds identityField (seen ++ [(field, v)]) := by
  obtain ⟨flag, hflag, ⟨rfl, rfl⟩ | ⟨hfield, hmode, rfl⟩⟩ := addEntry_eq_ok_iff.mp hstep
  · rw [Dict.keys_append] at hnodup
    have hnew : field ∉ seen.keys := fun hmem =>
      (List.nodup_append.mp hnodup).2.2 field hmem field List.mem_cons_self rfl
    exact h.addIdentity hnew hflag
  · exact h.addField hfield hflag hmode

/-- No entry of a uniform specification is refused. -/
theorem exists_addEntry {rest : Dict String Json} (h : draft.Holds identityField seen)
    (hu : Uniform identityField (seen ++ (field, v) :: rest)) :
    ∃ draft', Projection.addEntry identityField draft (field, v) = .ok draft' := by
  have hmem : (field, v) ∈ seen ++ (field, v) :: rest :=
    List.mem_append_right _ List.mem_cons_self
  obtain ⟨flag, hflag⟩ := hu.flags _ hmem
  by_cases hfield : field = identityField
  · exact ⟨_, addEntry_eq_ok_iff.mpr ⟨flag, hflag, .inl ⟨hfield, rfl⟩⟩⟩
  · refine ⟨_, addEntry_eq_ok_iff.mpr ⟨flag, hflag, .inr ⟨hfield, fun mode hmode => ?_, rfl⟩⟩⟩
    -- the mode was set by a field, and the two agree
    have hset : ¬ ∀ e ∈ seen, e.1 = identityField := fun hall => by
      rw [h.mode_eq_none_iff.mpr hall] at hmode
      exact nomatch hmode
    push Not at hset
    obtain ⟨e, he, hne⟩ := hset
    exact hu.agree e (List.mem_append_left _ he) _ hmem hne hfield mode flag
      (h.mode mode hmode e he hne) hflag

/-- What a run through more entries settles. -/
theorem foldlM (h : draft.Holds identityField seen) (hnodup : (Dict.keys (seen ++ entries)).Nodup)
    (hrun : entries.foldlM (Projection.addEntry identityField) draft = .ok draft') :
    draft'.Holds identityField (seen ++ entries) := by
  induction entries generalizing seen draft with
  | nil =>
    rw [List.append_nil, ← Except.ok.inj hrun]
    exact h
  | cons e rest ih =>
    obtain ⟨field, v⟩ := e
    rw [List.foldlM_cons] at hrun
    obtain ⟨next, hstep, hrest⟩ := bind_eq_ok.mp hrun
    rw [List.append_cons] at hnodup ⊢
    refine ih (h.addEntry ?_ hstep) hnodup hrest
    rw [Dict.keys_append] at hnodup
    exact (List.nodup_append.mp hnodup).1

theorem exists_foldlM (h : draft.Holds identityField seen)
    (hnodup : (Dict.keys (seen ++ entries)).Nodup)
    (hu : Uniform identityField (seen ++ entries)) :
    ∃ draft', entries.foldlM (Projection.addEntry identityField) draft = .ok draft' := by
  induction entries generalizing seen draft with
  | nil => exact ⟨draft, rfl⟩
  | cons e rest ih =>
    obtain ⟨field, v⟩ := e
    obtain ⟨next, hstep⟩ := h.exists_addEntry hu
    rw [List.append_cons] at hnodup hu
    have hseen := hnodup
    rw [Dict.keys_append] at hseen
    obtain ⟨draft', hrest⟩ := ih (h.addEntry (List.nodup_append.mp hseen).1 hstep) hnodup hu
    exact ⟨draft', by rw [List.foldlM_cons]; exact bind_eq_ok.mpr ⟨next, hstep, hrest⟩⟩

/-- What all entries have settled is a choice that keeps to them. -/
theorem keepsTo (h : draft.Holds identityField seen) :
    KeepsTo identityField seen ⟨draft.mode.getD false, draft.fields.reverse, draft.identity⟩ where
  fields_eq := by rw [h.fields_eq, List.reverse_reverse]
  keep := fun e he hne => by
    cases hmode : draft.mode with
    | none => exact absurd (h.mode_eq_none_iff.mp hmode e he) hne
    | some mode => exact h.mode mode hmode e he hne
  keep_of_fieldless := fun hall => by
    rw [h.mode_eq_none_iff.mpr hall]
    rfl
  identity_named := h.identity_named
  identity_unnamed := h.identity_unnamed

end Draft.Holds

/-! ## Specifications read -/

theorem KeepsTo.uniform (h : p.KeepsTo identityField entries) : Uniform identityField entries where
  flags := fun e he => by
    obtain ⟨field, v⟩ := e
    by_cases hfield : field = identityField
    · exact ⟨p.identity, h.identity_named v (hfield ▸ he)⟩
    · exact ⟨p.keep, h.keep _ he hfield⟩
  agree := fun e he e' he' hne hne' b b' hb hb' => by
    rw [hb.unique (h.keep e he hne), hb'.unique (h.keep e' he' hne')]

/-- What is read keeps to the specification. -/
theorem keepsTo_of_read (hnodup : entries.keys.Nodup) (h : read identityField entries = .ok p) :
    p.KeepsTo identityField entries := by
  obtain ⟨draft, hdraft, hp⟩ := bind_eq_ok.mp h
  rw [← Except.ok.inj hp]
  exact ((holds_nil identityField).foldlM hnodup hdraft).keepsTo

/-- A specification is read exactly when it is uniform. -/
theorem exists_read_iff (hnodup : entries.keys.Nodup) :
    (∃ p, read identityField entries = .ok p) ↔ Uniform identityField entries := by
  constructor
  · rintro ⟨p, h⟩
    exact (keepsTo_of_read hnodup h).uniform
  · intro hu
    obtain ⟨draft, hdraft⟩ :=
      (holds_nil identityField).exists_foldlM hnodup hu
    exact ⟨_, bind_eq_ok.mpr ⟨draft, hdraft, rfl⟩⟩

/-- Which specifications are read, what they are read as, and that the order of their entries
decides nothing but the order of the fields. -/
theorem read_decides (identityField : String) (hnodup : entries.keys.Nodup) :
    ((∃ p, read identityField entries = .ok p) ↔ Uniform identityField entries) ∧
    (∀ p, read identityField entries = .ok p → p.KeepsTo identityField entries) ∧
    ∀ entries' : Dict String Json, entries.Perm entries' →
      ((∃ p, read identityField entries = .ok p) ↔ ∃ p, read identityField entries' = .ok p) ∧
      ∀ p p', read identityField entries = .ok p → read identityField entries' = .ok p' →
        p.keep = p'.keep ∧ p.identity = p'.identity ∧ p.fields.Perm p'.fields := by
  refine ⟨exists_read_iff hnodup, fun p => keepsTo_of_read hnodup, fun entries' hperm => ?_⟩
  have hnodup' : entries'.keys.Nodup := (hperm.map Prod.fst).nodup_iff.mp hnodup
  refine ⟨?_, fun p p' hp hp' =>
    (keepsTo_of_read hnodup hp).perm (keepsTo_of_read hnodup' hp') hperm⟩
  rw [exists_read_iff hnodup, exists_read_iff hnodup']
  exact ⟨fun h => h.perm hperm, fun h => h.perm hperm.symm⟩

/-- The identity is told apart wherever it stands, and a truth value is as good as a
number. -/
theorem read_decides_secret :
    (Dict.keys [("secret", Json.number (.integer 0)), ("_id", .bool true),
      ("a.b", .bool false)]).Nodup ∧
    ∃ p p',
      read "_id" [("secret", .number (.integer 0)), ("_id", .bool true), ("a.b", .bool false)] =
        .ok p ∧
      read "_id" [("a.b", .bool false), ("secret", .number (.integer 0)), ("_id", .bool true)] =
        .ok p' ∧
      p.KeepsTo "_id" [("secret", .number (.integer 0)), ("_id", .bool true),
        ("a.b", .bool false)] ∧
      p.keep = p'.keep ∧ p.identity = p'.identity ∧ p.fields.Perm p'.fields ∧
      p.fields = ["secret", "a.b"] ∧ p'.fields = ["a.b", "secret"] := by
  have hnodup : (Dict.keys [("secret", Json.number (.integer 0)), ("_id", .bool true),
      ("a.b", .bool false)]).Nodup := by decide
  obtain ⟨-, hkeeps, hperm⟩ := read_decides "_id" hnodup
  obtain ⟨hkeep, hidentity, hfields⟩ := (hperm
    [("a.b", .bool false), ("secret", .number (.integer 0)), ("_id", .bool true)]
    (List.perm_append_singleton _ [_, _])).2 _ _ rfl rfl
  exact ⟨hnodup, _, _, rfl, rfl, hkeeps _ rfl, hkeep, hidentity, hfields, rfl, rfl⟩

/-! ## Fields returned -/

/-- What a choice answers about a field: a named field other than the identity gets its flag;
the identity gets what a field gets that is not named, which is its own flag exactly where that
is not the mode of the others. -/
theorem includes_of_read (hnodup : entries.keys.Nodup)
    (h : read identityField entries = .ok p) :
    (∀ e ∈ entries, e.1 ≠ identityField → e.2.Flag (p.includes e.1)) ∧
    (∀ field, field ∉ entries.keys → p.includes field = !p.keep) ∧
    p.includes identityField = (!p.keep) ∧
    ∀ v flag, (identityField, v) ∈ entries → v.Flag flag →
      (p.includes identityField = flag ↔ flag ≠ p.keep) := by
  have hkeeps := keepsTo_of_read hnodup h
  have hunlisted {field : String} (hfield : field ∉ p.fields) : p.includes field = !p.keep := by
    have hcontains : p.fields.contains field = false := by simpa using hfield
    rw [includes, hcontains]
    cases p.keep <;> rfl
  have hidentity : p.includes identityField = !p.keep :=
    hunlisted fun hmem => (hkeeps.mem_fields.mp hmem).2 rfl
  refine ⟨fun e he hne => ?_, fun field hfield => ?_, hidentity, fun v flag _ _ => ?_⟩
  · have hlisted : p.fields.contains e.1 = true :=
      List.contains_iff_mem.mpr (hkeeps.mem_fields.mpr ⟨List.mem_map_of_mem he, hne⟩)
    have hkeep : p.includes e.1 = p.keep := by
      rw [includes, hlisted]
      cases p.keep <;> rfl
    rw [hkeep]
    exact hkeeps.keep e he hne
  · exact hunlisted fun hmem => hfield (hkeeps.mem_fields.mp hmem).1
  · rw [hidentity]
    cases p.keep <;> cases flag <;> simp

/-- The identity left out beside a field asked for: here its flag is answered. -/
theorem includes_of_read_name :
    (Dict.keys [("name", Json.number (.integer 1)), ("_id", .number (.integer 0))]).Nodup ∧
    ∃ p, read "_id" [("name", .number (.integer 1)), ("_id", .number (.integer 0))] = .ok p ∧
      Json.Flag (.number (.integer 1)) (p.includes "name") ∧ p.includes "price" = !p.keep ∧
      (p.includes "_id" = false ↔ false ≠ p.keep) := by
  have hnodup :
      (Dict.keys [("name", Json.number (.integer 1)), ("_id", .number (.integer 0))]).Nodup := by
    decide
  obtain ⟨p, hread⟩ : ∃ p,
      read "_id" [("name", .number (.integer 1)), ("_id", .number (.integer 0))] = .ok p :=
    ⟨_, rfl⟩
  obtain ⟨hnamed, hunnamed, -, hidentity⟩ := includes_of_read hnodup hread
  exact ⟨hnodup, p, hread, hnamed _ List.mem_cons_self (by decide), hunnamed "price" (by decide),
    hidentity _ false (List.mem_cons_of_mem _ List.mem_cons_self) .zero⟩

/-- The identity is asked for beside a field, the choice returns it, and answers that it does
not; alone and left out, it is answered to be returned. -/
theorem exists_misreported :
    (∃ p, read "_id" [("_id", .number (.integer 1)), ("name", .number (.integer 1))] = .ok p ∧
      Json.Flag (.number (.integer 1)) true ∧ p.identity = true ∧ p.includes "_id" = false) ∧
    ∃ p, read "_id" [("_id", .number (.integer 0))] = .ok p ∧
      Json.Flag (.number (.integer 0)) false ∧ p.identity = false ∧ p.includes "_id" = true :=
  ⟨⟨_, rfl, .one, rfl, rfl⟩, _, rfl, .zero, rfl, rfl⟩

end Projection
end DocFilter
