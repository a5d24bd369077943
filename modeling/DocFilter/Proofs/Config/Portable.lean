import DocFilter.Proofs.Config.Brace

/-!
# One text under several environments

Whether a text with references is well formed can be seen without an environment: every reference
has an end and a name (`Reference.WellFormed`), and a text is well formed exactly if some
environment can expand it.  So a text that is expanded under one environment has no reference
without an end, and none without a name, under any other.

The same cannot be said of modifiers.  A modifier is looked at only where the variable is unset or
empty, so a modifier that means nothing goes unnoticed wherever the variable is set, and is
refused where it is not (`Reference.exists_tolerated`).  What can become of a text elsewhere is
said by `Reference.transfers`: it is expanded, or a variable has to be set that is not, or such a
modifier comes to light.
-/

namespace DocFilter
namespace Reference

variable {env env' : Environment} {text : String}

/-! ## The first part that cannot be filled in -/

/-- The part stands for something. -/
def Part.Fills (env : Environment) (p : Part) : Prop := ∃ cs, p.fill env = .ok cs

theorem fillAll_cons (env : Environment) (p : Part) (ps : List Part) :
    fillAll env (p :: ps) = p.fill env >>= fun cs => (fillAll env ps).map (cs ++ ·) := by
  rw [← List.singleton_append, fillAll_append, fillAll_singleton]
  rfl

/-- Parts are filled in up to the first that stands for nothing, which says why. -/
theorem fillAll_eq_error_iff {ps : List Part} {e : ConfigError} :
    fillAll env ps = .error e ↔ ∃ before p after, ps = before ++ p :: after ∧
      (∀ b ∈ before, b.Fills env) ∧ p.fill env = .error e := by
  induction ps with
  | nil =>
    refine ⟨fun h => absurd h (by simp [fillAll, pure, Except.pure, Except.map]), ?_⟩
    rintro ⟨before, p, after, h, -⟩
    exact absurd h (by simp)
  | cons p ps ih =>
    rw [fillAll_cons]
    cases hp : p.fill env with
    | error x =>
      constructor
      · intro h
        exact ⟨[], p, ps, rfl, fun b hb => absurd hb List.not_mem_nil, hp.trans h⟩
      · rintro ⟨before, q, after, h, hbefore, hq⟩
        cases before with
        | nil =>
          obtain ⟨rfl, -⟩ := List.cons.inj h
          exact hp.symm.trans hq
        | cons b before =>
          obtain ⟨rfl, -⟩ := List.cons.inj h
          obtain ⟨cs, hcs⟩ := hbefore p List.mem_cons_self
          exact absurd (hp.symm.trans hcs) (by simp)
    | ok cs =>
      have hrest : (Except.ok cs >>= fun cs => (fillAll env ps).map (cs ++ ·)) = .error e ↔
          fillAll env ps = .error e := map_eq_error
      rw [hrest, ih]
      constructor
      · rintro ⟨before, q, after, rfl, hbefore, hq⟩
        exact ⟨p :: before, q, after, rfl, List.forall_mem_cons.mpr ⟨⟨cs, hp⟩, hbefore⟩, hq⟩
      · rintro ⟨before, q, after, h, hbefore, hq⟩
        cases before with
        | nil =>
          obtain ⟨rfl, -⟩ := List.cons.inj h
          exact absurd (hp.symm.trans hq) (by simp)
        | cons b before =>
          obtain ⟨rfl, rfl⟩ := List.cons.inj h
          exact ⟨before, q, after, rfl, (List.forall_mem_cons.mp hbefore).2, hq⟩

/-- The parts of a text that is expanded stand for something, all of them. -/
theorem fillAll_ok_iff {ps : List Part} :
    (∃ cs, fillAll env ps = .ok cs) ↔ ∀ p ∈ ps, p.Fills env := by
  induction ps with
  | nil => exact ⟨fun _ p hp => absurd hp List.not_mem_nil, fun _ => ⟨[], rfl⟩⟩
  | cons p ps ih =>
    rw [fillAll_cons, List.forall_mem_cons, ← ih]
    constructor
    · rintro ⟨cs, h⟩
      obtain ⟨xs, hxs, h⟩ := bind_eq_ok.mp h
      obtain ⟨ys, hys, -⟩ := map_eq_ok.mp h
      exact ⟨⟨xs, hxs⟩, ys, hys⟩
    · rintro ⟨⟨xs, hxs⟩, ys, hys⟩
      exact ⟨xs ++ ys, bind_eq_ok.mpr ⟨xs, hxs, map_eq_ok.mpr ⟨ys, hys, rfl⟩⟩⟩

theorem expand_ok_iff :
    (∃ out, expand env text = .ok out) ↔ ∀ p ∈ parts text.toList, p.Fills env := by
  rw [← fillAll_ok_iff]
  constructor
  · rintro ⟨out, h⟩
    exact ⟨_, expand_eq_ok_iff.mp h⟩
  · rintro ⟨cs, h⟩
    exact ⟨String.ofList cs, by rw [expand_eq_ok_iff, String.toList_ofList, h]⟩

theorem expand_eq_error_iff {e : ConfigError} :
    expand env text = .error e ↔ ∃ before p after, parts text.toList = before ++ p :: after ∧
      (∀ b ∈ before, b.Fills env) ∧ p.fill env = .error e := by
  rw [← fillAll_eq_error_iff, expand_eq_map_fillAll, map_eq_error]

/-! ## References that fail -/

/-- The modifier means something, or there is none. -/
def IsKnown (r : Reference) : Prop :=
  r.modifier = none ∨ r.modifier = some '-' ∨ r.modifier = some '?'

theorem fallback_of_unknown {name argument : String} {c : Char} (hdash : c ≠ '-')
    (hquestion : c ≠ '?') :
    fallback ⟨name, some c, argument⟩ = .error (.reference name (.unsupportedModifier c)) := by
  simp [fallback]

/-- What is said where nothing stands in for a variable. -/
theorem fallback_eq_error {r : Reference} {e : ConfigError} (h : r.fallback = .error e) :
    (r.modifier = none ∧ e = .unsetVariable r.name) ∨
    (r.modifier = some '?' ∧
      e = .reference r.name (.required (Segment.complaint r.name r.argument))) ∨
    ∃ c, r.modifier = some c ∧ ¬ r.IsKnown ∧ e = .reference r.name (.unsupportedModifier c) := by
  obtain ⟨name, modifier, argument⟩ := r
  cases modifier with
  | none => exact .inl ⟨rfl, (Except.error.inj h).symm⟩
  | some c =>
    by_cases hdash : c = '-'
    · rw [hdash] at h
      exact absurd h (by simp [fallback])
    by_cases hquestion : c = '?'
    · rw [hquestion, fallback_required] at h
      exact .inr (.inl ⟨congrArg some hquestion, (Except.error.inj h).symm⟩)
    · rw [fallback_of_unknown hdash hquestion] at h
      have hunknown : ¬ IsKnown ⟨name, some c, argument⟩ := by simp [IsKnown, hdash, hquestion]
      exact .inr (.inr ⟨c, rfl, hunknown, (Except.error.inj h).symm⟩)

/-- What stands for something under one environment and for nothing under another refers to a
variable that only the first one has. -/
theorem exists_reference_of_fill {p : Part} {e : ConfigError} (h : p.Fills env)
    (he : p.fill env' = .error e) :
    ∃ r, p = .reference r ∧ (∃ s, env.nonempty? r.name = some s) ∧
      env'.nonempty? r.name = none ∧ r.fallback = .error e := by
  obtain ⟨cs, hcs⟩ := h
  cases p with
  | char c => exact absurd he (by simp [Part.fill])
  | unclosed name => exact absurd hcs (by simp [Part.fill])
  | reference r =>
    obtain ⟨s, hs, -⟩ := map_eq_ok.mp hcs
    obtain ⟨hname, hset⟩ := value_eq_ok_iff.mp hs
    rw [Part.fill, value_of_ne_empty hname] at he
    cases hunset : env'.nonempty? r.name with
    | some s' =>
      rw [hunset] at he
      exact absurd he (by simp [Except.map])
    | none =>
      rw [hunset] at he
      have hfallback : r.fallback = .error e := map_eq_error.mp he
      obtain hset | ⟨-, hdefault⟩ := hset
      · exact ⟨r, rfl, ⟨s, hset⟩, hunset, hfallback⟩
      · rw [fallback_eq_ok_iff.mpr hdefault] at hfallback
        exact absurd hfallback (by simp)

/-! ## Well-formed texts -/

/-- A reference has an end and a name. -/
def Part.IsWhole : Part → Prop
  | .char _ => True
  | .reference r => r.name ≠ ""
  | .unclosed _ => False

/-- Every reference of the text has an end and a name. -/
def WellFormed (text : String) : Prop := ∀ p ∈ parts text.toList, p.IsWhole

theorem Part.Fills.isWhole {p : Part} (h : p.Fills env) : p.IsWhole := by
  obtain ⟨cs, hcs⟩ := h
  cases p with
  | char c => trivial
  | unclosed name => exact absurd hcs (by simp [Part.fill])
  | reference r =>
    obtain ⟨s, hs, -⟩ := map_eq_ok.mp hcs
    exact (value_eq_ok_iff.mp hs).1

/-- A reference with a name stands for something where its variable is set or it has a default. -/
theorem Part.IsWhole.fills {p : Part} (h : p.IsWhole)
    (hset : ∀ r, p = .reference r → (∃ s, env.nonempty? r.name = some s) ∨
      env.nonempty? r.name = none ∧ r.modifier = some '-') : p.Fills env := by
  cases p with
  | char c => exact ⟨[c], rfl⟩
  | unclosed name => exact h.elim
  | reference r =>
    obtain ⟨s, hs⟩ | ⟨hunset, hdefault⟩ := hset r rfl
    · exact ⟨s.toList, map_eq_ok.mpr ⟨s, value_eq_ok_iff.mpr ⟨h, .inl hs⟩, rfl⟩⟩
    · exact ⟨r.argument.toList, map_eq_ok.mpr
        ⟨r.argument, value_eq_ok_iff.mpr ⟨h, .inr ⟨hunset, hdefault, rfl⟩⟩, rfl⟩⟩

theorem wellFormed_of_expand {out : String} (h : expand env text = .ok out) : WellFormed text :=
  fun p hp => (expand_ok_iff.mp ⟨out, h⟩ p hp).isWhole

/-- The environment in which all variables are set but those. -/
def allBut (unset : String → Prop) [DecidablePred unset] : Environment :=
  fun name => if unset name then none else some "set"

theorem nonempty?_allBut (unset : String → Prop) [DecidablePred unset] (name : String) :
    (allBut unset).nonempty? name = if unset name then none else some "set" := by
  unfold Environment.nonempty? allBut
  split <;> rfl

theorem exists_expand_of_wellFormed (h : WellFormed text) :
    ∃ env out, expand env text = .ok out := by
  refine ⟨allBut fun _ => False, expand_ok_iff.mpr fun p hp => (h p hp).fills fun r _ => ?_⟩
  exact .inl ⟨"set", by rw [nonempty?_allBut, if_neg id]⟩

/-! ## The same text elsewhere -/

/-- A variable has to be set for the text and is not, and this is what is said about it. -/
inductive Lacks (env : Environment) (text : String) : ConfigError → Prop
  | unset {r : Reference} (hmem : .reference r ∈ parts text.toList)
      (hunset : env.nonempty? r.name = none) (hplain : r.modifier = none) :
      Lacks env text (.unsetVariable r.name)
  | required {r : Reference} (hmem : .reference r ∈ parts text.toList)
      (hunset : env.nonempty? r.name = none) (hrequired : r.modifier = some '?') :
      Lacks env text (.reference r.name (.required (Segment.complaint r.name r.argument)))

/-- Where the text is expanded under one environment, it can fail under others only for the want
of a variable. -/
def Portable (text : String) : Prop :=
  ∀ env out, expand env text = .ok out → ∀ env' e, expand env' text = .error e → Lacks env' text e

/-- The modifier of the reference means nothing, and no reference in front of it fails whenever
it does. -/
def Exposed (text : String) (r : Reference) : Prop :=
  ¬ r.IsKnown ∧ ∃ before after, parts text.toList = before ++ .reference r :: after ∧
    ∀ s, .reference s ∈ before → s.name = r.name → s.modifier = some '-'

theorem lacks_or_exposed {out : String} {e : ConfigError} (h : expand env text = .ok out)
    (he : expand env' text = .error e) :
    Lacks env' text e ∨ ∃ r c, Exposed text r ∧ r.modifier = some c ∧
      (∃ s, env.nonempty? r.name = some s) ∧ env'.nonempty? r.name = none ∧
      e = .reference r.name (.unsupportedModifier c) := by
  obtain ⟨before, p, after, hparts, hbefore, hp⟩ := expand_eq_error_iff.mp he
  have hmem : p ∈ parts text.toList := hparts ▸ List.mem_append_cons_self
  obtain ⟨r, rfl, hset, hunset, hfallback⟩ :=
    exists_reference_of_fill (expand_ok_iff.mp ⟨out, h⟩ p hmem) hp
  obtain ⟨hplain, rfl⟩ | ⟨hrequired, rfl⟩ | ⟨c, hc, hunknown, rfl⟩ := fallback_eq_error hfallback
  · exact .inl (.unset hmem hunset hplain)
  · exact .inl (.required hmem hunset hrequired)
  · refine .inr ⟨r, c, ⟨hunknown, before, after, hparts, fun s hs hname => ?_⟩, hc, hset, hunset,
      rfl⟩
    -- What stands in front was filled in although the variable is not set.
    obtain ⟨cs, hcs⟩ := hbefore _ hs
    obtain ⟨v, hv, -⟩ := map_eq_ok.mp hcs
    obtain ⟨-, hsome | ⟨-, hdefault, -⟩⟩ := value_eq_ok_iff.mp hv
    · rw [hname, hunset] at hsome
      exact absurd hsome (by simp)
    · exact hdefault

/-- Where only the variable of an exposed reference is not set, its modifier is refused. -/
theorem exists_expand_of_exposed {r : Reference} (h : WellFormed text) (hr : Exposed text r) :
    ∃ env c, r.modifier = some c ∧
      expand env text = .error (.reference r.name (.unsupportedModifier c)) := by
  obtain ⟨hunknown, before, after, hparts, hbefore⟩ := hr
  obtain ⟨c, hc⟩ : ∃ c, r.modifier = some c :=
    Option.ne_none_iff_exists'.mp fun hnone => hunknown (.inl hnone)
  refine ⟨allBut (· = r.name), c, hc, expand_eq_error_iff.mpr
    ⟨before, .reference r, after, hparts, fun b hb => ?_, ?_⟩⟩
  · have hmem : b ∈ parts text.toList := hparts ▸ List.mem_append_left _ hb
    refine (h b hmem).fills ?_
    rintro s rfl
    rw [nonempty?_allBut]
    by_cases hname : s.name = r.name
    · exact .inr ⟨if_pos hname, hbefore s hb hname⟩
    · exact .inl ⟨"set", if_neg hname⟩
  · have hname : r.name ≠ "" := h (.reference r) (hparts ▸ List.mem_append_cons_self)
    have hdash : c ≠ '-' := fun he => hunknown (.inr (.inl (he ▸ hc)))
    have hquestion : c ≠ '?' := fun he => hunknown (.inr (.inr (he ▸ hc)))
    have hunset : (allBut (· = r.name)).nonempty? r.name = none := by
      rw [nonempty?_allBut, if_pos rfl]
    rw [Part.fill, value_of_ne_empty hname, hunset]
    obtain ⟨name, modifier, argument⟩ := r
    cases hc
    exact congrArg (Except.map String.toList) (fallback_of_unknown hdash hquestion)

/-- What can become of a text under other environments. -/
structure Transfers (text : String) : Prop where
  /-- The texts that can be expanded at all are the well-formed ones. -/
  wellFormed_iff : WellFormed text ↔ ∃ env out, expand env text = .ok out
  /-- A text that is expanded somewhere fails elsewhere for the want of a variable, or because of
  a modifier that went unnoticed. -/
  fails : ∀ env out, expand env text = .ok out → ∀ env' e, expand env' text = .error e →
    Lacks env' text e ∨ ∃ r c, Exposed text r ∧ r.modifier = some c ∧
      (∃ s, env.nonempty? r.name = some s) ∧ env'.nonempty? r.name = none ∧
      e = .reference r.name (.unsupportedModifier c)
  /-- It fails for nothing but the want of a variable exactly if no such modifier can come to
  light. -/
  portable_iff : Portable text ↔ (WellFormed text → ∀ r, ¬ Exposed text r)
  /-- In particular where every modifier is one that means something. -/
  portable_of_known : (∀ r, .reference r ∈ parts text.toList → r.IsKnown) → Portable text

theorem not_lacks_unsupportedModifier {name : String} {c : Char} :
    ¬ Lacks env text (.reference name (.unsupportedModifier c)) := nofun

/-- Which texts fail elsewhere, and how. -/
theorem transfers (text : String) : Transfers text := by
  have hportable : Portable text ↔ (WellFormed text → ∀ r, ¬ Exposed text r) := by
    constructor
    · intro h hwell r hr
      obtain ⟨env, out, hout⟩ := exists_expand_of_wellFormed hwell
      obtain ⟨env', c, -, he⟩ := exists_expand_of_exposed hwell hr
      exact not_lacks_unsupportedModifier (h env out hout env' _ he)
    · intro h env out hout env' e he
      obtain hlacks | ⟨r, -, hr, -⟩ := lacks_or_exposed hout he
      · exact hlacks
      · exact absurd hr (h (wellFormed_of_expand hout) r)
  refine ⟨⟨exists_expand_of_wellFormed, fun ⟨env, out, h⟩ => wellFormed_of_expand h⟩,
    fun env out h env' e he => lacks_or_exposed h he, hportable, fun hknown => ?_⟩
  refine hportable.mpr fun _ r hr => ?_
  obtain ⟨hunknown, before, after, hparts, -⟩ := hr
  exact hunknown (hknown r (hparts ▸ List.mem_append_cons_self))

/-- A modifier that means nothing goes unnoticed where the variable is set, and is refused where
it is not. -/
theorem exists_tolerated :
    expand (.ofEntries [("A", "v")]) "$\x7bA:+x\x7d" = .ok "v" ∧
      expand (.ofEntries []) "$\x7bA:+x\x7d" =
        .error (.reference "A" (.unsupportedModifier '+')) ∧
      ¬ Portable "$\x7bA:+x\x7d" := by
  refine ⟨rfl, rfl, fun h => ?_⟩
  exact not_lacks_unsupportedModifier (h (.ofEntries [("A", "v")]) "v" rfl (.ofEntries []) _ rfl)

end Reference
end DocFilter
