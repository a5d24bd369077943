import DocFilter.Endpoint.Registry
import DocFilter.Proofs.Dict
import DocFilter.Proofs.List
import Mathlib.Data.List.Nodup

/-!
# What a registry holds and finds

A registry holds the endpoints it has accepted, in order, each with its path in normal form and
under its own verb and path, and no two of them under the same (`Registry.Holds`).  One endpoint
more is accepted, or refused for a fault in its settings or for one that stands in its place
(`Registry.Holds.answered`); nothing else can come of it, and that is all that is ever said of
`Registry.register`.  A registry is changed in place, but all checks come before the change, so
a refusal leaves it as it was (`Registry.call_eq_error`).

So what is found under a verb and a path is an endpoint that was accepted, and every endpoint
that was accepted is found.
-/

namespace DocFilter

namespace Endpoint

/-- Requests under this verb and path are meant for the endpoint. -/
def Answers (e : Endpoint) (verb : Verb) (path : String) : Prop :=
  e.verb = verb ∧ normalizePath e.path = normalizePath path

/-- The endpoint as a registry keeps it. -/
def kept (e : Endpoint) : Endpoint := { e with path := normalizePath e.path }

/-- What an endpoint is registered under. -/
def key (e : Endpoint) : Verb × String := (e.verb, normalizePath e.path)

variable {e : Endpoint}

theorem answers_iff_key {verb : Verb} {path : String} :
    e.Answers verb path ↔ e.key = (verb, normalizePath path) :=
  ⟨fun h => Prod.ext h.1 h.2, Prod.mk.inj⟩

theorem exists_setting_of_validateSymbol {field symbol : String} {x : ConfigError}
    (h : e.validateSymbol field symbol = .error x) : ∃ key fault, x = .setting key fault := by
  unfold validateSymbol at h
  split at h
  · exact absurd h (by simp)
  · split at h
    · exact absurd h (by simp)
    · exact ⟨_, _, (Except.error.inj h).symm⟩
    · exact ⟨_, _, (Except.error.inj h).symm⟩

/-- An endpoint that is not valid has a fault in one of its settings. -/
theorem exists_setting_of_validate {x : ConfigError} (h : e.validate = .error x) :
    ∃ key fault, x = .setting key fault := by
  unfold validate at h
  by_cases hpath : Text.isBlankText e.path = true
  · rw [if_pos hpath] at h
    exact ⟨_, _, (Except.error.inj h).symm⟩
  rw [if_neg hpath] at h
  by_cases htable : Text.isBlankText e.table = true
  · rw [if_pos htable] at h
    exact ⟨_, _, (Except.error.inj h).symm⟩
  rw [if_neg htable] at h
  obtain ⟨rule, -, hrule⟩ := exists_of_forM_eq_error (h : List.forM _ e.validateRule = .error x)
  obtain ⟨symbol, -, hsymbol⟩ := exists_of_forM_eq_error hrule
  exact exists_setting_of_validateSymbol hsymbol

end Endpoint

namespace Registry

variable {r : Registry} {accepted : List Endpoint}

/-! ## One endpoint more -/

/-- The registry holds these endpoints, in this order: each with its path in normal form,
under its verb and path, and no two under the same. -/
structure Holds (r : Registry) (accepted : List Endpoint) : Prop where
  endpoints_eq : r.endpoints = accepted.map fun e => (e.key, e.kept)
  nodup : (accepted.map Endpoint.key).Nodup

/-- Requests for the endpoint would be answered by one that was accepted. -/
def Taken (accepted : List Endpoint) (e : Endpoint) : Prop :=
  ∃ old ∈ accepted, old.Answers e.verb e.path

theorem Holds.empty : Registry.empty.Holds [] := ⟨rfl, List.nodup_nil⟩

theorem Holds.keys_eq (h : r.Holds accepted) : r.endpoints.keys = accepted.map Endpoint.key := by
  rw [h.endpoints_eq, Dict.keys, List.map_map]
  rfl

theorem Holds.contains_iff_taken (h : r.Holds accepted) (e : Endpoint) :
    Dict.contains e.key r.endpoints = true ↔ Taken accepted e := by
  rw [Dict.contains_iff, h.keys_eq, List.mem_map]
  exact exists_congr fun old => and_congr_right fun _ => Endpoint.answers_iff_key.symm

theorem call_of_invalid {e : Endpoint} {x : ConfigError} (hvalid : e.validate = .error x) :
    r.call e = (.error x, r) := by
  rw [call, register, hvalid]
  rfl

theorem call_of_valid {e : Endpoint} (hvalid : e.validate = .ok ()) :
    r.call e = if Dict.contains e.key r.endpoints then
        (.error (.duplicateEndpoint e.verb.name (Endpoint.normalizePath e.path)), r)
      else (.ok (), ⟨Dict.insert e.key e.kept r.endpoints⟩) := by
  have hcall : r.call e = ((if Dict.contains e.key r.endpoints then
      throw (.duplicateEndpoint e.verb.name (Endpoint.normalizePath e.path))
    else modifyThe Registry fun r => ⟨Dict.insert e.key e.kept r.endpoints⟩ :
      ExceptT ConfigError (StateM Registry) Unit)).run.run r := by
    rw [call, register, hvalid]
    rfl
  rw [hcall]
  split
  · rfl
  · rfl

/-- A call that is refused leaves the registry as it was: the entry is made last. -/
theorem call_eq_error {e : Endpoint} {x : ConfigError} (h : (r.call e).1 = .error x) :
    (r.call e).2 = r := by
  cases hvalid : e.validate with
  | error y => rw [call_of_invalid hvalid]
  | ok _ =>
    rw [call_of_valid hvalid] at h ⊢
    split at h
    · next htaken => rw [if_pos htaken]
    · exact absurd h (by simp)

/-- What a call on a registry can come to. -/
inductive Answered (r : Registry) (accepted : List Endpoint) (e : Endpoint) : Prop
  | invalid {key : String} {fault : SettingFault}
      (hvalid : e.validate = .error (.setting key fault))
      (h : r.call e = (.error (.setting key fault), r))
  | taken (hvalid : e.validate = .ok ()) (htaken : Taken accepted e)
      (h : r.call e =
        (.error (.duplicateEndpoint e.verb.name (Endpoint.normalizePath e.path)), r))
  | accepted {r' : Registry} (hvalid : e.validate = .ok ()) (hfree : ¬ Taken accepted e)
      (h : r.call e = (.ok (), r')) (hholds : r'.Holds (accepted ++ [e]))

theorem Holds.answered (h : r.Holds accepted) (e : Endpoint) : r.Answered accepted e := by
  cases hvalid : e.validate with
  | error x =>
    obtain ⟨key, fault, rfl⟩ := Endpoint.exists_setting_of_validate hvalid
    exact .invalid hvalid (call_of_invalid hvalid)
  | ok _ =>
    have hcall := call_of_valid (r := r) hvalid
    by_cases htaken : Taken accepted e
    · rw [if_pos ((h.contains_iff_taken e).mpr htaken)] at hcall
      exact .taken hvalid htaken hcall
    · have hnot : ¬ Dict.contains e.key r.endpoints = true :=
        fun hc => htaken ((h.contains_iff_taken e).mp hc)
      have hnew : e.key ∉ r.endpoints.keys := fun hmem => hnot (Dict.contains_iff.mpr hmem)
      rw [if_neg hnot, Dict.insert_of_not_mem hnew] at hcall
      refine .accepted hvalid htaken hcall ⟨?_, ?_⟩
      · rw [List.map_append, h.endpoints_eq]
        rfl
      · rw [h.keys_eq] at hnew
        rw [List.map_append]
        have hnodup := List.Nodup.concat hnew h.nodup
        rwa [List.concat_eq_append] at hnodup

/-! ## What is found -/

theorem Holds.find?_eq_some_iff (h : r.Holds accepted) {key : Verb × String} {e : Endpoint} :
    Dict.find? key r.endpoints = some e ↔ ∃ a ∈ accepted, a.key = key ∧ a.kept = e := by
  have hnodup : r.endpoints.keys.Nodup := h.keys_eq ▸ h.nodup
  have hmem : (key, e) ∈ r.endpoints ↔ ∃ a ∈ accepted, a.key = key ∧ a.kept = e := by
    rw [h.endpoints_eq, List.mem_map]
    exact exists_congr fun a => and_congr_right fun _ => Prod.mk.injEq .. ▸ Iff.rfl
  exact ⟨fun hfind => hmem.mp (Dict.mem_of_find? hfind),
    fun ha => Dict.find?_of_mem hnodup (hmem.mpr ha)⟩

theorem get_of_find?_eq_some {verb : Verb} {path : String} {e : Endpoint}
    (h : Dict.find? (verb, Endpoint.normalizePath path) r.endpoints = some e) :
    r.get verb path = .ok e := by
  simp only [get, h]

theorem get_of_find?_eq_none {verb : Verb} {path : String}
    (h : Dict.find? (verb, Endpoint.normalizePath path) r.endpoints = none) :
    r.get verb path =
      .error (.ofCause (.unknownEndpoint verb.name (Endpoint.normalizePath path))) := by
  simp only [get, h]

/-- What is found is an endpoint that was accepted, as it is kept. -/
theorem Holds.get_eq_ok_iff (h : r.Holds accepted) {verb : Verb} {path : String} {e : Endpoint} :
    r.get verb path = .ok e ↔ ∃ a ∈ accepted, a.Answers verb path ∧ a.kept = e := by
  have hfind : (∃ a ∈ accepted, a.Answers verb path ∧ a.kept = e) ↔
      Dict.find? (verb, Endpoint.normalizePath path) r.endpoints = some e := by
    rw [h.find?_eq_some_iff]
    exact exists_congr fun a => and_congr_right fun _ =>
      and_congr_left fun _ => Endpoint.answers_iff_key
  rw [hfind]
  refine ⟨fun hget => ?_, get_of_find?_eq_some⟩
  cases hfound : Dict.find? (verb, Endpoint.normalizePath path) r.endpoints with
  | none => exact absurd (hget.symm.trans (get_of_find?_eq_none hfound)) (by simp)
  | some e' => rw [Except.ok.inj (hget.symm.trans (get_of_find?_eq_some hfound))]

/-- Nothing is found where no endpoint that was accepted answers. -/
theorem Holds.get_eq_error_iff (h : r.Holds accepted) {verb : Verb} {path : String}
    {x : QueryError} : r.get verb path = .error x ↔
      (∀ a ∈ accepted, ¬ a.Answers verb path) ∧
        x = .ofCause (.unknownEndpoint verb.name (Endpoint.normalizePath path)) := by
  cases hfound : Dict.find? (verb, Endpoint.normalizePath path) r.endpoints with
  | none =>
    have hget := get_of_find?_eq_none hfound
    have hno : ∀ a ∈ accepted, ¬ a.Answers verb path := fun a ha hanswers =>
      absurd ((h.get_eq_ok_iff.mpr ⟨a, ha, hanswers, rfl⟩).symm.trans hget) (by simp)
    rw [hget]
    exact ⟨fun hx => ⟨hno, (Except.error.inj hx).symm⟩, fun hx => congrArg _ hx.2.symm⟩
  | some e =>
    have hget := get_of_find?_eq_some hfound
    obtain ⟨a, ha, hanswers, -⟩ := h.get_eq_ok_iff.mp hget
    rw [hget]
    exact ⟨fun hx => absurd hx (by simp), fun hx => absurd hanswers (hx.1 a ha)⟩

/-! ## The registry of a list -/

theorem run_forM_cons (e : Endpoint) (rest : List Endpoint) :
    ((e :: rest).forM register).run.run r = match r.call e with
      | (.ok _, r') => (rest.forM register).run.run r'
      | (.error x, r') => (.error x, r') := by
  rw [List.forM_eq_forM, List.forM_cons, ExceptT.run_bind, StateT.run_bind, call]
  rcases (register e).run.run r with ⟨x | u, r'⟩
  · rfl
  · rfl

theorem Holds.forM (h : r.Holds accepted) {endpoints : List Endpoint} {r' : Registry}
    (hrun : (endpoints.forM register).run.run r = (.ok (), r')) :
    r'.Holds (accepted ++ endpoints) := by
  induction endpoints generalizing r accepted with
  | nil =>
    rw [← (Prod.mk.inj hrun).2, List.append_nil]
    exact h
  | cons e rest ih =>
    rw [run_forM_cons] at hrun
    cases h.answered e with
    | invalid _ hcall | taken _ _ hcall =>
      rw [hcall] at hrun
      exact absurd (Prod.mk.inj hrun).1 (by simp)
    | accepted _ _ hcall hholds =>
      rw [hcall] at hrun
      rw [List.append_cons]
      exact ih hholds hrun

variable {endpoints : List Endpoint}

/-- A registry made from a list holds the endpoints of the list. -/
theorem holds_of_ofEndpoints (h : ofEndpoints endpoints = .ok r) : r.Holds endpoints := by
  unfold ofEndpoints at h
  split at h
  · next r' hrun => exact Except.ok.inj h ▸ Holds.empty.forM hrun
  · exact absurd h (by simp)

/-- An endpoint of the list is found under its verb and path. -/
theorem get_of_mem (h : ofEndpoints endpoints = .ok r) {e : Endpoint} {verb : Verb}
    {path : String} (he : e ∈ endpoints) (ha : e.Answers verb path) :
    r.get verb path = .ok e.kept :=
  (holds_of_ofEndpoints h).get_eq_ok_iff.mpr ⟨e, he, ha, rfl⟩

/-- Where no endpoint of the list answers, none is found. -/
theorem get_of_forall_not (h : ofEndpoints endpoints = .ok r) {verb : Verb} {path : String}
    (hno : ∀ e ∈ endpoints, ¬ e.Answers verb path) : r.get verb path =
      .error (.ofCause (.unknownEndpoint verb.name (Endpoint.normalizePath path))) :=
  (holds_of_ofEndpoints h).get_eq_error_iff.mpr ⟨hno, rfl⟩

end Registry
end DocFilter
