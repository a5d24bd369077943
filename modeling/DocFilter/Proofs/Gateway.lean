import DocFilter.Gateway
import DocFilter.Proofs.Endpoint.Access
import DocFilter.Proofs.Endpoint.Registry
import DocFilter.Proofs.List
import DocFilter.Proofs.Minting

/-!
# What the gateway lets through

A request either is admitted by an endpoint or is refused, and for a reason that can be
said without running the gateway: no endpoint answers, the filter or the order cannot be
read, a condition of the filter is the first that is not allowed, or a key of the order is.
A request that is admitted is translated as the translator alone translates it; one that is
refused takes no number from the counter.

## The order of the reasons

Each constructor of `Refuses` says that the earlier ones do not apply, so a request that
has several faults is refused for one of them only.
-/

namespace DocFilter
namespace Gateway

/-! ## Reasons -/

section Reasons

variable (config : Config) (t : Translator) (verb : Verb) (path : String) (r : Request)

/-- The request is meant for the endpoint, and asks for nothing the endpoint forbids. -/
structure Admits (e : Endpoint) : Prop where
  registered : e ∈ config.endpoints
  answers : e.Answers verb path
  filter : ∃ filter, t.readFilter r.filter = .ok filter ∧
    e.AllowsAll t.layout.identityField filter
  order : ∃ keys, Translator.sortKeys r.options = .ok keys ∧
    e.SortsAll t.layout.identityField keys

/-- The request is refused before it is translated, and for this reason. -/
inductive Refuses : QueryError → Prop
  | endpoint (hno : ∀ e ∈ config.endpoints, ¬ e.Answers verb path) :
      Refuses (.ofCause (.unknownEndpoint verb.name (Endpoint.normalizePath path)))
  | filter {e : Endpoint} {x : QueryError} (he : e ∈ config.endpoints)
      (ha : e.Answers verb path) (hx : t.readFilter r.filter = .error x) : Refuses x
  | order {e : Endpoint} {filter : Filter} {x : QueryError} (he : e ∈ config.endpoints)
      (ha : e.Answers verb path) (hfilter : t.readFilter r.filter = .ok filter)
      (hx : Translator.sortKeys r.options = .error x) : Refuses x
  | condition {e : Endpoint} {filter : Filter} {keys : List SortKey} {p : List Nat}
      {name : String} {c : Condition} (he : e ∈ config.endpoints) (ha : e.Answers verb path)
      (hfilter : t.readFilter r.filter = .ok filter)
      (hkeys : Translator.sortKeys r.options = .ok keys)
      (hobjects : e.Objects t.layout.identityField filter p name c) :
      Refuses (.ofCause (e.objection name c.operator))
  | key {e : Endpoint} {filter : Filter} {keys : List SortKey} {key : SortKey}
      (he : e ∈ config.endpoints) (ha : e.Answers verb path)
      (hfilter : t.readFilter r.filter = .ok filter)
      (hkeys : Translator.sortKeys r.options = .ok keys)
      (hallows : e.AllowsAll t.layout.identityField filter)
      (hobjects : e.ObjectsToKey t.layout.identityField keys key) :
      Refuses (.ofCause (.sort key.field .notSortable))

/-- A request is admitted by an endpoint or refused for a reason. -/
theorem admits_or_refuses :
    (∃ e, Admits config t verb path r e) ∨ ∃ x, Refuses config t verb path r x := by
  by_cases hsome : ∃ e ∈ config.endpoints, e.Answers verb path
  swap
  · push Not at hsome
    exact .inr ⟨_, .endpoint hsome⟩
  obtain ⟨e, he, ha⟩ := hsome
  cases hfilter : t.readFilter r.filter with
  | error x => exact .inr ⟨x, .filter he ha hfilter⟩
  | ok filter =>
    cases hkeys : Translator.sortKeys r.options with
    | error x => exact .inr ⟨x, .order he ha hfilter hkeys⟩
    | ok keys =>
      obtain hallows | ⟨p, name, c, hobjects⟩ :=
        e.allowsAll_or_objects t.layout.identityField filter
      · obtain hsorts | ⟨key, hobjects⟩ :=
          e.sortsAll_or_objectsToKey t.layout.identityField keys
        · exact .inl ⟨e, he, ha, ⟨filter, hfilter, hallows⟩, keys, hkeys, hsorts⟩
        · exact .inr ⟨_, .key he ha hfilter hkeys hallows hobjects⟩
      · exact .inr ⟨_, .condition he ha hfilter hkeys hobjects⟩

end Reasons

/-! ## Runs -/

/-- A result, and the table it is about. -/
def prepared (table : String) :
    Except QueryError Translation × Nat → Except QueryError PreparedQuery × Nat
  | (.ok out, c) => (.ok ⟨table, out⟩, c)
  | (.error x, c) => (.error x, c)

/-- The gateway keeps to what the endpoints of its configuration say. -/
structure Guards (g : Gateway) (config : Config) (verb : Verb) (path : String) (r : Request)
    (c : Nat) : Prop where
  /-- Requests succeed that are admitted, and can be translated. -/
  succeeds_iff : (∃ q c', (g.prepare verb path r).run c = (.ok q, c')) ↔
    (∃ e, Admits config g.translator verb path r e) ∧
      ∃ out c', (g.translator.translate r).run c = (.ok out, c')
  /-- What is admitted is translated, and nothing else is done. -/
  admitted : ∀ e, Admits config g.translator verb path r e →
    (g.prepare verb path r).run c = prepared e.table ((g.translator.translate r).run c)
  /-- What is refused leaves the counter alone. -/
  refused : ∀ x, Refuses config g.translator verb path r x →
    (g.prepare verb path r).run c = (.error x, c)
  decided : (∃ e, Admits config g.translator verb path r e) ∨
    ∃ x, Refuses config g.translator verb path r x

variable {lib : Libraries} {config : Config} {g : Gateway} {verb : Verb} {path : String}
  {r : Request} {c : Nat}

/-- A gateway has the registry and the translator of the configuration it was made from. -/
theorem parts_of_ofConfig (h : ofConfig lib config = .ok g) :
    config.registry = .ok g.registry ∧ config.translator lib = .ok g.translator := by
  obtain ⟨registry, hregistry, h⟩ := bind_eq_ok.mp h
  obtain ⟨t, ht, h⟩ := bind_eq_ok.mp h
  rw [← Except.ok.inj h]
  exact ⟨hregistry, ht⟩

theorem registry_of_ofConfig (h : ofConfig lib config = .ok g) :
    Registry.ofEndpoints config.endpoints = .ok g.registry := (parts_of_ofConfig h).1

/-- What is left to be done once everything has been read. -/
theorem authorize_of_read {e : Endpoint} {filter : Filter} {keys : List SortKey}
    (hget : g.registry.get verb path = .ok e)
    (hfilter : g.translator.readFilter r.filter = .ok filter)
    (hkeys : Translator.sortKeys r.options = .ok keys) :
    g.authorize verb path r = do
      e.checkFilter g.translator.layout.identityField filter
      e.checkOrder g.translator.layout.identityField keys
      return (e, filter) := by
  rw [authorize, hget, hfilter, hkeys]
  rfl

theorem authorize_of_admits (h : ofConfig lib config = .ok g) {e : Endpoint}
    (ha : Admits config g.translator verb path r e) :
    ∃ filter, g.translator.readFilter r.filter = .ok filter ∧
      g.authorize verb path r = .ok (e.kept, filter) := by
  obtain ⟨filter, hfilter, hallows⟩ := ha.filter
  obtain ⟨keys, hkeys, hsorts⟩ := ha.order
  have hget := Registry.get_of_mem (registry_of_ofConfig h) ha.registered ha.answers
  -- The endpoint that is kept has the rules of the one that was configured.
  have hcheck : e.kept.checkFilter g.translator.layout.identityField filter = .ok () :=
    Endpoint.checkFilter_of_allowsAll hallows
  have horder : e.kept.checkOrder g.translator.layout.identityField keys = .ok () :=
    Endpoint.checkOrder_of_sortsAll hsorts
  refine ⟨filter, hfilter, ?_⟩
  rw [authorize_of_read hget hfilter hkeys, hcheck, horder]
  rfl

theorem authorize_of_refuses (h : ofConfig lib config = .ok g) {x : QueryError}
    (hx : Refuses config g.translator verb path r x) : g.authorize verb path r = .error x := by
  have hregistry := registry_of_ofConfig h
  cases hx with
  | endpoint hno =>
    rw [authorize, Registry.get_of_forall_not hregistry hno]
    rfl
  | filter he ha hx =>
    rw [authorize, Registry.get_of_mem hregistry he ha, hx]
    rfl
  | order he ha hfilter hx =>
    rw [authorize, Registry.get_of_mem hregistry he ha, hfilter, hx]
    rfl
  | @condition e filter keys p name c he ha hfilter hkeys hobjects =>
    have hcheck : e.kept.checkFilter g.translator.layout.identityField filter =
        .error (.ofCause (e.objection name c.operator)) :=
      Endpoint.checkFilter_of_objects
        ⟨hobjects.holds, hobjects.not_allowed, hobjects.earlier⟩
    rw [authorize_of_read (Registry.get_of_mem hregistry he ha) hfilter hkeys, hcheck]
    rfl
  | @key e filter keys key he ha hfilter hkeys hallows hobjects =>
    have hcheck : e.kept.checkFilter g.translator.layout.identityField filter = .ok () :=
      Endpoint.checkFilter_of_allowsAll hallows
    have horder : e.kept.checkOrder g.translator.layout.identityField keys =
        .error (.ofCause (.sort key.field .notSortable)) :=
      Endpoint.checkOrder_of_objectsToKey hobjects
    rw [authorize_of_read (Registry.get_of_mem hregistry he ha) hfilter hkeys, hcheck, horder]
    rfl

theorem run_prepare_of_admits (h : ofConfig lib config = .ok g) {e : Endpoint}
    (ha : Admits config g.translator verb path r e) :
    (g.prepare verb path r).run c = prepared e.table ((g.translator.translate r).run c) := by
  obtain ⟨filter, hfilter, hauthorize⟩ := authorize_of_admits h ha
  have htranslate : (g.translator.translate r).run c =
      (g.translator.translateRead filter r.options).run c := by
    rw [Translator.translate, hfilter]
    rfl
  have hprepare : (g.prepare verb path r).run c =
      ((g.translator.translateRead filter r.options).andThen fun out =>
        .result ⟨e.table, out⟩).run c := by
    rw [prepare, hauthorize]
    rfl
  rw [hprepare, htranslate, Minting.run_andThen]
  rcases (g.translator.translateRead filter r.options).run c with ⟨x | out, c'⟩
  · rfl
  · rfl

theorem run_prepare_of_refuses (h : ofConfig lib config = .ok g) {x : QueryError}
    (hx : Refuses config g.translator verb path r x) :
    (g.prepare verb path r).run c = (.error x, c) := by
  rw [prepare, authorize_of_refuses h hx]
  rfl

theorem exists_run_prepared {table : String}
    {outcome : Except QueryError Translation × Nat} :
    (∃ q c', prepared table outcome = (.ok q, c')) ↔ ∃ out c', outcome = (.ok out, c') := by
  rcases outcome with ⟨x | out, c'⟩
  · constructor
    · rintro ⟨q, c'', h⟩
      exact absurd (Prod.mk.inj h).1 (by simp)
    · rintro ⟨out, c'', h⟩
      exact absurd (Prod.mk.inj h).1 (by simp)
  · exact ⟨fun _ => ⟨out, c', rfl⟩, fun _ => ⟨⟨table, out⟩, c', rfl⟩⟩

/-- A gateway guards the endpoints of the configuration it was made from. -/
theorem guards_of_ofConfig (h : ofConfig lib config = .ok g) (verb : Verb) (path : String)
    (r : Request) (c : Nat) : g.Guards config verb path r c := by
  refine ⟨⟨?_, ?_⟩, fun e ha => run_prepare_of_admits h ha,
    fun x hx => run_prepare_of_refuses h hx, admits_or_refuses _ _ _ _ _⟩
  · intro hrun
    obtain ⟨e, ha⟩ | ⟨x, hx⟩ := admits_or_refuses config g.translator verb path r
    · rw [run_prepare_of_admits h ha] at hrun
      exact ⟨⟨e, ha⟩, exists_run_prepared.mp hrun⟩
    · obtain ⟨q, c', hq⟩ := hrun
      rw [run_prepare_of_refuses h hx] at hq
      exact absurd (Prod.mk.inj hq).1 (by simp)
  · rintro ⟨⟨e, ha⟩, htranslate⟩
    rw [run_prepare_of_admits h ha]
    exact exists_run_prepared.mpr htranslate

/-- A field that no rule covers is found below two negations, and no number is taken.  There is
no pattern to be read, and no URL. -/
theorem guards_of_ofConfig_items : ∃ g,
    ofConfig ⟨fun _ => true, fun _ => none⟩ { Config.standard with endpoints :=
      [(Endpoint.unrestricted "/items" "items").allowFilter "status" ["$eq", "$in"]] } = .ok g ∧
    g.Guards { Config.standard with endpoints :=
      [(Endpoint.unrestricted "/items" "items").allowFilter "status" ["$eq", "$in"]] }
      .get "/items/" (.ofFilter [("status", .string "new"), ("$nor", .array [
        .object [("$not", .object [("status.code", .object [("$in", .array [])]),
          ("secret", .bool true)])]])]) 5 ∧
    (g.prepare .get "/items/" (.ofFilter [("status", .string "new"), ("$nor", .array [
        .object [("$not", .object [("status.code", .object [("$in", .array [])]),
          ("secret", .bool true)])]])])).run 5 =
      (.error (.ofCause (.fieldNotAllowed "secret")), 5) :=
  ⟨_, rfl, guards_of_ofConfig rfl .get "/items/" _ 5, rfl⟩

end Gateway
end DocFilter
