import DocFilter.Proofs.Endpoint.Registry

/-!
# The history of a registry

Endpoints are registered one at a time, and a call may be refused.  Whatever calls were made,
a registry holds exactly the endpoints that were accepted (`Registry.Holds.after`).  Everything
that can be asked of a registry follows from that (`Registry.records_after`): what it lists,
what it finds, and what it says to one more endpoint.

## Which endpoints are accepted

An endpoint is refused when it is not valid, and else when an endpoint that was accepted
answers under its verb and path; it is accepted in all other cases.  A refusal leaves the
registry as it was, so what was refused does not stand in the way of anything.
-/

namespace DocFilter

namespace Registry

variable {r : Registry} {accepted : List Endpoint}

/-! ## Calls one after the other -/

/-- The registry that calls leave, one after the other. -/
def after (r : Registry) (calls : List Endpoint) : Registry :=
  calls.foldl (fun r e => (r.call e).2) r

/-- The endpoints that calls register, of those they are made with. -/
def acceptedBy (r : Registry) : List Endpoint → List Endpoint
  | [] => []
  | e :: rest =>
    match (r.call e).1 with
    | .ok _ => e :: acceptedBy (r.call e).2 rest
    | .error _ => acceptedBy (r.call e).2 rest

theorem Holds.after (h : r.Holds accepted) (calls : List Endpoint) :
    (r.after calls).Holds (accepted ++ r.acceptedBy calls) := by
  induction calls generalizing r accepted with
  | nil => rwa [acceptedBy, List.append_nil]
  | cons e rest ih =>
    have hstep : r.after (e :: rest) = (r.call e).2.after rest := rfl
    rw [hstep, acceptedBy]
    cases h.answered e with
    | invalid _ hcall | taken _ _ hcall =>
      simp only [hcall]
      exact ih h
    | accepted _ _ hcall hholds =>
      simp only [hcall]
      rw [List.append_cons]
      exact ih hholds

/-- What a registry shows of the endpoints that were accepted. -/
structure Records (r : Registry) (accepted : List Endpoint) : Prop where
  /-- Every endpoint stands under its own verb and path. -/
  under_key : ∀ key e, (key, e) ∈ r.endpoints → key = (e.verb, e.path)
  /-- No two endpoints stand under the same. -/
  nodup : r.endpoints.keys.Nodup
  /-- The endpoints are those accepted, in order, with their paths in normal form. -/
  toList_eq : r.toList = accepted.map Endpoint.kept
  size_eq : r.size = accepted.length
  get_eq_ok_iff : ∀ verb path e,
    r.get verb path = .ok e ↔ ∃ a ∈ accepted, a.Answers verb path ∧ a.kept = e
  get_eq_error_iff : ∀ verb path x, r.get verb path = .error x ↔
    (∀ a ∈ accepted, ¬ a.Answers verb path) ∧
      x = .ofCause (.unknownEndpoint verb.name (Endpoint.normalizePath path))
  call_eq_ok_iff : ∀ e, (r.call e).1 = .ok () ↔ e.validate = .ok () ∧ ¬ Taken accepted e
  duplicate_iff : ∀ e verb path, (r.call e).1 = .error (.duplicateEndpoint verb path) ↔
    e.validate = .ok () ∧ Taken accepted e ∧
      verb = e.verb.name ∧ path = Endpoint.normalizePath e.path
  refused : ∀ e x, (r.call e).1 = .error x → (r.call e).2 = r

theorem Holds.call_eq_ok_iff (h : r.Holds accepted) {e : Endpoint} :
    (r.call e).1 = .ok () ↔ e.validate = .ok () ∧ ¬ Taken accepted e := by
  cases h.answered e with
  | invalid hvalid hcall => simp [hcall, hvalid]
  | taken hvalid htaken hcall => simp [hcall, htaken]
  | accepted hvalid hfree hcall _ => simp [hcall, hvalid, hfree]

theorem Holds.duplicate_iff (h : r.Holds accepted) {e : Endpoint} {verb path : String} :
    (r.call e).1 = .error (.duplicateEndpoint verb path) ↔
      e.validate = .ok () ∧ Taken accepted e ∧
        verb = e.verb.name ∧ path = Endpoint.normalizePath e.path := by
  cases h.answered e with
  | invalid hvalid hcall => simp [hcall, hvalid]
  | taken hvalid htaken hcall => simp [hcall, hvalid, htaken, eq_comm]
  | accepted hvalid hfree hcall _ => simp [hcall, hfree]

theorem Holds.records (h : r.Holds accepted) : r.Records accepted where
  under_key key e hmem := by
    rw [h.endpoints_eq, List.mem_map] at hmem
    obtain ⟨a, -, hentry⟩ := hmem
    obtain ⟨hkey, hkept⟩ := Prod.mk.inj hentry
    rw [← hkey, ← hkept]
    rfl
  nodup := h.keys_eq ▸ h.nodup
  toList_eq := by
    rw [toList, Dict.values, h.endpoints_eq, List.map_map]
    rfl
  size_eq := by rw [size, h.endpoints_eq, List.length_map]
  get_eq_ok_iff _ _ _ := h.get_eq_ok_iff
  get_eq_error_iff _ _ _ := h.get_eq_error_iff
  call_eq_ok_iff _ := h.call_eq_ok_iff
  duplicate_iff _ _ _ := h.duplicate_iff
  refused _ _ := call_eq_error

/-- Whatever calls are made, a registry is made of the endpoints that were accepted. -/
theorem records_after (calls : List Endpoint) :
    (empty.after calls).Records (empty.acceptedBy calls) :=
  (Holds.empty.after calls).records

/-- A slash at the end makes no new path, another verb does, and a refused endpoint takes no
path away from a later one. -/
example :
    let items (path table : String) : Endpoint := ⟨path, .get, table, none, none, none, []⟩
    empty.acceptedBy [items "/a/" " ", items "/a/" "x", items " /a" "y",
      (items "/a" "z").withVerb .post] =
      [items "/a/" "x", (items "/a" "z").withVerb .post] := by
  decide

end Registry
end DocFilter
