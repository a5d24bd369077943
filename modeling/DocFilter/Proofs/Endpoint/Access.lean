import DocFilter.Endpoint.Access
import DocFilter.Proofs.Filter.Place

/-!
# What passes the rules of an endpoint

A filter passes when every condition in it is allowed, and an order when every key of it
is.  What is reported otherwise is the first condition, or the first key, that is not.
-/

namespace DocFilter
namespace Endpoint

variable (e : Endpoint) (identityField : String)

/-- The endpoint lets a field be filtered with a comparison. -/
def Allows (field : String) (comparison : Comparison) : Prop :=
  field = identityField ∨ e.allowsOperator field comparison = true

/-- The endpoint lets a field be sorted on. -/
def Sorts (field : String) : Prop := field = identityField ∨ e.allowsSort field = true

/-- What is said of a condition that is not allowed. -/
def objection (field : String) (comparison : Comparison) : Cause :=
  if e.allowsField field then .operatorNotAllowed field comparison.symbol
  else .fieldNotAllowed field

variable {e identityField}

/-- An operator is allowed only on a field that is. -/
theorem allowsField_of_allowsOperator {field : String} {comparison : Comparison}
    (h : e.allowsOperator field comparison = true) : e.allowsField field = true := by
  unfold allowsOperator at h
  unfold allowsField
  cases he : e.filterable with
  | none => rfl
  | some rules =>
    rw [he] at h
    cases hr : ruleFor? rules field with
    | none => simp [hr] at h
    | some symbols => simp [hr]

/-! ## Conditions -/

theorem checkCondition_of_allows {field : String} {comparison : Comparison}
    (h : e.Allows identityField field comparison) :
    e.checkCondition identityField field comparison = .ok () := by
  unfold checkCondition
  obtain h | h := h
  · rw [if_pos h]
  · simp [allowsField_of_allowsOperator h, h]

theorem checkCondition_of_not_allows {field : String} {comparison : Comparison}
    (h : ¬ e.Allows identityField field comparison) :
    e.checkCondition identityField field comparison =
      .error (.ofCause (e.objection field comparison)) := by
  obtain ⟨hfield, hop⟩ := not_or.mp h
  unfold checkCondition objection
  rw [if_neg hfield]
  by_cases hf : e.allowsField field = true
  · simp [hf, hop]
  · simp [hf]

theorem allows_of_checkCondition {field : String} {comparison : Comparison}
    (h : e.checkCondition identityField field comparison = .ok ()) :
    e.Allows identityField field comparison := by
  by_contra hno
  rw [checkCondition_of_not_allows hno] at h
  exact absurd h (by simp)

/-- All conditions of a filter are allowed. -/
def AllowsAll (e : Endpoint) (identityField : String) (filter : Filter) : Prop :=
  ∀ p name c, filter.Holds p (name, c) → e.Allows identityField name c.operator

/-- The condition at this place is the first that is not allowed. -/
structure Objects (e : Endpoint) (identityField : String) (filter : Filter) (p : List Nat)
    (name : String) (c : Condition) : Prop where
  holds : filter.Holds p (name, c)
  not_allowed : ¬ e.Allows identityField name c.operator
  earlier : ∀ q name' c', filter.Holds q (name', c') → Earlier q p →
    e.Allows identityField name' c'.operator

variable {filter : Filter}

theorem checkFilter_of_allowsAll (h : e.AllowsAll identityField filter) :
    e.checkFilter identityField filter = .ok () :=
  (filter.firstFault_conditions _).eq_ok fun p b hb =>
    checkCondition_of_allows (h p b.1 b.2 hb)

theorem checkFilter_of_objects {p : List Nat} {name : String} {c : Condition}
    (h : e.Objects identityField filter p name c) :
    e.checkFilter identityField filter =
      .error (.ofCause (e.objection name c.operator)) :=
  (filter.firstFault_conditions _).eq_error (fun _ _ _ => Filter.Holds.unique) h.holds
    (checkCondition_of_not_allows h.not_allowed) fun q b hb hq =>
      checkCondition_of_allows (h.earlier q b.1 b.2 hb hq)

/-- A filter is allowed, or a condition of it is the first that is not. -/
theorem allowsAll_or_objects (e : Endpoint) (identityField : String) (filter : Filter) :
    e.AllowsAll identityField filter ∨
      ∃ p name c, e.Objects identityField filter p name c := by
  have h : FirstFault filter.Holds
      (fun b => e.checkCondition identityField b.1 b.2.operator)
      (e.checkFilter identityField filter) := filter.firstFault_conditions _
  cases hr : e.checkFilter identityField filter with
  | ok _ =>
    rw [hr] at h
    exact .inl fun p name c hb => allows_of_checkCondition (h p (name, c) hb)
  | error x =>
    rw [hr] at h
    obtain ⟨p, ⟨name, c⟩, hb, hx, hearlier⟩ := h
    refine .inr ⟨p, name, c, hb, fun hallows => ?_, fun q name' c' hq hlt =>
      allows_of_checkCondition (hearlier q (name', c') hq hlt)⟩
    exact absurd ((checkCondition_of_allows hallows).symm.trans hx) (by simp)

theorem checkFilter_eq_ok_iff :
    e.checkFilter identityField filter = .ok () ↔ e.AllowsAll identityField filter := by
  constructor
  · intro hok
    obtain hall | ⟨p, name, c, hobjects⟩ := e.allowsAll_or_objects identityField filter
    · exact hall
    · exact absurd (hok.symm.trans (checkFilter_of_objects hobjects)) (by simp)
  · exact checkFilter_of_allowsAll

/-! ## Keys -/

theorem checkKey_of_sorts {key : SortKey} (h : e.Sorts identityField key.field) :
    e.checkKey identityField key = .ok () := if_pos h

theorem checkKey_of_not_sorts {key : SortKey} (h : ¬ e.Sorts identityField key.field) :
    e.checkKey identityField key = .error (.ofCause (.sort key.field .notSortable)) := if_neg h

/-- Sorting by each of the keys is allowed. -/
def SortsAll (e : Endpoint) (identityField : String) (keys : List SortKey) : Prop :=
  ∀ key ∈ keys, e.Sorts identityField key.field

/-- Sorting by this key is not allowed, but by those in front of it. -/
def ObjectsToKey (e : Endpoint) (identityField : String) (keys : List SortKey)
    (key : SortKey) : Prop :=
  ¬ e.Sorts identityField key.field ∧
    ∃ before after, keys = before ++ key :: after ∧ e.SortsAll identityField before

variable {keys : List SortKey}

theorem checkOrder_of_sortsAll (h : e.SortsAll identityField keys) :
    e.checkOrder identityField keys = .ok () := by
  induction keys with
  | nil => rfl
  | cons key keys ih =>
    obtain ⟨hkey, hkeys⟩ := List.forall_mem_cons.mp h
    have hrest : keys.forM (e.checkKey identityField) = .ok () := ih hkeys
    rw [checkOrder, List.forM_eq_forM, List.forM_cons, checkKey_of_sorts hkey]
    exact hrest

theorem checkOrder_of_objectsToKey {key : SortKey}
    (h : e.ObjectsToKey identityField keys key) :
    e.checkOrder identityField keys = .error (.ofCause (.sort key.field .notSortable)) := by
  obtain ⟨hno, before, after, rfl, hbefore⟩ := h
  have hfirst : forM before (e.checkKey identityField) = .ok () :=
    checkOrder_of_sortsAll hbefore
  rw [checkOrder, List.forM_eq_forM, List.forM_append, hfirst, List.forM_cons,
    checkKey_of_not_sorts hno]
  rfl

/-- An order is allowed, or a key of it is the first that is not. -/
theorem sortsAll_or_objectsToKey (e : Endpoint) (identityField : String)
    (keys : List SortKey) : e.SortsAll identityField keys ∨
      ∃ key, e.ObjectsToKey identityField keys key := by
  induction keys with
  | nil => exact .inl fun _ h => absurd h List.not_mem_nil
  | cons key keys ih =>
    by_cases hkey : e.Sorts identityField key.field
    · obtain h | ⟨key', hno, before, after, rfl, hbefore⟩ := ih
      · exact .inl (List.forall_mem_cons.mpr ⟨hkey, h⟩)
      · exact .inr ⟨key', hno, key :: before, after, rfl,
          List.forall_mem_cons.mpr ⟨hkey, hbefore⟩⟩
    · exact .inr ⟨key, hkey, [], keys, rfl, fun _ h => absurd h List.not_mem_nil⟩

end Endpoint
end DocFilter
