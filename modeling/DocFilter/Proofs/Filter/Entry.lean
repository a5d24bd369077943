import DocFilter.Proofs.Filter.Depth
import DocFilter.Proofs.Filter.Operator

/-!
# Reading a map entry by entry

A map is read by reading each of its entries (`Filter.readAt_eq_ok_iff`), and an entry with a
connective by reading the maps behind it one level deeper (`Filter.readEntry_eq_ok_iff`).
What is said of all maps is therefore said by induction over the maps behind the entries
(`Filter.map_induction`), whatever lists and objects they are wrapped in.
-/

namespace DocFilter

namespace Filter

/-! ## The maps behind an entry -/

/-- The value has what the connective is applied to: `$not` takes a map, and any other
connective a list of maps. -/
inductive Operands : Connective → Json → List (Dict String Json) → Prop
  | negated (entries : Dict String Json) : Operands .not (.object entries) [entries]
  | listed {op : Connective} (hop : op ≠ .not) (maps : List (Dict String Json)) :
    Operands op (.array (maps.map .object)) maps

/-- The map stands behind the connective of an entry. -/
inductive Behind : String × Json → Dict String Json → Prop
  | intro {key : String} {op : Connective} {value : Json} {maps : List (Dict String Json)}
    {inner : Dict String Json} (hkey : isConnectiveKey key = true)
    (hop : Operator.Named key (.connective op)) (hvalue : Operands op value maps)
    (hinner : inner ∈ maps) : Behind (key, value) inner

theorem sizeOf_lt_of_operands {op : Connective} {value : Json} {maps : List (Dict String Json)}
    (h : Operands op value maps) {inner : Dict String Json} (hinner : inner ∈ maps) :
    sizeOf inner < sizeOf value := by
  cases h with
  | negated entries =>
    rw [List.mem_singleton.mp hinner, Json.object.sizeOf_spec]
    omega
  | listed hop maps =>
    have hitem := List.sizeOf_lt_of_mem (List.mem_map_of_mem (f := Json.object) hinner)
    rw [Json.object.sizeOf_spec] at hitem
    rw [Json.array.sizeOf_spec]
    omega

theorem sizeOf_lt_of_behind {entries inner : Dict String Json} {e : String × Json}
    (he : e ∈ entries) (h : Behind e inner) : sizeOf inner < sizeOf entries := by
  cases h with
  | @intro key op value maps inner hkey hop hvalue hinner =>
    have hentry := List.sizeOf_lt_of_mem he
    have hvalue := sizeOf_lt_of_operands hvalue hinner
    rw [Prod.mk.sizeOf_spec] at hentry
    omega

/-- What holds of a map whenever it holds of the maps behind its entries holds of all
maps. -/
theorem map_induction {P : Dict String Json → Prop}
    (step : ∀ entries : Dict String Json,
      (∀ e ∈ entries, ∀ inner, Behind e inner → P inner) → P entries)
    (entries : Dict String Json) : P entries :=
  step entries fun _ _ inner _ => map_induction step inner
termination_by sizeOf entries
decreasing_by exact sizeOf_lt_of_behind ‹_› ‹_›

/-! ## Entries -/

/-- The filter an entry of a map at the given depth holds. -/
def readEntry (limit depth : Nat) (e : String × Json) : Except QueryError Filter :=
  if isConnectiveKey e.1 then do
    let op ← readConnective e.1
    let children ← readOperand limit depth op e.2
    pure (.joined op children)
  else readField e.1 e.2

variable {limit depth : Nat}

theorem readEntries_eq_mapM (entries : Dict String Json) :
    readEntries limit depth entries = entries.mapM (readEntry limit depth) := by
  induction entries with
  | nil =>
    unfold readEntries
    rfl
  | cons e rest ih =>
    unfold readEntries
    rw [List.mapM_cons, ih, readEntry]
    dsimp only
    split
    · simp only [bind_assoc, pure_bind]
    · rfl

/-- A map is read where the limit admits it and each of its entries is read. -/
theorem readAt_eq_ok_iff {entries : Dict String Json} {f : Filter} :
    readAt limit depth entries = .ok f ↔ depth ≤ limit ∧
      ∃ fs, List.Forall₂ (fun e f => readEntry limit depth e = .ok f) entries fs ∧
        ofEntries fs = f := by
  unfold readAt withinDepth
  split
  · next h => simp [Nat.not_le.mpr h]
  · next h =>
    rw [map_eq_ok, readEntries_eq_mapM]
    simp only [mapM_eq_ok_iff, Nat.le_of_not_lt h, true_and]

theorem readItems_eq_ok_iff {op : Connective} {items : List Json} {gs : List Filter} :
    readItems limit depth op items = .ok gs ↔ ∃ maps : List (Dict String Json),
      items = maps.map .object ∧
        List.Forall₂ (fun entries g => readAt limit (depth + 1) entries = .ok g) maps gs := by
  constructor
  · intro h
    induction items generalizing gs with
    | nil =>
      unfold readItems at h
      rw [← Except.ok.inj h]
      exact ⟨[], rfl, .nil⟩
    | cons item items ih =>
      cases item with
      | object entries =>
        unfold readItems at h
        obtain ⟨g, hg, hrest⟩ := bind_eq_ok.mp h
        obtain ⟨gs', hgs', hcons⟩ := bind_eq_ok.mp hrest
        obtain ⟨maps, rfl, hmaps⟩ := ih hgs'
        rw [← Except.ok.inj hcons]
        exact ⟨entries :: maps, rfl, .cons hg hmaps⟩
      | _ =>
        unfold readItems at h
        exact absurd h (by simp)
  · rintro ⟨maps, rfl, h⟩
    induction h with
    | nil =>
      unfold readItems
      rfl
    | cons hg _ ih =>
      rw [List.map_cons]
      unfold readItems
      exact bind_eq_ok.mpr ⟨_, hg, bind_eq_ok.mpr ⟨_, ih, rfl⟩⟩

/-- A connective reads the maps it is applied to, one level deeper. -/
theorem readOperand_eq_ok_iff {op : Connective} {value : Json} {gs : List Filter} :
    readOperand limit depth op value = .ok gs ↔ ∃ maps, Operands op value maps ∧
      List.Forall₂ (fun entries g => readAt limit (depth + 1) entries = .ok g) maps gs := by
  constructor
  · intro h
    cases value with
    | object entries =>
      unfold readOperand at h
      split at h
      · next hop =>
        obtain ⟨g, hg, hsingle⟩ := bind_eq_ok.mp h
        rw [← Except.ok.inj hsingle, hop]
        exact ⟨[entries], .negated entries, .cons hg .nil⟩
      · exact absurd h (by simp)
    | array items =>
      unfold readOperand at h
      split at h
      · exact absurd h (by simp)
      · next hop =>
        obtain ⟨maps, rfl, hmaps⟩ := readItems_eq_ok_iff.mp h
        exact ⟨maps, .listed hop maps, hmaps⟩
    | _ =>
      unfold readOperand at h
      split at h <;> exact absurd h (by simp)
  · rintro ⟨maps, hvalue, hmaps⟩
    cases hvalue with
    | negated entries =>
      obtain ⟨g, gs', hg, hnil, rfl⟩ := List.forall₂_cons_left_iff.mp hmaps
      rw [List.forall₂_nil_left_iff.mp hnil]
      unfold readOperand
      rw [if_pos rfl]
      exact bind_eq_ok.mpr ⟨g, hg, rfl⟩
    | listed hop maps =>
      unfold readOperand
      rw [if_neg hop]
      exact readItems_eq_ok_iff.mpr ⟨maps, rfl, hmaps⟩

theorem readConnective_eq_ok_iff {key : String} {op : Connective} :
    readConnective key = .ok op ↔ Operator.Named key (.connective op) := by
  rw [← Operator.ofSymbol?_eq_some_iff, readConnective]
  split
  · next op' h => rw [h]; simp
  · next op' h => rw [h]; simp
  · next h => rw [h]; simp

theorem named_symbol (op : Connective) : Operator.Named op.symbol (.connective op) :=
  readConnective_eq_ok_iff.mp (readConnective_symbol op)

/-- An entry is read as a connective with what is behind it, or as a field. -/
theorem readEntry_eq_ok_iff {key : String} {value : Json} {f : Filter} :
    readEntry limit depth (key, value) = .ok f ↔
      (isConnectiveKey key = true ∧ ∃ op maps gs, Operator.Named key (.connective op) ∧
        Operands op value maps ∧
        List.Forall₂ (fun entries g => readAt limit (depth + 1) entries = .ok g) maps gs ∧
        f = .joined op gs) ∨
      (isConnectiveKey key = false ∧ readField key value = .ok f) := by
  unfold readEntry
  cases isConnectiveKey key with
  | false => simp
  | true =>
    simp only [if_true, true_and, Bool.true_eq_false, false_and, or_false]
    constructor
    · intro h
      obtain ⟨op, hop, hrest⟩ := bind_eq_ok.mp h
      obtain ⟨gs, hgs, hjoined⟩ := bind_eq_ok.mp hrest
      obtain ⟨maps, hmaps, hread⟩ := readOperand_eq_ok_iff.mp hgs
      exact ⟨op, maps, gs, readConnective_eq_ok_iff.mp hop, hmaps, hread,
        (Except.ok.inj hjoined).symm⟩
    · rintro ⟨op, maps, gs, hop, hmaps, hread, rfl⟩
      exact bind_eq_ok.mpr ⟨op, readConnective_eq_ok_iff.mpr hop,
        bind_eq_ok.mpr ⟨gs, readOperand_eq_ok_iff.mpr ⟨maps, hmaps, hread⟩, rfl⟩⟩

/-- An operand that is no object is compared for equality. -/
theorem readConditions_of_operand {value : Json} (h : value.type ≠ .object) (field : String) :
    readConditions field value = .ok [⟨.equal, value, none⟩] := by
  cases value with
  | object operators => exact absurd rfl h
  | _ => rfl

theorem readField_eq_ok_iff {key : String} {value : Json} {f : Filter} :
    readField key value = .ok f ↔ key ≠ "" ∧ ∃ conditions,
      readConditions key value = .ok conditions ∧ Filter.field key conditions = f := by
  unfold readField
  split
  · next hempty => simp [String.isEmpty_iff.mp hempty]
  · next hempty =>
    have hne : key ≠ "" := fun heq => hempty (String.isEmpty_iff.mpr heq)
    rw [map_eq_ok, and_iff_right hne]

end Filter
end DocFilter
