import DocFilter.Filter.Reader
import DocFilter.Proofs.List

/-!
# Maps inside of maps

A map is read in the same way at every depth, but for the limit: what can be read at some
depth can be read, as the same filter, wherever there is as much room left below the limit
(`Filter.readAt_mono`).  So the map behind a connective is also a filter of its own
(`Filter.readMap_not`, `Filter.readMap_nor`).
-/

namespace DocFilter

/-! ## Outcomes that go at least as far -/

/-- Where the first outcome is a result, the second is the same result. -/
def ExtendedBy {ε α : Type} (x x' : Except ε α) : Prop := ∀ a, x = .ok a → x' = .ok a

namespace ExtendedBy

variable {ε α β : Type} {x x' : Except ε α}

theorem refl (x : Except ε α) : ExtendedBy x x := fun _ h => h

theorem bind (h : ExtendedBy x x') {f f' : α → Except ε β}
    (hf : ∀ a, ExtendedBy (f a) (f' a)) : ExtendedBy (x >>= f) (x' >>= f') := by
  intro b hb
  obtain ⟨a, ha, hfa⟩ := bind_eq_ok.mp hb
  exact bind_eq_ok.mpr ⟨a, h a ha, hf a b hfa⟩

theorem map (h : ExtendedBy x x') (f : α → β) : ExtendedBy (x.map f) (x'.map f) := by
  intro b hb
  obtain ⟨a, ha, rfl⟩ := map_eq_ok.mp hb
  exact map_eq_ok.mpr ⟨a, h a ha, rfl⟩

end ExtendedBy

namespace Filter

/-- The filter a map at the given depth holds. -/
def readAt (limit depth : Nat) (entries : Dict String Json) : Except QueryError Filter :=
  withinDepth limit depth ((readEntries limit depth entries).map ofEntries)

/-! ## More room -/

section Room

variable {limit limit' : Nat}

theorem withinDepth_mono {depth depth' : Nat} (h : limit + depth' ≤ limit' + depth)
    {x x' : Except QueryError Filter} (hx : ExtendedBy x x') :
    ExtendedBy (withinDepth limit depth x) (withinDepth limit' depth' x') := by
  intro f hf
  unfold withinDepth at hf ⊢
  split at hf
  · exact absurd hf (by simp)
  · rw [if_neg (by omega)]
    exact hx f hf

mutual

/-- Entries are read in the same way where there is as much room for the maps in them. -/
theorem readEntries_mono {depth depth' : Nat} (h : limit + depth' ≤ limit' + depth) :
    ∀ entries, ExtendedBy (readEntries limit depth entries) (readEntries limit' depth' entries)
  | [] => by
    unfold readEntries
    exact .refl _
  | (key, value) :: rest => by
    have hrest (filter : Filter) :
        ExtendedBy (do let filters ← readEntries limit depth rest; pure (filter :: filters))
          (do let filters ← readEntries limit' depth' rest; pure (filter :: filters)) :=
      .bind (readEntries_mono h rest) fun _ => .refl _
    unfold readEntries
    dsimp only
    split
    · exact .bind (.refl _) fun op => .bind (readOperand_mono h op value) fun _ =>
        .bind (.refl _) hrest
    · exact .bind (.refl _) hrest

theorem readOperand_mono {depth depth' : Nat} (h : limit + depth' ≤ limit' + depth)
    (op : Connective) :
    ∀ value, ExtendedBy (readOperand limit depth op value) (readOperand limit' depth' op value)
  | .object entries => by
    have hdeeper : limit + (depth' + 1) ≤ limit' + (depth + 1) := by omega
    unfold readOperand
    split
    · exact .bind (withinDepth_mono hdeeper ((readEntries_mono hdeeper entries).map _))
        fun _ => .refl _
    · exact .refl _
  | .array items => by
    unfold readOperand
    split
    · exact .refl _
    · exact readItems_mono h op items
  | .null | .bool _ | .number _ | .string _ => by
    unfold readOperand
    exact .refl _

theorem readItems_mono {depth depth' : Nat} (h : limit + depth' ≤ limit' + depth)
    (op : Connective) :
    ∀ items, ExtendedBy (readItems limit depth op items) (readItems limit' depth' op items)
  | [] => by
    unfold readItems
    exact .refl _
  | .object entries :: rest => by
    have hdeeper : limit + (depth' + 1) ≤ limit' + (depth + 1) := by omega
    unfold readItems
    exact .bind (withinDepth_mono hdeeper ((readEntries_mono hdeeper entries).map _))
      fun _ => .bind (readItems_mono h op rest) fun _ => .refl _
  | .null :: _ | .bool _ :: _ | .number _ :: _ | .string _ :: _ | .array _ :: _ => by
    unfold readItems
    exact .refl _

end

/-- A map is read as the same filter wherever there is as much room left below the limit. -/
theorem readAt_mono {depth depth' : Nat} (h : limit + depth' ≤ limit' + depth)
    (entries : Dict String Json) :
    ExtendedBy (readAt limit depth entries) (readAt limit' depth' entries) :=
  withinDepth_mono h ((readEntries_mono h entries).map _)

end Room

/-! ## Maps behind a connective -/

variable {limit : Nat} {op : Connective} {g : Filter}

theorem isConnectiveKey_symbol (op : Connective) : isConnectiveKey op.symbol = true := by
  cases op <;> decide

theorem readConnective_symbol (op : Connective) : readConnective op.symbol = .ok op := by
  have hsymbol : Operator.ofSymbol? op.symbol = some (.connective op) := by
    cases op <;> decide +kernel
  rw [readConnective, hsymbol]

/-- A map with a connective for its one entry holds the filters behind the connective. -/
theorem exists_of_readMap_symbol {value : Json} (h : readMap limit [(op.symbol, value)] = .ok g) :
    ∃ gs, readOperand limit 1 op value = .ok gs ∧ g = .joined op gs := by
  unfold readMap withinDepth at h
  split at h
  · exact absurd h (by simp)
  · obtain ⟨filters, hentries, rfl⟩ := map_eq_ok.mp h
    unfold readEntries at hentries
    dsimp only at hentries
    rw [if_pos (isConnectiveKey_symbol op), readConnective_symbol] at hentries
    obtain ⟨_, hop, hentries⟩ := bind_eq_ok.mp hentries
    obtain ⟨gs, hgs, hentries⟩ := bind_eq_ok.mp hentries
    refine ⟨gs, by rw [Except.ok.inj hop]; exact hgs, ?_⟩
    unfold readEntries at hentries
    rw [← Except.ok.inj hentries, Except.ok.inj hop]
    rfl

theorem readItems_objects {depth : Nat} {maps : List (Dict String Json)} {gs : List Filter}
    (h : readItems limit depth op (maps.map Json.object) = .ok gs) :
    List.Forall₂ (fun entries g => readAt limit (depth + 1) entries = .ok g) maps gs := by
  induction maps generalizing gs with
  | nil =>
    unfold readItems at h
    rw [← Except.ok.inj h]
    exact .nil
  | cons entries maps ih =>
    unfold readItems at h
    obtain ⟨g, hg, hrest⟩ := bind_eq_ok.mp h
    obtain ⟨gs', hgs', hcons⟩ := bind_eq_ok.mp hrest
    rw [← Except.ok.inj hcons]
    exact .cons hg (ih hgs')

/-- What is negated is a filter of its own. -/
theorem readMap_not {entries : Dict String Json}
    (h : readMap limit [(Connective.not.symbol, .object entries)] = .ok g) :
    ∃ g', readMap limit entries = .ok g' ∧ g = .joined .not [g'] := by
  obtain ⟨gs, hgs, rfl⟩ := exists_of_readMap_symbol h
  unfold readOperand at hgs
  rw [if_pos rfl] at hgs
  obtain ⟨g', hg', hsingle⟩ := bind_eq_ok.mp hgs
  refine ⟨g', readAt_mono (by omega) entries g' hg', ?_⟩
  rw [← Except.ok.inj hsingle]

/-- What none of is wanted are filters of their own. -/
theorem readMap_nor {maps : List (Dict String Json)}
    (h : readMap limit [(Connective.nor.symbol, .array (maps.map .object))] = .ok g) :
    ∃ gs, List.Forall₂ (fun entries g' => readMap limit entries = .ok g') maps gs ∧
      g = .joined .nor gs := by
  obtain ⟨gs, hgs, rfl⟩ := exists_of_readMap_symbol h
  unfold readOperand at hgs
  rw [if_neg (by decide)] at hgs
  exact ⟨gs, (readItems_objects hgs).imp fun entries g' hg' =>
    readAt_mono (by omega) entries g' hg', rfl⟩

end Filter
end DocFilter
