import DocFilter.Dict

/-!
# Dictionaries without repeated keys

Entries under new keys are appended, so a dictionary that takes in another one under
keys of its own is the two of them side by side.
-/

namespace DocFilter
namespace Dict

variable {κ α : Type}

theorem keys_append (d e : Dict κ α) : keys (d ++ e) = d.keys ++ e.keys := List.map_append

theorem keys_zip {ks : List κ} {vs : List α} (h : ks.length = vs.length) :
    keys (ks.zip vs) = ks := List.map_fst_zip (Nat.le_of_eq h)

theorem values_zip {ks : List κ} {vs : List α} (h : ks.length = vs.length) :
    values (ks.zip vs) = vs := List.map_snd_zip (Nat.le_of_eq h.symm)

variable [DecidableEq κ]

/-- Entries under new and distinct keys are appended in their order. -/
theorem insertAll_of_disjoint {d e : Dict κ α} (he : e.keys.Nodup)
    (h : ∀ k ∈ e.keys, k ∉ d.keys) : d.insertAll e = d ++ e := by
  induction e generalizing d with
  | nil => rw [List.append_nil]; rfl
  | cons entry e ih =>
    obtain ⟨k, v⟩ := entry
    have hk : k ∉ d.keys := h k List.mem_cons_self
    obtain ⟨hke, he'⟩ := List.nodup_cons.mp he
    have hstep : insertAll d ((k, v) :: e) = insertAll (d ++ [(k, v)]) e := by
      rw [insertAll, List.foldl_cons, insert_of_not_mem hk]
      rfl
    rw [hstep, ih he', List.append_assoc, List.singleton_append]
    intro k' hk' hmem
    rw [keys_append, List.mem_append] at hmem
    rcases hmem with hmem | hmem
    · exact h k' (List.mem_cons_of_mem _ hk') hmem
    · have hkk : k' = k := by simpa [keys] using hmem
      exact hke (hkk ▸ hk')

theorem ofEntries_of_nodup {e : Dict κ α} (he : e.keys.Nodup) : ofEntries e = e :=
  insertAll_of_disjoint he fun _ _ h => absurd h (by simp [keys])

/-- An entry is found under its key where no other entry has the key. -/
theorem find?_of_mem {d : Dict κ α} (hd : d.keys.Nodup) {k : κ} {v : α} (h : (k, v) ∈ d) :
    d.find? k = some v := by
  induction d with
  | nil => exact absurd h (by simp)
  | cons entry d ih =>
    obtain ⟨k', v'⟩ := entry
    obtain ⟨hk', hd'⟩ := List.nodup_cons.mp hd
    rcases List.mem_cons.mp h with he | hmem
    · rw [(Prod.mk.inj he).1, (Prod.mk.inj he).2, find?_cons, if_pos rfl]
    · have hne : k' ≠ k := fun hkk =>
        hk' (hkk ▸ List.mem_map.mpr ⟨(k, v), hmem, rfl⟩)
      rw [find?_cons, if_neg hne]
      exact ih hd' hmem

theorem find?_eq_none {d : Dict κ α} {k : κ} (h : k ∉ d.keys) : d.find? k = none := by
  induction d with
  | nil => rfl
  | cons entry d ih =>
    obtain ⟨k', v'⟩ := entry
    simp only [keys, List.map_cons, List.mem_cons, not_or] at h
    rw [find?_cons, if_neg (Ne.symm h.1)]
    exact ih h.2

/-- What is found under a key is an entry with that key. -/
theorem mem_of_find? {d : Dict κ α} {k : κ} {v : α} (h : d.find? k = some v) : (k, v) ∈ d := by
  induction d with
  | nil => exact absurd h (by simp)
  | cons entry d ih =>
    obtain ⟨k', v'⟩ := entry
    rw [find?_cons] at h
    split at h
    · next hk => exact hk ▸ Option.some.inj h ▸ List.mem_cons_self
    · exact List.mem_cons_of_mem _ (ih h)

theorem contains_iff {d : Dict κ α} {k : κ} : d.contains k = true ↔ k ∈ d.keys := by
  induction d with
  | nil => simp [contains, keys]
  | cons entry d ih =>
    obtain ⟨k', v⟩ := entry
    rw [contains, find?_cons, keys, List.map_cons, List.mem_cons]
    by_cases hk : k' = k
    · simp [hk]
    · rw [if_neg hk]
      exact ih.trans ⟨.inr, fun h => h.resolve_left (Ne.symm hk)⟩

theorem find?_append (k : κ) (d e : Dict κ α) :
    find? k (d ++ e) = (find? k d).or (find? k e) := by
  induction d with
  | nil => rfl
  | cons entry d ih =>
    rw [List.cons_append, find?_cons, find?_cons]
    split
    · rfl
    · exact ih

theorem find?_append_of_mem {k : κ} {d : Dict κ α} (e : Dict κ α) (h : k ∈ d.keys) :
    find? k (d ++ e) = find? k d := by
  obtain ⟨v, hv⟩ := Option.isSome_iff_exists.mp (contains_iff.mpr h)
  rw [find?_append, hv, Option.some_or]

theorem find?_append_of_not_mem {k : κ} {d : Dict κ α} (e : Dict κ α) (h : k ∉ d.keys) :
    find? k (d ++ e) = find? k e := by
  rw [find?_append, find?_eq_none h, Option.none_or]

/-- A renamed key has the value that the key had. -/
theorem find?_zip_map {ρ : κ → κ} {k : κ} {ks : List κ} (hρ : (ks.map ρ).Nodup)
    (hk : k ∈ ks) (vs : List α) : find? (ρ k) ((ks.map ρ).zip vs) = find? k (ks.zip vs) := by
  induction ks generalizing vs with
  | nil => exact absurd hk (by simp)
  | cons k' ks ih =>
    obtain ⟨hnot, hnodup⟩ := List.nodup_cons.mp hρ
    cases vs with
    | nil => rfl
    | cons v vs =>
      rw [List.map_cons, List.zip_cons_cons, List.zip_cons_cons, find?_cons, find?_cons]
      by_cases heq : k' = k
      · rw [if_pos heq, if_pos (congrArg ρ heq)]
      · have hmem : k ∈ ks := (List.mem_cons.mp hk).resolve_left fun h => heq h.symm
        have hne : ρ k' ≠ ρ k := fun h => hnot (h ▸ List.mem_map_of_mem hmem)
        rw [if_neg heq, if_neg hne]
        exact ih hnodup hmem vs

end Dict
end DocFilter
