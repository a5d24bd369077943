import DocFilter.Text.Split

/-!
# Splitting what was joined

Parts that are joined with a separator none of them contains are found again by splitting.
Only the empty list is not, since splitting always finds a part.
-/

namespace DocFilter
namespace Text

variable {separator : Char}

theorem splitAt_of_not_mem {part : List Char} (h : separator ∉ part) :
    splitAt separator part = [part] := by
  induction part with
  | nil => rfl
  | cons c part ih =>
    obtain ⟨hc, hpart⟩ := not_or.mp (mt List.mem_cons.mpr h)
    rw [splitAt, if_neg (Ne.symm hc), ih hpart, consFirst]

/-- No part has the separator in it. -/
theorem not_mem_of_mem_splitAt {cs part : List Char} (h : part ∈ splitAt separator cs) :
    separator ∉ part := by
  induction cs generalizing part with
  | nil =>
    rw [List.mem_singleton.mp h]
    exact List.not_mem_nil
  | cons c cs ih =>
    rw [splitAt] at h
    split at h
    · rcases List.mem_cons.mp h with rfl | h
      · exact List.not_mem_nil
      · exact ih h
    · next hc =>
      cases hparts : splitAt separator cs with
      | nil => exact absurd hparts (splitAt_ne_nil separator cs)
      | cons first rest =>
        rw [hparts, consFirst] at h
        rw [hparts] at ih
        rcases List.mem_cons.mp h with rfl | h
        · intro hmem
          rcases List.mem_cons.mp hmem with hsep | hmem
          · exact hc hsep.symm
          · exact ih List.mem_cons_self hmem
        · exact ih (List.mem_cons_of_mem _ h)

/-- A separator between two texts stands between their parts. -/
theorem splitAt_append_separator (cs rest : List Char) :
    splitAt separator (cs ++ separator :: rest) =
      splitAt separator cs ++ splitAt separator rest := by
  induction cs with
  | nil => simp [splitAt]
  | cons c cs ih =>
    rw [List.cons_append, splitAt, splitAt, ih]
    split
    · rfl
    · cases hparts : splitAt separator cs with
      | nil => exact absurd hparts (splitAt_ne_nil separator cs)
      | cons part parts => rfl

theorem splitAt_append_cons {part : List Char} (h : separator ∉ part) (rest : List Char) :
    splitAt separator (part ++ separator :: rest) = part :: splitAt separator rest := by
  rw [splitAt_append_separator, splitAt_of_not_mem h, List.singleton_append]

theorem length_splitAt (cs : List Char) :
    (splitAt separator cs).length = cs.count separator + 1 := by
  induction cs with
  | nil => rfl
  | cons c cs ih =>
    rw [splitAt, List.count_cons]
    by_cases hc : c = separator
    · rw [if_pos hc, List.length_cons, ih, if_pos (beq_iff_eq.mpr hc)]
    · rw [if_neg hc, if_neg (mt beq_iff_eq.mp hc), Nat.add_zero, ← ih]
      cases hparts : splitAt separator cs with
      | nil => exact absurd hparts (splitAt_ne_nil separator cs)
      | cons part parts => rfl

/-- Parts that are joined in two groups have a separator between the groups. -/
theorem joinWith_append {parts parts' : List (List Char)} (h : parts ≠ []) (h' : parts' ≠ []) :
    joinWith separator (parts ++ parts') =
      joinWith separator parts ++ separator :: joinWith separator parts' := by
  induction parts with
  | nil => exact absurd rfl h
  | cons part parts ih =>
    cases parts with
    | nil =>
      obtain ⟨part', rest, rfl⟩ := List.exists_cons_of_ne_nil h'
      rfl
    | cons next parts =>
      calc joinWith separator (part :: next :: parts ++ parts')
          = part ++ separator :: joinWith separator (next :: parts ++ parts') := rfl
        _ = part ++ separator ::
              (joinWith separator (next :: parts) ++ separator :: joinWith separator parts') := by
            rw [ih (List.cons_ne_nil next parts)]
        _ = joinWith separator (part :: next :: parts) ++ separator ::
              joinWith separator parts' := by
            simp [joinWith]

/-- Splitting undoes joining, where no part has the separator in it. -/
theorem splitAt_joinWith {parts : List (List Char)} (hne : parts ≠ [])
    (h : ∀ part ∈ parts, separator ∉ part) :
    splitAt separator (joinWith separator parts) = parts := by
  induction parts with
  | nil => exact absurd rfl hne
  | cons part parts ih =>
    obtain ⟨hpart, hparts⟩ := List.forall_mem_cons.mp h
    cases parts with
    | nil => exact splitAt_of_not_mem hpart
    | cons part' parts =>
      rw [joinWith, splitAt_append_cons hpart, ih (by simp) hparts]
      simp

end Text
end DocFilter
