import DocFilter.Proofs.List
import DocFilter.Sql.Name

/-!
# Names in SQL

A column that is written bare is one word, and none that means something else in a
statement (`word_of_not_needsQuoting`).

A parameter name is one word as well and ends in its number, behind an underscore.  The
number can be read off the name, so names with different numbers differ, whatever the
fields and whatever the replaced characters have made equal.
-/

namespace DocFilter
namespace Sql

/-! ## Columns -/

theorem toNat_lt_of_isWordChar {c : Char} (h : isWordChar c = true) : c.toNat < 0x80 := by
  delta isWordChar Char.isAlphanum Char.isAlpha Char.isUpper Char.isLower Char.isDigit at h
  simp only [Bool.or_eq_true, Bool.and_eq_true, decide_eq_true_eq, beq_iff_eq] at h
  rcases h with ((⟨-, h⟩ | ⟨-, h⟩) | ⟨-, h⟩) | rfl
  · exact Nat.lt_of_le_of_lt (UInt32.le_iff_toNat_le.mp h) (by decide)
  · exact Nat.lt_of_le_of_lt (UInt32.le_iff_toNat_le.mp h) (by decide)
  · exact Nat.lt_of_le_of_lt (UInt32.le_iff_toNat_le.mp h) (by decide)
  · decide

theorem lowerFrom_of_ascii {cs : List Char} (h : ∀ c ∈ cs, c.toNat < 0x80)
    (before : List Char) : Text.lowerFrom before cs = cs.map Char.toLower := by
  induction cs generalizing before with
  | nil => rfl
  | cons c cs ih =>
    have hc := h c List.mem_cons_self
    have hsigma : ¬ c.toNat = 0x3A3 := by omega
    rw [Text.lowerFrom, ih fun x hx => h x (List.mem_cons_of_mem _ hx), if_neg hsigma,
      Text.lowerChar, if_pos hc]
    rfl

/-- A column that is written bare is a word, and none of the reserved ones in any
case. -/
theorem word_of_not_needsQuoting {name : String} (h : needsQuoting name = false) :
    name.toList ≠ [] ∧ (∀ c ∈ name.toList, isWordChar c = true) ∧
      ∀ w ∈ reservedWords, name.toList.map Char.toLower ≠ w.toList := by
  simp only [needsQuoting, Bool.or_eq_false_iff, Bool.not_eq_false'] at h
  obtain ⟨⟨⟨hempty, hreserved⟩, -⟩, hword⟩ := h
  have hall : ∀ c ∈ name.toList, isWordChar c = true := List.all_eq_true.mp hword
  refine ⟨fun hnil => ?_, hall, fun w hw he => ?_⟩
  · rw [String.toList_eq_nil_iff.mp hnil] at hempty
    exact absurd hempty (by decide)
  · have hlower : Text.lower name = w := by
      rw [Text.lower, lowerFrom_of_ascii (fun c hc => toNat_lt_of_isWordChar (hall c hc)), he,
        String.ofList_toList]
    rw [hlower, List.contains_iff_mem.mpr hw] at hreserved
    exact absurd hreserved (by simp)

/-! ## The characters of a parameter name -/

theorem isWordChar_of_mem_toDigits {n : Nat} {c : Char} (h : c ∈ Nat.toDigits 10 n) :
    isWordChar c = true := by
  have hd := Nat.isDigit_of_mem_toDigits (by decide) (by decide) h
  rw [isWordChar, Char.isAlphanum, hd, Bool.or_true, Bool.true_or]

theorem parameterName_toList (field : String) (n : Nat) :
    (parameterName field n).toList =
      (parameterStem field).toList ++ '_' :: Nat.toDigits 10 n := by
  rw [parameterName, String.toList_append, String.toList_append, Nat.toList_repr,
    List.append_assoc]
  rfl

theorem isWordChar_parameterChar (c : Char) : isWordChar (parameterChar c) = true := by
  rw [isWordChar, parameterChar]
  split
  · next h => rw [h, Bool.true_or]
  · rfl

theorem isWordChar_of_mem_parameterStem {field : String} {c : Char}
    (h : c ∈ (parameterStem field).toList) : isWordChar c = true := by
  have hmap (x : Char) (hx : x ∈ field.toList.map parameterChar) : isWordChar x = true := by
    obtain ⟨y, -, rfl⟩ := List.mem_map.mp hx
    exact isWordChar_parameterChar y
  dsimp only [parameterStem] at h
  split at h
  · split at h
    · rw [String.toList_ofList] at h
      exact hmap c h
    · rw [String.toList_append, List.mem_append] at h
      rcases h with h | h
      · have hp : c = 'p' ∨ c = '_' := by simpa using h
        rcases hp with rfl | rfl <;> rfl
      · rw [String.toList_ofList] at h
        exact hmap c h
  · have hp : c = 'p' ∨ c = '_' := by simpa using h
    rcases hp with rfl | rfl <;> rfl

/-- A parameter name is one word. -/
theorem isWordChar_of_mem_parameterName {field : String} {n : Nat} {c : Char}
    (h : c ∈ (parameterName field n).toList) : isWordChar c = true := by
  rw [parameterName_toList, List.mem_append, List.mem_cons] at h
  rcases h with h | rfl | h
  · exact isWordChar_of_mem_parameterStem h
  · rfl
  · exact isWordChar_of_mem_toDigits h

theorem underscore_mem_parameterName (field : String) (n : Nat) :
    '_' ∈ (parameterName field n).toList := by
  rw [parameterName_toList]
  exact List.mem_append_right _ List.mem_cons_self

/-! ## The number in a parameter name -/

/-- The number can be read off the name. -/
theorem number_eq_of_parameterName_eq {f g : String} {m n : Nat}
    (h : parameterName f m = parameterName g n) : m = n := by
  have hl := congrArg String.toList h
  rw [parameterName_toList, parameterName_toList] at hl
  have hd : Nat.toDigits 10 m = Nat.toDigits 10 n :=
    eq_of_append_cons_eq Nat.underscore_not_in_toDigits Nat.underscore_not_in_toDigits hl
  rw [← Nat.ofDigitChars_ten_toDigits (n := m), hd, Nat.ofDigitChars_ten_toDigits]

/-! ## Names given one after the other -/

/-- The names of parameters bound for these fields in order, by the numbers after a
counter. -/
def parameterNames : Nat → List String → List String
  | _, [] => []
  | counter, field :: fields =>
    parameterName field (counter + 1) :: parameterNames (counter + 1) fields

theorem parameterNames_append (counter : Nat) (fs gs : List String) :
    parameterNames counter (fs ++ gs) =
      parameterNames counter fs ++ parameterNames (counter + fs.length) gs := by
  induction fs generalizing counter with
  | nil => rfl
  | cons f fs ih =>
    rw [List.cons_append, parameterNames, parameterNames, ih, List.cons_append, List.length_cons,
      Nat.add_right_comm counter 1 fs.length, Nat.add_assoc]

theorem length_parameterNames (counter : Nat) (fields : List String) :
    (parameterNames counter fields).length = fields.length := by
  induction fields generalizing counter with
  | nil => rfl
  | cons f fs ih => exact congrArg Nat.succ (ih (counter + 1))

theorem exists_of_mem_parameterNames {counter : Nat} {fields : List String} {name : String}
    (h : name ∈ parameterNames counter fields) :
    ∃ field n, counter < n ∧ n ≤ counter + fields.length ∧ name = parameterName field n := by
  induction fields generalizing counter with
  | nil => exact absurd h (by simp [parameterNames])
  | cons f fs ih =>
    rcases List.mem_cons.mp h with rfl | h
    · exact ⟨f, counter + 1, by omega, by simp, rfl⟩
    · obtain ⟨field, n, h₁, h₂, hn⟩ := ih h
      refine ⟨field, n, by omega, ?_, hn⟩
      rw [List.length_cons]
      omega

theorem nodup_parameterNames (counter : Nat) (fields : List String) :
    (parameterNames counter fields).Nodup := by
  induction fields generalizing counter with
  | nil => exact List.nodup_nil
  | cons f fs ih =>
    refine List.nodup_cons.mpr ⟨fun h => ?_, ih (counter + 1)⟩
    obtain ⟨g, n, hn, -, he⟩ := exists_of_mem_parameterNames h
    have := number_eq_of_parameterName_eq he
    omega

end Sql
end DocFilter
