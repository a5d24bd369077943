import DocFilter.Json.Printer
import DocFilter.Number.Numeral
import DocFilter.Proofs.Text.Blank

/-!
# Integers that are written and read

The decimal text of an integer has no blanks, and reading it yields the integer.  A run of
digits that is read and written again has lost the zeros in front of it, and nothing else.
-/

namespace DocFilter

theorem not_isBlank_of_isDigit {c : Char} (h : c.isDigit = true) : Text.isBlank c = false := by
  rw [Char.isDigit, Bool.and_eq_true, decide_eq_true_eq, decide_eq_true_eq] at h
  have hleast : 48 ≤ c.toNat := UInt32.le_iff_toNat_le.mp h.1
  have hgreatest : c.toNat ≤ 57 := UInt32.le_iff_toNat_le.mp h.2
  exact Text.not_isBlank_of_visible (by omega)

/-- Digits have no sign in front of them. -/
theorem splitSign_toDigits (n : Nat) :
    splitSign (Nat.toDigits 10 n) = (false, Nat.toDigits 10 n) := by
  have hdigit := fun c => Nat.isDigit_of_mem_toDigits (b := 10) (n := n) (c := c) (by decide)
    (by decide)
  unfold splitSign
  split
  · next rest heq => exact absurd (hdigit '-' (by rw [heq]; exact List.mem_cons_self)) (by decide)
  · next rest heq => exact absurd (hdigit '+' (by rw [heq]; exact List.mem_cons_self)) (by decide)
  · rfl

theorem isDigits_toDigits (n : Nat) : isDigits (Nat.toDigits 10 n) = true := by
  rw [isDigits, Bool.and_eq_true, Bool.not_eq_true', List.isEmpty_eq_false_iff, List.all_eq_true]
  exact ⟨Nat.toDigits_ne_nil, fun c hc => Nat.isDigit_of_mem_toDigits (by decide) (by decide) hc⟩

theorem digitsValue_toDigits (n : Nat) : digitsValue (Nat.toDigits 10 n) = n :=
  Nat.ofDigitChars_ten_toDigits

/-- A run of digits without the zeros in front of it that change nothing. -/
def unpadded : List Char → List Char
  | '0' :: c :: rest => unpadded (c :: rest)
  | cs => cs

theorem unpadded_suffix (cs : List Char) : unpadded cs <:+ cs := by
  fun_induction unpadded cs with
  | case1 c rest ih => exact ih.trans (List.suffix_cons '0' (c :: rest))
  | case2 cs _ => exact List.suffix_rfl

theorem unpadded_eq_self_iff {cs : List Char} :
    unpadded cs = cs ↔ ¬ ∃ c rest, cs = '0' :: c :: rest := by
  constructor
  · rintro hself ⟨c, rest, rfl⟩
    have hshorter : (unpadded (c :: rest)).length ≤ (c :: rest).length :=
      (unpadded_suffix (c :: rest)).length_le
    rw [unpadded] at hself
    rw [hself, List.length_cons] at hshorter
    omega
  · intro hnot
    rw [unpadded]
    exact fun c rest heq => hnot ⟨c, rest, heq⟩

theorem digitChar_sub_of_isDigit {c : Char} (h : c.isDigit = true) :
    c.toNat - 0x30 < 10 ∧ Nat.digitChar (c.toNat - 0x30) = c := by
  rw [Char.isDigit, Bool.and_eq_true, decide_eq_true_eq, decide_eq_true_eq] at h
  have hleast : 48 ≤ c.toNat := UInt32.le_iff_toNat_le.mp h.1
  have hgreatest : c.toNat ≤ 57 := UInt32.le_iff_toNat_le.mp h.2
  have hlt : c.toNat - 0x30 < 10 := by omega
  refine ⟨hlt, Char.toNat_inj.mp ?_⟩
  rw [Nat.toNat_digitChar_of_lt_ten hlt]
  omega

/-- Further digits go behind the digits of a number that is not zero. -/
theorem toDigits_foldl {n : Nat} (hn : 0 < n) {cs : List Char}
    (h : ∀ c ∈ cs, c.isDigit = true) :
    Nat.toDigits 10 (cs.foldl (fun n d => 10 * n + (d.toNat - 0x30)) n) =
      Nat.toDigits 10 n ++ cs := by
  induction cs generalizing n with
  | nil => exact (List.append_nil _).symm
  | cons c cs ih =>
    obtain ⟨hc, hcs⟩ := List.forall_mem_cons.mp h
    obtain ⟨hlt, hchar⟩ := digitChar_sub_of_isDigit hc
    have hnext : Nat.toDigits 10 (10 * n + (c.toNat - 0x30)) = Nat.toDigits 10 n ++ [c] := by
      rw [← Nat.toDigits_append_toDigits (by decide) hn hlt, Nat.toDigits_of_lt_base hlt, hchar]
    rw [List.foldl_cons, ih (by omega) hcs, hnext, List.append_assoc, List.singleton_append]

/-- The digits of the value of a run of digits are those of the run, without zeros in front. -/
theorem toDigits_digitsValue {cs : List Char} (h : isDigits cs = true) :
    Nat.toDigits 10 (digitsValue cs) = unpadded cs := by
  rw [isDigits, Bool.and_eq_true, Bool.not_eq_true', List.isEmpty_eq_false_iff,
    List.all_eq_true] at h
  obtain ⟨hne, hdigits⟩ := h
  fun_induction unpadded cs with
  | case1 c rest ih => exact ih (List.cons_ne_nil c rest) (List.forall_mem_cons.mp hdigits).2
  | case2 cs hnot =>
    cases cs with
    | nil => exact absurd rfl hne
    | cons c rest =>
      obtain ⟨hc, hrest⟩ := List.forall_mem_cons.mp hdigits
      obtain ⟨hlt, hchar⟩ := digitChar_sub_of_isDigit hc
      have hfirst : digitsValue (c :: rest) =
          rest.foldl (fun n d => 10 * n + (d.toNat - 0x30)) (c.toNat - 0x30) := by
        rw [digitsValue, List.foldl_cons, Nat.mul_zero, Nat.zero_add]
      rw [hfirst]
      by_cases hzero : c.toNat - 0x30 = 0
      · -- a zero in front is all there is
        obtain rfl : c = '0' := by rw [← hchar, hzero]; rfl
        cases rest with
        | nil => rfl
        | cons d rest => exact absurd rfl (hnot d rest)
      · rw [toDigits_foldl (by omega) hrest, Nat.toDigits_of_lt_base hlt, hchar,
          List.singleton_append]

/-- An integer is read back from its decimal text. -/
theorem int?_intChars (n : Int) : int? (intChars n) = some n := by
  by_cases hneg : n < 0
  · rw [intChars, if_pos hneg, int?, splitSign]
    dsimp only
    rw [if_pos (isDigits_toDigits _), digitsValue_toDigits, if_pos rfl]
    exact congrArg some (by rw [Int.ofNat_eq_natCast]; omega)
  · rw [intChars, if_neg hneg, int?, splitSign_toDigits]
    dsimp only
    rw [if_pos (isDigits_toDigits _), digitsValue_toDigits, if_neg Bool.false_ne_true]
    exact congrArg some (by rw [Int.ofNat_eq_natCast]; omega)

theorem trimmed_intChars (n : Int) : Text.Trimmed (intChars n) := by
  have hdigits : ∀ c ∈ Nat.toDigits 10 n.natAbs, Text.isBlank c = false := fun c hc =>
    not_isBlank_of_isDigit (Nat.isDigit_of_mem_toDigits (by decide) (by decide) hc)
  refine Text.trimmed_of_forall ?_
  unfold intChars
  split
  · exact List.forall_mem_cons.mpr ⟨by decide, hdigits⟩
  · exact hdigits

end DocFilter
