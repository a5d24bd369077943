/-!
# Classes of characters

A character of a class is none of those outside of it.  Lower case leaves every character of
ASCII alone but the capital letters, so digits keep their form, and what is a letter or a digit
in lower case is one as it was written.
-/

namespace DocFilter
namespace Text

variable {c x : Char}

theorem ne_of_class {inClass : Char → Bool} (hc : inClass c = true) (hx : inClass x = false) :
    c ≠ x := by
  rintro rfl
  exact absurd (hc.symm.trans hx) (by simp)

/-! ## Lower case -/

/-- Only capital letters have another lower case. -/
theorem toLower_eq_or_isUpper (c : Char) : c.toLower = c ∨ c.isUpper = true := by
  delta Char.toLower Char.isUpper
  split
  · next hrange => exact .inr (by simpa using hrange)
  · exact .inl rfl

theorem isAlpha_of_toLower (h : c.toLower.isAlpha = true) : c.isAlpha = true := by
  rcases toLower_eq_or_isUpper c with hsame | hupper
  · rwa [hsame] at h
  · exact Bool.or_eq_true_iff.mpr (.inl hupper)

theorem isAlphanum_of_toLower (h : c.toLower.isAlphanum = true) : c.isAlphanum = true := by
  rcases toLower_eq_or_isUpper c with hsame | hupper
  · rwa [hsame] at h
  · exact Bool.or_eq_true_iff.mpr (.inl (Bool.or_eq_true_iff.mpr (.inl hupper)))

theorem toLower_of_isDigit (h : c.isDigit = true) : c.toLower = c := by
  delta Char.isDigit at h
  simp only [Bool.and_eq_true, decide_eq_true_eq, UInt32.le_iff_toNat_le] at h
  delta Char.toLower
  rw [dif_neg]
  rintro ⟨hleast, -⟩
  exact absurd (Nat.le_trans (UInt32.le_iff_toNat_le.mp hleast) h.2) (by decide)

end Text
end DocFilter
