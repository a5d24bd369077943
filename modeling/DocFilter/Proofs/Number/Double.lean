import DocFilter.Number.Double
import Mathlib.Algebra.Order.Field.Power
import Mathlib.Data.Rat.Cast.Order
import Mathlib.Tactic.FieldSimp
import Mathlib.Tactic.GCongr
import Mathlib.Tactic.Linarith
import Mathlib.Tactic.Positivity
import Mathlib.Tactic.Ring

/-!
# Rounding to binary64

A quotient that is rounded becomes a number of the format, and none of them is nearer to it
(`Double.nearest_ofRatio?`).  The unit in the last place is chosen so that the quotient has
between `2^52` and `2^53` of them, unless that takes a smaller unit than there is.  Numbers with
the same unit or a greater one are whole multiples of it, and the nearest of these is found;
numbers with a smaller unit are all below `2^52` of it.

A natural number below `2^64` is never too large to be rounded (`Double.exists_ofNat?`).
-/

namespace DocFilter
namespace Double

/-! ## Values -/

/-- The number as a rational. -/
def value (x : Double) : ℚ :=
  if x.negative then -(x.significand * 2 ^ x.exponent) else x.significand * 2 ^ x.exponent

/-- The number is one of the format, in its canonical form. -/
structure Canonical (x : Double) : Prop where
  significand_lt : x.significand < 2 ^ 53
  least_le : leastExponent ≤ x.exponent
  le_greatest : x.exponent ≤ greatestExponent
  normal : leastExponent < x.exponent → 2 ^ 52 ≤ x.significand

/-- The number is of the format, and no number of the format is nearer to the rational. -/
structure Nearest (x : Double) (a : ℚ) : Prop where
  canonical : x.Canonical
  nearest : ∀ y : Double, y.Canonical → |x.value - a| ≤ |y.value - a|

variable {num den : Nat} {shift e : Int} {a : ℚ}

/-! ## Quotients -/

theorem shiftRatio_den_pos (hden : 0 < den) (num : Nat) (shift : Int) :
    0 < (shiftRatio num den shift).2 := by
  unfold shiftRatio
  split
  · exact hden
  · exact Nat.mul_pos hden (Nat.pow_pos (by omega))

theorem shiftRatio_div (hden : 0 < den) (num : Nat) (shift : Int) :
    ((shiftRatio num den shift).1 / (shiftRatio num den shift).2 : ℚ) =
      num / den * 2 ^ shift := by
  have hd : (den : ℚ) ≠ 0 := by exact_mod_cast hden.ne'
  unfold shiftRatio
  split
  · next hshift =>
    obtain ⟨k, rfl⟩ := Int.eq_ofNat_of_zero_le hshift
    rw [Int.toNat_natCast, zpow_natCast, Nat.pow_eq]
    push_cast
    ring
  · next hshift =>
    obtain ⟨k, hk⟩ := Int.eq_ofNat_of_zero_le (show 0 ≤ -shift by omega)
    rw [hk, Int.toNat_natCast, ← neg_neg shift, hk, zpow_neg, zpow_natCast, Nat.pow_eq]
    push_cast
    field_simp

/-- The natural number found is at most half a unit away. -/
theorem abs_divNearest_sub (hden : 0 < den) (num : Nat) :
    |(divNearest num den : ℚ) - num / den| ≤ 1 / 2 := by
  have hd : (0 : ℚ) < den := by exact_mod_cast hden
  have hsplit : den * (num / den) + num % den = num := Nat.div_add_mod num den
  have hmod : num % den < den := Nat.mod_lt num hden
  have hbounds : 2 * num ≤ 2 * (den * divNearest num den) + den ∧
      2 * (den * divNearest num den) ≤ 2 * num + den := by
    unfold divNearest
    dsimp only
    split
    · next h =>
      simp only [gt_iff_lt, Bool.or_eq_true, decide_eq_true_eq, Bool.and_eq_true,
        beq_iff_eq] at h
      rw [Nat.mul_add, Nat.mul_one]
      omega
    · next h =>
      simp only [gt_iff_lt, Bool.or_eq_true, decide_eq_true_eq, Bool.and_eq_true,
        beq_iff_eq] at h
      omega
  obtain ⟨hlow, hhigh⟩ := hbounds
  have hlow' : (2 * num : ℚ) ≤ 2 * (den * divNearest num den) + den := by exact_mod_cast hlow
  have hhigh' : (2 * (den * divNearest num den) : ℚ) ≤ 2 * num + den := by exact_mod_cast hhigh
  rw [abs_le]
  constructor
  · rw [neg_le_sub_iff_le_add, div_le_iff₀ hd]
    linarith
  · rw [sub_le_iff_le_add, ← sub_le_iff_le_add', le_div_iff₀ hd]
    linarith

/-- Of the whole numbers, one that is at most half a unit away is the nearest. -/
theorem abs_sub_le_of_half {q : Int} (hq : |(q : ℚ) - a| ≤ 1 / 2) (k : Int) :
    |(q : ℚ) - a| ≤ |(k : ℚ) - a| := by
  by_cases hk : k = q
  · rw [hk]
  · have hone : (1 : ℚ) ≤ |(k : ℚ) - q| := by
      have hint : 1 ≤ |k - q| := Int.one_le_abs (sub_ne_zero.mpr hk)
      exact_mod_cast hint
    have htriangle : |(k : ℚ) - q| ≤ |(k : ℚ) - a| + |(q : ℚ) - a| := by
      rw [abs_sub_comm (q : ℚ) a]
      exact abs_sub_le _ _ _
    linarith

/-- A positive natural number lies between the power of two that its logarithm says and the next
one. -/
theorem log2_bounds {n : Nat} (hn : 0 < n) :
    (2 : ℚ) ^ (n.log2 : Int) ≤ n ∧ (n : ℚ) < 2 ^ ((n.log2 : Int) + 1) := by
  constructor
  · rw [zpow_natCast]
    exact_mod_cast Nat.log2_self_le hn.ne'
  · rw [zpow_add_one₀ (by norm_num), zpow_natCast, ← pow_succ]
    exact_mod_cast Nat.lt_log2_self

/-- A quotient of positive numbers lies between the power of two found and the next one. -/
theorem log2Ratio_bounds (hnum : 0 < num) (hden : 0 < den) :
    (2 : ℚ) ^ log2Ratio num den ≤ num / den ∧ (num / den : ℚ) < 2 ^ (log2Ratio num den + 1) := by
  have hn : (0 : ℚ) < num := by exact_mod_cast hnum
  have hd : (0 : ℚ) < den := by exact_mod_cast hden
  have htwo : (2 : ℚ) ≠ 0 := by norm_num
  obtain ⟨hnumLow, hnumHigh⟩ := log2_bounds hnum
  obtain ⟨hdenLow, hdenHigh⟩ := log2_bounds hden
  have hlow : (2 : ℚ) ^ ((num.log2 : Int) - den.log2 - 1) ≤ num / den := by
    rw [le_div_iff₀ hd]
    calc (2 : ℚ) ^ ((num.log2 : Int) - den.log2 - 1) * den
        ≤ 2 ^ ((num.log2 : Int) - den.log2 - 1) * 2 ^ ((den.log2 : Int) + 1) := by gcongr
      _ = 2 ^ (num.log2 : Int) := by rw [← zpow_add₀ htwo]; congr 1; omega
      _ ≤ num := hnumLow
  have hhigh : (num / den : ℚ) < 2 ^ ((num.log2 : Int) - den.log2 + 1) := by
    rw [div_lt_iff₀ hd]
    calc (num : ℚ) < 2 ^ ((num.log2 : Int) + 1) := hnumHigh
      _ = 2 ^ ((num.log2 : Int) - den.log2 + 1) * 2 ^ (den.log2 : Int) := by
        rw [← zpow_add₀ htwo]; congr 1; omega
      _ ≤ 2 ^ ((num.log2 : Int) - den.log2 + 1) * den := by gcongr
  have hpos := shiftRatio_den_pos hden num (-((num.log2 : Int) - den.log2))
  have hshift := shiftRatio_div hden num (-((num.log2 : Int) - den.log2))
  unfold log2Ratio
  simp only [Int.ofNat_eq_natCast]
  generalize shiftRatio num den (-((num.log2 : Int) - den.log2)) = r at hpos hshift ⊢
  have hr : (0 : ℚ) < r.2 := by exact_mod_cast hpos
  have hpow : (0 : ℚ) < 2 ^ ((num.log2 : Int) - den.log2) := by positivity
  -- the shifted quotient says whether the quotient reaches the power
  rw [zpow_neg, ← div_eq_mul_inv, div_eq_div_iff hr.ne' hpow.ne'] at hshift
  split
  · next hle =>
    have hle' : (r.2 : ℚ) ≤ r.1 := by exact_mod_cast hle
    refine ⟨?_, hhigh⟩
    by_contra hlt
    rw [not_le] at hlt
    have := mul_lt_mul_of_pos_right hlt hr
    nlinarith
  · next hle =>
    have hle' : (r.1 : ℚ) < r.2 := by exact_mod_cast Nat.lt_of_not_le hle
    refine ⟨hlow, ?_⟩
    rw [sub_add_cancel]
    by_contra hlt
    rw [not_lt] at hlt
    have := mul_le_mul_of_nonneg_right hlt hr.le
    nlinarith

/-! ## Rounding -/

/-- A number with this exponent or a greater one is a whole multiple of the power of two. -/
theorem exists_value_div_eq {y : Double} (h : e ≤ y.exponent) :
    ∃ m : Int, y.value / 2 ^ e = m := by
  obtain ⟨k, hk⟩ := Int.eq_ofNat_of_zero_le (sub_nonneg.mpr h)
  have hexp : (2 : ℚ) ^ y.exponent / 2 ^ e = 2 ^ k := by
    rw [← zpow_sub₀ (by norm_num), hk, zpow_natCast]
  unfold value
  split
  · refine ⟨-(y.significand * 2 ^ k), ?_⟩
    rw [neg_div, mul_div_assoc, hexp]
    push_cast
    rfl
  · refine ⟨y.significand * 2 ^ k, ?_⟩
    rw [mul_div_assoc, hexp]
    push_cast
    rfl

/-- A number with a smaller exponent is at most `2^52` times the power of two. -/
theorem value_div_le {y : Double} (hy : y.Canonical) (h : y.exponent < e) :
    y.value / 2 ^ e ≤ 2 ^ 52 := by
  have hpow : (0 : ℚ) < 2 ^ e := by positivity
  have hsignificand : (y.significand : ℚ) ≤ 2 ^ 53 := by exact_mod_cast hy.significand_lt.le
  have hexp : (2 : ℚ) ^ y.exponent ≤ 2 ^ (e - 1) := zpow_le_zpow_right₀ (by norm_num) (by omega)
  have hsize : (y.significand : ℚ) * 2 ^ y.exponent ≤ 2 ^ 52 * 2 ^ e := by
    calc (y.significand : ℚ) * 2 ^ y.exponent ≤ 2 ^ 53 * 2 ^ (e - 1) := by gcongr
      _ = 2 ^ 52 * 2 ^ e := by
        rw [zpow_sub_one₀ (by norm_num)]
        ring
  have hnonneg : (0 : ℚ) ≤ y.significand * 2 ^ y.exponent := by positivity
  rw [div_le_iff₀ hpow]
  unfold value
  split
  · linarith
  · exact hsize

/-- Whole multiples of a power of two, of which one is the nearest, and numbers below `2^52` of
them. -/
theorem abs_sub_le_of_canonical {q : Nat} (hq : |(q : ℚ) - a / 2 ^ e| ≤ 1 / 2)
    (hlarge : leastExponent < e → (2 : ℚ) ^ 52 ≤ a / 2 ^ e) {y : Double} (hy : y.Canonical) :
    |q * 2 ^ e - a| ≤ |y.value - a| := by
  have hpow : (0 : ℚ) < 2 ^ e := by positivity
  -- both distances in units of the power
  have hscale (b : ℚ) : |b - a| = |b / 2 ^ e - a / 2 ^ e| * 2 ^ e := by
    rw [← sub_div, abs_div, abs_of_pos hpow, div_mul_cancel₀ _ hpow.ne']
  have hnearest := abs_sub_le_of_half (q := q) (a := a / 2 ^ e) (by exact_mod_cast hq)
  rw [hscale, hscale y.value, mul_div_cancel_right₀ _ hpow.ne']
  refine mul_le_mul_of_nonneg_right ?_ hpow.le
  rcases le_or_gt e y.exponent with hge | hlt
  · obtain ⟨m, hm⟩ := exists_value_div_eq hge
    rw [hm]
    exact_mod_cast hnearest m
  · have hsmall := value_div_le hy hlt
    have hreach := hlarge (lt_of_le_of_lt hy.least_le hlt)
    -- `2^52` lies between, and is a whole number as well
    refine (hnearest (2 ^ 52)).trans ?_
    push_cast
    rw [abs_of_nonpos (by linarith), abs_of_nonpos (by linarith)]
    linarith

/-- The exponent of the unit in which a quotient is rounded. -/
def unitExponent (num den : Nat) : Int := max (log2Ratio num den - 52) leastExponent

/-- The quotient in units of the last place, rounded. -/
def units (num den : Nat) : Nat :=
  divNearest (shiftRatio num den (-unitExponent num den)).1
    (shiftRatio num den (-unitExponent num den)).2

theorem ofRatio?_eq (negative : Bool) (hnum : 0 < num) (den : Nat) :
    ofRatio? negative num den =
      if units num den = 2 ^ 53 then
        if greatestExponent < unitExponent num den + 1 then none
        else some ⟨negative, 2 ^ 52, unitExponent num den + 1⟩
      else if greatestExponent < unitExponent num den then none
      else some ⟨negative, units num den, unitExponent num den⟩ := by
  unfold ofRatio?
  rw [if_neg hnum.ne']
  change (if greatestExponent <
      (if units num den = 2 ^ 53 then (2 ^ 52, unitExponent num den + 1)
        else (units num den, unitExponent num den)).2 then none
    else some (⟨negative,
      (if units num den = 2 ^ 53 then (2 ^ 52, unitExponent num den + 1)
        else (units num den, unitExponent num den)).1,
      (if units num den = 2 ^ 53 then (2 ^ 52, unitExponent num den + 1)
        else (units num den, unitExponent num den)).2⟩ : Double)) = _
  split <;> rfl

/-- The quotient has at most `2^53` units, and at least `2^52` unless the unit is the least. -/
theorem units_bounds (hnum : 0 < num) (hden : 0 < den) :
    |(units num den : ℚ) - num / den / 2 ^ unitExponent num den| ≤ 1 / 2 ∧
      units num den ≤ 2 ^ 53 ∧
      (leastExponent < unitExponent num den →
        (2 : ℚ) ^ 52 ≤ num / den / 2 ^ unitExponent num den ∧ 2 ^ 52 ≤ units num den) := by
  obtain ⟨hlow, hhigh⟩ := log2Ratio_bounds hnum hden
  have htwo : (2 : ℚ) ≠ 0 := by norm_num
  have hpow : (0 : ℚ) < 2 ^ unitExponent num den := by positivity
  have hhalf : |(units num den : ℚ) - num / den / 2 ^ unitExponent num den| ≤ 1 / 2 := by
    have hnear := abs_divNearest_sub (shiftRatio_den_pos hden num (-unitExponent num den))
      (shiftRatio num den (-unitExponent num den)).1
    rwa [shiftRatio_div hden, zpow_neg, ← div_eq_mul_inv] at hnear
  obtain ⟨hleft, hright⟩ := abs_le.mp hhalf
  refine ⟨hhalf, ?_, fun hleast => ?_⟩
  · have hbelow : (num / den / 2 ^ unitExponent num den : ℚ) < 2 ^ 53 := by
      rw [div_lt_iff₀ hpow]
      calc (num / den : ℚ) < 2 ^ (log2Ratio num den + 1) := hhigh
        _ ≤ 2 ^ (53 + unitExponent num den) :=
          zpow_le_zpow_right₀ (by norm_num) (by unfold unitExponent; omega)
        _ = 2 ^ 53 * 2 ^ unitExponent num den := by rw [zpow_add₀ htwo]; norm_num
    have hlt : (units num den : ℚ) < (2 ^ 53 + 1 : Nat) := by
      push_cast
      linarith
    exact Nat.lt_succ_iff.mp (by exact_mod_cast hlt)
  · have hunit : unitExponent num den = log2Ratio num den - 52 := by
      unfold unitExponent at hleast ⊢
      omega
    have habove : (2 : ℚ) ^ 52 ≤ num / den / 2 ^ unitExponent num den := by
      rw [le_div_iff₀ hpow]
      calc (2 : ℚ) ^ 52 * 2 ^ unitExponent num den = 2 ^ (52 + unitExponent num den) := by
            rw [zpow_add₀ htwo]; norm_num
        _ = 2 ^ log2Ratio num den := by rw [hunit]; congr 1; omega
        _ ≤ num / den := hlow
    refine ⟨habove, ?_⟩
    have hlt : ((2 ^ 52 : Nat) : ℚ) < (units num den + 1 : Nat) := by
      push_cast
      linarith
    exact Nat.lt_succ_iff.mp (by exact_mod_cast hlt)

/-- A quotient is rounded to a number of the format that is nearest to it. -/
theorem nearest_ofRatio? (hden : 0 < den) {x : Double} (h : ofRatio? false num den = some x) :
    x.Nearest (num / den) := by
  rcases Nat.eq_zero_or_pos num with rfl | hnum
  · obtain rfl : zero false = x := Option.some.inj h
    refine ⟨⟨by decide, by decide, by decide, fun hlt => absurd hlt (lt_irrefl _)⟩, ?_⟩
    intro y _
    have hzero : (zero false).value = 0 := by simp [value, zero]
    rw [hzero, Nat.cast_zero, zero_div, sub_zero, abs_zero]
    exact abs_nonneg _
  · obtain ⟨hhalf, hmost, hnormal⟩ := units_bounds hnum hden
    have hleast : leastExponent ≤ unitExponent num den := le_max_right _ _
    have hnearest (y : Double) (hy : y.Canonical) :
        |units num den * 2 ^ unitExponent num den - (num / den : ℚ)| ≤ |y.value - num / den| :=
      abs_sub_le_of_canonical hhalf (fun hlt => (hnormal hlt).1) hy
    rw [ofRatio?_eq false hnum] at h
    split at h
    · next hcarry =>
      split at h
      · exact absurd h (by simp)
      · next hgreatest =>
        obtain rfl := Option.some.inj h
        -- the carry does not change the value
        have hvalue : value ⟨false, 2 ^ 52, unitExponent num den + 1⟩ =
            units num den * 2 ^ unitExponent num den := by
          rw [value, if_neg Bool.false_ne_true, hcarry, zpow_add_one₀ (by norm_num)]
          push_cast
          ring
        refine ⟨⟨Nat.pow_lt_pow_right (by omega) (by omega), ?_, ?_, fun _ => le_rfl⟩, ?_⟩
        · exact hleast.trans (Int.le_add_one le_rfl)
        · exact not_lt.mp hgreatest
        · rwa [hvalue]
    · next hcarry =>
      split at h
      · exact absurd h (by simp)
      · next hgreatest =>
        obtain rfl := Option.some.inj h
        exact ⟨⟨lt_of_le_of_ne hmost hcarry, hleast, not_lt.mp hgreatest,
          fun hlt => (hnormal hlt).2⟩, hnearest⟩

/-- The sign stays. -/
theorem negative_of_ofRatio? {negative : Bool} {x : Double}
    (h : ofRatio? negative num den = some x) : x.negative = negative := by
  rcases Nat.eq_zero_or_pos num with rfl | hnum
  · rw [← Option.some.inj h]
    rfl
  · rw [ofRatio?_eq negative hnum] at h
    split_ifs at h
    · rw [← Option.some.inj h]
    · rw [← Option.some.inj h]

/-- A natural number of 64 bits can be rounded. -/
theorem exists_ofNat? {n : Nat} (h : n < 2 ^ 64) :
    ∃ x, ofNat? n = some x ∧ x.Nearest n := by
  obtain ⟨x, hx⟩ : ∃ x, ofNat? n = some x := by
    unfold ofNat?
    rcases Nat.eq_zero_or_pos n with rfl | hn
    · exact ⟨_, rfl⟩
    · have hlog : log2Ratio n 1 < 64 := by
        have hlow := (log2Ratio_bounds hn Nat.one_pos).1
        have hbelow : (n : ℚ) < 2 ^ (64 : Int) := by exact_mod_cast h
        rw [Nat.cast_one, div_one] at hlow
        exact (zpow_lt_zpow_iff_right₀ (by norm_num)).mp (hlow.trans_lt hbelow)
      have hunit : unitExponent n 1 < 12 := by
        unfold unitExponent leastExponent
        omega
      rw [ofRatio?_eq false hn]
      unfold greatestExponent
      split
      · exact ⟨_, if_neg (by omega)⟩
      · exact ⟨_, if_neg (by omega)⟩
  have hnearest := nearest_ofRatio? Nat.one_pos hx
  rw [Nat.cast_one, div_one] at hnearest
  exact ⟨x, hx, hnearest⟩

end Double
end DocFilter
