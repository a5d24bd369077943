/-!
# Finite numbers of binary64

A number in a request is read into the format binary64, computed with at most
once, and written out again.  `Double` holds such a number as a sign, a
significand and a power of two, so that every step is exact arithmetic on natural
numbers and two numbers are equal exactly when they are the same number of the
format.  Infinities and NaN are no values of this type: reading a number that is
too large fails.

## One rounding

`ofRatio?` rounds a quotient of naturals to the nearest number of the format, a
tie going to the even significand.  All other constructions are instances of it:
a natural number, a product, a quotient, a decimal.
-/

namespace DocFilter

/-- `(-1)^negative · significand · 2^exponent`, in the canonical form of binary64:
the significand is below `2^53`, and at least `2^52` unless the exponent is the
least one. -/
structure Double where
  negative : Bool
  significand : Nat
  exponent : Int
  deriving DecidableEq, Repr

namespace Double

/-- The exponent of the least positive number. -/
def leastExponent : Int := -1074

/-- The exponent of the greatest numbers. -/
def greatestExponent : Int := 971

/-- Zero, with a sign. -/
def zero (negative : Bool) : Double := ⟨negative, 0, leastExponent⟩

/-- Whether the number is zero of either sign. -/
def isZero (x : Double) : Bool := x.significand == 0

/-- The number with the sign given. -/
def withSign (negative : Bool) (x : Double) : Double := { x with negative := negative }

/-- The quotient to the nearest natural number, a tie to the even one. -/
def divNearest (num den : Nat) : Nat :=
  let q := num / den
  let r := num % den
  if 2 * r > den || (2 * r == den && q % 2 == 1) then q + 1 else q

/-- `num / den` times `2^shift`, again as a quotient. -/
def shiftRatio (num den : Nat) (shift : Int) : Nat × Nat :=
  if 0 ≤ shift then (num * Nat.pow 2 shift.toNat, den)
  else (num, den * Nat.pow 2 (-shift).toNat)

/-- The greatest `k` with `2^k ≤ num / den`, for positive arguments. -/
def log2Ratio (num den : Nat) : Int :=
  let k : Int := Int.ofNat num.log2 - Int.ofNat den.log2
  let (n, d) := shiftRatio num den (-k)
  if d ≤ n then k else k - 1

/-- The number of the format nearest to `num / den`, or `none` when that is beyond
the greatest one. -/
def ofRatio? (negative : Bool) (num den : Nat) : Option Double :=
  if num = 0 then some (zero negative)
  else
    let e := max (log2Ratio num den - 52) leastExponent
    let (n, d) := shiftRatio num den (-e)
    let q := divNearest n d
    let (q, e) := if q = Nat.pow 2 53 then (Nat.pow 2 52, e + 1) else (q, e)
    if greatestExponent < e then none else some ⟨negative, q, e⟩

/-- The size of the number as a quotient of naturals. -/
def ratio (x : Double) : Nat × Nat := shiftRatio x.significand 1 x.exponent

/-- The number nearest to a natural number. -/
def ofNat? (n : Nat) : Option Double := ofRatio? false n 1

/-- The product, rounded; its sign is the first factor's. -/
def mul? (x y : Double) : Option Double :=
  ofRatio? x.negative (x.ratio.1 * y.ratio.1) (x.ratio.2 * y.ratio.2)

/-- The quotient by a nonzero number, rounded; its sign is the dividend's. -/
def div? (x y : Double) : Option Double :=
  ofRatio? x.negative (x.ratio.1 * y.ratio.2) (x.ratio.2 * y.ratio.1)

/-- How many decimal digits a natural number has. -/
def decimalLength (n : Nat) : Nat := (Nat.toDigits 10 n).length

/-- The number nearest to `digits · 10^exponent`.  The exponent may be as large as
a client cares to write, so magnitudes far outside the format are settled by
their length alone. -/
def ofDecimal? (negative : Bool) (digits : Nat) (exponent : Int) : Option Double :=
  if digits = 0 then some (zero negative)
  else
    let top := Int.ofNat (decimalLength digits) + exponent
    if 310 < top then none
    else if top < -330 then some (zero negative)
    else if 0 ≤ exponent then ofRatio? negative (digits * Nat.pow 10 exponent.toNat) 1
    else ofRatio? negative digits (Nat.pow 10 (-exponent).toNat)

/-- The number nearest to `10^k`, for `k ≤ 308`. -/
def powerOfTen (k : Nat) : Double :=
  (ofRatio? false (Nat.pow 10 k) 1).getD (zero false)

/-- Divide by `10^308` until the remaining exponent is at least `-308` or nothing
is left, then scale by what remains. -/
def scaleByTen? (x : Double) (exponent : Int) : Nat → Option Double
  | 0 => some (zero x.negative)
  | rounds + 1 =>
    if exponent < -308 then
      if x.isZero then some x
      else (div? x (powerOfTen 308)).bind fun y => scaleByTen? y (exponent + 308) rounds
    else if 308 < exponent then
      if x.isZero then some x else none
    else if 0 ≤ exponent then mul? x (powerOfTen exponent.toNat)
    else div? x (powerOfTen (-exponent).toNat)

/-- `digits · 10^exponent` in two roundings: the digits are rounded first, then
the result is multiplied or divided by a power of ten.  For at most fifteen
digits and small exponents this is the nearest number; beyond that it may be one
of its neighbours. -/
def ofScaled? (negative : Bool) (digits : Nat) (exponent : Int) : Option Double :=
  (ofNat? digits).bind fun x => scaleByTen? (x.withSign negative) exponent 3

end Double
end DocFilter
