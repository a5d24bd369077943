import DocFilter.Number.Double

/-!
# The shortest decimal that reads back

Many decimals round to the same number of binary64.  `Double.shortest` finds one
with the fewest digits, and among those the nearest.

The decimals that round to `m · 2^e` fill an interval around it: half a unit of
the last place to either side, a quarter of the unit below a power of two, ends
included exactly when `m` is even.  For a fixed count of digits the candidates
form a grid, and if any point of the grid lies in the interval, so does one of
the two neighbours of the number itself.  So it is enough to look at those two,
for one digit, two digits, and so on; seventeen always suffice.
-/

namespace DocFilter

/-- `digits · 10^exponent`. -/
structure Decimal where
  digits : Nat
  exponent : Int
  deriving DecidableEq, Repr

namespace Decimal

/-- The same value without zeros at the end of the digits; `fuel` bounds their
number. -/
def stripZeros : Nat → Decimal → Decimal
  | 0, d => d
  | fuel + 1, d =>
    if d.digits ≠ 0 ∧ d.digits % 10 = 0 then
      stripZeros fuel ⟨d.digits / 10, d.exponent + 1⟩
    else d

/-- `num / den` divided by `10^k`, again as a quotient. -/
def gridRatio (num den : Nat) (k : Int) : Nat × Nat :=
  if 0 ≤ k then (num, den * Nat.pow 10 k.toNat) else (num * Nat.pow 10 (-k).toNat, den)

end Decimal

namespace Double

/-- The `d` with `10^(d-1) ≤ num / den < 10^d`, for positive arguments. -/
def decimalPlace (num den : Nat) : Int :=
  if den ≤ num then Int.ofNat (decimalLength (num / den))
  else
    let c := (den + num - 1) / num
    1 - Int.ofNat (if c = 1 then 0 else decimalLength (c - 1))

/-- The interval of quotients that round to a nonzero number, in quarters of the
unit in its last place: lower end, the number itself, upper end. -/
def quarters (x : Double) : Nat × Nat × Nat :=
  let m := x.significand
  let low := if m = Nat.pow 2 52 ∧ leastExponent < x.exponent then 4 * m - 1 else 4 * m - 2
  (low, 4 * m, 4 * m + 2)

/-- The decimal with `count` digits that is nearest to `x` among those that round
to it, if there is one. -/
def withDigits? (x : Double) (count : Nat) : Option Decimal :=
  let (low, mid, high) := x.quarters
  let (p, q) := shiftRatio 1 1 (x.exponent - 2)
  let place := decimalPlace (mid * p) q - Int.ofNat count
  let (num, den) := Decimal.gridRatio (mid * p) q place
  let (lowNum, _) := Decimal.gridRatio (low * p) q place
  let (highNum, _) := Decimal.gridRatio (high * p) q place
  let closed := x.significand % 2 == 0
  let inside (k : Nat) : Bool :=
    if closed then lowNum ≤ k * den && k * den ≤ highNum
    else lowNum < k * den && k * den < highNum
  let below := num / den
  let above := below + 1
  let nearer := 2 * (num % den) < den || (2 * (num % den) == den && below % 2 == 0)
  if inside below && (nearer || !inside above) then some ⟨below, place⟩
  else if inside above then some ⟨above, place⟩
  else none

/-- The shortest decimal that rounds to `x`, for `x` not zero, without its sign. -/
def shortest (x : Double) : Decimal :=
  match (List.range' 1 17).findSome? x.withDigits? with
  | some d => d.stripZeros 17
  | none => ⟨x.significand, 0⟩

end Double
end DocFilter
