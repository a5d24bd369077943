import DocFilter.Number.Shortest

/-!
# How a number of binary64 is written

The digits are the shortest that read back.  Where the point goes is a choice of
the format, and `Double.layout` holds that choice: positional between `10^-5` and
`10^16`, with `.0` after an integral number, and an exponent with its sign
outside.
-/

namespace DocFilter

/-- Which numbers are written positionally, by the decimal exponent of the first
digit. -/
structure PositionalRange where
  least : Int
  below : Int

namespace Double

/-- Numbers from `10^-5` up to but not including `10^16` are written
positionally. -/
def layout : PositionalRange := ⟨-5, 16⟩

/-- The digits with a point after the first `k`, and zeros where digits are
missing on either side. -/
def positional (digits : List Char) (k : Int) : List Char :=
  if k ≤ 0 then '0' :: '.' :: (List.replicate (-k).toNat '0' ++ digits)
  else
    let whole := digits.take k.toNat
    let rest := digits.drop k.toNat
    whole ++ List.replicate (k.toNat - digits.length) '0' ++
      '.' :: (if rest.isEmpty then ['0'] else rest)

/-- The digits with a point after the first one, and the exponent `e` of that
first digit. -/
def scientific (digits : List Char) (e : Int) : List Char :=
  let mantissa := match digits with
    | d :: r@(_ :: _) => d :: '.' :: r
    | ds => ds
  mantissa ++ 'e' :: (if e < 0 then '-' else '+') :: Nat.toDigits 10 e.natAbs

/-- The text of a number. -/
def chars (x : Double) : List Char :=
  let size :=
    if x.isZero then ['0', '.', '0']
    else
      let d := x.shortest
      let digits := Nat.toDigits 10 d.digits
      let e := d.exponent + Int.ofNat digits.length - 1
      if layout.least ≤ e && e < layout.below then positional digits (e + 1)
      else scientific digits e
  if x.negative then '-' :: size else size

/-- The text of a number, as a string. -/
def text (x : Double) : String := String.ofList x.chars

end Double
end DocFilter
