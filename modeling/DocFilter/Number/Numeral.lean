import DocFilter.Number.Double

/-!
# Numerals in text

A client may write a number as a string, and query parameters know nothing but
strings.  `int?` reads an integer, `double?` a decimal number.  Both take ASCII
digits and an optional sign and refuse blanks, separators and every word such as
`inf`.
-/

namespace DocFilter

/-- The value of a run of digits. -/
def digitsValue (ds : List Char) : Nat :=
  ds.foldl (fun n d => 10 * n + (d.toNat - 0x30)) 0

/-- A run of at least one digit. -/
def isDigits (ds : List Char) : Bool := !ds.isEmpty && ds.all Char.isDigit

/-- The sign in front of a numeral, `true` for minus, and the rest. -/
def splitSign : List Char → Bool × List Char
  | '-' :: rest => (true, rest)
  | '+' :: rest => (false, rest)
  | rest => (false, rest)

/-- The integer a numeral stands for, whatever its size. -/
def int? (cs : List Char) : Option Int :=
  let (negative, digits) := splitSign cs
  if isDigits digits then
    some (if negative then -(Int.ofNat (digitsValue digits)) else Int.ofNat (digitsValue digits))
  else none

/-- The power of ten that an exponent stands for, after the letter that announces
it. -/
def exponent? (cs : List Char) : Option Int := int? cs

/-- The number nearest to a decimal numeral: digits with at most one point among
them, and an exponent after `e` or `E`. -/
def double? (cs : List Char) : Option Double := do
  let (negative, cs) := splitSign cs
  let whole := cs.takeWhile Char.isDigit
  let cs := cs.dropWhile Char.isDigit
  let (fraction, cs) := match cs with
    | '.' :: rest => (rest.takeWhile Char.isDigit, rest.dropWhile Char.isDigit)
    | rest => ([], rest)
  if whole.isEmpty && fraction.isEmpty then none
  let power ← match cs with
    | [] => some 0
    | c :: rest => if c = 'e' || c = 'E' then exponent? rest else none
  Double.ofDecimal? negative (digitsValue (whole ++ fraction))
    (power - Int.ofNat fraction.length)

end DocFilter
