import DocFilter.Json.Source
import DocFilter.Number.Numeral

/-!
# From written JSON to values

What is written becomes a value when its strings are texts, its numbers are
numbers, and it is not nested too deeply.  An entry that repeats a key writes over
the value of the earlier one.

## Numbers

A number without point and exponent is an integer if it fits 64 bits, signed or
unsigned; `-0` is the negative zero of binary64.  Every other number is rounded to
binary64 from the leading digits that fit 64 bits without a sign, in two steps:
the digits, then the power of ten.  A number beyond the format is refused.
-/

namespace DocFilter
namespace Json

/-- The text the parts of a string spell, unless a surrogate is without its
partner. -/
def stringOfParts? : List StringPart → Option (List Char)
  | [] => some []
  | .char c :: rest => (stringOfParts? rest).map (c :: ·)
  | .unit n :: rest =>
    if 0xD800 ≤ n && n < 0xDC00 then
      match rest with
      | .unit m :: rest' =>
        if 0xDC00 ≤ m && m < 0xE000 then
          (stringOfParts? rest').map
            (Char.ofNat (0x10000 + (n - 0xD800) * 0x400 + (m - 0xDC00)) :: ·)
        else none
      | _ => none
    else if 0xDC00 ≤ n && n < 0xE000 then none
    else (stringOfParts? rest).map (Char.ofNat n :: ·)

/-- The greatest natural number of 64 bits. -/
def uint64Greatest : Nat := 18446744073709551615

/-- Digits appended to a number for as long as it fits 64 bits: the number, and
the digits that were left over. -/
def appendDigits (n : Nat) : List Char → Nat × List Char
  | [] => (n, [])
  | d :: rest =>
    let next := 10 * n + (d.toNat - 0x30)
    if next ≤ uint64Greatest then appendDigits next rest else (n, d :: rest)

/-- The number its parts stand for. -/
def numberOfParts? (p : NumberParts) : Option Number :=
  let (whole, left) := appendDigits 0 p.whole
  let shift : Int := Int.ofNat left.length
  match p.fraction, p.exponent with
  | none, none =>
    if !left.isEmpty then (Double.ofScaled? p.negative whole shift).map .real
    else if !p.negative then some (.integer (Int.ofNat whole))
    else if whole = 0 then some (.real (Double.zero true))
    else if whole ≤ int64Least.natAbs then some (.integer (-(Int.ofNat whole)))
    else (Double.ofScaled? true whole 0).map .real
  | fraction, exponent =>
    let digits := fraction.getD []
    let (significand, unused) := appendDigits whole digits
    let shift := shift - Int.ofNat (digits.length - unused.length)
    let power : Int := match exponent with
      | none => 0
      | some (true, ds) => -(Int.ofNat (digitsValue ds))
      | some (false, ds) => Int.ofNat (digitsValue ds)
    (Double.ofScaled? p.negative significand (shift + power)).map .real

/-- The number written. -/
def numberOf? (text : List Char) : Option Number :=
  (numberParts? text).bind numberOfParts?

/-- The text written. -/
def stringOf? (parts : List StringPart) : Option String :=
  (stringOfParts? parts).map String.ofList

namespace Source

mutual

/-- The value written, when fewer than `depth` containers enclose each other in
it. -/
def toJson? (depth : Nat) : Source → Option Json
  | .null => some .null
  | .bool b => some (.bool b)
  | .number text => (numberOf? text).map .number
  | .string parts => (stringOf? parts).map .string
  | .array items =>
    if depth ≤ 1 then none else (itemsToJson? (depth - 1) items).map .array
  | .object entries =>
    if depth ≤ 1 then none
    else (entriesToJson? (depth - 1) entries).map fun es => .object (Dict.ofEntries es)

/-- The items written. -/
def itemsToJson? (depth : Nat) : List Source → Option (List Json)
  | [] => some []
  | v :: rest => do
    let v ← v.toJson? depth
    let rest ← itemsToJson? depth rest
    return v :: rest

/-- The entries written, repeated keys included. -/
def entriesToJson? (depth : Nat) :
    List (List StringPart × Source) → Option (List (String × Json))
  | [] => some []
  | (k, v) :: rest => do
    let k ← stringOf? k
    let v ← v.toJson? depth
    let rest ← entriesToJson? depth rest
    return (k, v) :: rest

end

end Source

/-- How deeply containers may enclose each other in a text, counted from one. -/
def depthLimit : Nat := 128

/-- The value a text holds. -/
def read? (s : String) : Option Json :=
  (Source.read? s).bind (·.toJson? depthLimit)

end Json
end DocFilter
