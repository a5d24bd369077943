import DocFilter.Config.Setting
import DocFilter.Json.Basic
import DocFilter.Json.Lexer
import DocFilter.Number.Numeral

/-!
# Values without quotes

An integer is written in decimal, or after `0x`, `0o` or `0b` in another base; an
underscore may stand between two digits, and the value has to fit 64 bits with a
sign.  Truth values, fractions, dates and times are only recognised: no setting takes
one, but a list may hold one where nobody looks.
-/

namespace DocFilter
namespace Toml

/-- A run of digits in which single underscores may stand between two digits: the
digits alone. -/
def ungroup? (isDigit : Char → Bool) : List Char → Option (List Char)
  | [] => none
  | [c] => if isDigit c then some [c] else none
  | c :: '_' :: rest => if isDigit c then (ungroup? isDigit rest).map (c :: ·) else none
  | c :: rest => if isDigit c then (ungroup? isDigit rest).map (c :: ·) else none

/-- A decimal number without a zero in front of other digits: its digits. -/
def decimal? (cs : List Char) : Option (List Char) :=
  match ungroup? Char.isDigit cs with
  | some ('0' :: _ :: _) => none
  | digits => digits

/-- The number digits stand for in a base. -/
def valueIn (base : Nat) (digits : List Char) : Nat :=
  digits.foldl (fun n d => base * n + (Json.hexValue? d).getD 0) 0

/-- Whether a character is a digit of a base up to sixteen. -/
def isDigitOf (base : Nat) (c : Char) : Bool :=
  match Json.hexValue? c with
  | some n => n < base
  | none => false

/-- The integer a value spells, of any size. -/
def anyInteger? (cs : List Char) : Option Int :=
  match cs with
  | '0' :: 'x' :: rest => (ungroup? (isDigitOf 16) rest).map fun ds => Int.ofNat (valueIn 16 ds)
  | '0' :: 'o' :: rest => (ungroup? (isDigitOf 8) rest).map fun ds => Int.ofNat (valueIn 8 ds)
  | '0' :: 'b' :: rest => (ungroup? (isDigitOf 2) rest).map fun ds => Int.ofNat (valueIn 2 ds)
  | _ =>
    let (negative, digits) := splitSign cs
    (decimal? digits).map fun ds =>
      if negative then -(Int.ofNat (digitsValue ds)) else Int.ofNat (digitsValue ds)

/-- The integer a value spells. -/
def integer? (cs : List Char) : Option Int := (anyInteger? cs).filter fitsInt64

/-! ## Fractions -/

/-- The text in front of the first character with the property, and the text after
that character. -/
def cut? (p : Char → Bool) (cs : List Char) : Option (List Char × List Char) :=
  match cs.dropWhile (fun c => !p c) with
  | _ :: rest => some (cs.takeWhile (fun c => !p c), rest)
  | [] => none

/-- A decimal number with a fraction or an exponent, not beyond the greatest of
binary64. -/
def isFraction (cs : List Char) : Bool :=
  let (negative, body) := splitSign cs
  if body == "inf".toList || body == "nan".toList then true
  else
    let (mantissa, exponent) := match cut? (fun c => c == 'e' || c == 'E') body with
      | some (m, e) => (m, some e)
      | none => (body, none)
    let (whole, fraction) := match cut? (· == '.') mantissa with
      | some (w, f) => (w, some f)
      | none => (mantissa, none)
    let power? := match exponent with
      | none => some (false, ['0'])
      | some e => (ungroup? Char.isDigit (splitSign e).2).map fun ds => ((splitSign e).1, ds)
    let digits? := match fraction with
      | none => some []
      | some f => ungroup? Char.isDigit f
    match decimal? whole, digits?, power? with
    | some whole, some digits, some (down, power) =>
      (fraction.isSome || exponent.isSome) &&
        (negative ||
          (Double.ofDecimal? false (digitsValue (whole ++ digits))
            ((if down then -(Int.ofNat (digitsValue power)) else Int.ofNat (digitsValue power))
              - Int.ofNat digits.length)).isSome)
    | _, _, _ => false

/-! ## Dates and times -/

/-- The number that exactly two digits stand for, if it is at most `greatest`. -/
def twoDigits? (greatest : Nat) (cs : List Char) : Option Nat :=
  if cs.length = 2 ∧ isDigits cs ∧ digitsValue cs ≤ greatest then some (digitsValue cs)
  else none

/-- How many days a month has. -/
def daysIn (year month : Nat) : Nat :=
  if month = 2 then
    if year % 4 = 0 ∧ (year % 100 ≠ 0 ∨ year % 400 = 0) then 29 else 28
  else if month = 4 ∨ month = 6 ∨ month = 9 ∨ month = 11 then 30
  else 31

/-- A date such as `2024-02-29`. -/
def isDate (cs : List Char) : Bool :=
  let year := cs.take 4
  match cs.drop 4 with
  | '-' :: rest =>
    match rest.drop 2 with
    | '-' :: day =>
      match twoDigits? 12 (rest.take 2) with
      | some month =>
        year.length == 4 && isDigits year && 1 ≤ month &&
          (match twoDigits? (daysIn (digitsValue year) month) day with
            | some day => 1 ≤ day
            | none => false)
      | none => false
    | _ => false
  | _ => false

/-- Hours and minutes, such as `07:32`. -/
def isHourMinute (cs : List Char) : Bool :=
  match cs.drop 2 with
  | ':' :: minute => (twoDigits? 23 (cs.take 2)).isSome && (twoDigits? 59 minute).isSome
  | _ => false

/-- A time such as `07:32:00` or `07:32:00.5`. -/
def isTime (cs : List Char) : Bool :=
  isHourMinute (cs.take 5) &&
    (match cs.drop 5 with
      | ':' :: rest =>
        (twoDigits? 60 (rest.take 2)).isSome &&
          (match rest.drop 2 with
            | [] => true
            | '.' :: digits => isDigits digits
            | _ => false)
      | _ => false)

/-- A time, followed by an offset from universal time where there is one. -/
def isOffsetTime (cs : List Char) : Bool :=
  let isZone (c : Char) : Bool := c == 'Z' || c == 'z' || c == '+' || c == '-'
  match cs.dropWhile fun c => !isZone c with
  | [] => isTime cs
  | zone :: offset =>
    isTime (cs.takeWhile fun c => !isZone c) &&
      (if zone = 'Z' ∨ zone = 'z' then offset.isEmpty else isHourMinute offset)

/-- A date, a time, or a date with a time behind `T` or a space. -/
def isMoment (cs : List Char) : Bool :=
  isTime cs || isDate cs ||
    (isDate (cs.take 10) &&
      (match cs.drop 10 with
        | c :: time => (c == 'T' || c == 't' || c == ' ') && isOffsetTime time
        | [] => false))

/-- The value that characters without quotes spell. -/
def scalar? (cs : List Char) : Option Setting :=
  match integer? cs with
  | some n => some (.integer n)
  | none =>
    if cs == "true".toList || cs == "false".toList || isFraction cs || isMoment cs then
      some .other
    else none

end Toml
end DocFilter
