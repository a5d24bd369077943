import DocFilter.Json.Basic
import DocFilter.Number.Written

/-!
# JSON values as text

The compact form: no blanks, entries in their order.  A string escapes quotes,
backslashes and the control characters below `0x20`, with the short escapes where
there is one; everything else is written as it is.
-/

namespace DocFilter

/-- The decimal text of an integer. -/
def intChars (n : Int) : List Char :=
  if n < 0 then '-' :: Nat.toDigits 10 n.natAbs else Nat.toDigits 10 n.natAbs

/-- The decimal text of an integer, as a string. -/
def intText (n : Int) : String := String.ofList (intChars n)

namespace Number

/-- The text of a number. -/
def chars : Number → List Char
  | .integer n => intChars n
  | .real x => x.chars

/-- The text of a number, as a string. -/
def text (n : Number) : String := String.ofList n.chars

end Number

namespace Json

/-- A number below 16 as a digit. -/
def hexDigit (n : Nat) : Char :=
  if n < 10 then Char.ofNat (0x30 + n) else Char.ofNat (0x57 + n)

/-- One character inside a quoted string. -/
def escapeChar (c : Char) : List Char :=
  if c = '\"' then ['\\', '\"']
  else if c = '\\' then ['\\', '\\']
  else if c.toNat = 0x08 then ['\\', 'b']
  else if c.toNat = 0x09 then ['\\', 't']
  else if c.toNat = 0x0A then ['\\', 'n']
  else if c.toNat = 0x0C then ['\\', 'f']
  else if c.toNat = 0x0D then ['\\', 'r']
  else if c.toNat < 0x20 then
    ['\\', 'u', '0', '0', hexDigit (c.toNat / 16), hexDigit (c.toNat % 16)]
  else [c]

/-- A string in quotes. -/
def quoted (s : String) : List Char :=
  '\"' :: (s.toList.flatMap escapeChar ++ ['\"'])

mutual

/-- The compact text of a value. -/
def chars : Json → List Char
  | .null => "null".toList
  | .bool true => "true".toList
  | .bool false => "false".toList
  | .number n => n.chars
  | .string s => quoted s
  | .array items => '[' :: (itemChars items ++ [']'])
  | .object entries => '\x7b' :: (entryChars entries ++ ['\x7d'])

/-- Items with commas between them. -/
def itemChars : List Json → List Char
  | [] => []
  | [v] => v.chars
  | v :: rest => v.chars ++ ',' :: itemChars rest

/-- Entries with commas between them. -/
def entryChars : List (String × Json) → List Char
  | [] => []
  | [(k, v)] => quoted k ++ ':' :: v.chars
  | (k, v) :: rest => quoted k ++ ':' :: (v.chars ++ ',' :: entryChars rest)

end

/-- The compact text of a value, as a string. -/
def text (v : Json) : String := String.ofList v.chars

end Json
end DocFilter
