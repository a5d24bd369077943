import DocFilter.Text.Split
import DocFilter.Number.Numeral

/-!
# Paths into a document

A dotted field name is a path: each part is the key of an object, or, when it is
made of digits only, the index of an array.  A number too large for 32 bits is a
key like any other word.

Databases write paths in two ways.  The standard one begins with `$` and says
`.key` or `[index]`; the other is an array of texts.  In both a key that is not a
plain word is quoted, with backslashes before quotes and backslashes.
-/

namespace DocFilter

/-- One step of a path. -/
inductive Segment where
  | key (name : String)
  | index (n : Nat)
  deriving DecidableEq, Repr

/-- A path into a document. -/
abbrev Path := List Segment

namespace Segment

/-- The step a part of a dotted name stands for. -/
def ofChars (cs : List Char) : Segment :=
  if isDigits cs ∧ digitsValue cs < Nat.pow 2 32 then .index (digitsValue cs)
  else .key (String.ofList cs)

/-- A key that may stand unquoted: a word of ASCII that begins with no digit. -/
def isPlainKey (name : String) : Bool :=
  match name.toList with
  | [] => false
  | c :: rest =>
    (c.isAlpha || c == '_') && (c :: rest).all fun d => d.isAlphanum || d == '_'

/-- A key between quotes. -/
def quotedKey (name : String) : List Char :=
  '\"' :: (name.toList.flatMap (fun c => if c = '\\' ∨ c = '\"' then ['\\', c] else [c])
    ++ ['\"'])

/-- A key, quoted where it has to be. -/
def keyChars (name : String) : List Char :=
  if isPlainKey name then name.toList else quotedKey name

/-- The text of a step by itself. -/
def label : Segment → String
  | .key name => name
  | .index n => n.repr

/-- A step in the standard notation. -/
def pathChars : Segment → List Char
  | .key name => '.' :: keyChars name
  | .index n => '[' :: (Nat.toDigits 10 n ++ [']'])

/-- A step as the element of an array. -/
def elementChars : Segment → List Char
  | .key name => keyChars name
  | .index n => Nat.toDigits 10 n

end Segment

namespace Path

/-- The path a dotted name stands for. -/
def ofField (field : String) : Path :=
  (Text.splitAt '.' field.toList).map Segment.ofChars

/-- All steps but the last. -/
def parent (p : Path) : Path := p.dropLast

/-- The path in the standard notation. -/
def chars (p : Path) : List Char := '$' :: p.flatMap Segment.pathChars

/-- The path in the standard notation, as a string. -/
def text (p : Path) : String := String.ofList p.chars

/-- The path as an array of texts. -/
def arrayChars (p : Path) : List Char :=
  '\x7b' :: (Text.joinWith ',' (p.map Segment.elementChars) ++ ['\x7d'])

/-- The path as an array of texts, as a string. -/
def arrayText (p : Path) : String := String.ofList p.arrayChars

end Path
end DocFilter
