/-!
# Fragments of SQL

Text that ends up in a statement is put together from pieces, and each piece knows
what it is: plain SQL, a string literal, a quoted identifier, the name of a bound
parameter.  Only `Fragment.chars` turns pieces into characters, and it does the
quoting, so whatever a client wrote can enter a statement only as the content of a
literal or of an identifier, never as SQL.

## Quoting

A quote inside a literal or an identifier is written twice.  Where a backslash
escapes inside literals, it is written twice as well.
-/

namespace DocFilter
namespace Sql

/-- What a backslash means inside a string literal. -/
inductive LiteralStyle where
  /-- A character like any other. -/
  | plain
  /-- The beginning of an escape. -/
  | escaping
  deriving DecidableEq, Repr

/-- The characters with every `q` written twice. -/
def doubled (q : Char) (cs : List Char) : List Char :=
  cs.flatMap fun c => if c = q then [q, q] else [c]

/-- The content of a string literal as it is written between the quotes. -/
def literalBody (style : LiteralStyle) (cs : List Char) : List Char :=
  match style with
  | .plain => doubled '\'' cs
  | .escaping => doubled '\'' (doubled '\\' cs)

/-- A string literal. -/
def literalChars (style : LiteralStyle) (content : String) : List Char :=
  '\'' :: (literalBody style content.toList ++ ['\''])

/-- A quoted identifier. -/
def identifierChars (name : String) : List Char :=
  '\"' :: (doubled '\"' name.toList ++ ['\"'])

/-- One piece of a statement. -/
inductive Piece where
  /-- SQL as it stands. -/
  | bare (text : String)
  /-- A string literal with this content. -/
  | literal (style : LiteralStyle) (content : String)
  /-- A quoted identifier with this name. -/
  | identifier (name : String)
  /-- The name of a bound parameter, behind the sigil that marks it as one. -/
  | placeholder (sigil : Char) (name : String)
  deriving DecidableEq, Repr

/-- The characters of a piece. -/
def Piece.chars : Piece → List Char
  | .bare text => text.toList
  | .literal style content => literalChars style content
  | .identifier name => identifierChars name
  | .placeholder sigil name => sigil :: name.toList

/-- A piece of SQL text. -/
abbrev Fragment := List Piece

namespace Fragment

/-- The characters of a fragment. -/
def chars (f : Fragment) : List Char := f.flatMap Piece.chars

/-- The text of a fragment. -/
def text (f : Fragment) : String := String.ofList f.chars

@[simp] theorem chars_nil : chars [] = [] := rfl

@[simp] theorem chars_cons (p : Piece) (f : Fragment) :
    chars (p :: f) = p.chars ++ chars f := by
  simp [chars]

@[simp] theorem chars_append (f g : Fragment) : chars (f ++ g) = chars f ++ chars g := by
  simp [chars]

/-- Plain SQL. -/
def sql (text : String) : Fragment := [.bare text]

/-- A natural number in decimal. -/
def number (n : Nat) : Fragment := [.bare n.repr]

/-- Fragments with a text between each two. -/
def join (between : String) : List Fragment → Fragment
  | [] => []
  | [f] => f
  | f :: rest => f ++ sql between ++ join between rest

/-- A function applied to arguments. -/
def call (function : String) (arguments : List Fragment) : Fragment :=
  sql (function ++ "(") ++ join ", " arguments ++ sql ")"

/-- An expression in parentheses. -/
def parens (f : Fragment) : Fragment := sql "(" ++ f ++ sql ")"

/-- An expression converted to a type by one of the functions that convert. -/
def castBy (function : String) (f : Fragment) (type : String) : Fragment :=
  sql (function ++ "(") ++ f ++ sql (" AS " ++ type ++ ")")

/-- An expression converted to a type. -/
def cast (f : Fragment) (type : String) : Fragment := castBy "CAST" f type

end Fragment
end Sql
end DocFilter
