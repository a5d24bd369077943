import DocFilter.Json.Lexer

/-!
# The lexemes of TOML

A text of TOML is cut into words, strings and marks by one pass that reads each
character once.  Line ends are lexemes, because a setting ends with its line, and so
are blanks, because `[[` is not `[ [` and a date may hold one blank.  Comments leave
nothing behind.

## Strings

A string stands between two quotes or apostrophes, and between apostrophes nothing
is escaped.  Three of either open a string that may hold line ends, and one directly
after them does not belong to it.  Such a string may end in up to two of its own
quotes, so a run of three to five of them ends it.  A backslash at the end of a line
takes away all blanks and line ends up to the next character.
-/

namespace DocFilter
namespace Toml

/-- The lexemes. -/
inductive Lexeme where
  /-- Letters and digits of ASCII, `_` and `-`. -/
  | word (cs : List Char)
  /-- A string; `long` where it may hold line ends. -/
  | string (long : Bool) (cs : List Char)
  /-- A character with a meaning of its own. -/
  | mark (c : Char)
  /-- A space or a tab. -/
  | blank (c : Char)
  | lineEnd
  deriving DecidableEq, Repr

/-- The quotes around a string, and whether it may hold line ends. -/
structure Quotes where
  quote : Char
  long : Bool
  deriving DecidableEq, Repr

/-- What the pass is in the middle of.  Collected characters are newest first. -/
inductive Scan where
  | between
  | word (seen : List Char)
  | comment
  /-- After a carriage return outside strings. -/
  | carriage
  /-- After one quote. -/
  | openedOnce (quote : Char)
  /-- After two quotes. -/
  | openedTwice (quote : Char)
  /-- After the three quotes of a long string. -/
  | openedLong (quote : Char)
  /-- After a carriage return there. -/
  | openedLongReturn (quote : Char)
  /-- Inside a string. -/
  | content (quotes : Quotes) (seen : List Char)
  /-- Inside a long string, after a run of its quotes. -/
  | run (quote : Char) (seen : List Char) (length : Nat)
  /-- Inside a long string, after a carriage return. -/
  | contentReturn (quote : Char) (seen : List Char)
  /-- After a backslash. -/
  | escape (quotes : Quotes) (seen : List Char)
  /-- Among the digits of an escape. -/
  | hex (quotes : Quotes) (seen : List Char) (missing value : Nat)
  /-- After a backslash and blanks. -/
  | trailing (seen : List Char)
  /-- Past the end of a line that a backslash ended; `needsFeed` after a carriage
  return. -/
  | joining (seen : List Char) (needsFeed : Bool)

/-- Spaces and tabs. -/
def isBlank (c : Char) : Bool := c == ' ' || c == '\t'

/-- The characters of words. -/
def isWordChar (c : Char) : Bool := c.isAlphanum || c == '_' || c == '-'

/-- The marks. -/
def isMark (c : Char) : Bool :=
  c == '=' || c == '.' || c == ',' || c == '[' || c == ']' || c == '\x7b' || c == '\x7d' ||
    c == '+' || c == ':'

/-- Characters that may stand in comments and strings: all but the control
characters of ASCII other than the tab. -/
def isPrintable (c : Char) : Bool :=
  c == '\t' || (0x20 ≤ c.toNat && c.toNat != 0x7F)

/-- The character a short escape stands for. -/
def shortEscape? (c : Char) : Option Char :=
  if c = '\"' || c = '\\' then some c
  else if c = 'b' then some (Char.ofNat 0x08)
  else if c = 't' then some (Char.ofNat 0x09)
  else if c = 'n' then some (Char.ofNat 0x0A)
  else if c = 'f' then some (Char.ofNat 0x0C)
  else if c = 'r' then some (Char.ofNat 0x0D)
  else none

/-- The character with a code point, if it is one. -/
def charOf? (n : Nat) : Option Char := if n.isValidChar then some (Char.ofNat n) else none

/-- A character outside every lexeme: the lexeme it is, if it is one, and what it
begins. -/
def begin? (c : Char) : Option (List Lexeme × Scan) :=
  if isBlank c then some ([.blank c], .between)
  else if c = '\n' then some ([.lineEnd], .between)
  else if c = '\r' then some ([], .carriage)
  else if c = '#' then some ([], .comment)
  else if c = '\"' ∨ c = '\'' then some ([], .openedOnce c)
  else if isWordChar c then some ([], .word [c])
  else if isMark c then some ([.mark c], .between)
  else none

/-- A lexeme is finished, and the character after it comes next. -/
def finishThen? (lexeme : Lexeme) (c : Char) : Option (List Lexeme × Scan) :=
  (begin? c).map fun (more, next) => (lexeme :: more, next)

/-- A character inside a string on one line. -/
def shortContent? (quote : Char) (seen : List Char) (c : Char) : Option (List Lexeme × Scan) :=
  if c = quote then some ([.string false seen.reverse], .between)
  else if c = '\\' ∧ quote = '\"' then some ([], .escape ⟨quote, false⟩ seen)
  else if isPrintable c then some ([], .content ⟨quote, false⟩ (c :: seen))
  else none

/-- A character inside a long string, not after a quote. -/
def longContent? (quote : Char) (seen : List Char) (c : Char) : Option (List Lexeme × Scan) :=
  if c = quote then some ([], .run quote seen 1)
  else if c = '\\' ∧ quote = '\"' then some ([], .escape ⟨quote, true⟩ seen)
  else if c = '\n' then some ([], .content ⟨quote, true⟩ (c :: seen))
  else if c = '\r' then some ([], .contentReturn quote seen)
  else if isPrintable c then some ([], .content ⟨quote, true⟩ (c :: seen))
  else none

/-- A character after a backslash. -/
def escape? (quotes : Quotes) (seen : List Char) (c : Char) : Option (List Lexeme × Scan) :=
  if c = 'u' then some ([], .hex quotes seen 4 0)
  else if c = 'U' then some ([], .hex quotes seen 8 0)
  else match shortEscape? c with
    | some e => some ([], .content quotes (e :: seen))
    | none =>
      if !quotes.long then none
      else if isBlank c then some ([], .trailing seen)
      else if c = '\n' then some ([], .joining seen false)
      else if c = '\r' then some ([], .joining seen true)
      else none

/-- A digit of an escape. -/
def hex? (quotes : Quotes) (seen : List Char) (missing value : Nat) (c : Char) :
    Option (List Lexeme × Scan) := do
  let value := 16 * value + (← Json.hexValue? c)
  if 1 < missing then return ([], .hex quotes seen (missing - 1) value)
  let e ← charOf? value
  return ([], .content quotes (e :: seen))

/-- One character: the lexemes it finishes, and what the pass is in the middle of
after it. -/
def advance? (scan : Scan) (c : Char) : Option (List Lexeme × Scan) :=
  match scan with
  | .between => begin? c
  | .word seen =>
    if isWordChar c then some ([], .word (c :: seen))
    else finishThen? (.word seen.reverse) c
  | .comment =>
    if c = '\n' then some ([.lineEnd], .between)
    else if c = '\r' then some ([], .carriage)
    else if isPrintable c then some ([], .comment)
    else none
  | .carriage => if c = '\n' then some ([.lineEnd], .between) else none
  | .openedOnce quote =>
    if c = quote then some ([], .openedTwice quote) else shortContent? quote [] c
  | .openedTwice quote =>
    if c = quote then some ([], .openedLong quote) else finishThen? (.string false []) c
  | .openedLong quote =>
    if c = '\n' then some ([], .content ⟨quote, true⟩ [])
    else if c = '\r' then some ([], .openedLongReturn quote)
    else longContent? quote [] c
  | .openedLongReturn quote =>
    if c = '\n' then some ([], .content ⟨quote, true⟩ []) else none
  | .content quotes seen =>
    if quotes.long then longContent? quotes.quote seen c
    else shortContent? quotes.quote seen c
  | .run quote seen length =>
    if c = quote then
      if length < 5 then some ([], .run quote seen (length + 1)) else none
    else if length < 3 then longContent? quote (List.replicate length quote ++ seen) c
    else
      finishThen? (.string true (List.replicate (length - 3) quote ++ seen).reverse) c
  | .contentReturn quote seen =>
    if c = '\n' then some ([], .content ⟨quote, true⟩ (c :: seen)) else none
  | .escape quotes seen => escape? quotes seen c
  | .hex quotes seen missing value => hex? quotes seen missing value c
  | .trailing seen =>
    if isBlank c then some ([], .trailing seen)
    else if c = '\n' then some ([], .joining seen false)
    else if c = '\r' then some ([], .joining seen true)
    else none
  | .joining seen needsFeed =>
    if c = '\n' then some ([], .joining seen false)
    else if needsFeed then none
    else if isBlank c then some ([], .joining seen false)
    else if c = '\r' then some ([], .joining seen true)
    else longContent? '\"' seen c

/-- What the end of the text finishes. -/
def finish? : Scan → Option (List Lexeme)
  | .between | .comment => some []
  | .word seen => some [.word seen.reverse]
  | .openedTwice _ => some [.string false []]
  | .run quote seen length =>
    if length < 3 then none
    else some [.string true (List.replicate (length - 3) quote ++ seen).reverse]
  | _ => none

/-- The lexemes of the rest of a text. -/
def lexemesFrom? (scan : Scan) : List Char → Option (List Lexeme)
  | [] => finish? scan
  | c :: rest => do
    let (found, next) ← advance? scan c
    let more ← lexemesFrom? next rest
    return found ++ more

/-- The lexemes of a text, which may begin with a byte order mark. -/
def lexemes? (cs : List Char) : Option (List Lexeme) :=
  match cs with
  | c :: rest => if c.toNat = 0xFEFF then lexemesFrom? .between rest else lexemesFrom? .between cs
  | [] => some []

end Toml
end DocFilter
