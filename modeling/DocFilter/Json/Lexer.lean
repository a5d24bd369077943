import DocFilter.Json.Basic

/-!
# The lexemes of JSON

A text of JSON is cut into marks, words, numbers and strings by one pass that
reads each character once and remembers only what it is in the middle of.  Blanks
between lexemes are the four of the standard: space, tab, line feed, carriage
return.

A number is kept as it is written and a string as a list of parts, because a
reader that skips a value must not stumble over a number too large for binary64 or
over half of a surrogate pair.
-/

namespace DocFilter
namespace Json

/-- One part of a string: a character, or a UTF-16 unit given by its number. -/
inductive StringPart where
  | char (c : Char)
  | unit (n : Nat)
  deriving DecidableEq, Repr

/-- The lexemes. -/
inductive Lexeme where
  | mark (c : Char)
  | null
  | bool (b : Bool)
  | number (text : List Char)
  | string (parts : List StringPart)
  deriving DecidableEq, Repr

/-- What the pass is in the middle of.  Collected characters are newest first. -/
inductive Scan where
  | between
  | word (seen : List Char)
  | number (seen : List Char)
  | quote (seen : List StringPart)
  | escape (seen : List StringPart)
  | hex (seen : List StringPart) (missing : Nat) (value : Nat)

/-- The blanks between lexemes. -/
def isGap (c : Char) : Bool := c == ' ' || c == '\t' || c == '\n' || c == '\r'

/-- The marks. -/
def isMark (c : Char) : Bool :=
  c == '[' || c == ']' || c == '\x7b' || c == '\x7d' || c == ':' || c == ','

/-- The characters a number is made of. -/
def isNumberChar (c : Char) : Bool :=
  c.isDigit || c == '-' || c == '+' || c == '.' || c == 'e' || c == 'E'

/-- The value of a hexadecimal digit. -/
def hexValue? (c : Char) : Option Nat :=
  let n := c.toNat
  if c.isDigit then some (n - 0x30)
  else if 0x41 ≤ n && n ≤ 0x46 then some (n - 0x37)
  else if 0x61 ≤ n && n ≤ 0x66 then some (n - 0x57)
  else none

/-- The character a short escape stands for. -/
def shortEscape? (c : Char) : Option Char :=
  if c = '\"' || c = '\\' || c = '/' then some c
  else if c = 'b' then some (Char.ofNat 0x08)
  else if c = 'f' then some (Char.ofNat 0x0C)
  else if c = 'n' then some (Char.ofNat 0x0A)
  else if c = 'r' then some (Char.ofNat 0x0D)
  else if c = 't' then some (Char.ofNat 0x09)
  else none

/-- One digit, or more without a zero in front. -/
def isWhole : List Char → Bool
  | ['0'] => true
  | c :: rest => c.isDigit && c != '0' && rest.all Char.isDigit
  | [] => false

/-- A number apart: its sign, the digits before the point, the digits after it,
and the exponent. -/
structure NumberParts where
  negative : Bool
  whole : List Char
  fraction : Option (List Char)
  exponent : Option (Bool × List Char)

/-- The sign and digits of an exponent, after the letter that announces it. -/
def exponentParts? (cs : List Char) : Option (Bool × List Char) :=
  let (negative, digits) := match cs with
    | '-' :: r => (true, r)
    | '+' :: r => (false, r)
    | r => (false, r)
  if digits.isEmpty || !digits.all Char.isDigit then none else some (negative, digits)

/-- The parts of a number, or `none` where the text is not one. -/
def numberParts? (cs : List Char) : Option NumberParts := do
  let (negative, cs) := match cs with
    | '-' :: r => (true, r)
    | r => (false, r)
  let whole := cs.takeWhile Char.isDigit
  let cs := cs.dropWhile Char.isDigit
  if !isWhole whole then none
  let (fraction, cs) ← match cs with
    | '.' :: r =>
      let digits := r.takeWhile Char.isDigit
      if digits.isEmpty then none else some (some digits, r.dropWhile Char.isDigit)
    | r => some (none, r)
  match cs with
  | [] => some ⟨negative, whole, fraction, none⟩
  | c :: r =>
    if c = 'e' || c = 'E' then
      (exponentParts? r).map fun e => ⟨negative, whole, fraction, some e⟩
    else none

/-- The lexeme of a finished word. -/
def wordLexeme? (word : List Char) : Option Lexeme :=
  if word = ['n', 'u', 'l', 'l'] then some .null
  else if word = ['t', 'r', 'u', 'e'] then some (.bool true)
  else if word = ['f', 'a', 'l', 's', 'e'] then some (.bool false)
  else none

/-- The lexeme of a finished number. -/
def numberLexeme? (text : List Char) : Option Lexeme :=
  (numberParts? text).map fun _ => .number text

/-- A character outside every lexeme: the mark it is, if it is one, and what it
begins. -/
def begin? (c : Char) : Option (List Lexeme × Scan) :=
  if isGap c then some ([], .between)
  else if isMark c then some ([.mark c], .between)
  else if c = '\"' then some ([], .quote [])
  else if c.isDigit || c = '-' then some ([], .number [c])
  else if c.isAlpha then some ([], .word [c])
  else none

/-- One character: the lexemes it finishes, and what the pass is in the middle of
after it. -/
def advance? (scan : Scan) (c : Char) : Option (List Lexeme × Scan) :=
  match scan with
  | .between => begin? c
  | .word seen =>
    if c.isAlpha then some ([], .word (c :: seen))
    else do
      let lexeme ← wordLexeme? seen.reverse
      let (more, next) ← begin? c
      return (lexeme :: more, next)
  | .number seen =>
    if isNumberChar c then some ([], .number (c :: seen))
    else do
      let lexeme ← numberLexeme? seen.reverse
      let (more, next) ← begin? c
      return (lexeme :: more, next)
  | .quote seen =>
    if c = '\"' then some ([.string seen.reverse], .between)
    else if c = '\\' then some ([], .escape seen)
    else if c.toNat < 0x20 then none
    else some ([], .quote (.char c :: seen))
  | .escape seen =>
    if c = 'u' then some ([], .hex seen 4 0)
    else (shortEscape? c).map fun e => ([], .quote (.char e :: seen))
  | .hex seen missing value =>
    (hexValue? c).map fun d =>
      let value := 16 * value + d
      if missing ≤ 1 then ([], .quote (.unit value :: seen))
      else ([], .hex seen (missing - 1) value)

/-- What the end of the text finishes. -/
def finish? : Scan → Option (List Lexeme)
  | .between => some []
  | .word seen => (wordLexeme? seen.reverse).map ([·])
  | .number seen => (numberLexeme? seen.reverse).map ([·])
  | .quote _ | .escape _ | .hex _ _ _ => none

/-- The lexemes of the rest of a text. -/
def lexemesFrom? (scan : Scan) : List Char → Option (List Lexeme)
  | [] => finish? scan
  | c :: rest => do
    let (found, next) ← advance? scan c
    let more ← lexemesFrom? next rest
    return found ++ more

/-- The lexemes of a text. -/
def lexemes? (cs : List Char) : Option (List Lexeme) := lexemesFrom? .between cs

end Json
end DocFilter
