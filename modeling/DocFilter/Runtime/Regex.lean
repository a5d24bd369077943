import DocFilter.Json.Lexer
import DocFilter.Number.Numeral
import DocFilter.Text.Blank
import DocFilter.Text.Letter

/-!
# A syntax of regular expressions to run with

Which texts are regular expressions is for the library that reads them to say, and a
`Target` is given its answer.  What stands here is the answer a running program gives it:
the syntax alone.  A library has limits besides, on how deep groups are nested and on how
large a repetition grows, and this has none; no theorem is about it.

The check reads the pattern once from left to right.  It remembers which flags are on,
whether there is something a repetition could repeat, and the same of every group still
open.  Only two flags matter here: under `x` blanks and comments are skipped, and under
`i` an escaped letter stands for two characters and so cannot end a range.
-/

namespace DocFilter
namespace Runtime
namespace Regex

/-- The flags that change what is well-formed. -/
structure Flags where
  /-- Skip blanks and comments. -/
  extended : Bool
  /-- Set case aside. -/
  ignoreCase : Bool
  deriving DecidableEq, Repr

/-- The flags at the beginning of a pattern. -/
def Flags.none : Flags := ⟨false, false⟩

/-- The pattern without the blanks and comments in front; `comment` says that it
begins inside a comment. -/
def skipSpace (comment : Bool) : List Char → List Char
  | [] => []
  | c :: rest =>
    if comment then skipSpace (c != '\n') rest
    else if Text.isBlank c then skipSpace false rest
    else if c = '#' then skipSpace true rest
    else c :: rest

/-- The pattern without blanks and comments in front, where flags say so. -/
def skip (flags : Flags) (cs : List Char) : List Char :=
  if flags.extended then skipSpace false cs else cs

/-! ## Escapes -/

/-- What an escape stands for. -/
inductive Escaped where
  /-- One character. -/
  | literal (c : Char)
  /-- A set of characters. -/
  | set
  /-- A position between characters. -/
  | look
  deriving DecidableEq, Repr

/-- The value of hexadecimal digits. -/
def hexNumber? (cs : List Char) : Option Nat :=
  cs.foldlM (fun n c => (Json.hexValue? c).map (16 * n + ·)) 0

/-- The character with a code point. -/
def scalar? (n : Nat) : Option Char :=
  if n < 0xD800 ∨ (0xDFFF < n ∧ n < 0x110000) then some (Char.ofNat n) else none

/-- A character given by its code point; under the flag `i` a letter of ASCII is
the set of its two cases. -/
def codePoint? (flags : Flags) (digits : List Char) : Option Escaped := do
  let c ← scalar? (← hexNumber? digits)
  return if flags.ignoreCase && c.isAlpha then .set else .literal c

/-- A fixed number of hexadecimal digits; the digits and what follows them. -/
def takeDigits? (flags : Flags) : Nat → List Char → Option (List Char × List Char)
  | 0, cs => some ([], cs)
  | n + 1, c :: rest => do
    let _ ← Json.hexValue? c
    let (digits, rest) ← takeDigits? flags n (skip flags rest)
    return (c :: digits, rest)
  | _ + 1, [] => none

/-- Hexadecimal digits up to a closing brace; the digits and what follows the
brace. -/
def takeBraced? (flags : Flags) : Nat → List Char → Option (List Char × List Char)
  | 0, _ => none
  | fuel + 1, cs =>
    match skip flags cs with
    | [] => none
    | c :: rest =>
      if c = '\x7d' then some ([], skip flags rest)
      else do
        let _ ← Json.hexValue? c
        let (digits, rest) ← takeBraced? flags fuel rest
        return (c :: digits, rest)

/-- A character by its code point, after the letter that says how many digits it
has. -/
def takeCodePoint? (flags : Flags) (count : Nat) (cs : List Char) :
    Option (Escaped × List Char) := do
  match skip flags cs with
  | '\x7b' :: rest =>
    let (digits, rest) ← takeBraced? flags (rest.length + 1) rest
    if digits.isEmpty then none
    return (← codePoint? flags digits, rest)
  | cs =>
    let (digits, rest) ← takeDigits? flags count cs
    return (← codePoint? flags digits, rest)

/-- The characters in the name of a word boundary. -/
def isBoundaryChar (c : Char) : Bool := c.isAlpha || c == '-'

/-- The name of a word boundary and what follows it. -/
def takeBoundaryName (flags : Flags) : Nat → List Char → List Char × List Char
  | 0, cs => ([], cs)
  | fuel + 1, cs =>
    match cs with
    | c :: rest =>
      if isBoundaryChar c then
        let (name, rest) := takeBoundaryName flags fuel (skip flags rest)
        (c :: name, rest)
      else ([], cs)
    | [] => ([], [])

/-- The names of word boundaries. -/
def boundaryNames : List String := ["start", "end", "start-half", "end-half"]

/-- What follows `\b`: a name in braces makes it a special boundary, and anything
else in braces is left to be read as a repetition. -/
def takeBoundary? (flags : Flags) (cs : List Char) : Option (List Char) :=
  match cs with
  | '\x7b' :: rest =>
    match skip flags rest with
    | [] => none
    | c :: rest =>
      if isBoundaryChar c then
        match takeBoundaryName flags (rest.length + 1) (c :: rest) with
        | (name, '\x7d' :: rest) =>
          if boundaryNames.contains (String.ofList name) then some rest else none
        | _ => none
      else some cs
  | _ => some cs

/-- Characters a backslash makes literal: everything in ASCII but letters, digits
and the two signs that mark the ends of a word. -/
def isEscapable (c : Char) : Bool :=
  c.toNat < 0x80 && !c.isAlphanum && c != '<' && c != '>'

/-- What a backslash and the characters after it stand for, and what follows. -/
def takeEscape? (flags : Flags) : List Char → Option (Escaped × List Char)
  | [] => none
  | c :: rest =>
    if c = 'x' then takeCodePoint? flags 2 rest
    else if c = 'u' then takeCodePoint? flags 4 rest
    else if c = 'U' then takeCodePoint? flags 8 rest
    else if ['d', 's', 'w', 'D', 'S', 'W'].contains c then some (.set, rest)
    else if isEscapable c then some (.literal c, rest)
    else if c = 'a' then some (.literal (Char.ofNat 0x07), rest)
    else if c = 'f' then some (.literal (Char.ofNat 0x0C), rest)
    else if c = 't' then some (.literal (Char.ofNat 0x09), rest)
    else if c = 'n' then some (.literal (Char.ofNat 0x0A), rest)
    else if c = 'r' then some (.literal (Char.ofNat 0x0D), rest)
    else if c = 'v' then some (.literal (Char.ofNat 0x0B), rest)
    else if ['A', 'z', 'B', '<', '>'].contains c then some (.look, rest)
    else if c = 'b' then (takeBoundary? flags rest).map fun rest => (.look, rest)
    else none

/-! ## Sets in brackets -/

/-- The named sets. -/
def setNames : List String :=
  ["alnum", "alpha", "ascii", "blank", "cntrl", "digit", "graph", "lower", "print", "punct",
    "space", "upper", "word", "xdigit"]

/-- A named set, after its opening bracket; what follows it. -/
def takeNamedSet? (cs : List Char) : Option (List Char) :=
  match cs with
  | ':' :: rest =>
    let rest := match rest with
      | '^' :: r => r
      | r => r
    match rest.dropWhile (· != ':') with
    | ':' :: ']' :: after =>
      if setNames.contains (String.ofList (rest.takeWhile (· != ':'))) then some after
      else none
    | _ => none
  | _ => none

/-- One item of a set, and what follows it. -/
def takeItem? (flags : Flags) : List Char → Option (Escaped × List Char)
  | [] => none
  | '\\' :: rest => takeEscape? flags rest
  | c :: rest => some (.literal c, rest)

/-- The character after a hyphen, past blanks.  Past the sign of a comment only
blanks are skipped. -/
def peekPastSpace (flags : Flags) (cs : List Char) : Option Char :=
  if flags.extended then
    let past := cs.dropWhile Text.isBlank
    let past := match past with
      | '#' :: rest => rest.dropWhile Text.isBlank
      | rest => rest
    match past with
    | c :: _ => some c
    | [] => cs.head?
  else cs.head?

/-- An item, or a range from one character to a later one. -/
def takeRange? (flags : Flags) (cs : List Char) : Option (List Char) := do
  let (first, rest) ← takeItem? flags cs
  match skip flags rest with
  | [] => none
  | '-' :: rest =>
    let next := peekPastSpace flags rest
    if next = some ']' || next = some '-' then
      if first = .look then none
      return '-' :: rest
    let (last, rest) ← takeItem? flags (skip flags rest)
    match first, last with
    | .literal a, .literal b => if a.toNat ≤ b.toNat then return rest else none
    | _, _ => none
  | rest =>
    if first = .look then none
    return rest

/-- The items of a set up to its closing bracket; what follows it. -/
def takeItems? (flags : Flags) : Nat → List Char → Option (List Char)
  | 0, _ => none
  | fuel + 1, cs =>
    match skip flags cs with
    | [] => none
    | '[' :: rest => (takeNamedSet? rest).bind (takeItems? flags fuel)
    | ']' :: rest => some rest
    | '&' :: '&' :: _ => none
    | '-' :: '-' :: _ => none
    | '~' :: '~' :: _ => none
    | cs => (takeRange? flags cs).bind (takeItems? flags fuel)

/-- The hyphens in front of the items, which stand for themselves; whether there
were any, and what follows. -/
def skipHyphens (flags : Flags) : Nat → List Char → Bool × List Char
  | 0, cs => (false, cs)
  | fuel + 1, cs =>
    match cs with
    | '-' :: rest => (true, (skipHyphens flags fuel (skip flags rest)).2)
    | cs => (false, cs)

/-- A set, after its opening bracket; what follows it.  A closing bracket in front
of all items stands for itself. -/
def takeSet? (flags : Flags) (cs : List Char) : Option (List Char) :=
  let cs := skip flags cs
  let cs := match cs with
    | '^' :: rest => skip flags rest
    | cs => cs
  let (hyphens, cs) := skipHyphens flags (cs.length + 1) cs
  let cs := match hyphens, cs with
    | false, ']' :: rest => skip flags rest
    | _, cs => cs
  takeItems? flags (cs.length + 1) cs

/-! ## Repetitions -/

/-- Digits with blanks around them; the number, if it fits 32 bits, and what
follows. -/
def takeDigitRun (flags : Flags) : Nat → List Char → List Char × List Char
  | 0, cs => ([], cs)
  | fuel + 1, cs =>
    match cs with
    | c :: rest =>
      if c.isDigit then
        let (digits, rest) := takeDigitRun flags fuel (skip flags rest)
        (c :: digits, rest)
      else ([], cs)
    | [] => ([], [])

/-- Blanks, and under the flag `x` comments between them. -/
def skipBlanks (flags : Flags) : Nat → List Char → List Char
  | 0, cs => cs
  | fuel + 1, cs =>
    match cs with
    | c :: rest => if Text.isBlank c then skipBlanks flags fuel (skip flags rest) else cs
    | [] => []

/-- A count, and what follows it. -/
def takeCount? (flags : Flags) (cs : List Char) : Option (Nat × List Char) :=
  let (digits, rest) := takeDigitRun flags (cs.length + 1) (cs.dropWhile Text.isBlank)
  let rest := skipBlanks flags (rest.length + 1) rest
  if digits.isEmpty ∨ Nat.pow 2 32 ≤ digitsValue digits then none
  else some (digitsValue digits, rest)

/-- The pattern without a question mark in front. -/
def dropQuestion : List Char → List Char
  | '?' :: rest => rest
  | cs => cs

/-- A counted repetition, after its opening brace; what follows it. -/
def takeCounted? (flags : Flags) (cs : List Char) : Option (List Char) := do
  let (least, rest) ← takeCount? flags (skip flags cs)
  match rest with
  | '\x7d' :: rest => return dropQuestion (skip flags rest)
  | ',' :: rest =>
    match skip flags rest with
    | '\x7d' :: rest => return dropQuestion (skip flags rest)
    | rest =>
      let (greatest, rest) ← takeCount? flags rest
      match rest with
      | '\x7d' :: rest =>
        if greatest < least then none else return dropQuestion (skip flags rest)
      | _ => none
  | _ => none

/-! ## Groups -/

/-- A character in the name of a group. -/
def isNameChar (first : Bool) (c : Char) : Bool :=
  c == '_' || Text.isAlphabetic c ||
    (!first && (c == '.' || c == '[' || c == ']' || Text.isNumeral c))

/-- The name of a group and what follows its closing sign. -/
def takeName? (cs : List Char) : Option (String × List Char) :=
  let name := cs.takeWhile (· != '>')
  match name, cs.dropWhile (· != '>') with
  | c :: rest, _ :: after =>
    if isNameChar true c && rest.all (isNameChar false) then
      some (String.ofList name, after)
    else none
  | _, _ => none

/-- The letters that are flags. -/
def isFlag (c : Char) : Bool := ['i', 'm', 's', 'U', 'R', 'x', 'u'].contains c

/-- A flag switched on or off. -/
def setFlag (flags : Flags) (c : Char) (on : Bool) : Flags :=
  if c = 'x' then { flags with extended := on }
  else if c = 'i' then { flags with ignoreCase := on }
  else flags

/-- Flags up to a colon or a closing parenthesis: the flags, whether there were
any signs at all, and the pattern from the colon or parenthesis on. -/
def takeFlags? (flags : Flags) (negated dangling : Bool) (seen : List Char) :
    List Char → Option (Flags × Bool × List Char)
  | [] => none
  | c :: rest =>
    if c = ':' ∨ c = ')' then
      if dangling then none else some (flags, negated || !seen.isEmpty, c :: rest)
    else if c = '-' then
      if negated then none else takeFlags? flags true true seen rest
    else if isFlag c && !seen.contains c then
      takeFlags? (setFlag flags c (!negated)) negated false (c :: seen) rest
    else none

/-- What an opening parenthesis begins. -/
inductive Opened where
  /-- A group, under flags, with a name if it has one. -/
  | group (flags : Flags) (name : Option String)
  /-- Flags for the rest of the enclosing group. -/
  | directive (flags : Flags)

/-- What an opening parenthesis begins, and what follows. -/
def takeOpening? (flags : Flags) (cs : List Char) : Option (Opened × List Char) :=
  match skip flags cs with
  | '?' :: '=' :: _ => none
  | '?' :: '!' :: _ => none
  | '?' :: '<' :: '=' :: _ => none
  | '?' :: '<' :: '!' :: _ => none
  | '?' :: 'P' :: '<' :: rest =>
    (takeName? rest).map fun (name, rest) => (.group flags (some name), rest)
  | '?' :: '<' :: rest =>
    (takeName? rest).map fun (name, rest) => (.group flags (some name), rest)
  | '?' :: rest =>
    match takeFlags? flags false false [] rest with
    | some (inner, _, ':' :: rest) => some (.group inner none, rest)
    | some (inner, true, _ :: rest) => some (.directive inner, rest)
    | _ => none
  | rest => some (.group flags none, rest)

/-! ## Patterns -/

/-- Where a reading stands. -/
structure Reading where
  flags : Flags
  /-- Whether something stands in front that can be repeated. -/
  repeatable : Bool
  /-- The flags around every group still open, innermost first. -/
  enclosing : List Flags
  /-- The names given to groups. -/
  names : List String

/-- The reading with something to repeat in front. -/
def Reading.withItem (r : Reading) : Reading := { r with repeatable := true }

/-- One element of a pattern: the reading after it, and what follows. -/
def step? (r : Reading) (c : Char) (rest : List Char) : Option (Reading × List Char) :=
  if c = '(' then
    match takeOpening? r.flags rest with
    | some (.directive flags, rest) => some ({ r with flags := flags }, rest)
    | some (.group flags name, rest) =>
      match name with
      | some name =>
        if r.names.contains name then none
        else some (⟨flags, false, (r.flags) :: r.enclosing, name :: r.names⟩, rest)
      | none => some (⟨flags, false, r.flags :: r.enclosing, r.names⟩, rest)
    | none => none
  else if c = ')' then
    match r.enclosing with
    | flags :: enclosing => some (⟨flags, true, enclosing, r.names⟩, rest)
    | [] => none
  else if c = '|' then some ({ r with repeatable := false }, rest)
  else if c = '[' then (takeSet? r.flags rest).map fun rest => (r.withItem, rest)
  else if c = '?' ∨ c = '*' ∨ c = '+' then
    if r.repeatable then some (r, dropQuestion rest) else none
  else if c = '\x7b' then
    if r.repeatable then (takeCounted? r.flags rest).map fun rest => (r, rest) else none
  else if c = '\\' then (takeEscape? r.flags rest).map fun (_, rest) => (r.withItem, rest)
  else some (r.withItem, rest)

/-- Whether the rest of a pattern is well-formed; `fuel` exceeds its length. -/
def isValidFrom : Nat → Reading → List Char → Bool
  | 0, _, _ => false
  | fuel + 1, r, cs =>
    match skip r.flags cs with
    | [] => r.enclosing.isEmpty
    | c :: rest =>
      match step? r c rest with
      | some (r, rest) => isValidFrom fuel r rest
      | none => false

/-- Whether a pattern is a well-formed regular expression. -/
def isValid (pattern : String) : Bool :=
  let cs := pattern.toList
  isValidFrom (cs.length + 1) ⟨.none, false, [], []⟩ cs

end Regex
end Runtime
end DocFilter
