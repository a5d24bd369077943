/-!
# Wildcard patterns

Databases without regular expressions have patterns with two wildcards, one for
any run of characters and one for a single character.  A regular expression is
turned into such a pattern as far as that goes.  Without `^` in front the pattern
begins with any run, and without an unescaped `$` at the end it ends with one;
`.*` is any run, `.+` one character and any run, `.` one character; a backslash
makes the next character literal.  Every other character stands for itself, also
where a regular expression would mean something by it.

The reading is the same for all pattern languages.  A language only decides how
wildcards are spelled and how a character that looks like one is written.
-/

namespace DocFilter

/-- One element of a wildcard pattern. -/
inductive Wildcard where
  /-- Any run of characters, also the empty one. -/
  | run
  /-- Any one character. -/
  | one
  /-- This character. -/
  | literal (c : Char)
  deriving DecidableEq, Repr

/-- The languages of wildcard patterns. -/
inductive PatternLanguage where
  /-- `LIKE` with a backslash as escape. -/
  | like
  /-- `LIKE` with a backslash as escape and sets in brackets. -/
  | likeWithSets
  /-- `GLOB`, which has sets in brackets and no escape. -/
  | glob
  deriving DecidableEq, Repr

namespace Wildcard

/-- The elements of a regular expression without its anchors. -/
def ofBody : List Char → List Wildcard
  | [] => []
  | '\\' :: [] => [.literal '\\']
  | '\\' :: c :: rest => .literal c :: ofBody rest
  | '.' :: '*' :: rest => .run :: ofBody rest
  | '.' :: '+' :: rest => .one :: .run :: ofBody rest
  | '.' :: rest => .one :: ofBody rest
  | c :: rest => .literal c :: ofBody rest

/-- The text without `^` in front, and whether there was one. -/
def dropStartAnchor : List Char → List Char × Bool
  | '^' :: rest => (rest, true)
  | cs => (cs, false)

/-- Whether the backslashes at the end are odd in number, so that the last of them
escapes what follows. -/
def endsInEscape (cs : List Char) : Bool :=
  (cs.reverse.takeWhile (· == '\\')).length % 2 == 1

/-- The text without an unescaped `$` at the end, and whether there was one. -/
def dropEndAnchor (cs : List Char) : List Char × Bool :=
  match cs.getLast? with
  | some '$' => if endsInEscape cs.dropLast then (cs, false) else (cs.dropLast, true)
  | _ => (cs, false)

/-- A run directly after a run adds nothing. -/
def mergeRuns : List Wildcard → List Wildcard
  | .run :: .run :: rest => mergeRuns (.run :: rest)
  | w :: rest => w :: mergeRuns rest
  | [] => []

/-- The elements of a regular expression. -/
def ofRegex (pattern : List Char) : List Wildcard :=
  let (body, anchoredStart) := dropStartAnchor pattern
  let (body, anchoredEnd) := dropEndAnchor body
  mergeRuns ((if anchoredStart then [] else [.run]) ++ ofBody body ++
    (if anchoredEnd then [] else [.run]))

end Wildcard

namespace PatternLanguage

/-- The character that makes the next one literal, in the languages of `LIKE`. -/
def escapeChar : Char := '\\'

/-- The characters that have to be escaped to stand for themselves. -/
def isSpecial (language : PatternLanguage) (c : Char) : Bool :=
  match language with
  | .like => c == '%' || c == '_' || c == escapeChar
  | .likeWithSets => c == '%' || c == '_' || c == '[' || c == escapeChar
  | .glob => c == '*' || c == '?' || c == '['

/-- An element as it is spelled. -/
def spell (language : PatternLanguage) : Wildcard → List Char
  | .run => if language = .glob then ['*'] else ['%']
  | .one => if language = .glob then ['?'] else ['_']
  | .literal c =>
    if language.isSpecial c then
      if language = .glob then ['[', c, ']'] else [escapeChar, c]
    else [c]

/-- The pattern for a regular expression. -/
def ofRegex (language : PatternLanguage) (pattern : String) : String :=
  String.ofList ((Wildcard.ofRegex pattern.toList).flatMap language.spell)

end PatternLanguage
end DocFilter
