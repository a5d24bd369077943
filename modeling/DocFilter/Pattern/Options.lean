import DocFilter.Error

/-!
# Options of a pattern

Letters that change how a regular expression is matched.  `i` sets case aside.
`m`, `s` and `x` are accepted and change nothing, and every other letter is
refused.
-/

namespace DocFilter

/-- How a pattern is matched. -/
structure PatternOptions where
  ignoreCase : Bool
  deriving DecidableEq, Repr

namespace PatternOptions

/-- The options where none are given. -/
def standard : PatternOptions := ⟨false⟩

/-- The options that letters stand for. -/
def readFrom (field : String) (options : PatternOptions) :
    List Char → Except QueryError PatternOptions
  | [] => .ok options
  | c :: rest =>
    if c = 'i' then readFrom field ⟨true⟩ rest
    else if c = 'm' ∨ c = 's' ∨ c = 'x' then readFrom field options rest
    else .error (.value Cause.optionsKey field (.unsupportedOption c))

/-- The options a text of letters stands for, given for a field. -/
def read (field : String) (letters : String) : Except QueryError PatternOptions :=
  readFrom field standard letters.toList

end PatternOptions
end DocFilter
