import DocFilter.Sql.Fragment
import DocFilter.Text.Case

/-!
# Names in SQL

A column is written bare when its name is a plain word that means nothing else,
and quoted otherwise.  A parameter is named after the field it is bound for, with
every character that cannot stand in a name replaced, and a number that no other
parameter has.
-/

namespace DocFilter
namespace Sql

/-- The characters of plain names: letters and digits of ASCII, and the
underscore. -/
def isWordChar (c : Char) : Bool := c.isAlphanum || c == '_'

/-- Words that may not stand bare where a column name is meant. -/
def reservedWords : List String :=
  ["user", "order", "group", "select", "from", "where", "table", "index", "key", "primary",
    "default", "null", "not", "and", "or", "in", "is", "like", "case", "when", "then", "else",
    "end", "as", "on", "limit", "offset", "all", "distinct", "having", "values", "set"]

/-- Whether a name has to be quoted. -/
def needsQuoting (name : String) : Bool :=
  name.isEmpty || reservedWords.contains (Text.lower name) ||
    (match name.toList with
      | c :: _ => c.isDigit
      | [] => false) ||
    !name.toList.all isWordChar

/-- A column, quoted where it has to be. -/
def column (name : String) : Fragment :=
  if needsQuoting name then [.identifier name] else [.bare name]

/-- A character in a parameter name. -/
def parameterChar (c : Char) : Char := if c.isAlphanum then c else '_'

/-- The stem of a parameter name: the field with every other character replaced,
behind `p_` unless it begins with a letter. -/
def parameterStem (field : String) : String :=
  let cs := field.toList.map parameterChar
  match cs with
  | c :: _ => if c.isAlpha then String.ofList cs else "p_" ++ String.ofList cs
  | [] => "p_"

/-- The name of the parameter with number `n`, bound for a field. -/
def parameterName (field : String) (n : Nat) : String :=
  parameterStem field ++ "_" ++ n.repr

end Sql
end DocFilter
