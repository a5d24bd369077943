import DocFilter.Dialect.Basic
import DocFilter.Document.Layout

/-!
# Taking a value out of a document

The expressions that read the value at a path: as text, as a number, as JSON.
Each yields `NULL` where the path leads nowhere.  A value that is not a number
yields `NULL` as a number, or whatever the database makes of it, but no error.
-/

namespace DocFilter
namespace Dialect

open Sql Sql.Fragment

/-- A path as a literal in the standard notation. -/
def pathLiteral (d : Dialect) (path : Path) : Fragment := d.literal path.text

/-- The value at a path by the arrow operators: one step by name or by index, more
than one by an array of texts. -/
def arrow (column : Fragment) (path : Path) (asText : Bool) : Fragment :=
  let step := if asText then " ->> " else " -> "
  match path with
  | [.key name] => column ++ sql step ++ postgres.literal name
  | [.index n] => column ++ sql step ++ number n
  | _ => column ++ sql (if asText then " #>> " else " #> ") ++ postgres.literal path.arrayText

/-- The value at a path as JSON. -/
def jsonAt (d : Dialect) (column : Fragment) (path : Path) : Fragment :=
  match d with
  | .postgres => arrow column path false
  | .mySql => call "JSON_EXTRACT" [column, d.pathLiteral path]
  | .sqlite => call "json_extract" [column, d.pathLiteral path]
  | .sqlServer => call "JSON_QUERY" [column, d.pathLiteral path]

/-- The value at a path as text. -/
def textAt (d : Dialect) (column : Fragment) (path : Path) : Fragment :=
  match d with
  | .postgres => arrow column path true
  | .mySql => call "JSON_UNQUOTE" [d.jsonAt column path]
  | .sqlite =>
    sql "CASE " ++ call "json_type" [column, d.pathLiteral path] ++
      sql " WHEN " ++ d.literal "true" ++ sql " THEN " ++ d.literal "true" ++
      sql " WHEN " ++ d.literal "false" ++ sql " THEN " ++ d.literal "false" ++
      sql " ELSE " ++ cast (d.jsonAt column path) "TEXT" ++ sql " END"
  | .sqlServer => call "JSON_VALUE" [column, d.pathLiteral path]

/-- The value at a path as a number. -/
def numberAt (d : Dialect) (column : Fragment) (path : Path) : Fragment :=
  match d with
  | .postgres =>
    sql "CASE WHEN " ++ call "jsonb_typeof" [arrow column path false] ++
      sql " = " ++ d.literal "number" ++ sql " THEN " ++ parens (arrow column path true) ++
      sql "::numeric END"
  | .mySql => cast (d.textAt column path) "DECIMAL(65,30)"
  | .sqlite => cast (d.jsonAt column path) "REAL"
  | .sqlServer => castBy "TRY_CAST" (d.textAt column path) "DECIMAL(38, 10)"

/-- A column as text. -/
def columnAsText (d : Dialect) (column : Fragment) : Fragment :=
  match d with
  | .postgres | .sqlite => cast column "TEXT"
  | .mySql => cast column "CHAR"
  | .sqlServer => cast column "NVARCHAR(MAX)"

/-- A parameter compared as JSON. -/
def jsonParameter (d : Dialect) (parameter : Fragment) : Fragment :=
  match d with
  | .postgres => cast parameter "jsonb"
  | .mySql => cast parameter "JSON"
  | .sqlite => call "json" [parameter]
  | .sqlServer => parameter

/-- What an equality on a place looks at: the column itself, or the text at the
path. -/
def comparable (d : Dialect) : Location → Fragment
  | .identity column => column
  | .document column path => d.textAt column path

/-- What an ordering on a place looks at: the column itself, or the number at the
path. -/
def orderable (d : Dialect) : Location → Fragment
  | .identity column => column
  | .document column path => d.numberAt column path

/-- What a pattern on a place looks at: always a text. -/
def readable (d : Dialect) : Location → Fragment
  | .identity column => d.columnAsText column
  | .document column path => d.textAt column path

end Dialect
end DocFilter
