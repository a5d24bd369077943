import DocFilter.Dialect.Basic
import DocFilter.Text.Blank

/-!
# The dialect of a connection URL

The scheme of a connection URL names the database.  Which texts are URLs, and what the
scheme of one is, the library that reads URLs says; its answer is a parameter here.
Blanks around the text and one `jdbc:` in front of it are taken away before it is asked.
-/

namespace DocFilter
namespace Dialect

/-- The schemes a dialect goes by. -/
def schemes : Dialect → List String
  | .postgres => ["postgres", "postgresql"]
  | .mySql => ["mysql", "mariadb"]
  | .sqlite => ["sqlite", "sqlite3", "file"]
  | .sqlServer => ["mssql", "sqlserver", "tds"]

/-- The text without one leading `jdbc:`. -/
def dropDriver : List Char → List Char
  | 'j' :: 'd' :: 'b' :: 'c' :: ':' :: rest => rest
  | cs => cs

/-- The dialect a connection URL names, if it is a URL and names one. -/
def ofUrl? (schemeOf? : String → Option String) (url : String) : Option Dialect := do
  let scheme ← schemeOf? (String.ofList (dropDriver (Text.trimChars url.toList)))
  all.find? fun d => d.schemes.contains scheme

end Dialect
end DocFilter
