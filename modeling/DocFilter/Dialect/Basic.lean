import DocFilter.Sql.Fragment
import DocFilter.Text.Blank
import DocFilter.Text.Case

/-!
# Dialects of SQL

Four databases keep JSON in a column, and each has its own functions for it.  The
dialect is a closed choice; what depends on it is said in the other modules of
this folder, one module for each part of a statement.
-/

namespace DocFilter

/-- The databases a statement can be made for. -/
inductive Dialect where
  | postgres
  | mySql
  | sqlite
  | sqlServer
  deriving DecidableEq, Repr

namespace Dialect

/-- All dialects. -/
def all : List Dialect := [.postgres, .mySql, .sqlite, .sqlServer]

/-- The name of a dialect. -/
def name : Dialect → String
  | .postgres => "postgres"
  | .mySql => "mysql"
  | .sqlite => "sqlite"
  | .sqlServer => "mssql"

/-- The dialect where nothing says which. -/
def standard : Dialect := .postgres

/-- The names a dialect goes by in a configuration. -/
def aliases : Dialect → List String
  | .postgres => ["postgres", "postgresql", "pg"]
  | .mySql => ["mysql", "mariadb"]
  | .sqlite => ["sqlite", "sqlite3"]
  | .sqlServer => ["mssql", "sqlserver", "sql_server", "tsql"]

/-- The dialect with this name, once blanks and case are set aside. -/
def ofName? (written : String) : Option Dialect :=
  let wanted := Text.lower (Text.trim written)
  all.find? fun d => d.aliases.contains wanted

/-- The character in front of the name of a parameter. -/
def sigil : Dialect → Char
  | .sqlServer => '@'
  | _ => ':'

/-- The place of a parameter, by its name. -/
def placeholder (d : Dialect) (name : String) : Sql.Fragment :=
  [.placeholder d.sigil name]

/-- The place of a parameter, by its position counted from one. -/
def positional (d : Dialect) (position : Nat) : String :=
  match d with
  | .postgres => "$" ++ position.repr
  | .sqlServer => "@P" ++ position.repr
  | _ => "?"

/-- What a backslash means inside a string literal. -/
def literalStyle : Dialect → Sql.LiteralStyle
  | .mySql => .escaping
  | _ => .plain

/-- A string literal. -/
def literal (d : Dialect) (content : String) : Sql.Fragment :=
  [.literal d.literalStyle content]

end Dialect
end DocFilter
