import DocFilter.Dialect.Extraction
import DocFilter.Json.Basic
import DocFilter.Pattern.Wildcard
import DocFilter.Sql.Formula

/-!
# Conditions on a place

What a comparison on a place says in each dialect.  A condition that excludes
values also holds where the place is empty, so that it holds exactly where the
condition it negates does not; the identity is never empty, and needs no such care.

The databases without regular expressions get a wildcard pattern instead.  SQLite
matches it with `GLOB` where case counts and with `LIKE` where it does not; SQL
Server always uses `LIKE`, under a collation that tells case apart where that is
wanted.
-/

namespace DocFilter
namespace Dialect

open Sql Sql.Fragment

/-- An expression and its relation to a parameter. -/
def relate (left : Fragment) (relation : Relation) (right : Fragment) : Formula :=
  .atom (.compare left relation right)

/-- The condition, or an expression without a value. -/
def orAbsent (subject : Fragment) (condition : Atom) : Formula :=
  .any [.atom (.isNull subject), .atom condition]

/-! ## Equality, ordering, membership -/

/-- The place holds the scalar. -/
def equals (d : Dialect) (place : Location) (parameter : Fragment) : Formula :=
  relate (d.comparable place) .equal parameter

/-- The place does not hold the scalar. -/
def differs (d : Dialect) (place : Location) (parameter : Fragment) : Formula :=
  match place with
  | .identity column => relate column .notEqual parameter
  | .document column path =>
    orAbsent (d.textAt column path) (.compare (d.textAt column path) .notEqual parameter)

/-- The path leads to the object or array. -/
def equalsJson (d : Dialect) (column : Fragment) (path : Path) (parameter : Fragment) :
    Formula :=
  relate (d.jsonAt column path) .equal (d.jsonParameter parameter)

/-- The path does not lead to the object or array. -/
def differsJson (d : Dialect) (column : Fragment) (path : Path) (parameter : Fragment) :
    Formula :=
  orAbsent (d.jsonAt column path)
    (.compare (d.jsonAt column path) .notEqual (d.jsonParameter parameter))

/-- The number at the place stands in a relation to the parameter. -/
def compares (d : Dialect) (place : Location) (relation : Relation) (parameter : Fragment) :
    Formula :=
  relate (d.orderable place) relation parameter

/-- The place holds one of the scalars. -/
def holdsOneOf (d : Dialect) (place : Location) (parameters : List Fragment) : Formula :=
  .atom (.among (d.comparable place) parameters)

/-- The place holds none of the scalars. -/
def holdsNoneOf (d : Dialect) (place : Location) (parameters : List Fragment) : Formula :=
  match place with
  | .identity column => .atom (.notAmong column parameters)
  | .document column path =>
    orAbsent (d.textAt column path) (.notAmong (d.textAt column path) parameters)

/-! ## Patterns -/

/-- Whether the database matches regular expressions itself. -/
def hasRegex : Dialect → Bool
  | .postgres | .mySql => true
  | .sqlite | .sqlServer => false

/-- The language of the wildcard pattern that stands in for a regular
expression. -/
def patternLanguage (d : Dialect) (ignoreCase : Bool) : PatternLanguage :=
  match d with
  | .postgres | .mySql => .like
  | .sqlite => if ignoreCase then .like else .glob
  | .sqlServer => .likeWithSets

/-- The wildcard pattern that stands in for a regular expression. -/
def wildcardPattern (d : Dialect) (regex : String) (ignoreCase : Bool) : String :=
  (d.patternLanguage ignoreCase).ofRegex regex

/-- The collation that tells upper from lower case. -/
def caseSensitiveCollation : String := "Latin1_General_CS_AS"

/-- The escape of `LIKE` as a literal. -/
def escapeLiteral (d : Dialect) : Fragment := d.literal PatternLanguage.escapeChar.toString

/-- `LIKE`, on both sides in lower case where case does not count. -/
def likes (subject parameter escape : Fragment) (ignoreCase : Bool) : Formula :=
  if ignoreCase then
    .atom (.like (call "LOWER" [subject]) (call "LOWER" [parameter]) escape)
  else .atom (.like subject parameter escape)

/-- The text at the place matches a wildcard pattern. -/
def matchesWildcard (d : Dialect) (place : Location) (parameter : Fragment)
    (ignoreCase : Bool) : Formula :=
  let subject := d.readable place
  match d with
  | .sqlite =>
    if ignoreCase then likes subject parameter d.escapeLiteral true
    else relate subject .glob parameter
  | .sqlServer =>
    if ignoreCase then likes subject parameter d.escapeLiteral true
    else
      likes (subject ++ sql (" COLLATE " ++ caseSensitiveCollation)) parameter
        d.escapeLiteral false
  | .postgres | .mySql => likes subject parameter d.escapeLiteral ignoreCase

/-- The text at the place matches a regular expression, or the wildcard pattern
that stands in for it. -/
def matchesRegex (d : Dialect) (place : Location) (parameter : Fragment)
    (ignoreCase : Bool) : Formula :=
  match d with
  | .postgres =>
    relate (d.readable place) (if ignoreCase then .regexAnyCase else .regex) parameter
  | .mySql =>
    .atom (.holds (call "REGEXP_LIKE"
      [d.readable place, parameter, d.literal (if ignoreCase then "i" else "c")]))
  | .sqlite | .sqlServer => d.matchesWildcard place parameter ignoreCase

/-! ## Presence and type -/

/-- A call, or its negation. -/
def holdsIf (wanted : Bool) (test : Fragment) : Formula :=
  .atom (if wanted then .holds test else .fails test)

/-- An expression with a value, or without one. -/
def nonNullIf (wanted : Bool) (subject : Fragment) : Formula :=
  .atom (if wanted then .isNotNull subject else .isNull subject)

/-- A row of the entries under the parent of a path, under the last step of the
path; `type` asks in addition for a type by its number. -/
def entryExists (column : Fragment) (path : Path) (type : Option Nat) : Fragment :=
  let label := match path.getLast? with
    | some step => step.label
    | none => ""
  sql "EXISTS (SELECT 1 FROM " ++
    call "OPENJSON" [column, sqlServer.pathLiteral (Path.parent path)] ++
    sql " WHERE [key] = N" ++ sqlServer.literal label ++
    (match type with
      | some n => sql " AND [type] = " ++ number n
      | none => []) ++
    sql ")"

/-- The path leads somewhere, or it does not. -/
def pathExists (d : Dialect) (column : Fragment) (path : Path) (wanted : Bool) : Formula :=
  match d with
  | .postgres => nonNullIf wanted (parens (d.jsonAt column path))
  | .mySql =>
    holdsIf wanted (call "JSON_CONTAINS_PATH" [column, d.literal "one", d.pathLiteral path])
  | .sqlite => nonNullIf wanted (call "json_type" [column, d.pathLiteral path])
  | .sqlServer => holdsIf wanted (entryExists column path none)

/-- The place holds something, or it does not. -/
def isPresent (d : Dialect) (place : Location) (wanted : Bool) : Formula :=
  match place with
  | .identity column => nonNullIf wanted column
  | .document column path => d.pathExists column path wanted

/-- An expression equal to a name, or to one of several. -/
def named (d : Dialect) (subject : Fragment) : List String → Formula
  | [name] => relate subject .equal (d.literal name)
  | names => .atom (.among subject (names.map d.literal))

/-- The number of a type among the entries of a document. -/
def typeNumber : JsonType → Nat
  | .null => 0
  | .string => 1
  | .number => 2
  | .boolean => 3
  | .array => 4
  | .object => 5

/-- The names MySQL has for the values of a type. -/
def mySqlTypeNames : JsonType → List String
  | .string => ["STRING"]
  | .number => ["INTEGER", "UNSIGNED INTEGER", "DOUBLE", "DECIMAL"]
  | .boolean => ["BOOLEAN"]
  | .array => ["ARRAY"]
  | .object => ["OBJECT"]
  | .null => ["NULL"]

/-- The names SQLite has for the values of a type. -/
def sqliteTypeNames : JsonType → List String
  | .string => ["text"]
  | .number => ["integer", "real"]
  | .boolean => ["true", "false"]
  | .array => ["array"]
  | .object => ["object"]
  | .null => ["null"]

/-- The value at the path has the type. -/
def pathHasType (d : Dialect) (column : Fragment) (path : Path) (type : JsonType) :
    Formula :=
  match d with
  | .postgres => d.named (call "jsonb_typeof" [d.jsonAt column path]) [type.name]
  | .mySql => d.named (call "JSON_TYPE" [d.jsonAt column path]) (mySqlTypeNames type)
  | .sqlite =>
    d.named (call "json_type" [column, d.pathLiteral path]) (sqliteTypeNames type)
  | .sqlServer => holdsIf true (entryExists column path (some (typeNumber type)))

/-- The place holds a value of the type.  The identity has no type of JSON; it is
null where it is empty and of every other type where it is not. -/
def hasType (d : Dialect) (place : Location) (type : JsonType) : Formula :=
  match place with
  | .identity column => nonNullIf (type ≠ .null) column
  | .document column path => d.pathHasType column path type

end Dialect
end DocFilter
