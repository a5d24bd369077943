import DocFilter.Sql.Fragment

/-!
# Conditions in SQL

A condition on a row is kept as the formula it is: relations between expressions
at the leaves, negation, conjunction and disjunction above.  What an expression
computes is left to its text.

The text of a formula needs no precedence.  A conjunction or disjunction stands in
parentheses, also when it has one member, and so does what is negated.  The empty
conjunction is `1=1` and the empty disjunction `1=0`.
-/

namespace DocFilter
namespace Sql

/-- Relations between two expressions. -/
inductive Relation where
  | equal
  | notEqual
  | greater
  | greaterEqual
  | less
  | lessEqual
  /-- A regular expression matches, with regard to case. -/
  | regex
  /-- A regular expression matches, without regard to case. -/
  | regexAnyCase
  /-- A pattern of `GLOB` matches. -/
  | glob
  deriving DecidableEq, Repr

/-- A relation as it is written. -/
def Relation.symbol : Relation → String
  | .equal => "="
  | .notEqual => "<>"
  | .greater => ">"
  | .greaterEqual => ">="
  | .less => "<"
  | .lessEqual => "<="
  | .regex => "~"
  | .regexAnyCase => "~*"
  | .glob => "GLOB"

/-- A condition without parts that are conditions. -/
inductive Atom where
  /-- Two expressions in a relation. -/
  | compare (left : Fragment) (relation : Relation) (right : Fragment)
  /-- An expression equal to one of several. -/
  | among (subject : Fragment) (choices : List Fragment)
  /-- An expression different from each of several. -/
  | notAmong (subject : Fragment) (choices : List Fragment)
  /-- A pattern of `LIKE` matches; `escape` makes the next character literal. -/
  | like (subject pattern escape : Fragment)
  /-- An expression without a value. -/
  | isNull (subject : Fragment)
  /-- An expression with a value. -/
  | isNotNull (subject : Fragment)
  /-- A call that yields a truth value. -/
  | holds (test : Fragment)
  /-- The negation of such a call. -/
  | fails (test : Fragment)
  deriving DecidableEq, Repr

/-- An atom as it is written. -/
def Atom.fragment : Atom → Fragment
  | .compare left relation right =>
    left ++ Fragment.sql (" " ++ relation.symbol ++ " ") ++ right
  | .among subject choices =>
    subject ++ Fragment.sql " IN (" ++ Fragment.join ", " choices ++ Fragment.sql ")"
  | .notAmong subject choices =>
    subject ++ Fragment.sql " NOT IN (" ++ Fragment.join ", " choices ++ Fragment.sql ")"
  | .like subject pattern escape =>
    subject ++ Fragment.sql " LIKE " ++ pattern ++ Fragment.sql " ESCAPE " ++ escape
  | .isNull subject => subject ++ Fragment.sql " IS NULL"
  | .isNotNull subject => subject ++ Fragment.sql " IS NOT NULL"
  | .holds test => test
  | .fails test => Fragment.sql "NOT " ++ test

/-- A condition on a row. -/
inductive Formula where
  /-- SQL supplied from outside, as it stands. -/
  | verbatim (sql : String)
  | atom (a : Atom)
  | not (f : Formula)
  | all (fs : List Formula)
  | any (fs : List Formula)
  deriving Repr, Inhabited

namespace Formula

/-- The condition every row meets. -/
def always : Formula := .all []

/-- The condition no row meets. -/
def never : Formula := .any []

/-- How `always` is written. -/
def alwaysText : String := "1=1"

/-- How `never` is written. -/
def neverText : String := "1=0"

mutual

/-- A formula as it is written. -/
def fragment : Formula → Fragment
  | .verbatim text => Fragment.sql text
  | .atom a => a.fragment
  | .not f => Fragment.sql "NOT (" ++ f.fragment ++ Fragment.sql ")"
  | .all [] => Fragment.sql alwaysText
  | .all (f :: fs) =>
    Fragment.sql "(" ++ (f.fragment ++ tailFragment " AND " fs) ++ Fragment.sql ")"
  | .any [] => Fragment.sql neverText
  | .any (f :: fs) =>
    Fragment.sql "(" ++ (f.fragment ++ tailFragment " OR " fs) ++ Fragment.sql ")"

/-- Further members, each behind the word that joins it. -/
def tailFragment (word : String) : List Formula → Fragment
  | [] => []
  | f :: fs => Fragment.sql word ++ f.fragment ++ tailFragment word fs

end

/-- The text of a formula. -/
def text (f : Formula) : String := f.fragment.text

/-- Whether the formula is written as `always` is. -/
def isAlways (f : Formula) : Bool := f.text == alwaysText

/-- Whether the formula is written as `never` is. -/
def isNever (f : Formula) : Bool := f.text == neverText

end Formula
end Sql
end DocFilter
