import DocFilter.Json.Printer
import DocFilter.Number.Numeral
import DocFilter.Text.Blank

/-!
# Values bound to parameters

No operand of a filter is ever written into SQL.  It is bound to a parameter, in
the form in which the database has to compare it: as itself against a native
column, as text against text taken from a document, as a number in an ordering.
-/

namespace DocFilter

/-- A value bound to a parameter. -/
inductive Bound where
  | null
  | bool (b : Bool)
  | int (n : Int)
  | float (x : Double)
  | text (s : String)
  | json (v : Json)
  deriving Repr

namespace Bound

/-- A number as it is bound: an integer where it fits 64 bits with a sign. -/
def ofNumber (n : Number) : Bound :=
  match n.toInt64? with
  | some i => .int i
  | none => .float n.toDouble

/-- The value as itself; objects and arrays stay JSON. -/
def ofJson : Json → Bound
  | .null => .null
  | .bool b => .bool b
  | .number n => ofNumber n
  | .string s => .text s
  | v => .json v

/-- The text that taking the value out of a document as text yields: a string
without its quotes, anything else as JSON spells it. -/
def textOf : Json → Bound
  | .null => .null
  | .string s => .text s
  | v => .text v.text

/-- The value as a number, where it is one or a string that spells one. -/
def numberOf? : Json → Option Bound
  | .number n => some (ofNumber n)
  | .string s =>
    let cs := Text.trimChars s.toList
    match int? cs with
    | some n =>
      if fitsInt64 n then some (.int n) else (double? cs).map .float
    | none => (double? cs).map .float
  | _ => none

/-- The value as JSON. -/
def toJson : Bound → Json
  | .null => .null
  | .bool b => .bool b
  | .int n => .number (.integer n)
  | .float x => .number (.real x)
  | .text s => .string s
  | .json v => v

end Bound
end DocFilter
