import DocFilter.Dict
import DocFilter.Number.Double

/-!
# JSON values

A value as a request carries it.  Two things are kept that other readers of JSON
drop: the entries of an object stay in the order they were written, because
clauses are made in that order, and an integer stays an integer as long as it fits
64 bits, signed or unsigned.
-/

namespace DocFilter

/-- A JSON number: an integer from `-2^63` up to `2^64 - 1`, or anything else
rounded to binary64. -/
inductive Number where
  | integer (n : Int)
  | real (x : Double)
  deriving DecidableEq, Repr

/-- A JSON value. -/
inductive Json where
  | null
  | bool (b : Bool)
  | number (n : Number)
  | string (s : String)
  | array (items : List Json)
  | object (entries : List (String × Json))
  deriving Repr, Inhabited

/-- The types of JSON values. -/
inductive JsonType where
  | string
  | number
  | boolean
  | array
  | object
  | null
  deriving DecidableEq, Repr

namespace JsonType

/-- All types, in the order they are listed to users. -/
def all : List JsonType := [.string, .number, .boolean, .array, .object, .null]

/-- The name of a type. -/
def name : JsonType → String
  | .string => "string"
  | .number => "number"
  | .boolean => "boolean"
  | .array => "array"
  | .object => "object"
  | .null => "null"

end JsonType

/-- The least integer of 64 bits. -/
def int64Least : Int := -9223372036854775808

/-- The greatest integer of 64 bits. -/
def int64Greatest : Int := 9223372036854775807

/-- Whether an integer fits 64 bits with a sign. -/
def fitsInt64 (n : Int) : Bool := int64Least ≤ n && n ≤ int64Greatest

namespace Number

/-- The number as an integer of 64 bits with a sign, if it is one. -/
def toInt64? : Number → Option Int
  | .integer n => if fitsInt64 n then some n else none
  | .real _ => none

/-- The number rounded to binary64. -/
def toDouble : Number → Double
  | .integer n =>
    ((Double.ofNat? n.natAbs).getD (Double.zero false)).withSign (n < 0)
  | .real x => x

end Number

namespace Json

/-- The type of a value. -/
def type : Json → JsonType
  | .null => .null
  | .bool _ => .boolean
  | .number _ => .number
  | .string _ => .string
  | .array _ => .array
  | .object _ => .object

/-- A value that is an object or an array. -/
def isStructured : Json → Bool
  | .array _ | .object _ => true
  | _ => false

/-- A string, a number or a truth value: what a list of alternatives may hold. -/
def isScalar : Json → Bool
  | .bool _ | .number _ | .string _ => true
  | _ => false

/-- An integer as a value. -/
def ofInt (n : Int) : Json := .number (.integer n)

end Json
end DocFilter
