import DocFilter.Dialect.Condition
import DocFilter.Query.Direction

/-!
# Order and page

The items of an order, and the clause that selects a page of rows.  A page begins
after an offset and ends after a limit, and either may be missing.  Two databases
cannot say an offset without a limit, and get the greatest limit they know; SQL
Server cannot say either without an order.
-/

namespace DocFilter
namespace Dialect

open Sql Sql.Fragment

/-- One item of an order. -/
def orderItem (d : Dialect) (place : Location) (direction : Direction) : Fragment :=
  d.comparable place ++ sql (" " ++ direction.keyword)

/-- Whether a page can only be taken of ordered rows. -/
def pageNeedsOrder : Dialect → Bool
  | .sqlServer => true
  | _ => false

/-- The greatest limit of MySQL. -/
def greatestLimit : Nat := 18446744073709551615

/-- The clause for a page, where there is a limit or an offset. -/
def page? (d : Dialect) (limit offset : Option Nat) : Option String :=
  match d, limit, offset with
  | _, none, none => none
  | .sqlServer, some limit, offset =>
    some ("OFFSET " ++ (offset.getD 0).repr ++ " ROWS FETCH NEXT " ++ limit.repr ++
      " ROWS ONLY")
  | .sqlServer, none, some offset => some ("OFFSET " ++ offset.repr ++ " ROWS")
  | _, some limit, none => some ("LIMIT " ++ limit.repr)
  | _, some limit, some offset =>
    some ("LIMIT " ++ limit.repr ++ " OFFSET " ++ offset.repr)
  | .postgres, none, some offset => some ("OFFSET " ++ offset.repr)
  | .mySql, none, some offset =>
    some ("LIMIT " ++ greatestLimit.repr ++ " OFFSET " ++ offset.repr)
  | .sqlite, none, some offset => some ("LIMIT -1 OFFSET " ++ offset.repr)

end Dialect
end DocFilter
