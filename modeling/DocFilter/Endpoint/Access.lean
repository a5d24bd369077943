import DocFilter.Endpoint.Basic
import DocFilter.Error
import DocFilter.Filter.Tree
import DocFilter.Query.Direction

/-!
# What an endpoint lets through

A filter is held against the rules of an endpoint condition by condition, in the
order they were written, and the first that is not allowed is the one reported.  The
identity may always be filtered and sorted.  Operands do not matter here.
-/

namespace DocFilter
namespace Endpoint

/-- One condition is allowed. -/
def checkCondition (e : Endpoint) (identityField field : String) (comparison : Comparison) :
    Except QueryError Unit :=
  if field = identityField then .ok ()
  else if !e.allowsField field then .error (.ofCause (.fieldNotAllowed field))
  else if !e.allowsOperator field comparison then
    .error (.ofCause (.operatorNotAllowed field comparison.symbol))
  else .ok ()

/-- All conditions of a filter are allowed. -/
def checkFilter (e : Endpoint) (identityField : String) (filter : Filter) :
    Except QueryError Unit :=
  filter.conditions.forM fun (field, c) => e.checkCondition identityField field c.operator

/-- Sorting by one key is allowed. -/
def checkKey (e : Endpoint) (identityField : String) (key : SortKey) :
    Except QueryError Unit :=
  if key.field = identityField ∨ e.allowsSort key.field then .ok ()
  else .error (.ofCause (.sort key.field .notSortable))

/-- Sorting by all keys is allowed. -/
def checkOrder (e : Endpoint) (identityField : String) (keys : List SortKey) :
    Except QueryError Unit :=
  keys.forM (e.checkKey identityField)

end Endpoint
end DocFilter
