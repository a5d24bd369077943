import DocFilter.Document.Path
import DocFilter.Sql.Name

/-!
# Where a field lives

Documents are rows of a table with two columns that matter: one holds the
identity of the document, the other the document itself as JSON.  A client knows
the identity under a name of its own.  Every other name is a path into the
document.
-/

namespace DocFilter

/-- The columns of a table of documents, and the name clients use for the
identity. -/
structure Layout where
  identityField : String
  identityColumn : String
  documentColumn : String
  deriving DecidableEq, Repr

/-- The place a field names. -/
inductive Location where
  /-- The column of the identity. -/
  | identity (column : Sql.Fragment)
  /-- A path into the column of the document. -/
  | document (column : Sql.Fragment) (path : Path)
  deriving DecidableEq, Repr

namespace Location

/-- Whether the place is the identity. -/
def isIdentity : Location → Bool
  | .identity _ => true
  | .document _ _ => false

end Location

namespace Layout

/-- The layout where none is configured. -/
def standard : Layout := ⟨"_id", "id", "data"⟩

/-- Whether a field names the identity. -/
def isIdentity (l : Layout) (field : String) : Bool := field == l.identityField

/-- The place a field names. -/
def locate (l : Layout) (field : String) : Location :=
  if l.isIdentity field then .identity (Sql.column l.identityColumn)
  else .document (Sql.column l.documentColumn) (Path.ofField field)

variable {l : Layout} {field : String}

theorem locate_of_eq (h : field = l.identityField) :
    l.locate field = .identity (Sql.column l.identityColumn) := if_pos (beq_iff_eq.mpr h)

theorem locate_of_ne (h : field ≠ l.identityField) :
    l.locate field = .document (Sql.column l.documentColumn) (Path.ofField field) :=
  if_neg fun hidentity => h (beq_iff_eq.mp hidentity)

theorem isIdentity_locate (l : Layout) (field : String) :
    (l.locate field).isIdentity = l.isIdentity field := by
  by_cases h : field = l.identityField
  · rw [locate_of_eq h, isIdentity, h, beq_self_eq_true]
    rfl
  · rw [locate_of_ne h, isIdentity, beq_false_of_ne h]
    rfl

end Layout
end DocFilter
