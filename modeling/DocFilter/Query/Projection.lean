import DocFilter.Error

/-!
# Which fields to return

A client names fields with a flag each.  All flags agree, and then the fields are
either the ones to return or the ones to leave out; only the identity may have a
flag of its own.
-/

namespace DocFilter

/-- A choice of fields. -/
structure Projection where
  /-- Whether the fields are the ones to return. -/
  keep : Bool
  /-- The fields named, without the identity. -/
  fields : List String
  /-- Whether the identity is returned. -/
  identity : Bool
  deriving DecidableEq, Repr

namespace Projection

/-- The flag of a field. -/
def readFlag (field : String) : Json → Except QueryError Bool
  | .bool b => .ok b
  | .number n =>
    if n = .integer 0 then .ok false
    else if n = .integer 1 then .ok true
    else .error (.ofCause (.projection (.flagNumber field n)))
  | found => .error (.ofCause (.projection (.notAFlag field found)))

/-- What the entries read so far say: the common flag, if a field has set it, the
fields, newest first, and the flag of the identity. -/
structure Draft where
  mode : Option Bool
  fields : List String
  identity : Bool

/-- One more entry. -/
def addEntry (identityField : String) (draft : Draft) (entry : String × Json) :
    Except QueryError Draft := do
  let (field, value) := entry
  let flag ← readFlag field value
  if field = identityField then return { draft with identity := flag }
  match draft.mode with
  | some mode =>
    if mode = flag then return { draft with fields := field :: draft.fields }
    else throw (.ofCause (.projection (.mixed field)))
  | none => return ⟨some flag, field :: draft.fields, draft.identity⟩

/-- The choice that entries make. -/
def read (identityField : String) (entries : Dict String Json) :
    Except QueryError Projection := do
  let draft ← entries.foldlM (addEntry identityField) ⟨none, [], true⟩
  return ⟨draft.mode.getD false, draft.fields.reverse, draft.identity⟩

/-- Whether a field is among those returned, as far as the list of fields goes. -/
def includes (p : Projection) (field : String) : Bool :=
  if p.keep then p.fields.contains field else !p.fields.contains field

end Projection
end DocFilter
