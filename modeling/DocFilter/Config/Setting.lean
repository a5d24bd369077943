/-!
# Settings

A configuration before anything is known about what it is for: a tree of texts,
integers, lists and tables.  Other kinds of values can be written, but no setting
takes one, so they are all alike.
-/

namespace DocFilter

/-- A value of a configuration. -/
inductive Setting where
  | text (s : String)
  | integer (n : Int)
  | list (items : List Setting)
  | table (entries : List (String × Setting))
  /-- A truth value, a fraction or a date. -/
  | other
  deriving Repr, Inhabited

end DocFilter
