import DocFilter.Dialect.Basic
import DocFilter.Predicate
import DocFilter.Sql.Name

/-!
# Positions instead of names

Some drivers know parameters by position only.  `rewrite` reads a condition once
and replaces each place of a bound parameter by its position, counting from one; a
parameter that occurs twice has two positions.  Inside quotes nothing is a
parameter.  A name is read as far as it goes, and a name that is not bound is left as
it is.
-/

namespace DocFilter

/-- Where a reading of a condition stands. -/
inductive PlaceholderScan where
  /-- Outside quotes and names. -/
  | outside
  /-- Inside the quotes of this kind. -/
  | quoted (quote : Char)
  /-- In the name of a parameter, its characters newest first. -/
  | named (seen : List Char)

/-- A condition rewritten: its characters, and the values in order of position. -/
structure Rewritten where
  chars : List Char
  values : List Bound

namespace Rewritten

/-- Characters in front. -/
def prepend (cs : List Char) (r : Rewritten) : Rewritten := { r with chars := cs ++ r.chars }

end Rewritten

namespace Dialect

/-- The characters that open a quote. -/
def opensQuote (c : Char) : Bool := c == '\'' || c == '\"'

/-- The end of a name: its position and the rest read after it, or the name as it
is. -/
def settleName (d : Dialect) (bindings : Bindings) (seen : List Char) (position : Nat)
    (rest : Nat → Rewritten) : Rewritten :=
  match Dict.find? (String.ofList seen.reverse) bindings with
  | some value =>
    let after := rest (position + 1)
    ⟨(d.positional position).toList ++ after.chars, value :: after.values⟩
  | none => (rest position).prepend (d.sigil :: seen.reverse)

/-- The rest of a condition rewritten, when `position` is the next position to be
given. -/
def rewriteFrom (d : Dialect) (bindings : Bindings) :
    PlaceholderScan → Nat → List Char → Rewritten
  | .named seen, position, [] => d.settleName bindings seen position fun _ => ⟨[], []⟩
  | _, _, [] => ⟨[], []⟩
  | .quoted quote, position, c :: rest =>
    (rewriteFrom d bindings (if c = quote then .outside else .quoted quote) position rest).prepend
      [c]
  | .outside, position, c :: rest =>
    if opensQuote c then (rewriteFrom d bindings (.quoted c) position rest).prepend [c]
    else if c = d.sigil then rewriteFrom d bindings (.named []) position rest
    else (rewriteFrom d bindings .outside position rest).prepend [c]
  | .named seen, position, c :: rest =>
    if Sql.isWordChar c then rewriteFrom d bindings (.named (c :: seen)) position rest
    else
      d.settleName bindings seen position fun position =>
        if opensQuote c then (rewriteFrom d bindings (.quoted c) position rest).prepend [c]
        else if c = d.sigil then rewriteFrom d bindings (.named []) position rest
        else (rewriteFrom d bindings .outside position rest).prepend [c]

/-- A condition with positions instead of names. -/
def rewrite (d : Dialect) (bindings : Bindings) (sql : String) : Rewritten :=
  d.rewriteFrom bindings .outside 1 sql.toList

end Dialect
end DocFilter
