import DocFilter.Toml.Scalar
import DocFilter.Toml.Source
import DocFilter.Dict

/-!
# From TOML to settings

The statements of a document are carried out one by one on a table that starts
empty.  What makes this more than writing under keys is that a table may be named
several times but defined only once, and so it matters how a table came about: by a
header of its own, by the header of a table below it, or by the dots of a key.

* A header may define what so far only stood above other headers, and nothing else.
* A dotted key may pass through tables that no header of their own defined, and may
  write only into a table that dotted keys made.
* A header that names a list of tables means the last table of the list.

An inline table is filled by the same rule for dotted keys, and is closed afterwards.
-/

namespace DocFilter
namespace Toml

/-- How a table came about. -/
inductive Origin where
  /-- By a header of its own, or as the top of a document or an inline table. -/
  | defined
  /-- By the header of a table below it. -/
  | implied
  /-- By the dots of a key. -/
  | dotted
  deriving DecidableEq, Repr

/-- What stands under a key while a document is being read. -/
inductive Node where
  | value (v : Setting)
  | table (origin : Origin) (entries : List (String × Node))
  /-- A list of tables, last one first. -/
  | tables (items : List (List (String × Node)))

/-- The entries of a table while a document is being read. -/
abbrev Entries := Dict String Node

mutual

/-- What a node is once nothing more is added. -/
def Node.toSetting : Node → Setting
  | .value v => v
  | .table _ entries => .table (entriesToSettings entries)
  | .tables items => .list (tablesToSettings items).reverse

/-- The entries of a table. -/
def entriesToSettings : List (String × Node) → List (String × Setting)
  | [] => []
  | (key, node) :: rest => (key, node.toSetting) :: entriesToSettings rest

/-- The tables of a list. -/
def tablesToSettings : List (List (String × Node)) → List Setting
  | [] => []
  | entries :: rest => .table (entriesToSettings entries) :: tablesToSettings rest

end

namespace Entries

/-- The entries with a value under a key of one or more parts, unless the key is
taken or leads through what may not be written into. -/
def set? (v : Setting) : Key → Entries → Option Entries
  | [], _ => none
  | [last], entries =>
    if Dict.contains last entries then none else some (Dict.insert last (.value v) entries)
  | part :: rest, entries =>
    match Dict.find? part entries with
    | none => (set? v rest []).map fun below => Dict.insert part (.table .dotted below) entries
    | some (.table origin below) =>
      if origin = .defined ∨ (origin = .implied ∧ rest.length = 1) then none
      else
        (set? v rest below).map fun below => Dict.insert part (.table origin below) entries
    | some (.tables (last :: older)) =>
      if rest.length = 1 then none
      else
        (set? v rest last).map fun last => Dict.insert part (.tables (last :: older)) entries
    | some (.tables []) | some (.value _) => none

/-- The entries with a change made in the table that a header names. -/
def within? (change : Entries → Option Entries) : Key → Entries → Option Entries
  | [], entries => change entries
  | part :: rest, entries =>
    match Dict.find? part entries with
    | none =>
      (within? change rest []).map fun below => Dict.insert part (.table .implied below) entries
    | some (.table origin below) =>
      (within? change rest below).map fun below =>
        Dict.insert part (.table origin below) entries
    | some (.tables (last :: older)) =>
      (within? change rest last).map fun last =>
        Dict.insert part (.tables (last :: older)) entries
    | some (.tables []) | some (.value _) => none

/-- The entries with a table defined under a name. -/
def define? (name : String) (entries : Entries) : Option Entries :=
  match Dict.find? name entries with
  | none => some (Dict.insert name (.table .defined []) entries)
  | some (.table .implied below) => some (Dict.insert name (.table .defined below) entries)
  | some _ => none

/-- The entries with one more table in the list under a name. -/
def enlist? (name : String) (entries : Entries) : Option Entries :=
  match Dict.find? name entries with
  | none => some (Dict.insert name (.tables [[]]) entries)
  | some (.tables items) => some (Dict.insert name (.tables ([] :: items)) entries)
  | some _ => none

end Entries

/-! ## Values -/

namespace Source

mutual

/-- The value written. -/
def toSetting? : Source → Option Setting
  | .text s => some (.text s)
  | .scalar cs => scalar? cs
  | .list items => (itemsToSettings? items).map .list
  | .table entries =>
    (entriesOf? entries []).map fun entries => .table (entriesToSettings entries)

/-- The items written. -/
def itemsToSettings? : List Source → Option (List Setting)
  | [] => some []
  | v :: rest => do
    let v ← v.toSetting?
    let rest ← itemsToSettings? rest
    return v :: rest

/-- The entries of an inline table, written into those that came before. -/
def entriesOf? : List (Key × Source) → Entries → Option Entries
  | [], entries => some entries
  | (key, v) :: rest, entries => do
    let v ← v.toSetting?
    let entries ← Entries.set? v key entries
    entriesOf? rest entries

end

end Source

/-! ## Documents -/

/-- A document read so far, and the key of the table that settings go into. -/
structure Document where
  entries : Entries
  current : Key

namespace Document

/-- The document with one more statement carried out. -/
def carryOut? (d : Document) : Statement → Option Document
  | .table key => do
    let name ← key.getLast?
    let entries ← Entries.within? (Entries.define? name) key.dropLast d.entries
    return ⟨entries, key⟩
  | .listedTable key => do
    let name ← key.getLast?
    let entries ← Entries.within? (Entries.enlist? name) key.dropLast d.entries
    return ⟨entries, key⟩
  | .setting key v => do
    let v ← v.toSetting?
    let entries ← Entries.within? (Entries.set? v key) d.current d.entries
    return { d with entries := entries }

end Document

/-- The settings of a document. -/
def read? (text : String) : Option Setting := do
  let statements ← Source.statements? text
  let document ← statements.foldlM Document.carryOut? ⟨[], []⟩
  return .table (entriesToSettings document.entries)

end Toml
end DocFilter
