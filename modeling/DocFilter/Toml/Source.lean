import DocFilter.Toml.Lexer

/-!
# TOML as it is written

A document is a list of statements: the header of a table, the header of one more
table in a list of tables, or a key with a value.  What the statements add up to, and
whether they agree with each other, is a question of its own.

The lexemes drive a small machine whose stack holds the lists and inline tables still
open, so each lexeme is looked at once and nothing recurs.  How many of them may
enclose each other is limited, and so is the number of parts in a key, because each
part but the last stands for a table around the value.
-/

namespace DocFilter
namespace Toml

/-- A key: the parts between its dots. -/
abbrev Key := List String

/-- A value as it is written. -/
inductive Source where
  | text (s : String)
  | scalar (cs : List Char)
  | list (items : List Source)
  | table (entries : List (Key × Source))
  deriving Repr, Inhabited

/-- What a document is made of. -/
inductive Statement where
  /-- `[key]`: what follows belongs to this table. -/
  | table (key : Key)
  /-- `[[key]]`: what follows belongs to a new table at the end of this list. -/
  | listedTable (key : Key)
  /-- `key = value`. -/
  | setting (key : Key) (v : Source)
  deriving Repr

namespace Source

/-- How many lists and inline tables may enclose each other, and how many parts a key
may have. -/
def nestingLimit : Nat := 79

/-- A list or an inline table still open around a value, with what it holds so far,
newest first. -/
inductive Frame where
  | list (items : List Source)
  | entry (entries : List (Key × Source)) (key : Key)

/-- Where a value goes: the key of its line, and what is open around it. -/
structure Nest where
  key : Key
  stack : List Frame

/-- What a key is read for. -/
inductive Place where
  | line
  | header (listed : Bool)
  | inline (entries : List (Key × Source)) (nest : Nest)

/-- What may come next. -/
inductive Reading where
  /-- A statement, or nothing. -/
  | line
  /-- Nothing more on this line. -/
  | endOfLine
  /-- What follows the bracket of a header. -/
  | header
  /-- The second bracket that ends a header. -/
  | headerEnd (key : Key)
  /-- A part of a key; parts are newest first. -/
  | part (place : Place) (parts : List String)
  /-- What follows a part of a key. -/
  | afterPart (place : Place) (parts : List String)
  /-- A key, or the end of the inline table just opened. -/
  | firstKey (nest : Nest)
  /-- A value. -/
  | value (nest : Nest)
  /-- A value, or the end of the list it would belong to. -/
  | item (items : List Source) (nest : Nest)
  /-- More characters of a value without quotes, newest first. -/
  | scalar (seen : List Char) (nest : Nest)
  /-- What follows a value without quotes and one space. -/
  | spaced (seen : List Char) (nest : Nest)
  /-- A comma, or the end of the list. -/
  | moreItems (items : List Source) (nest : Nest)
  /-- A comma, or the end of the inline table. -/
  | moreEntries (entries : List (Key × Source)) (nest : Nest)

/-- The statements a lexeme finishes, and what may come after it. -/
abbrev Step := Option (List Statement × Reading)

/-- Nothing is finished. -/
def goOn (next : Reading) : Step := some ([], next)

namespace Nest

/-- A value is finished: it goes into what is innermost. -/
def complete (nest : Nest) (v : Source) : List Statement × Reading :=
  match nest.stack with
  | [] => ([.setting nest.key v], .endOfLine)
  | .list items :: stack => ([], .moreItems (v :: items) { nest with stack := stack })
  | .entry entries key :: stack =>
    ([], .moreEntries ((key, v) :: entries) { nest with stack := stack })

end Nest

/-- The characters a lexeme adds to a value without quotes. -/
def scalarPart? : Lexeme → Option (List Char)
  | .word cs => some cs
  | .mark c => if c = '.' ∨ c = '+' ∨ c = ':' then some [c] else none
  | _ => none

/-- A part of a key. -/
def partOf? : Lexeme → Option String
  | .word cs => some (String.ofList cs)
  | .string false cs => some (String.ofList cs)
  | _ => none

/-- A part of a key has to come. -/
def readPart? (place : Place) (parts : List String) (l : Lexeme) : Step :=
  if parts.length < nestingLimit then
    (partOf? l).bind fun part => goOn (.afterPart place (part :: parts))
  else none

/-- The end of a key. -/
def endKey? (place : Place) (key : Key) (l : Lexeme) : Step :=
  match place with
  | .line => if l = .mark '=' then goOn (.value ⟨key, []⟩) else none
  | .header false => if l = .mark ']' then some ([.table key], .endOfLine) else none
  | .header true => if l = .mark ']' then goOn (.headerEnd key) else none
  | .inline entries nest =>
    if l = .mark '=' then
      goOn (.value { nest with stack := .entry entries key :: nest.stack })
    else none

/-- A value has to come. -/
def readValue? (nest : Nest) (l : Lexeme) : Step :=
  match l with
  | .string _ cs => some (nest.complete (.text (String.ofList cs)))
  | .mark '[' =>
    if nest.stack.length < nestingLimit then goOn (.item [] nest) else none
  | .mark '\x7b' =>
    if nest.stack.length < nestingLimit then goOn (.firstKey nest) else none
  | l => (scalarPart? l).bind fun cs => goOn (.scalar cs.reverse nest)

/-- What may follow a value in a list. -/
def readMoreItems? (items : List Source) (nest : Nest) : Lexeme → Step
  | .mark ',' => goOn (.item items nest)
  | .mark ']' => some (nest.complete (.list items.reverse))
  | .blank _ | .lineEnd => goOn (.moreItems items nest)
  | _ => none

/-- What may follow a value in an inline table. -/
def readMoreEntries? (entries : List (Key × Source)) (nest : Nest) : Lexeme → Step
  | .mark ',' => goOn (.part (.inline entries nest) [])
  | .mark '\x7d' => some (nest.complete (.table entries.reverse))
  | .blank _ => goOn (.moreEntries entries nest)
  | _ => none

/-- What may follow a statement. -/
def readEndOfLine? : Lexeme → Step
  | .lineEnd => goOn .line
  | .blank _ => goOn .endOfLine
  | _ => none

/-- A value without quotes is finished, and the lexeme after it comes next. -/
def endScalar? (seen : List Char) (nest : Nest) (l : Lexeme) : Step := do
  let (finished, next) := nest.complete (.scalar seen.reverse)
  let (more, next) ← match next with
    | .moreItems items nest => readMoreItems? items nest l
    | .moreEntries entries nest => readMoreEntries? entries nest l
    | _ => readEndOfLine? l
  return (finished ++ more, next)

/-- One lexeme. -/
def advance? : Reading → Lexeme → Step
  | .line, l =>
    match l with
    | .lineEnd | .blank _ => goOn .line
    | .mark '[' => goOn .header
    | l => readPart? .line [] l
  | .endOfLine, l => readEndOfLine? l
  | .header, l =>
    match l with
    | .mark '[' => goOn (.part (.header true) [])
    | .blank _ => goOn (.part (.header false) [])
    | l => readPart? (.header false) [] l
  | .headerEnd key, l =>
    if l = .mark ']' then some ([.listedTable key], .endOfLine) else none
  | .part place parts, l =>
    match l with
    | .blank _ => goOn (.part place parts)
    | l => readPart? place parts l
  | .afterPart place parts, l =>
    match l with
    | .blank _ => goOn (.afterPart place parts)
    | .mark '.' => goOn (.part place parts)
    | l => endKey? place parts.reverse l
  | .firstKey nest, l =>
    match l with
    | .blank _ => goOn (.firstKey nest)
    | .mark '\x7d' => some (nest.complete (.table []))
    | l => readPart? (.inline [] nest) [] l
  | .value nest, l =>
    match l with
    | .blank _ => goOn (.value nest)
    | l => readValue? nest l
  | .item items nest, l =>
    match l with
    | .blank _ | .lineEnd => goOn (.item items nest)
    | .mark ']' => some (nest.complete (.list items.reverse))
    | l => readValue? { nest with stack := .list items :: nest.stack } l
  | .scalar seen nest, l =>
    match scalarPart? l with
    | some cs => goOn (.scalar (cs.reverse ++ seen) nest)
    | none => if l = .blank ' ' then goOn (.spaced seen nest) else endScalar? seen nest l
  | .spaced seen nest, l =>
    match scalarPart? l with
    | some cs => goOn (.scalar (cs.reverse ++ ' ' :: seen) nest)
    | none => endScalar? seen nest l
  | .moreItems items nest, l => readMoreItems? items nest l
  | .moreEntries entries nest, l => readMoreEntries? entries nest l

/-- What the end of a document finishes. -/
def finish? : Reading → Option (List Statement)
  | .line | .endOfLine => some []
  | .scalar seen nest | .spaced seen nest =>
    match nest.stack with
    | [] => some [.setting nest.key (.scalar seen.reverse)]
    | _ :: _ => none
  | _ => none

/-- The statements of the rest of a document. -/
def statementsFrom? (reading : Reading) : List Lexeme → Option (List Statement)
  | [] => finish? reading
  | l :: rest => do
    let (found, next) ← advance? reading l
    let more ← statementsFrom? next rest
    return found ++ more

/-- The statements of a document. -/
def statements? (text : String) : Option (List Statement) := do
  statementsFrom? .line (← lexemes? text.toList)

end Source
end Toml
end DocFilter
