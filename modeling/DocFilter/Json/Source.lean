import DocFilter.Json.Lexer

/-!
# JSON as it is written

`Source` is a value as it stands in a text: numbers by their characters, strings
by their parts, objects with every entry they were given.  Reading a text and
taking a value from it are two steps, because a request may carry entries nobody
asks for, and those only have to be written correctly: they may hold a number no
float can hold, or be nested deeper than a value may be.

## Reading without recursion

The lexemes drive a small machine whose stack holds the containers still open.
Each lexeme moves the machine once, so nothing bounds the depth of a text and
nothing needs to.
-/

namespace DocFilter
namespace Json

/-- A value as it is written. -/
inductive Source where
  | null
  | bool (b : Bool)
  | number (text : List Char)
  | string (parts : List StringPart)
  | array (items : List Source)
  | object (entries : List (List StringPart × Source))
  deriving Repr, Inhabited

namespace Source

/-- A container still open around a value, with what it holds so far, newest
first. -/
inductive Frame where
  | array (items : List Source)
  | entry (entries : List (List StringPart × Source)) (key : List StringPart)

/-- What may come next. -/
inductive Reading where
  /-- A value. -/
  | value (stack : List Frame)
  /-- A value or the end of the array just opened. -/
  | firstItem (stack : List Frame)
  /-- A key or the end of the object just opened. -/
  | firstKey (stack : List Frame)
  /-- A key. -/
  | key (entries : List (List StringPart × Source)) (stack : List Frame)
  /-- The colon after a key. -/
  | colon (entries : List (List StringPart × Source)) (key : List StringPart)
      (stack : List Frame)
  /-- A comma or the end of the array. -/
  | moreItems (items : List Source) (stack : List Frame)
  /-- A comma or the end of the object. -/
  | moreEntries (entries : List (List StringPart × Source)) (stack : List Frame)
  /-- Nothing. -/
  | done (v : Source)

/-- A value is finished: it goes into the innermost container. -/
def complete (v : Source) : List Frame → Reading
  | [] => .done v
  | .array items :: stack => .moreItems (v :: items) stack
  | .entry entries k :: stack => .moreEntries ((k, v) :: entries) stack

/-- A value begins with this lexeme. -/
def beginValue? (stack : List Frame) : Lexeme → Option Reading
  | .null => some (complete .null stack)
  | .bool b => some (complete (.bool b) stack)
  | .number text => some (complete (.number text) stack)
  | .string parts => some (complete (.string parts) stack)
  | .mark c =>
    if c = '[' then some (.firstItem stack)
    else if c = '\x7b' then some (.firstKey stack)
    else none

/-- One lexeme. -/
def advance? : Reading → Lexeme → Option Reading
  | .value stack, l => beginValue? stack l
  | .firstItem stack, l =>
    if l = .mark ']' then some (complete (.array []) stack)
    else beginValue? (.array [] :: stack) l
  | .firstKey stack, l =>
    match l with
    | .string k => some (.colon [] k stack)
    | .mark c => if c = '\x7d' then some (complete (.object []) stack) else none
    | _ => none
  | .key entries stack, l =>
    match l with
    | .string k => some (.colon entries k stack)
    | _ => none
  | .colon entries k stack, l =>
    if l = .mark ':' then some (.value (.entry entries k :: stack)) else none
  | .moreItems items stack, l =>
    if l = .mark ',' then some (.value (.array items :: stack))
    else if l = .mark ']' then some (complete (.array items.reverse) stack)
    else none
  | .moreEntries entries stack, l =>
    if l = .mark ',' then some (.key entries stack)
    else if l = .mark '\x7d' then some (complete (.object entries.reverse) stack)
    else none
  | .done _, _ => none

/-- The value written in a text, if the text is one value of JSON. -/
def read? (s : String) : Option Source := do
  match ← (← lexemes? s.toList).foldlM advance? (.value []) with
  | .done v => some v
  | _ => none

end Source
end Json
end DocFilter
