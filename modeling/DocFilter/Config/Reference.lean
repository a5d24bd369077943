import DocFilter.Config.Error
import DocFilter.Dict

/-!
# References to the environment

The text of a configuration may refer to environment variables.  `${NAME}` stands
for the value of a variable, and a modifier after the name says what to do where the
variable is unset or empty: `:-` gives a default, `:?` the words to fail with.  `$$`
is a dollar sign, and a dollar sign before anything else is one too.

## Reading and filling in

A text is first read into parts, which takes no environment, and then the parts are
filled in, in order.  What is filled in is never read again.  A reference ends at
its first closing brace, except that the character right after the colon is the
modifier whatever it is.
-/

namespace DocFilter

/-- The variables that are set, with their values. -/
abbrev Environment := String → Option String

/-- The environment with exactly these variables. -/
def Environment.ofEntries (entries : Dict String String) : Environment :=
  fun name => Dict.find? name entries

/-- A reference to a variable. -/
structure Reference where
  name : String
  modifier : Option Char
  argument : String
  deriving DecidableEq, Repr

namespace Reference

/-- A piece of a text with references. -/
inductive Part where
  /-- A character that stands for itself. -/
  | char (c : Char)
  /-- A reference. -/
  | reference (r : Reference)
  /-- A reference without an end, and its name. -/
  | unclosed (name : String)
  deriving DecidableEq, Repr

/-- What the reading is in the middle of.  Collected characters are newest first. -/
inductive Scan where
  | between
  | dollar
  | name (seen : List Char)
  | modifier (name : List Char)
  | argument (name : List Char) (modifier : Char) (seen : List Char)

/-- A reference from characters collected newest first. -/
def ofSeen (name : List Char) (modifier : Option Char) (argument : List Char) : Reference :=
  ⟨String.ofList name.reverse, modifier, String.ofList argument.reverse⟩

/-- One character: the parts it finishes, and what the reading is in the middle of
after it. -/
def advance (scan : Scan) (c : Char) : List Part × Scan :=
  match scan with
  | .between => if c = '$' then ([], .dollar) else ([.char c], .between)
  | .dollar =>
    if c = '$' then ([.char '$'], .between)
    else if c = '\x7b' then ([], .name [])
    else ([.char '$', .char c], .between)
  | .name seen =>
    if c = '\x7d' then ([.reference (ofSeen seen none [])], .between)
    else if c = ':' then ([], .modifier seen)
    else ([], .name (c :: seen))
  | .modifier name => ([], .argument name c [])
  | .argument name modifier seen =>
    if c = '\x7d' then ([.reference (ofSeen name (some modifier) seen)], .between)
    else ([], .argument name modifier (c :: seen))

/-- What the end of the text finishes. -/
def finish : Scan → List Part
  | .between => []
  | .dollar => [.char '$']
  | .name seen => [.unclosed (String.ofList seen.reverse)]
  | .modifier name => [.unclosed (String.ofList name.reverse)]
  | .argument name _ _ => [.unclosed (String.ofList name.reverse)]

/-- The parts of the rest of a text. -/
def partsFrom (scan : Scan) : List Char → List Part
  | [] => finish scan
  | c :: rest => (advance scan c).1 ++ partsFrom (advance scan c).2 rest

/-- The parts of a text. -/
def parts (cs : List Char) : List Part := partsFrom .between cs

/-- What stands in for a variable that is unset or empty. -/
def fallback (r : Reference) : Except ConfigError String :=
  match r.modifier with
  | some '-' => .ok r.argument
  | some '?' =>
    .error (.reference r.name (.required
      (if r.argument.isEmpty then "required variable `" ++ r.name ++ "` is not set"
       else r.argument)))
  | some c => .error (.reference r.name (.unsupportedModifier c))
  | none => .error (.unsetVariable r.name)

/-- What a reference stands for. -/
def value (env : Environment) (r : Reference) : Except ConfigError String :=
  if r.name.isEmpty then .error (.reference r.name .emptyName)
  else match env r.name with
    | some v => if v.isEmpty then r.fallback else .ok v
    | none => r.fallback

/-- What a part stands for. -/
def Part.fill (env : Environment) : Part → Except ConfigError (List Char)
  | .char c => .ok [c]
  | .reference r => (r.value env).map String.toList
  | .unclosed name => .error (.reference name .unclosed)

/-- The text with its references filled in; the first that cannot be ends it. -/
def expand (env : Environment) (text : String) : Except ConfigError String := do
  let filled ← (parts text.toList).mapM (Part.fill env)
  return String.ofList filled.flatten

end Reference
end DocFilter
