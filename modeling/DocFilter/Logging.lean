import DocFilter.Text.Blank
import DocFilter.Text.Case

/-!
# What is logged

Three variables decide: one turns debugging on, one names a level, one names a
format.  Blanks and case do not count.  A level that is none of the known ones is
the level there would be without it.
-/

namespace DocFilter

/-- How much is logged. -/
inductive LogLevel where
  | trace
  | debug
  | info
  | warn
  | error
  deriving DecidableEq, Repr

/-- How events are written. -/
inductive LogFormat where
  | json
  | pretty
  | compact
  deriving DecidableEq, Repr

/-- What is logged, and how. -/
structure LogSettings where
  enabled : Bool
  level : LogLevel
  format : LogFormat
  deriving DecidableEq, Repr

namespace LogLevel

/-- All levels. -/
def all : List LogLevel := [.trace, .debug, .info, .warn, .error]

/-- The name of a level. -/
def name : LogLevel → String
  | .trace => "trace"
  | .debug => "debug"
  | .info => "info"
  | .warn => "warn"
  | .error => "error"

/-- The level with this name. -/
def ofName? (word : String) : Option LogLevel := all.find? fun l => l.name == word

end LogLevel

namespace LogFormat

/-- All formats. -/
def all : List LogFormat := [.json, .pretty, .compact]

/-- The name of a format. -/
def name : LogFormat → String
  | .json => "json"
  | .pretty => "pretty"
  | .compact => "compact"

/-- The format with this name. -/
def ofName? (word : String) : Option LogFormat := all.find? fun f => f.name == word

end LogFormat

namespace LogSettings

/-- A text without blanks around it, in lower case. -/
def plain (s : String) : String := Text.lower (Text.trim s)

/-- Whether a text says yes. -/
def isYes (s : String) : Bool := ["true", "1", "yes"].contains (plain s)

/-- The settings that the three variables make. -/
def resolve (debug level format : Option String) : LogSettings :=
  let debugging := debug.any isYes
  let standard := if debugging then LogLevel.debug else .warn
  { enabled := debugging || level.isSome
    level := ((level.map plain).bind LogLevel.ofName?).getD standard
    format := ((format.map plain).bind LogFormat.ofName?).getD .json }

end LogSettings
end DocFilter
