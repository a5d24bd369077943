import DocFilter.Filter.Operator

/-!
# Faults of a configuration

A configuration is refused for one reason, and the reason is kept as what it is:
which reference, which setting, which endpoint.  The wording is made from it, and so
is the advice that goes with some reasons.  No reason lies with a client.
-/

namespace DocFilter

/-- Faults of a reference to an environment variable. -/
inductive ReferenceFault where
  | unclosed
  | emptyName
  | unsupportedModifier (modifier : Char)
  /-- A variable that has to be set is not, and this is what to say about it. -/
  | required (message : String)

/-- Faults of the value of a setting. -/
inductive SettingFault where
  | unknownVerb (written : String)
  | emptyPath
  | emptyTable
  | connectiveInRule (op : Connective)
  | unknownOperator (symbol : String)
  | belowOne
  | aboveGreatestLimit (limit greatest : Nat)
  | empty

/-- Why a configuration is refused. -/
inductive ConfigError where
  | unreadableFile (path : String)
  | notToml
  | unsetVariable (name : String)
  | reference (name : String) (fault : ReferenceFault)
  | setting (key : String) (fault : SettingFault)
  | duplicateEndpoint (verb path : String)
  | unknownDialect (name : String)

/-- The wording of a fault of a reference. -/
def ReferenceFault.message : ReferenceFault → String
  | .unclosed => "missing closing `\x7d`"
  | .emptyName => "empty variable name"
  | .unsupportedModifier modifier => "unsupported modifier `:" ++ modifier.toString ++ "`"
  | .required message => message

/-- The wording of a fault of a setting. -/
def SettingFault.message : SettingFault → String
  | .unknownVerb written => "unknown HTTP verb `" ++ written ++ "`"
  | .emptyPath => "path must not be empty"
  | .emptyTable => "table must not be empty"
  | .connectiveInRule op =>
    "logical operator `" ++ op.symbol ++ "` cannot be restricted per field"
  | .unknownOperator symbol => "unknown operator `" ++ symbol ++ "`"
  | .belowOne => "must be at least 1"
  | .aboveGreatestLimit limit greatest =>
    limit.repr ++ " exceeds max_limit " ++ greatest.repr
  | .empty => "must not be empty"

namespace ConfigError

/-- The wording of a refusal. -/
def message : ConfigError → String
  | .unreadableFile path => "failed to read config file: " ++ path
  | .notToml => "failed to parse config"
  | .unsetVariable name => "environment variable `" ++ name ++ "` is not set"
  | .reference name fault =>
    "invalid environment reference `" ++ name ++ "`: " ++ fault.message
  | .setting key fault => "invalid value for `" ++ key ++ "`: " ++ fault.message
  | .duplicateEndpoint verb path => "duplicate endpoint `" ++ verb ++ " " ++ path ++ "`"
  | .unknownDialect name => "unknown database dialect `" ++ name ++ "`"

/-- What a refusal is called in a code. -/
def label : ConfigError → String
  | .unreadableFile _ => "io_error"
  | .notToml => "toml_error"
  | .unsetVariable _ => "missing_env"
  | .reference _ _ => "invalid_env"
  | .setting _ _ => "invalid_value"
  | .duplicateEndpoint _ _ => "duplicate_endpoint"
  | .unknownDialect _ => "unknown_dialect"

/-- The code shown with a refusal. -/
def code (e : ConfigError) : String := "docgate::config::" ++ e.label

/-- Advice that goes with a refusal. -/
def help? : ConfigError → Option String
  | .unsetVariable _ => some "set the variable or give the reference a `:-` default"
  | .unknownDialect _ => some "use one of: postgres, mysql, sqlite, mssql"
  | _ => none

end ConfigError
end DocFilter
