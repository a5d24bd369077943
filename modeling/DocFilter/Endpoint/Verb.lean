import DocFilter.Config.Error

/-!
# Verbs of HTTP

An endpoint answers one verb.  A verb is written in any case where it is given with
a request; in a configuration it is written in one case throughout.
-/

namespace DocFilter

/-- The verbs an endpoint can answer. -/
inductive Verb where
  | get
  | post
  | put
  | patch
  | delete
  deriving DecidableEq, Repr

namespace Verb

/-- All verbs. -/
def all : List Verb := [.get, .post, .put, .patch, .delete]

/-- The verb in upper case. -/
def name : Verb → String
  | .get => "GET"
  | .post => "POST"
  | .put => "PUT"
  | .patch => "PATCH"
  | .delete => "DELETE"

/-- The verb in lower case. -/
def lowerName : Verb → String
  | .get => "get"
  | .post => "post"
  | .put => "put"
  | .patch => "patch"
  | .delete => "delete"

/-- The verb written in a text, once blanks and case are set aside. -/
def read (written : String) : Except ConfigError Verb :=
  let wanted := Text.upper (Text.trim written)
  match all.find? fun v => v.name == wanted with
  | some v => .ok v
  | none => .error (.setting "verb" (.unknownVerb wanted))

/-- The verb a configuration names, in upper or in lower case. -/
def ofKeyword? (word : String) : Option Verb :=
  all.find? fun v => v.name == word || v.lowerName == word

end Verb
end DocFilter
