import DocFilter.Endpoint.Basic
import DocFilter.Error

/-!
# The registry of endpoints

Endpoints are found by verb and path.  Paths are brought into one form on the way
in and on the way out, so a slash at the end makes no difference.  The first
endpoint under a verb and a path stays; another one is refused.

A registry is changed in place.  A call that is refused leaves behind whatever it has
changed by then.
-/

namespace DocFilter

/-- Endpoints under their verb and path, in the order they were registered. -/
structure Registry where
  endpoints : Dict (Verb × String) Endpoint

namespace Registry

/-- The registry without endpoints. -/
def empty : Registry := ⟨[]⟩

/-- Adds an endpoint to the registry at hand. -/
def register (endpoint : Endpoint) : ExceptT ConfigError (StateM Registry) Unit := do
  endpoint.validate
  let path := Endpoint.normalizePath endpoint.path
  let key := (endpoint.verb, path)
  if Dict.contains key (← getThe Registry).endpoints then
    throw (.duplicateEndpoint endpoint.verb.name path)
  modifyThe Registry fun r => ⟨Dict.insert key { endpoint with path := path } r.endpoints⟩

/-- A call of `register`: what it answers, and the registry it leaves. -/
def call (r : Registry) (endpoint : Endpoint) : Except ConfigError Unit × Registry :=
  (register endpoint).run.run r

/-- The registry of a list of endpoints; the first that is refused ends it. -/
def ofEndpoints (endpoints : List Endpoint) : Except ConfigError Registry :=
  match (endpoints.forM register).run.run empty with
  | (.ok _, r) => .ok r
  | (.error e, _) => .error e

/-- The endpoint for a verb and a path. -/
def get (r : Registry) (verb : Verb) (path : String) : Except QueryError Endpoint :=
  let path := Endpoint.normalizePath path
  match Dict.find? (verb, path) r.endpoints with
  | some endpoint => .ok endpoint
  | none => .error (.ofCause (.unknownEndpoint verb.name path))

/-- How many endpoints there are. -/
def size (r : Registry) : Nat := r.endpoints.length

/-- The endpoints, in the order they were registered. -/
def toList (r : Registry) : List Endpoint := Dict.values r.endpoints

end Registry
end DocFilter
