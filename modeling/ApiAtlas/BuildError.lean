import ApiAtlas.Document.LoadError
import ApiAtlas.Naming
import ApiAtlas.Violation

/-! # Build errors

Why no router is built. Building is all or nothing: the first error ends it.
-/

namespace ApiAtlas

/-- Why no router is built. -/
inductive BuildError where
  | load (error : LoadError)
  /-- A validator rejected the document at `path`. -/
  | validation (path validator : String) (violation : Violation)
  /-- A schema of the document at `path` cannot be resolved. -/
  | schema (path location : String) (error : Schema.Error)
  /-- Two documents declare the same method of the same path. -/
  | duplicateRoute (path : String) (method : Method) (first second : String)
  /-- There is no handler for a declared route. -/
  | unboundRoute (path : String) (method : Method)
  /-- There is a handler for a route that no document declares. -/
  | unknownRoute (path : String) (method : Method)
  /-- The registrar refused a route. -/
  | registration (path : String) (method : Method) (reason : String)
deriving Repr, Inhabited

namespace BuildError

def kind : BuildError → String
  | .load _ => "LoadError"
  | .validation .. => "ValidationError"
  | .schema _ _ (.unresolved _) => "UnresolvedReferenceError"
  | .schema _ _ (.circular _) => "CircularReferenceError"
  | .schema .. => "SchemaError"
  | .duplicateRoute .. => "DuplicateRouteError"
  | .unboundRoute .. => "UnboundRouteError"
  | .unknownRoute .. => "UnknownRouteError"
  | .registration .. => "RegistrationError"

def message : BuildError → String
  | .load error => error.message
  | .validation path validator violation =>
    "spec '" ++ path ++ "' failed validator " ++ validator ++ ": " ++ violation.text
  | .schema path location error => "spec '" ++ path ++ "' at " ++ location ++ ": " ++ error.message
  | .duplicateRoute path method first second =>
    "duplicate route " ++ method ++ " " ++ path ++ ": declared in '" ++ first
      ++ "' and again in '" ++ second ++ "'"
  | .unboundRoute path method =>
    "route " ++ method ++ " " ++ path ++ " has no handler (no override, no " ++ method
      ++ " default, stubs disabled)"
  | .unknownRoute path method =>
    "handler registered for " ++ method ++ " " ++ path ++ ", but no spec declares that route"
  | .registration path method reason =>
    "failed to register route " ++ method ++ " " ++ path ++ ": " ++ reason

/-- The text of the error behind this one, if there is one. -/
def cause? : BuildError → Option String
  | .load error => some error.message
  | .validation _ _ violation => some violation.text
  | .schema _ _ error => some error.message
  | .registration _ _ reason => some reason
  | .duplicateRoute .. => none
  | .unboundRoute .. => none
  | .unknownRoute .. => none

/-- The error of a document that a validator rejected. A violation that reports a schema error
becomes that error. -/
def ofViolation (path validator : String) (violation : Violation) : BuildError :=
  match violation.cause with
  | some error => .schema path (violation.location.getD "") error
  | none => .validation path validator violation

end BuildError

end ApiAtlas
