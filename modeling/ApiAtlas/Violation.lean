import ApiAtlas.Schema.Error

/-! # Violations

A document violates a rule. The kind is a stable name that callers can match on; rules may be added,
so it is an open set of names.
-/

namespace ApiAtlas

/-- What is wrong with a document, and where. -/
structure Violation where
  kind : String
  message : String
  location : Option String := none
  /-- The schema error that the violation reports, if it does. -/
  cause : Option Schema.Error := none
deriving Repr, Inhabited

namespace Violation

def at' (violation : Violation) (location : String) : Violation :=
  { violation with location := some location }

def ofSchema (location : String) (error : Schema.Error) : Violation :=
  { kind := error.kind, message := error.message, location := some location, cause := some error }

/-- The line that reports a violation. -/
def text (violation : Violation) : String :=
  match violation.location with
  | some location => "[" ++ violation.kind ++ "] " ++ location ++ ": " ++ violation.message
  | none => "[" ++ violation.kind ++ "] " ++ violation.message

end Violation

end ApiAtlas
