import ApiAtlas.Document.Operation
import ApiAtlas.Violation

/-! # Validators

A validator looks at one document and either accepts it or names its first violation.
-/

namespace ApiAtlas

structure Validator where
  name : String
  validate : Document → Except Violation Unit

def violated {α : Type} (kind message : String) (location : Option String := none) :
    Except Violation α :=
  .error { kind, message, location }

end ApiAtlas
