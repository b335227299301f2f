import ApiAtlas.Model.Operation
import ApiAtlas.Payload.WellFormed
import ApiAtlas.Schema.Error

/-! # Payload validators

A validator checks payloads against the JSON Schema of a model. In strict mode undeclared keys are
forbidden where the schema does not mention them, and formats count.
-/

namespace ApiAtlas

/-- Checks payloads of a model. -/
structure Payload.Validator where
  model : String
  schema : Json
  strict : Bool
deriving Inhabited

namespace Payload.Validator

def problems (validator : Validator) (value : Json) : List Problem :=
  check validator.schema validator.strict value

/-- Whether a payload has no problem. -/
def accepts (validator : Validator) (value : Json) : Bool := (validator.problems value).isEmpty

/-- The messages about a payload, in the order in which the keywords of the schema find them. -/
def violations (validator : Validator) (value : Json) : List String :=
  (validator.problems value).map Problem.message

end Payload.Validator

/-- The validator of a model; its schema has to be well formed. -/
def Model.Handle.validator (handle : Model.Handle) (strict : Bool) :
    Except Schema.Error Payload.Validator :=
  let schema := handle.jsonSchema strict
  match Payload.defect? schema with
  | some problem => .error (.malformed (.unusable handle.name problem))
  | none => .ok { model := handle.name, schema, strict }

end ApiAtlas
