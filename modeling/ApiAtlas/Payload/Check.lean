import ApiAtlas.Json.Pointer
import ApiAtlas.Payload.Constraint
import ApiAtlas.Payload.Format

/-! # Checking payloads

Checks a value against a JSON Schema. All problems of all keywords are listed; a union reports only
that no variant or several variants fit. References lead to the definitions of the root schema.
-/

namespace ApiAtlas

namespace Payload

open Schema (UnionMode)

/-- What checking needs beside the schema at hand: whether formats count, and what the schema that a
reference names finds wrong with a value. -/
structure Surroundings where
  strict : Bool
  follow : String → Json → List Problem

/-- What `required` finds. -/
def missingNames (argument value : Json) : List Problem :=
  match argument, value with
  | .array names, .object fields =>
    (names.filterMap Json.text?).filterMap fun name =>
      if Table.has name fields then none else some (.missing name)
  | _, _ => []

/-- The fields of a value that the properties beside do not declare. -/
def undeclared (siblings : Table Json) (value : Json) : List (String × Json) :=
  match value with
  | .object fields =>
    let declared := ((Table.get? "properties" siblings).bind Json.fields?).getD []
    fields.filter fun field => !Table.has field.1 declared
  | _ => []

/-- What a union finds, given what each variant finds. -/
def unionProblems (mode : UnionMode) (value : Json) (findings : List (List Problem)) :
    List Problem :=
  match (findings.filter List.isEmpty).length, mode with
  | 0, mode => [.noVariant value mode]
  | 1, _ => []
  | _, .anyOf => []
  | _, .oneOf => [.severalVariants value]

def typeProblems (argument value : Json) : List Problem :=
  match argument with
  | .string type => if hasType type value then [] else [.wrongType value type]
  | _ => []

def formatProblems (strict : Bool) (argument value : Json) : List Problem :=
  match argument, value with
  | .string format, .string text =>
    if strict && !Format.admits format text then [.wrongFormat value format] else []
  | _, _ => []

mutual
/-- What a schema finds wrong with a value. -/
def problems (env : Surroundings) : (schema : Json) → (value : Json) → List Problem
  | .object fields, value => keywordProblems env fields fields value
  | .bool false, value => [.excluded value]
  | _, _ => []

/-- What the keywords of a schema find, `siblings` being all of them. -/
def keywordProblems (env : Surroundings) (siblings : Table Json) :
    List (String × Json) → (value : Json) → List Problem
  | [], _ => []
  | (keyword, argument) :: rest, value =>
    (if keyword = "type" then typeProblems argument value
      else if keyword = "properties" then
        match argument with
        | .object properties => propertyProblems env properties value
        | _ => []
      else if keyword = "required" then missingNames argument value
      else if keyword = "additionalProperties" then
        match argument with
        | .bool false =>
          let names := (undeclared siblings value).map (·.1)
          if names.isEmpty then [] else [.unexpected names]
        | argument =>
          (undeclared siblings value).flatMap fun field => problems env argument field.2
      else if keyword = "items" then
        match value with
        | .array items => items.flatMap fun item => problems env argument item
        | _ => []
      else if keyword = "anyOf" then
        match argument with
        | .array variants => unionProblems .anyOf value (variantProblems env variants value)
        | _ => []
      else if keyword = "oneOf" then
        match argument with
        | .array variants => unionProblems .oneOf value (variantProblems env variants value)
        | _ => []
      else if keyword = "$ref" then
        match argument with
        | .string reference => env.follow reference value
        | _ => []
      else if keyword = "enum" then
        match argument with
        | .array choices => (choiceProblem choices value).toList
        | _ => []
      else if keyword = "format" then formatProblems env.strict argument value
      else (constraintProblem keyword argument value).toList)
      ++ keywordProblems env siblings rest value

/-- What the schemas of properties find in the fields of those names. -/
def propertyProblems (env : Surroundings) :
    List (String × Json) → (value : Json) → List Problem
  | [], _ => []
  | (name, schema) :: rest, value =>
    (match value.get? name with
      | some field => problems env schema field
      | none => [])
      ++ propertyProblems env rest value

/-- What each variant finds. -/
def variantProblems (env : Surroundings) : List Json → (value : Json) → List (List Problem)
  | [], _ => []
  | variant :: rest, value => problems env variant value :: variantProblems env rest value
end

def definitionName? (reference : String) : Option String :=
  (Text.afterStart? "#/$defs/" reference).map Pointer.unescape

def definition? (definitions : Table Json) (reference : String) : Option Json :=
  (definitionName? reference).bind (Table.get? · definitions)

/-- What a named definition finds, following at most so many references in a row. -/
def followWithin (definitions : Table Json) (strict : Bool) :
    (hops : Nat) → (reference : String) → (value : Json) → List Problem
  | 0, _, _ => []
  | hops + 1, reference, value =>
    match definition? definitions reference with
    | some schema =>
      problems { strict, follow := followWithin definitions strict hops } schema value
    | none => []

def definitionsOf (schema : Json) : Table Json := ((schema.get? "$defs").bind Json.fields?).getD []

/-- What a root schema finds wrong with a value. Definitions refer to one another without cycles, so
a chain of references is no longer than their number. -/
def check (schema : Json) (strict : Bool) (value : Json) : List Problem :=
  let definitions := definitionsOf schema
  problems { strict, follow := followWithin definitions strict definitions.length } schema value

end Payload

end ApiAtlas
