import ApiAtlas.Model.Definition

/-! # Models as JSON Schema

The JSON Schema (draft 2020-12) of a model, with the models that it reaches under `$defs`. In strict
mode a record that says nothing about undeclared keys forbids them.
-/

namespace ApiAtlas

namespace Model

open Schema (Additional Facets)

/-- The JSON Schema dialect that models are written in. -/
def dialect : String := "https://json-schema.org/draft/2020-12/schema"

/-- How a reference to another model starts. -/
def definitionPrefix : String := "#/$defs/"

namespace TypeExpr

mutual
/-- The schema of a type, as object fields. -/
def schemaFields : TypeExpr → Table Json
  | .primitive type => [("type", .string type.name)]
  | .array items => [("type", .string "array"), ("items", .object items.schemaFields)]
  | .map .any => [("type", .string "object")]
  | .map values => [("type", .string "object"), ("additionalProperties", .object values.schemaFields)]
  | .model name => [("$ref", .string (definitionPrefix ++ name))]
  | .union mode variants => [(mode.keyword, .array (schemaList variants))]
  | .any => []

def schemaList : List TypeExpr → List Json
  | [] => []
  | type :: rest => .object type.schemaFields :: schemaList rest
end

end TypeExpr

def putSome (key : String) (value : Option Json) (fields : Table Json) : Table Json :=
  match value with
  | some value => Table.put key value fields
  | none => fields

/-- The admitted values, with null among them when the schema is nullable. -/
def choicesWith (nullable : Bool) (choices : List Json) : List Json :=
  if nullable && !choices.any Json.isNull then choices ++ [.null] else choices

/-- A schema with its facets written beside the structural keywords. -/
def decorated (fields : Table Json) (facets : Facets) : Table Json :=
  let fields := putSome "description" (facets.description.map .string) fields
  let fields := putSome "format" (facets.format.map .string) fields
  let fields :=
    if facets.choices.isEmpty then fields
    else Table.put "enum" (.array (choicesWith facets.nullable facets.choices)) fields
  let fields := putSome "default" facets.fallback fields
  let fields := putSome "examples" (facets.sample.map fun value => .array [value]) fields
  facets.constraints.foldl (fun acc c => Table.put c.1 c.2 acc) fields

/-- A schema with its facets; a nullable one is a choice between itself and null. -/
def withFacets (fields : Table Json) (facets : Facets) : Table Json :=
  let fields := decorated fields facets
  if facets.nullable then
    [("anyOf", .array [.object fields, .object [("type", .string "null")]])]
  else fields

def Field.schema (field : Field) : Json := .object (withFacets field.type.schemaFields field.facets)

/-- The keyword for undeclared keys. -/
def extraFields (strict : Bool) : Additional TypeExpr → Table Json
  | .forbidden => [("additionalProperties", .bool false)]
  | .typed type => [("additionalProperties", .object type.schemaFields)]
  | .unspecified => if strict then [("additionalProperties", .bool false)] else []

def requiredNames (fields : List Field) : List String :=
  (fields.filter (·.required)).map (·.name)

def Body.schemaFields (strict : Bool) : Body → Table Json
  | .record fields extra =>
    let properties := Table.ofEntries (fields.map fun field => (field.name, field.schema))
    let required := requiredNames fields
    [("type", .string "object"), ("properties", .object properties)]
      ++ (if required.isEmpty then [] else [("required", Json.strings required)])
      ++ extraFields strict extra
  | .union mode variants => (TypeExpr.union mode variants).schemaFields
  | .alias type => type.schemaFields

/-- The schema of a model, with references to others. -/
def Definition.schemaFields (strict : Bool) (model : Definition) : Table Json :=
  Table.put "title" (.string model.name) (withFacets (model.body.schemaFields strict) model.facets)

/-- The models reached from the pending ones, added to those already seen. Each step either drops a
pending name or sees a new model. -/
def Namespace.reach (models : Namespace) : (fuel : Nat) → (pending seen : List String) → List String
  | 0, _, seen => seen
  | _ + 1, [], seen => seen
  | fuel + 1, name :: pending, seen =>
    if name ∈ seen then reach models fuel pending seen
    else
      let next := match SortedTable.get? name models with
        | some model => model.dependencies
        | none => []
      reach models fuel (next ++ pending) (name :: seen)

/-- A number of steps after which nothing can be pending. -/
def Namespace.reachBound (models : Namespace) : Nat :=
  models.foldr (fun entry steps => entry.2.dependencies.length + 2 + steps) 2

/-- The models that are reached from a model by mentions, itself included. -/
def Namespace.closure (models : Namespace) (name : String) : SortedSet String :=
  SortedSet.ofList (models.reach models.reachBound [name] [])

/-- The JSON Schema of a model, complete with the models that it reaches. -/
def Namespace.jsonSchema (models : Namespace) (model : Definition) (strict : Bool) : Json :=
  let others := (models.closure model.name).filter (· != model.name)
  let definitions := others.filterMap fun name =>
    (SortedTable.get? name models).map fun def' => (name, Json.object (def'.schemaFields strict))
  let fields := Table.put "$schema" (.string dialect) (model.schemaFields strict)
  .object (if definitions.isEmpty then fields else Table.put "$defs" (.object definitions) fields)

end Model

end ApiAtlas
