import ApiAtlas.Model.Definition
import ApiAtlas.Naming

/-! # Registering models

Schemas become models in a registry. A record inside another schema becomes a model of its own; equal
models under one name are shared, different ones get a number after the name.
-/

namespace ApiAtlas

namespace Model

open Schema (Additional Facets Node UnionMode)

/-- What has been compiled so far: the models, and which model each component became. -/
structure Registry where
  models : Namespace := []
  components : Table String := []
deriving Inhabited

namespace Registry

/-- The `k`-th name that is tried for a model, from 1. -/
def candidate (name : String) (k : Nat) : String := if k ≤ 1 then name else name ++ toString k

/-- Stores a model under the first candidate from the `k`-th on that is free or already holds an
equal model. There are more candidates than models, so `fuel` steps suffice when `fuel` exceeds the
number of models. -/
def place (models : Namespace) (name : String) (body : Body) (facets : Facets) :
    (fuel k : Nat) → Namespace × String
  | 0, k => (models, candidate name k)
  | fuel + 1, k =>
    let attempt := candidate name k
    match SortedTable.get? attempt models with
    | none => (SortedTable.put attempt { name := attempt, body, facets } models, attempt)
    | some present =>
      if present.body.same body && present.facets.same facets then (models, attempt)
      else place models name body facets fuel (k + 1)

end Registry

abbrev Modelling (α : Type) := StateM Registry α

namespace Modelling

def register (name : String) (body : Body) (facets : Facets) : Modelling String := do
  let registry ← get
  let (models, placed) := Registry.place registry.models name body facets
    (registry.models.length + 1) 1
  set { registry with models }
  return placed

/-- The name of a schema's model: its title in camel case, or else the hint. -/
def modelName (node : Node) (hint : String) : String :=
  match (node.facets.title.map Naming.camelCase).filter (· != "") with
  | some name => name
  | none => if hint.isEmpty then "Model" else hint

/-- Whether an object schema declares nothing but the type of its values. -/
def isMap (properties : List (String × Node)) (additional : Additional Node) : Bool :=
  properties.isEmpty &&
    (match additional with
      | .forbidden => false
      | _ => true)

def isRecord (node : Node) : Bool :=
  match node.kind with
  | .object shape => !isMap shape.properties shape.additional
  | _ => false

/-- The type of a schema that stands inside another one, given how to compile its body under a name.
A record becomes a model; whether it admits null is left to what holds it. -/
def typeOf (node : Node) (body : String → Modelling Body) (hint : String) : Modelling TypeExpr := do
  let name := if isRecord node then modelName node hint else hint
  match ← body name with
  | .record fields extra =>
    return .model (← register name (.record fields extra) { node.facets with nullable := false })
  | .union mode variants => return .union mode variants
  | .alias type => return type

/-- The model of a component, given how to compile its body under a name. It is compiled once. -/
def componentModel (key : String) (node : Node) (body : String → Modelling Body) :
    Modelling String := do
  match Table.get? key (← get).components with
  | some name => return name
  | none =>
    let name := modelName node (Naming.camelCase key)
    let placed ← register name (← body name) node.facets
    modify fun registry => { registry with components := Table.put key placed registry.components }
    return placed

mutual
/-- The body of the model of a schema under a given name. -/
def bodyOf : Node → (name : String) → Modelling Body
  | ⟨.object ⟨properties, required, additional⟩, _⟩, name =>
    if isMap properties additional then
      match additional with
      | .typed value => do
        return .alias (.map (← typeOf value (bodyOf value) (name ++ "Value")))
      | .unspecified => return .alias (.map .any)
      | .forbidden => return .alias (.map .any)
    else do
      let fields ← fieldsOf properties required name
      match additional with
      | .typed value =>
        return .record fields (.typed (← typeOf value (bodyOf value) (name ++ "Value")))
      | .unspecified => return .record fields .unspecified
      | .forbidden => return .record fields .forbidden
  | ⟨.array items, _⟩, name => do
    return .alias (.array (← typeOf items (bodyOf items) (name ++ "Item")))
  | ⟨.primitive type, _⟩, _ => return .alias (.primitive type)
  | ⟨.union mode variants, _⟩, name => do return .union mode (← variantsOf variants name 1)
  | ⟨.reference target resolved, _⟩, _ => do
    return .alias (.model (← componentModel target resolved (bodyOf resolved)))
  | ⟨.any, _⟩, _ => return .alias .any

/-- The fields of a record under a given name. -/
def fieldsOf : List (String × Node) → (required : SortedSet String) → (name : String) →
    Modelling (List Field)
  | [], _, _ => return []
  | (key, node) :: rest, required, name => do
    let type ← typeOf node (bodyOf node) (name ++ Naming.camelCase key)
    let field : Field :=
      { name := key, type, required := required.contains key, facets := node.facets }
    return field :: (← fieldsOf rest required name)

/-- The types of variants, the first of which has number `k`. -/
def variantsOf : List Node → (name : String) → (k : Nat) → Modelling (List TypeExpr)
  | [], _, _ => return []
  | node :: rest, name, k => do
    let type ← typeOf node (bodyOf node) (name ++ "Variant" ++ toString k)
    return type :: (← variantsOf rest name (k + 1))
end

/-- The model of a body schema: that of the component it refers to, or a new one. -/
def topModel (hint : String) (node : Node) : Modelling String :=
  match node.kind with
  | .reference target resolved => componentModel target resolved (bodyOf resolved)
  | _ => do
    let name := modelName node hint
    register name (← bodyOf node name) node.facets

end Modelling

end Model

end ApiAtlas
