import ApiAtlas.Sorted
import ApiAtlas.Schema.Facets

/-! # Resolved schemas

A resolved schema is a tree: references carry the schema that they lead to, and `allOf` is already
merged. Every node has its own facets.
-/

namespace ApiAtlas

namespace Schema

inductive Primitive where
  | string
  | number
  | integer
  | boolean
  | null
deriving DecidableEq, Repr, Inhabited

namespace Primitive

def all : List Primitive := [.string, .number, .integer, .boolean, .null]

/-- The name of the type in a schema. -/
def name : Primitive → String
  | .string => "string"
  | .number => "number"
  | .integer => "integer"
  | .boolean => "boolean"
  | .null => "null"

/-- The type with a given name. -/
def ofName? (text : String) : Option Primitive := all.find? (·.name == text)

end Primitive

/-- Whether a union asks for at least one of its variants or for exactly one. -/
inductive UnionMode where
  | anyOf
  | oneOf
deriving DecidableEq, Repr, Inhabited

def UnionMode.keyword : UnionMode → String
  | .anyOf => "anyOf"
  | .oneOf => "oneOf"

/-- What is said about keys that are not declared: nothing, that there are none, or what their
values are. -/
inductive Additional (α : Type) where
  | unspecified
  | forbidden
  | typed (value : α)
deriving DecidableEq, Repr, Inhabited

def Additional.isSpecified {α : Type} : Additional α → Bool
  | .unspecified => false
  | _ => true

structure Shape (α : Type) where
  properties : List (String × α) := []
  required : SortedSet String := []
  additional : Additional α := .unspecified
deriving Repr, Inhabited

namespace Shape

variable {α : Type}

def property? (shape : Shape α) (name : String) : Option α := Table.get? name shape.properties

/-- Declares a property, in place of an earlier declaration. -/
def setProperty (shape : Shape α) (name : String) (value : α) : Shape α :=
  { shape with properties := Table.put name value shape.properties }

/-- Adds the declarations of `part`: its properties replace those of the same name, its required
names join, and what it says about undeclared keys counts if it says anything. -/
def merge (shape part : Shape α) : Shape α where
  properties := part.properties.foldl (fun acc p => Table.put p.1 p.2 acc) shape.properties
  required := SortedSet.insertAll part.required shape.required
  additional := if part.additional.isSpecified then part.additional else shape.additional

end Shape

/-- The kinds of schema, over the type of the schemas inside. -/
inductive Kind (α : Type) where
  | object (shape : Shape α)
  | array (items : α)
  | primitive (type : Primitive)
  | union (mode : UnionMode) (variants : List α)
  | reference (target : String) (resolved : α)
  | any
deriving Repr, Inhabited

inductive Node where
  | mk (kind : Kind Node) (facets : Facets)
deriving Repr

namespace Node

def kind : Node → Kind Node
  | .mk kind _ => kind

def facets : Node → Facets
  | .mk _ facets => facets

def any : Node := ⟨.any, {}⟩

/-- The same structure with other facets. -/
def withFacets (node : Node) (facets : Facets) : Node := ⟨node.kind, facets⟩

/-- The schema with a title, if it had none. -/
def titled (name : String) (node : Node) : Node :=
  node.withFacets { node.facets with title := some (node.facets.title.getD name) }

/-- The schema behind all references. -/
def target : Node → Node
  | ⟨.reference _ resolved, _⟩ => resolved.target
  | node => node

def referenceTarget? (node : Node) : Option String :=
  match node.kind with
  | .reference target _ => some target
  | _ => none

/-- The shape of the object schema behind all references. -/
def shape? (node : Node) : Option (Shape Node) :=
  match node.target.kind with
  | .object shape => some shape
  | _ => none

/-- Whether the schema has no type. -/
def isAny (node : Node) : Bool :=
  match node.kind with
  | .any => true
  | _ => false

end Node

instance : Inhabited Node := ⟨Node.any⟩

end Schema

end ApiAtlas
