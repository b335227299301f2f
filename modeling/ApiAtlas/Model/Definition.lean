import ApiAtlas.Model.TypeExpr

/-! # Model definitions

A model is a named type: a record of fields, a union, or another name for a type expression.
-/

namespace ApiAtlas

namespace Model

open Schema (Additional Facets UnionMode)

structure Field where
  name : String
  type : TypeExpr
  required : Bool
  facets : Facets
deriving Repr, Inhabited

namespace Field

def nullable (field : Field) : Bool := field.facets.nullable

def same (a b : Field) : Bool :=
  a.name == b.name && a.type == b.type && a.required == b.required && a.facets.same b.facets

def sameList : List Field → List Field → Bool
  | [], [] => true
  | a :: as, b :: bs => a.same b && sameList as bs
  | _, _ => false

end Field

inductive Body where
  | record (fields : List Field) (extra : Additional TypeExpr)
  | union (mode : UnionMode) (variants : List TypeExpr)
  | alias (type : TypeExpr)
deriving Repr, Inhabited

namespace Body

def same : Body → Body → Bool
  | .record fields extra, .record fields' extra' => Field.sameList fields fields' && extra == extra'
  | .union mode variants, .union mode' variants' => mode == mode' && variants == variants'
  | .alias type, .alias type' => type == type'
  | _, _ => false

def types : Body → List TypeExpr
  | .record fields extra =>
    fields.map (·.type) ++
      (match extra with
        | .typed type => [type]
        | _ => [])
  | .union _ variants => variants
  | .alias type => [type]

end Body

structure Definition where
  name : String
  body : Body
  facets : Facets
deriving Repr, Inhabited

namespace Definition

/-- The fields of a record; other models have none. -/
def fields (model : Definition) : List Field :=
  match model.body with
  | .record fields _ => fields
  | _ => []

/-- The field with a given name. -/
def field? (model : Definition) (name : String) : Option Field :=
  model.fields.find? (·.name == name)

def dependencies (model : Definition) : SortedSet String :=
  SortedSet.ofList (TypeExpr.mentionsList model.body.types)

end Definition

abbrev Namespace := SortedTable String Definition

end Model

end ApiAtlas
