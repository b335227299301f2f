import ApiAtlas.Model.Definition
import ApiAtlas.Payload.Constraint
import ApiAtlas.Payload.Format
import ApiAtlas.Proofs.Schema.Tree

/-! # What schemas and models mean

Which values satisfy a resolved schema, read off the tree itself, and which values a model accepts,
given what the models mean that it mentions. Formats do not count in either reading; in strict mode they do, and
a record that says nothing about undeclared keys forbids them.
-/

namespace ApiAtlas

/-- A value has a format, if formats count. -/
def Payload.formatAdmits (strict : Bool) (format : String) (value : Json) : Bool :=
  match value with
  | .string text => !strict || Format.admits format text
  | _ => true

namespace Schema

/-- The facets let a value through, given whether its structure fits. -/
def Facets.admits (facets : Facets) (value : Json) (fits : Bool) : Bool :=
  (facets.nullable && value.isNull) ||
    (fits && (facets.choices.isEmpty || facets.choices.any (·.equal value)) &&
      facets.constraints.all fun entry => (Payload.constraintProblem entry.1 entry.2 value).isNone)

/-- The format of the facets lets a value through, which it always does in lenient mode. -/
def Facets.formatted (strict : Bool) (facets : Facets) (value : Json) : Bool :=
  facets.format.all fun format => Payload.formatAdmits strict format value

theorem Facets.formatted_lenient (facets : Facets) (value : Json) : facets.formatted false value = true := by
  rw [formatted]
  cases facets.format with
  | none => rfl
  | some format => cases value <;> rfl

theorem Facets.formatted_eq (strict : Bool) (facets : Facets) (value : Json) :
    facets.formatted strict value = (!strict || facets.formatted true value) := by
  cases strict with
  | false => exact facets.formatted_lenient value
  | true => rfl

/-- The facets say nothing about values. -/
structure Facets.Plain (facets : Facets) : Prop where
  choices : facets.choices = []
  nullable : facets.nullable = false
  constraints : facets.constraints = []

/-- A union holds, given which variants do. -/
def UnionMode.holds : UnionMode → List Bool → Bool
  | .anyOf, variants => variants.any id
  | .oneOf, variants => variants.count true == 1

/-- The fields that properties do not declare. -/
def undeclaredFields {α : Type} (properties : Table α) (fields : Table Json) : Table Json :=
  fields.filter fun field => !Table.has field.1 properties

mutual
/-- A value satisfies a resolved schema. -/
def Node.satisfies : Node → Json → Bool
  | ⟨.object ⟨properties, required, additional⟩, facets⟩, value =>
    facets.admits value <|
      match value with
      | .object fields =>
        propertiesSatisfied properties fields && required.all (Table.has · fields) &&
          match additional with
          | .unspecified => true
          | .forbidden => (undeclaredFields properties fields).isEmpty
          | .typed node => (undeclaredFields properties fields).all fun field => node.satisfies field.2
      | _ => false
  | ⟨.array items, facets⟩, value =>
    facets.admits value <|
      match value with
      | .array values => values.all fun value => items.satisfies value
      | _ => false
  | ⟨.primitive type, facets⟩, value => facets.admits value (Payload.hasType type.name value)
  | ⟨.union mode variants, facets⟩, value =>
    facets.admits value (mode.holds (variantsSatisfied variants value))
  | ⟨.reference _ resolved, facets⟩, value => facets.admits value (resolved.satisfies value)
  | ⟨.any, facets⟩, value => facets.admits value true

/-- Every declared property that is present satisfies its schema. -/
def propertiesSatisfied : List (String × Node) → Table Json → Bool
  | [], _ => true
  | (name, node) :: rest, fields =>
    (match Table.get? name fields with
      | some value => node.satisfies value
      | none => true) && propertiesSatisfied rest fields

/-- Which variants a value satisfies. -/
def variantsSatisfied : List Node → Json → List Bool
  | [], _ => []
  | node :: rest, value => node.satisfies value :: variantsSatisfied rest value
end

/-- A value fits the structure of a schema, whatever the facets say. -/
def Node.fits (node : Node) (value : Json) : Bool := (node.withFacets {}).satisfies value

/-- Models can say what the node says: it requires declared keys only, and what becomes a type without
facets has none that count. -/
def Node.Expressible : Node → Prop
  | ⟨.object shape, _⟩ => (∀ name ∈ shape.required, Table.has name shape.properties) ∧
      ∀ value, shape.additional = .typed value → value.facets.Plain
  | ⟨.array items, _⟩ => items.facets.Plain
  | ⟨.union _ variants, _⟩ => ∀ variant ∈ variants, variant.facets.Plain
  | ⟨.primitive _, _⟩ => True
  | ⟨.reference _ _, _⟩ => True
  | ⟨.any, _⟩ => True

/-- Models can say all that a resolved schema says. -/
def Node.Faithful (node : Node) : Prop := node.Everywhere Node.Expressible

theorem Facets.Plain.admits {facets : Facets} (plain : facets.Plain) (value : Json) (fits : Bool) :
    facets.admits value fits = fits := by
  simp [Facets.admits, plain.choices, plain.nullable, plain.constraints]

theorem Facets.plain_default : ({} : Facets).Plain := ⟨rfl, rfl, rfl⟩

/-- What is said about undeclared keys is satisfied by the undeclared fields. -/
def additionalSatisfied (additional : Additional Node) (fields : Table Json) : Bool :=
  match additional with
  | .unspecified => true
  | .forbidden => fields.isEmpty
  | .typed node => fields.all fun field => node.satisfies field.2

theorem undeclaredFields_nil {α : Type} (fields : Table Json) :
    undeclaredFields ([] : Table α) fields = fields := List.filter_eq_self.mpr fun _ _ => rfl

namespace Node

variable {facets : Facets}

theorem satisfies_eq (node : Node) (value : Json) :
    node.satisfies value = node.facets.admits value (node.fits value) := by
  have bare : ∀ fits, Facets.admits {} value fits = fits := Facets.plain_default.admits value
  obtain ⟨kind, facets⟩ := node
  rw [fits, withFacets, Node.kind, Node.facets]
  cases kind with
  | object shape =>
      obtain ⟨properties, required, additional⟩ := shape
      cases additional <;> cases value <;> simp only [satisfies, bare]
  | array => cases value <;> simp only [satisfies, bare]
  | _ => simp only [satisfies, bare]

/-- What the structure of each kind of node asks of a value. -/
theorem fits_eq (node : Node) (value : Json) : node.fits value =
    match node.kind with
    | .object shape =>
      match value with
      | .object fields => propertiesSatisfied shape.properties fields && shape.required.all (Table.has · fields) &&
          additionalSatisfied shape.additional (undeclaredFields shape.properties fields)
      | _ => false
    | .array items =>
      match value with
      | .array values => values.all fun value => items.satisfies value
      | _ => false
    | .primitive type => Payload.hasType type.name value
    | .union mode variants => mode.holds (variantsSatisfied variants value)
    | .reference _ resolved => resolved.satisfies value
    | .any => true := by
  obtain ⟨kind, facets⟩ := node
  rw [fits, withFacets, Node.kind]
  cases kind with
  | object shape =>
      obtain ⟨properties, required, additional⟩ := shape
      cases additional <;> cases value <;>
        simp only [satisfies, Facets.plain_default.admits, additionalSatisfied]
  | array => cases value <;> simp only [satisfies, Facets.plain_default.admits]
  | _ => simp only [satisfies, Facets.plain_default.admits]

theorem fits_object {properties : List (String × Node)} {required : SortedSet String}
    {additional : Additional Node} (value : Json) : fits ⟨.object ⟨properties, required, additional⟩, facets⟩ value =
    match value with
    | .object fields => propertiesSatisfied properties fields && required.all (Table.has · fields) &&
        additionalSatisfied additional (undeclaredFields properties fields)
    | _ => false := fits_eq _ value

theorem fits_array {items : Node} (value : Json) : fits ⟨.array items, facets⟩ value =
    match value with
    | .array values => values.all fun value => items.satisfies value
    | _ => false := fits_eq _ value

theorem fits_primitive {type : Primitive} (value : Json) :
    fits ⟨.primitive type, facets⟩ value = Payload.hasType type.name value := fits_eq _ value

theorem fits_union {mode : UnionMode} {variants : List Node} (value : Json) :
    fits ⟨.union mode variants, facets⟩ value = mode.holds (variantsSatisfied variants value) := fits_eq _ value

theorem fits_reference {name : String} {resolved : Node} (value : Json) :
    fits ⟨.reference name resolved, facets⟩ value = resolved.satisfies value := fits_eq _ value

theorem fits_any (value : Json) : fits ⟨.any, facets⟩ value = true := fits_eq _ value

end Node

end Schema

namespace Model

open Schema (Additional UnionMode undeclaredFields)

mutual
/-- A type accepts a value, given what the models accept. -/
def TypeExpr.accepts (models : String → Json → Bool) : TypeExpr → Json → Bool
  | .primitive type, value => Payload.hasType type.name value
  | .array items, value =>
    match value with
    | .array values => values.all fun value => items.accepts models value
    | _ => false
  | .map type, value =>
    match value with
    | .object fields => fields.all fun field => type.accepts models field.2
    | _ => false
  | .model name, value => models name value
  | .union mode variants, value => mode.holds (TypeExpr.variantsAccept models variants value)
  | .any, _ => true

/-- Which variants accept a value. -/
def TypeExpr.variantsAccept (models : String → Json → Bool) : List TypeExpr → Json → List Bool
  | [], _ => []
  | type :: rest, value => type.accepts models value :: variantsAccept models rest value
end

variable (models : String → Json → Bool)

/-- A field accepts a value. -/
def Field.accepts (field : Field) (value : Json) : Bool :=
  field.facets.admits value (field.type.accepts models value)

/-- A field accepts an object: it is there if it has to be, and then it accepts what is there. -/
def Field.fits (field : Field) (fields : Table Json) : Bool :=
  (Table.get? field.name fields).all (field.accepts models) &&
    (!field.required || Table.has field.name fields)

/-- What is said about undeclared keys accepts the undeclared fields. -/
def extraAccepts (extra : Additional TypeExpr) (fields : Table Json) : Bool :=
  match extra with
  | .unspecified => true
  | .forbidden => fields.isEmpty
  | .typed type => fields.all fun field => type.accepts models field.2

/-- A body accepts a value. -/
def Body.accepts (body : Body) (value : Json) : Bool :=
  match body with
  | .record declared extra =>
    match value with
    | .object fields =>
      (declared.all fun field => field.fits models fields) &&
        extraAccepts models extra (undeclaredFields (declared.map fun field => (field.name, field)) fields)
    | _ => false
  | .union mode variants => mode.holds (TypeExpr.variantsAccept models variants value)
  | .alias type => type.accepts models value

/-- A model accepts a value. -/
def Definition.accepts (model : Definition) (value : Json) : Bool :=
  model.facets.admits value (model.body.accepts models value)

section Modes

variable (strict : Bool)

/-- What counts as said about undeclared keys. -/
def closed (extra : Additional TypeExpr) : Additional TypeExpr :=
  match extra with
  | .unspecified => if strict then .forbidden else .unspecified
  | said => said

/-- A field accepts a value in a mode. -/
def Field.acceptsIn (field : Field) (value : Json) : Bool :=
  field.facets.admits value (field.type.accepts models value && field.facets.formatted strict value)

/-- A field accepts an object in a mode. -/
def Field.fitsIn (field : Field) (fields : Table Json) : Bool :=
  (Table.get? field.name fields).all (field.acceptsIn models strict) &&
    (!field.required || Table.has field.name fields)

/-- A body accepts a value in a mode. -/
def Body.acceptsIn (body : Body) (value : Json) : Bool :=
  match body with
  | .record declared extra =>
    match value with
    | .object fields =>
      (declared.all fun field => field.fitsIn models strict fields) &&
        extraAccepts models (closed strict extra)
          (undeclaredFields (declared.map fun field => (field.name, field)) fields)
    | _ => false
  | .union mode variants => mode.holds (TypeExpr.variantsAccept models variants value)
  | .alias type => type.accepts models value

/-- A model accepts a value in a mode. -/
def Definition.acceptsIn (model : Definition) (value : Json) : Bool :=
  model.facets.admits value (model.body.acceptsIn models strict value && model.facets.formatted strict value)

end Modes

theorem Field.acceptsIn_lenient (field : Field) : field.acceptsIn models false = field.accepts models := by
  funext value
  rw [acceptsIn, accepts, Schema.Facets.formatted_lenient, Bool.and_true]

theorem Body.acceptsIn_lenient (body : Body) : body.acceptsIn models false = body.accepts models := by
  funext value
  cases body with
  | record declared extra =>
      have said : closed false extra = extra := by cases extra <;> rfl
      simp only [acceptsIn, accepts, Field.fitsIn, Field.fits, Field.acceptsIn_lenient, said]
  | union | «alias» => rfl

/-- In lenient mode a model accepts what it says. -/
theorem Definition.acceptsIn_lenient (model : Definition) : model.acceptsIn models false = model.accepts models := by
  funext value
  rw [acceptsIn, accepts, Body.acceptsIn_lenient, Schema.Facets.formatted_lenient, Bool.and_true]

end Model

end ApiAtlas
