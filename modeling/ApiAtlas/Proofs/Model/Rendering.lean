import ApiAtlas.Model.Rendering
import ApiAtlas.Proofs.Model.Sameness
import ApiAtlas.Proofs.Payload.Check

/-! # Models as schemas mean what they accept

The schema of a type, a field or a model finds nothing wrong with a value exactly if the type, the field
or the model accepts it in the same mode, provided that references lead to schemas of which this holds.
-/

namespace ApiAtlas

namespace Model

open Payload
open Schema (Additional Facets UnionMode)

/-- What is found behind references agrees with what the models of these names accept. -/
def Knows (env : Surroundings) (models : String → Json → Bool) (names : List String) : Prop :=
  ∀ name ∈ names, ∀ value, (env.follow (definitionPrefix ++ name) value).isEmpty = models name value

variable {env : Surroundings} {models : String → Json → Bool} {names : List String} {value : Json}

theorem Knows.left {others : List String} (h : Knows env models (names ++ others)) : Knows env models names :=
  fun name member => h name (List.mem_append_left _ member)

theorem Knows.right {others : List String} (h : Knows env models (names ++ others)) : Knows env models others :=
  fun name member => h name (List.mem_append_right _ member)

namespace TypeExpr

theorem schemaFields_map {values : TypeExpr} (other : values ≠ .any) : (map values).schemaFields =
    [("type", .string "object"), ("additionalProperties", .object values.schemaFields)] := by
  cases values with
  | any => exact absurd rfl other
  | _ => rfl

mutual
/-- The schema of a type means what the type accepts. -/
theorem passes_schemaFields (type : TypeExpr) (knows : Knows env models type.mentions) (value : Json) :
    passes env (.object type.schemaFields) value = type.accepts models value := by
  rw [passes_object]
  cases type with
  | primitive type =>
      rw [schemaFields, allows_cons, permits_type, allows_nil, Bool.and_true, accepts]
  | array items =>
      rw [schemaFields, allows_cons, permits_type, allows_cons, permits_items, allows_nil, Bool.and_true]
      cases value with
      | array values => simp only [hasType, accepts, passes_schemaFields items knows, BEq.rfl, Bool.true_and]
      | _ => rfl
  | map values =>
      by_cases other : values = .any
      · subst other
        rw [schemaFields, allows_cons, permits_type, allows_nil, Bool.and_true]
        cases value with
        | object fields => simp [hasType, accepts]
        | _ => rfl
      · rw [schemaFields_map other, allows_cons, permits_type, allows_cons, allows_nil, Bool.and_true]
        cases value with
        | object fields =>
            have all : Schema.undeclaredFields (declaredBeside
                [("type", .string "object"), ("additionalProperties", .object values.schemaFields)]) fields = fields :=
              Schema.undeclaredFields_nil fields
            rw [permits_additional, all]
            simp only [hasType, accepts, passes_schemaFields values knows, BEq.rfl, Bool.true_and]
        | _ => rfl
  | model name =>
      rw [schemaFields, allows_cons, permits_reference, allows_nil, Bool.and_true,
        knows name (List.mem_singleton_self _), accepts]
  | union mode variants =>
      rw [schemaFields, allows_cons, permits_union, allows_nil, Bool.and_true, accepts,
        passes_schemaList variants knows]
  | any => rw [schemaFields, allows_nil, accepts]

theorem passes_schemaList (types : List TypeExpr) (knows : Knows env models (mentionsList types)) (value : Json) :
    ((schemaList types).map fun schema => passes env schema value) = variantsAccept models types value := by
  cases types with
  | nil => rw [schemaList, variantsAccept]; rfl
  | cons type types =>
      rw [mentionsList] at knows
      rw [schemaList, List.map_cons, variantsAccept, passes_schemaFields type knows.left,
        passes_schemaList types knows.right]
end

end TypeExpr

section Decoration

variable {fields : Table Json} {facets : Facets} {siblings : Table Json} {key : String}

/-- The keywords that say what values look like. -/
def shapeKeywords : List String :=
  ["type", "properties", "required", "additionalProperties", "items", "anyOf", "oneOf", "$ref"]

/-- The keywords that facets are written under, apart from the constraints. -/
def facetKeywords : List String := ["description", "format", "enum", "default", "examples"]

/-- Nothing but what values look like is written. -/
def Shapely (fields : Table Json) : Prop := ∀ key ∈ Table.keys fields, key ∈ shapeKeywords

/-- The facets apart from the constraints. -/
def annotated (fields : Table Json) (facets : Facets) : Table Json :=
  decorated fields { facets with constraints := [] }

theorem get?_putSome_ne {other : String} {argument : Option Json} (different : key ≠ other) :
    Table.get? key (putSome other argument fields) = Table.get? key fields := by
  cases argument with
  | none => rfl
  | some argument => exact Table.get?_put_ne different

theorem allows_putSome {argument : Option Json} (member : key ∈ idleKeywords) :
    allows env siblings (putSome key argument fields) value = allows env siblings fields value := by
  cases argument with
  | none => rfl
  | some argument => exact allows_put_idle member

theorem allows_putFormat {format : Option String} (fresh : Table.has "format" fields = false) :
    allows env siblings (putSome "format" (format.map .string) fields) value =
      (allows env siblings fields value && format.all (formatAdmits env.strict · value)) := by
  cases format with
  | none => exact (Bool.and_true _).symm
  | some format => exact (allows_put_of_fresh fresh).trans (congrArg _ permits_format)

theorem get?_annotated (other : key ∉ facetKeywords) :
    Table.get? key (annotated fields facets) = Table.get? key fields := by
  simp only [facetKeywords, List.mem_cons, List.not_mem_nil, or_false, not_or] at other
  obtain ⟨description, format, enum, default, examples⟩ := other
  rw [annotated, decorated, List.foldl_nil, get?_putSome_ne examples, get?_putSome_ne default]
  split
  · rw [get?_putSome_ne format, get?_putSome_ne description]
  · rw [Table.get?_put_ne enum, get?_putSome_ne format, get?_putSome_ne description]

theorem Shapely.not_has (shapely : Shapely fields) (other : key ∉ shapeKeywords) :
    Table.has key fields = false := by
  rw [Bool.eq_false_iff, ne_eq, ← Table.mem_keys_iff_has]
  exact fun member => other (shapely key member)

theorem decorated_eq (shapely : Shapely fields) (regular : facets.Regular) :
    decorated fields facets = annotated fields facets ++ facets.constraints := by
  have apart : ∀ key ∈ Schema.constraintKeywords, key ∉ facetKeywords ∧ key ∉ shapeKeywords := by decide
  refine Table.foldl_put_of_not_has regular.distinct fun key member => ?_
  obtain ⟨facet, shape⟩ := apart key (regular.known key member)
  rw [Table.not_has_iff]
  exact (get?_annotated facet).trans (Table.not_has_iff.mp (shapely.not_has shape))

theorem get?_decorated (shapely : Shapely fields) (regular : facets.Regular) (other : key ∉ facetKeywords)
    (constraint : key ∉ Schema.constraintKeywords) :
    Table.get? key (decorated fields facets) = Table.get? key fields := by
  rw [decorated_eq shapely regular, Table.get?_append fun member => constraint (regular.known key member),
    get?_annotated other]

theorem allows_annotated (shapely : Shapely fields) :
    allows env siblings (annotated fields facets) value =
      (allows env siblings fields value && facets.formatted env.strict value &&
        (facets.choices.isEmpty || (choicesWith facets.nullable facets.choices).any (·.equal value))) := by
  have fresh : Table.has "format" (putSome "description" (facets.description.map .string) fields) = false := by
    rw [Table.not_has_iff, get?_putSome_ne (by decide), ← Table.not_has_iff]
    exact shapely.not_has (by decide)
  rw [annotated, decorated, List.foldl_nil, allows_putSome (by decide), allows_putSome (by decide), Facets.formatted]
  split
  · rename_i nothing
    rw [allows_putFormat fresh, allows_putSome (by decide), nothing, Bool.true_or, Bool.and_true]
  · rename_i something
    rw [allows_put_of_fresh, allows_putFormat fresh, allows_putSome (by decide), permits_enum,
      Bool.eq_false_iff.mpr something, Bool.false_or]
    rw [Table.not_has_iff, get?_putSome_ne (by decide), get?_putSome_ne (by decide), ← Table.not_has_iff]
    exact shapely.not_has (by decide)

theorem allows_constraints {constraints : Table Json}
    (known : ∀ keyword ∈ Table.keys constraints, keyword ∈ Schema.constraintKeywords) :
    allows env siblings constraints value =
      constraints.all fun entry => (constraintProblem entry.1 entry.2 value).isNone := by
  induction constraints with
  | nil => exact allows_nil
  | cons entry constraints ih =>
      rw [Table.keys, List.map_cons, List.forall_mem_cons] at known
      rw [allows_cons, permits_constraint known.1, ih known.2, List.all_cons]

theorem any_choicesWith {nullable : Bool} {choices : List Json} (present : value.isNull = false) :
    (choicesWith nullable choices).any (·.equal value) = choices.any (·.equal value) := by
  have other : Json.equal .null value = false := by
    cases value with
    | null => cases present
    | _ => rfl
  rw [choicesWith]
  split
  · rw [List.any_append, List.any_cons, List.any_nil, other, Bool.or_false, Bool.or_false]
  · rfl

/-- Writing the facets beside the shape admits what the facets do. -/
theorem passes_withFacets (shapely : Shapely fields) (regular : facets.Regular) :
    passes env (.object (withFacets fields facets)) value =
      facets.admits value (passes env (.object fields) value && facets.formatted env.strict value) := by
  have beside : Table.get? "properties" (decorated fields facets) = Table.get? "properties" fields :=
    get?_decorated shapely regular (by decide) (by decide)
  have whole : passes env (.object (decorated fields facets)) value =
      (passes env (.object fields) value && facets.formatted env.strict value &&
      (facets.choices.isEmpty || (choicesWith facets.nullable facets.choices).any (·.equal value)) &&
      facets.constraints.all fun entry => (constraintProblem entry.1 entry.2 value).isNone) := by
    rw [passes_object, passes_object, allows_congr beside, decorated_eq shapely regular, allows_append,
      allows_annotated shapely, allows_constraints regular.known]
  rw [withFacets, Facets.admits]
  cases nullable : facets.nullable with
  | false => simp only [whole, nullable, choicesWith, Bool.false_and, Bool.false_or, Bool.false_eq_true, if_false]
  | true =>
      have null : passes env (.object [("type", .string "null")]) value = value.isNull := by
        rw [passes_object, allows_cons, permits_type, allows_nil, Bool.and_true]
        cases value <;> rfl
      have either : permits env [("anyOf", .array [.object (decorated fields facets), .object [("type", .string "null")]])]
          UnionMode.anyOf.keyword (.array [.object (decorated fields facets), .object [("type", .string "null")]]) value =
          (passes env (.object (decorated fields facets)) value || value.isNull) := by
        rw [permits_union, List.map_cons, List.map_cons, null]
        simp [UnionMode.holds]
      simp only [Bool.true_and, if_true]
      rw [passes_object, allows_cons, allows_nil, Bool.and_true]
      refine either.trans ?_
      cases present : value.isNull with
      | true => rw [Bool.or_true, Bool.true_or]
      | false => rw [whole, any_choicesWith present, Bool.or_false, Bool.false_or]

end Decoration

theorem TypeExpr.shapely (type : TypeExpr) : Shapely type.schemaFields := by
  cases type with
  | primitive | array | model => simp [schemaFields, Shapely, Table.keys, shapeKeywords]
  | map values =>
      by_cases other : values = .any
      · subst other
        simp [schemaFields, Shapely, Table.keys, shapeKeywords]
      · rw [schemaFields_map other]
        simp [Shapely, Table.keys, shapeKeywords]
  | union mode => cases mode <;> simp [schemaFields, Shapely, Table.keys, shapeKeywords, UnionMode.keyword]
  | any => simp [schemaFields, Shapely, Table.keys]

/-- The schema of a field means what the field accepts. -/
theorem Field.passes_schema {field : Field} (regular : field.facets.Regular)
    (knows : Knows env models field.type.mentions) : passes env field.schema = field.acceptsIn models env.strict := by
  funext value
  rw [schema, passes_withFacets field.type.shapely regular, field.type.passes_schemaFields knows, acceptsIn]

namespace Body

variable {fields : List Field} {extra : Additional TypeExpr} {entries : Table Json}

/-- The properties that the schema of a record declares. -/
def propertiesOf (fields : List Field) : Table Json := fields.map fun field => (field.name, field.schema)

theorem schemaFields_record {strict : Bool} (distinct : (fields.map (·.name)).Nodup) :
    (record fields extra).schemaFields strict =
    [("type", .string "object"), ("properties", .object (propertiesOf fields))] ++
      ((if (requiredNames fields).isEmpty then [] else [("required", Json.strings (requiredNames fields))]) ++
        extraFields strict extra) := by
  have keys : (Table.keys (propertiesOf fields)).Nodup := by
    rwa [propertiesOf, Table.keys, List.map_map]
  rw [schemaFields, ← propertiesOf, Table.ofEntries_of_nodup keys, List.append_assoc]

theorem shapely (body : Body) {strict : Bool} : Shapely (body.schemaFields strict) := by
  cases body with
  | record fields extra =>
      cases extra <;> cases strict <;> intro key member <;> revert member <;>
        rw [schemaFields, Table.keys, List.map_append, List.map_append] <;> split <;>
        simp +contextual [extraFields, shapeKeywords, or_imp]
  | union mode variants => exact (TypeExpr.union mode variants).shapely
  | «alias» type => exact type.shapely

theorem allows_required {siblings : Table Json} :
    allows env siblings (if (requiredNames fields).isEmpty then [] else [("required", Json.strings (requiredNames fields))])
      (.object entries) = fields.all fun field => !field.required || Table.has field.name entries := by
  have all : (requiredNames fields).all (Table.has · entries) =
      fields.all fun field => !field.required || Table.has field.name entries := by
    rw [requiredNames, List.all_map, List.all_filter]
    rfl
  rw [← all]
  split
  · rename_i nothing
    rw [allows_nil, List.isEmpty_iff.mp nothing, List.all_nil]
  · rw [allows_cons, permits_required, allows_nil, Bool.and_true]

theorem allows_extra {siblings : Table Json} (strict : Bool) (beside : declaredBeside siblings = propertiesOf fields)
    (knows : Knows env models (record fields extra).mentions) :
    allows env siblings (extraFields strict extra) (.object entries) =
      extraAccepts models (closed strict extra) (Schema.undeclaredFields (propertiesOf fields) entries) := by
  have forbids : allows env siblings [("additionalProperties", .bool false)] (.object entries) =
      (Schema.undeclaredFields (propertiesOf fields) entries).isEmpty := by
    rw [allows_cons, permits_forbidden, allows_nil, Bool.and_true, beside]
  cases extra with
  | unspecified =>
      cases strict with
      | false => exact allows_nil
      | true => exact forbids
  | forbidden => exact forbids
  | typed type =>
      have inside : Knows env models type.mentions :=
        fun name mentioned => knows name (mem_mentions_of_extra mentioned)
      rw [extraFields, allows_cons, permits_additional, allows_nil, Bool.and_true, beside, closed, extraAccepts]
      · simp only [type.passes_schemaFields inside]
      · exact nofun

theorem all_fits (strict : Bool) : (fields.all fun field => field.fitsIn models strict entries) =
    ((fields.all fun field => (Table.get? field.name entries).all (field.acceptsIn models strict)) &&
      fields.all fun field => !field.required || Table.has field.name entries) := by
  induction fields with
  | nil => rfl
  | cons field fields ih =>
      rw [List.all_cons, ih, List.all_cons, List.all_cons, Field.fitsIn]
      simp only [Bool.and_assoc, Bool.and_left_comm]

/-- The schema of a body means what the body accepts. -/
theorem passes_schemaFields {body : Body} (regular : body.Regular) (knows : Knows env models body.mentions)
    (value : Json) :
    passes env (.object (body.schemaFields env.strict)) value = body.acceptsIn models env.strict value := by
  cases body with
  | record fields extra =>
      rw [passes_object, schemaFields_record regular.names]
      cases value with
      | object entries =>
          have properties : ((propertiesOf fields).all fun property =>
              (Table.get? property.1 entries).all (passes env property.2)) =
              fields.all fun field => (Table.get? field.name entries).all (field.acceptsIn models env.strict) := by
            rw [propertiesOf, List.all_map]
            refine all_congr_of_mem fun field member => ?_
            have inside : Knows env models field.type.mentions :=
              fun name mentioned => knows name (mem_mentions_of_field member mentioned)
            rw [Function.comp_apply, Field.passes_schema (regular.facets field member) inside]
          have keys : Table.keys (propertiesOf fields) = Table.keys (fields.map fun field => (field.name, field)) := by
            simp [propertiesOf, Table.keys, Function.comp_def]
          rw [allows_append, allows_cons, permits_type, allows_cons, permits_properties, allows_nil, Bool.and_true,
            properties, allows_append, allows_required, allows_extra env.strict rfl knows,
            Schema.undeclaredFields_congr keys,
            ← Bool.and_assoc, Bool.and_assoc (hasType "object" _), ← all_fits]
          rfl
      | _ =>
          rw [allows_append, allows_cons, permits_type]
          rfl
  | union mode variants => exact (TypeExpr.union mode variants).passes_schemaFields knows value
  | «alias» type =>
      refine type.passes_schemaFields (fun name member => knows name ?_) value
      exact TypeExpr.mem_mentionsList.mpr ⟨type, List.mem_singleton_self _, member⟩

end Body

theorem passes_put_idle {fields : Table Json} {key : String} {argument : Json} (member : key ∈ idleKeywords) :
    passes env (.object (Table.put key argument fields)) value = passes env (.object fields) value := by
  have different : "properties" ≠ key := by
    rintro rfl
    exact absurd member (by decide)
  rw [passes_object, passes_object, allows_put_idle member, allows_congr (Table.get?_put_ne different)]

/-- The schema of a model means what the model accepts. -/
theorem Definition.passes_schemaFields {model : Definition} (regular : model.Regular)
    (knows : Knows env models model.body.mentions) (value : Json) :
    passes env (.object (model.schemaFields env.strict)) value = model.acceptsIn models env.strict value := by
  rw [schemaFields, passes_put_idle (by decide), passes_withFacets (Body.shapely _) regular.facets,
    Body.passes_schemaFields regular.body knows, acceptsIn]

end Model

end ApiAtlas
