import ApiAtlas.Proofs.Model.Rendering

/-! # Pointers in the schemas of models

Which references stand in a schema, and where the schema of a model gets them from: each one is written for
a mention, since facets are written under keywords whose arguments are values and not schemas.
-/

namespace ApiAtlas

namespace Model

open Schema (Additional Facets UnionMode)

/-- The schemas that stand under a keyword with this argument. -/
def schemasUnder (keyword : String) (argument : Json) : List Json :=
  if keyword ∈ ["items", "additionalProperties"] then [argument]
  else if keyword ∈ ["properties", "$defs"] then (argument.fields?.getD []).map (·.2)
  else if keyword ∈ ["anyOf", "oneOf", "allOf"] then argument.items?.getD []
  else []

/-- A reference with this target stands in the schema, itself included. -/
inductive PointsTo : Json → String → Prop
  | here {fields : Table Json} {target : String} : ("$ref", .string target) ∈ fields →
    PointsTo (.object fields) target
  | inside {fields : Table Json} {keyword target : String} {argument schema : Json} :
    (keyword, argument) ∈ fields → schema ∈ schemasUnder keyword argument → PointsTo schema target →
    PointsTo (.object fields) target

/-- The target is the definition of one of these models. -/
def Defines (names : List String) (target : String) : Prop :=
  ∃ name ∈ names, target = definitionPrefix ++ name

variable {names others : List String} {target : String} {fields table : Table Json} {facets : Facets}

theorem Defines.mono (listed : ∀ name ∈ names, name ∈ others) (defines : Defines names target) :
    Defines others target := by
  obtain ⟨name, member, rfl⟩ := defines
  exact ⟨name, listed name member, rfl⟩

namespace PointsTo

theorem object_iff : PointsTo (.object fields) target ↔ ("$ref", .string target) ∈ fields ∨
    ∃ keyword argument, (keyword, argument) ∈ fields ∧
      ∃ schema ∈ schemasUnder keyword argument, PointsTo schema target := by
  constructor
  · intro points
    cases points with
    | here member => exact .inl member
    | inside member under points => exact .inr ⟨_, _, member, _, under, points⟩
  · rintro (member | ⟨_, _, member, _, under, points⟩)
    · exact .here member
    · exact .inside member under points

theorem iff_cons {keyword : String} {argument : Json} : PointsTo (.object ((keyword, argument) :: fields)) target ↔
    (keyword = "$ref" ∧ argument = .string target) ∨ (∃ schema ∈ schemasUnder keyword argument, PointsTo schema target) ∨
      PointsTo (.object fields) target := by
  simp only [object_iff, List.mem_cons, Prod.mk.injEq]
  grind

theorem iff_append : PointsTo (.object (fields ++ table)) target ↔
    PointsTo (.object fields) target ∨ PointsTo (.object table) target := by
  simp only [object_iff, List.mem_append]
  grind

@[simp] theorem not_nil : ¬ PointsTo (.object []) target := by
  intro points
  cases points <;> contradiction

end PointsTo

mutual
/-- The references in the schema of a type are those to the models that the type mentions. -/
theorem TypeExpr.pointsTo_schemaFields (type : TypeExpr) (points : PointsTo (.object type.schemaFields) target) :
    Defines type.mentions target := by
  cases type with
  | primitive type => simp [schemaFields, PointsTo.iff_cons, schemasUnder] at points
  | any => simp [schemaFields] at points
  | model name =>
      have same : definitionPrefix ++ name = target := by
        simpa [schemaFields, PointsTo.iff_cons, schemasUnder] using points
      exact ⟨name, List.mem_singleton_self _, same.symm⟩
  | array items =>
      refine items.pointsTo_schemaFields ?_
      simpa [schemaFields, PointsTo.iff_cons, schemasUnder] using points
  | map values =>
      by_cases other : values = .any
      · subst other
        simp [schemaFields, PointsTo.iff_cons, schemasUnder] at points
      · refine values.pointsTo_schemaFields ?_
        simpa [schemaFields_map other, PointsTo.iff_cons, schemasUnder] using points
  | union mode variants =>
      refine pointsTo_schemaList variants ?_
      cases mode <;> simpa [schemaFields, UnionMode.keyword, PointsTo.iff_cons, schemasUnder, Json.items?] using points

theorem TypeExpr.pointsTo_schemaList (types : List TypeExpr)
    (points : ∃ schema ∈ schemaList types, PointsTo schema target) : Defines (mentionsList types) target := by
  cases types with
  | nil => simp [schemaList] at points
  | cons type types =>
      rw [schemaList] at points
      rw [mentionsList]
      obtain ⟨schema, member, points⟩ := points
      rcases List.mem_cons.mp member with rfl | member
      · exact (type.pointsTo_schemaFields points).mono fun _ => List.mem_append_left _
      · exact (pointsTo_schemaList types ⟨schema, member, points⟩).mono fun _ => List.mem_append_right _
end

/-- The keywords whose arguments are values and not schemas. -/
def valueKeywords : List String :=
  facetKeywords ++ Schema.constraintKeywords ++ ["type", "required", "title", "$schema"]

/-- Nothing is added but under keywords whose arguments are values. -/
def Annotates (fields table : Table Json) : Prop :=
  ∀ entry ∈ table, entry ∈ fields ∨ entry.1 ∈ valueKeywords

namespace Annotates

variable {keyword : String} {argument : Json}

theorem refl : Annotates fields fields := fun _ => .inl

theorem put (annotates : Annotates fields table) (value : keyword ∈ valueKeywords) :
    Annotates fields (Table.put keyword argument table) := by
  intro entry member
  rcases Table.mem_of_mem_put member with member | rfl
  · exact annotates entry member
  · exact .inr value

theorem putSome {argument : Option Json} (annotates : Annotates fields table) (value : keyword ∈ valueKeywords) :
    Annotates fields (putSome keyword argument table) := by
  cases argument with
  | none => exact annotates
  | some argument => exact annotates.put value

theorem puts {entries : Table Json} (annotates : Annotates fields table)
    (values : ∀ keyword ∈ Table.keys entries, keyword ∈ valueKeywords) :
    Annotates fields (entries.foldl (fun acc entry => Table.put entry.1 entry.2 acc) table) := by
  intro entry member
  rcases Table.mem_of_mem_foldl_put member with member | member
  · exact annotates entry member
  · exact .inr (values _ (List.mem_map_of_mem member))

theorem decorated (regular : facets.Regular) : Annotates fields (decorated fields facets) := by
  have described : Annotates fields (Model.putSome "format" (facets.format.map .string)
      (Model.putSome "description" (facets.description.map .string) fields)) :=
    (refl.putSome (by decide)).putSome (by decide)
  have constraint : ∀ keyword ∈ Schema.constraintKeywords, keyword ∈ valueKeywords := by decide
  refine puts (putSome (putSome ?_ (by decide)) (by decide)) fun keyword member =>
    constraint keyword (regular.known keyword member)
  split
  · exact described
  · exact described.put (by decide)

theorem schemasUnder_eq_nil (value : keyword ∈ valueKeywords) : schemasUnder keyword argument = [] := by
  have apart : ∀ keyword ∈ valueKeywords, keyword ∉ ["items", "additionalProperties"] ∧
      keyword ∉ ["properties", "$defs"] ∧ keyword ∉ ["anyOf", "oneOf", "allOf"] := by decide
  obtain ⟨single, named, listed⟩ := apart keyword value
  rw [schemasUnder, if_neg single, if_neg named, if_neg listed]

theorem pointsTo (annotates : Annotates fields table) (points : PointsTo (.object table) target) :
    PointsTo (.object fields) target := by
  cases points with
  | here member =>
      rcases annotates _ member with there | value
      · exact .here there
      · have other : "$ref" ∉ valueKeywords := by decide
        exact absurd value other
  | inside member under points =>
      rcases annotates _ member with there | value
      · exact .inside there under points
      · rw [schemasUnder_eq_nil value] at under
        cases under

end Annotates

theorem pointsTo_withFacets (regular : facets.Regular) (points : PointsTo (.object (withFacets fields facets)) target) :
    PointsTo (.object fields) target := by
  refine (Annotates.decorated regular).pointsTo ?_
  rw [withFacets] at points
  split at points
  · simpa [PointsTo.iff_cons, schemasUnder, Json.items?] using points
  · exact points

theorem Field.pointsTo_schema {field : Field} (regular : field.facets.Regular) (points : PointsTo field.schema target) :
    Defines field.type.mentions target :=
  field.type.pointsTo_schemaFields (pointsTo_withFacets regular points)

theorem pointsTo_extraFields {extra : Additional TypeExpr} {strict : Bool}
    (points : PointsTo (.object (extraFields strict extra)) target) : ∃ type, extra = .typed type ∧
      Defines type.mentions target := by
  have none : ¬ PointsTo (.bool false) target := nofun
  cases extra with
  | unspecified => cases strict <;> simp [extraFields, PointsTo.iff_cons, schemasUnder, none] at points
  | forbidden => simp [extraFields, PointsTo.iff_cons, schemasUnder, none] at points
  | typed type =>
      refine ⟨type, rfl, type.pointsTo_schemaFields ?_⟩
      simpa [extraFields, PointsTo.iff_cons, schemasUnder] using points

theorem Body.pointsTo_schemaFields {body : Body} {strict : Bool} (regular : body.Regular)
    (points : PointsTo (.object (body.schemaFields strict)) target) : Defines body.mentions target := by
  cases body with
  | record declared extra =>
      rw [schemaFields, PointsTo.iff_append, PointsTo.iff_append] at points
      rcases points with (points | points) | points
      · have properties : ∃ schema ∈ (Table.ofEntries (propertiesOf declared)).map (·.2), PointsTo schema target := by
          simpa [PointsTo.iff_cons, schemasUnder, Json.fields?, propertiesOf] using points
        obtain ⟨_, listed, points⟩ := properties
        obtain ⟨property, written, rfl⟩ := List.mem_map.mp listed
        have entry := (Table.mem_of_mem_foldl_put written).resolve_left List.not_mem_nil
        obtain ⟨field, member, rfl⟩ := List.mem_map.mp entry
        have defines := field.pointsTo_schema (regular.facets field member) points
        exact defines.mono fun _ => mem_mentions_of_field member
      · split at points <;> simp [PointsTo.iff_cons, schemasUnder, Json.strings] at points
      · obtain ⟨type, rfl, defines⟩ := pointsTo_extraFields points
        exact defines.mono fun _ => mem_mentions_of_extra
  | union mode variants => exact (TypeExpr.union mode variants).pointsTo_schemaFields points
  | «alias» type =>
      refine (type.pointsTo_schemaFields points).mono fun name member => ?_
      exact TypeExpr.mem_mentionsList.mpr ⟨type, List.mem_singleton_self _, member⟩

/-- The references in the schema of a model are those to the models that it mentions. -/
theorem Definition.pointsTo_schemaFields {model : Definition} {strict : Bool} (regular : model.Regular)
    (points : PointsTo (.object (model.schemaFields strict)) target) : Defines model.body.mentions target := by
  have titled : PointsTo (.object (withFacets (model.body.schemaFields strict) model.facets)) target :=
    (Annotates.refl.put (by decide)).pointsTo points
  exact Body.pointsTo_schemaFields regular.body (pointsTo_withFacets regular.facets titled)

end Model

end ApiAtlas
