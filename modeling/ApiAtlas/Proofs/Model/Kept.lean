import ApiAtlas.Model.Registry
import ApiAtlas.Proofs.Model.Sameness

/-! # What models keep of a schema

A model has a place for the facets of its schema, and so has a field. A schema that becomes a type alone, such as
an item, a value or a variant, has none: a record keeps all but that it admits null, and others keep nothing.
A name that is required without being declared is not kept either.
-/

namespace ApiAtlas

namespace Schema

open Model.Modelling (isRecord)

namespace Node

/-- The facets that a schema keeps as a type. -/
def typeFacets (node : Node) : Facets :=
  if isRecord node then { node.facets with nullable := false } else {}

/-- The nodes directly inside a node that become types alone. -/
def typedParts : Node → List Node
  | ⟨.object shape, _⟩ =>
    match shape.additional with
    | .typed value => [value]
    | _ => []
  | ⟨.array items, _⟩ => [items]
  | ⟨.union _ variants, _⟩ => variants
  | _ => []

end Node

mutual
/-- What a model keeps of its schema. -/
def Node.kept : Node → Node
  | ⟨.object ⟨properties, required, additional⟩, facets⟩ =>
    ⟨.object ⟨keptProperties properties, required.filter (Table.has · properties), keptAdditional additional⟩, facets⟩
  | ⟨.array items, facets⟩ => ⟨.array (items.kept.withFacets items.typeFacets), facets⟩
  | ⟨.primitive type, facets⟩ => ⟨.primitive type, facets⟩
  | ⟨.union mode variants, facets⟩ => ⟨.union mode (keptVariants variants), facets⟩
  | ⟨.reference target resolved, facets⟩ => ⟨.reference target resolved.kept, facets⟩
  | ⟨.any, facets⟩ => ⟨.any, facets⟩

def keptProperties : List (String × Node) → List (String × Node)
  | [] => []
  | (name, node) :: rest => (name, node.kept) :: keptProperties rest

/-- What a type keeps of the values of undeclared keys. -/
def keptAdditional : Additional Node → Additional Node
  | .unspecified => .unspecified
  | .forbidden => .forbidden
  | .typed node => .typed (node.kept.withFacets node.typeFacets)

def keptVariants : List Node → List Node
  | [] => []
  | node :: rest => node.kept.withFacets node.typeFacets :: keptVariants rest
end

/-- What a type keeps of a schema. -/
def Node.asType (node : Node) : Node := node.kept.withFacets node.typeFacets

theorem keptProperties_eq (properties : List (String × Node)) :
    keptProperties properties = properties.map fun property => (property.1, property.2.kept) := by
  induction properties with
  | nil => rw [keptProperties]; rfl
  | cons property properties ih => rw [keptProperties, ih]; rfl

theorem keys_keptProperties (properties : List (String × Node)) :
    Table.keys (keptProperties properties) = Table.keys properties := by
  simp [keptProperties_eq, Table.keys, Function.comp_def]

theorem keptVariants_eq (variants : List Node) : keptVariants variants = variants.map Node.asType := by
  induction variants with
  | nil => rw [keptVariants]; rfl
  | cons variant variants ih => rw [keptVariants, ih]; rfl

theorem keptAdditional_typed (node : Node) : keptAdditional (.typed node) = .typed node.asType := by
  rw [keptAdditional, Node.asType]

theorem Node.kept_array (items : Node) (facets : Facets) :
    Node.kept ⟨.array items, facets⟩ = ⟨.array items.asType, facets⟩ := by
  rw [kept, asType]

theorem Node.kept_union (mode : UnionMode) (variants : List Node) (facets : Facets) :
    Node.kept ⟨.union mode variants, facets⟩ = ⟨.union mode (variants.map asType), facets⟩ := by
  rw [kept, keptVariants_eq]

theorem propertiesSatisfied_eq (properties : List (String × Node)) (fields : Table Json) :
    propertiesSatisfied properties fields =
      properties.all fun property => (Table.get? property.1 fields).all property.2.satisfies := by
  induction properties with
  | nil => rw [propertiesSatisfied]; rfl
  | cons property properties ih =>
      rw [propertiesSatisfied, ih, List.all_cons]
      cases Table.get? property.1 fields <;> rfl

theorem variantsSatisfied_eq (variants : List Node) (value : Json) :
    variantsSatisfied variants value = variants.map (·.satisfies value) := by
  induction variants with
  | nil => rw [variantsSatisfied]; rfl
  | cons variant variants ih => rw [variantsSatisfied, ih]; rfl

theorem Node.satisfies_withFacets (node : Node) (facets : Facets) (value : Json) :
    (node.withFacets facets).satisfies value = facets.admits value (node.fits value) :=
  satisfies_eq _ _

namespace Congruent

variable {R : Bool → Bool → Prop} (congruent : Congruent R)

include congruent

theorem propertiesSatisfied {properties : List (String × Node)}
    (parts : ∀ property ∈ properties, ∀ value, R (property.2.satisfies value) (property.2.kept.satisfies value))
    (fields : Table Json) :
    R (Schema.propertiesSatisfied properties fields) (Schema.propertiesSatisfied (keptProperties properties) fields) := by
  rw [propertiesSatisfied_eq, propertiesSatisfied_eq, keptProperties_eq, List.all_map]
  refine congruent.all fun property member => ?_
  rw [Function.comp_apply]
  cases Table.get? property.1 fields with
  | none => exact congruent.refl _
  | some value => exact parts property member value

theorem additionalSatisfied {additional : Additional Node}
    (typed : ∀ inside, additional = .typed inside → ∀ value, R (inside.satisfies value) (inside.asType.satisfies value))
    (fields : Table Json) :
    R (Schema.additionalSatisfied additional fields) (Schema.additionalSatisfied (keptAdditional additional) fields) := by
  cases additional with
  | unspecified | forbidden =>
      rw [keptAdditional]
      exact congruent.refl _
  | typed inside =>
      rw [keptAdditional_typed]
      exact congruent.all fun field _ => typed inside rfl field.2

/-- What holds of the parts of a node holds of its structure. -/
theorem fits {node : Node} (parts : ∀ part ∈ node.parts, ∀ value, R (part.satisfies value) (part.kept.satisfies value))
    (typed : ∀ part ∈ node.typedParts, ∀ value, R (part.satisfies value) (part.asType.satisfies value))
    (required : ∀ shape, node.kind = .object shape → ∀ fields : Table Json,
      R (shape.required.all (Table.has · fields))
        ((shape.required.filter (Table.has · shape.properties)).all (Table.has · fields)))
    (union : ∀ mode variants, node.kind = .union mode variants → ∀ value,
      R (mode.holds (variants.map (·.satisfies value))) (mode.holds (variants.map (·.asType.satisfies value))))
    (value : Json) : R (node.fits value) (node.kept.fits value) := by
  obtain ⟨kind, facets⟩ := node
  cases kind with
  | object shape =>
      have required := required shape rfl
      obtain ⟨properties, names, additional⟩ := shape
      simp only [Node.kept, Node.fits_object]
      cases value with
      | object fields =>
          refine congruent.and (congruent.and ?_ (required fields)) ?_
          · exact congruent.propertiesSatisfied
              (fun property member => parts _ (Shape.mem_values_of_property member)) fields
          · rw [undeclaredFields_congr (keys_keptProperties properties)]
            refine congruent.additionalSatisfied (fun inside same => ?_) _
            subst same
            exact typed inside (List.mem_singleton_self _)
      | _ => exact congruent.refl _
  | array items =>
      rw [Node.kept_array, Node.fits_array, Node.fits_array]
      cases value with
      | array values => exact congruent.all fun value _ => typed items (List.mem_singleton_self _) value
      | _ => exact congruent.refl _
  | primitive type =>
      rw [Node.kept]
      exact congruent.refl _
  | union mode variants =>
      rw [Node.kept_union, Node.fits_union, Node.fits_union, variantsSatisfied_eq, variantsSatisfied_eq, List.map_map]
      exact union mode variants rfl value
  | reference target resolved =>
      rw [Node.kept, Node.fits_reference, Node.fits_reference]
      exact parts resolved (List.mem_singleton_self _) value
  | any =>
      rw [Node.kept]
      exact congruent.refl _

end Congruent

namespace Node

theorem facets_kept (node : Node) : node.kept.facets = node.facets := by
  obtain ⟨kind, facets⟩ := node
  cases kind <;> rw [kept] <;> rfl

theorem satisfies_kept (node : Node) (value : Json) :
    node.kept.satisfies value = node.facets.admits value (node.kept.fits value) := by
  rw [satisfies_eq, facets_kept]

theorem satisfies_asType (node : Node) (value : Json) :
    node.asType.satisfies value = node.typeFacets.admits value (node.kept.fits value) :=
  satisfies_withFacets _ _ _

theorem asType_of_not_record (node : Node) (other : isRecord node = false) :
    node.asType.satisfies = node.kept.fits := by
  funext value
  rw [satisfies_asType, typeFacets, other, if_neg Bool.false_ne_true, Facets.plain_default.admits]

theorem admits_typeFacets (node : Node) (value : Json) (fits : Bool) :
    node.facets.admits value (node.typeFacets.admits value fits) = node.facets.admits value fits := by
  rw [typeFacets]
  split
  · exact Facets.admits_again
  · rw [Facets.plain_default.admits]

theorem mem_parts_of_typedParts {node part : Node} (member : part ∈ node.typedParts) : part ∈ node.parts := by
  obtain ⟨kind, facets⟩ := node
  cases kind with
  | object shape =>
      obtain ⟨properties, required, additional⟩ := shape
      cases additional with
      | unspecified | forbidden => cases member
      | typed value => exact List.mem_append_right _ member
  | array | union => exact member
  | primitive | reference | any => cases member

/-- Nothing is lost of a schema that becomes a type alone. -/
structure Whole (node : Node) : Prop where
  present : node.facets.nullable = false
  plain : isRecord node = false → node.facets.Plain

/-- A schema requires declared names only, and what becomes a type alone inside loses nothing. -/
structure Exact (node : Node) : Prop where
  required : ∀ shape, node.kind = .object shape → ∀ name ∈ shape.required, Table.has name shape.properties
  typed : ∀ part ∈ node.typedParts, part.Whole

/-- What a schema loses rejects nothing: null is admitted by what becomes a type alone whenever its facets admit
it, and the variants of which exactly one counts lose nothing. -/
structure Guarded (node : Node) : Prop where
  typed : ∀ part ∈ node.typedParts, part.facets.nullable = true → part.fits .null = true
  single : ∀ variants, node.kind = .union .oneOf variants → ∀ variant ∈ variants,
    variant.Whole ∧ variant.Everywhere Exact

variable {node : Node}

theorem Expressible.exact (expressible : node.Expressible) : node.Exact := by
  obtain ⟨kind, facets⟩ := node
  have whole : ∀ part : Node, part.facets.Plain → part.Whole := fun part plain => ⟨plain.nullable, fun _ => plain⟩
  cases kind with
  | object shape =>
      obtain ⟨properties, required, additional⟩ := shape
      refine ⟨fun shape same => ?_, fun part member => ?_⟩
      · cases same
        exact expressible.1
      · cases additional with
        | unspecified | forbidden => cases member
        | typed value =>
            obtain rfl := List.mem_singleton.mp member
            exact whole _ (expressible.2 _ rfl)
  | array items =>
      refine ⟨nofun, fun part member => ?_⟩
      obtain rfl := List.mem_singleton.mp member
      exact whole _ expressible
  | union mode variants => exact ⟨nofun, fun part member => whole part (expressible part member)⟩
  | primitive | reference | any => exact ⟨nofun, nofun⟩

theorem Whole.satisfies_asType (whole : node.Whole) (kept : node.kept.fits = node.fits) :
    node.asType.satisfies = node.satisfies := by
  funext value
  rw [node.satisfies_asType, node.satisfies_eq, kept, typeFacets]
  split
  · simp only [Facets.admits, whole.present]
  · rename_i other
    rw [(whole.plain (Bool.eq_false_iff.mpr other)).admits, Facets.plain_default.admits]

theorem fits_kept (exact : node.Everywhere Exact) : node.kept.fits = node.fits := by
  induction exact with
  | @intro node here inside ih =>
      have typed : ∀ part ∈ node.typedParts, ∀ value, part.satisfies value = part.asType.satisfies value := by
        intro part member value
        rw [(here.typed part member).satisfies_asType (ih part (mem_parts_of_typedParts member))]
      funext value
      refine (Congruent.eq.fits (fun part member value => ?_) typed (fun shape same fields => ?_)
        (fun mode variants same value => ?_) value).symm
      · rw [part.satisfies_kept, part.satisfies_eq, ih part member]
      · rw [List.filter_eq_self.mpr (here.required shape same)]
      · have each : ∀ variant ∈ variants, variant.satisfies value = variant.asType.satisfies value := by
          obtain ⟨kind, facets⟩ := node
          cases same
          exact fun variant member => typed variant member value
        rw [List.map_congr_left each]

theorem satisfies_kept_of_exact (exact : node.Everywhere Exact) : node.kept.satisfies = node.satisfies := by
  funext value
  rw [node.satisfies_kept, node.satisfies_eq, fits_kept exact]

theorem map_satisfies_asType {variants : List Node} {value : Json}
    (single : ∀ variant ∈ variants, variant.Whole ∧ variant.Everywhere Exact) :
    variants.map (·.asType.satisfies value) = variants.map (·.satisfies value) := by
  refine List.map_congr_left fun variant member => ?_
  obtain ⟨whole, exact⟩ := single variant member
  rw [whole.satisfies_asType (fits_kept exact)]

theorem Faithful.kept (faithful : node.Faithful) : node.kept.satisfies = node.satisfies :=
  satisfies_kept_of_exact (faithful.mono fun _ expressible => expressible.exact)

theorem fits_null_of_isRecord (record : isRecord node = true) : node.fits .null = false := by
  obtain ⟨kind, facets⟩ := node
  cases kind with
  | object shape => exact fits_object .null
  | _ => cases record

theorem satisfies_asType_of_satisfies (null : node.facets.nullable = true → node.fits .null = true)
    (kept : ∀ value, node.fits value = true → node.kept.fits value = true) {value : Json}
    (satisfied : node.satisfies value = true) : node.asType.satisfies value = true := by
  rw [node.satisfies_eq, Facets.admits, Bool.or_eq_true] at satisfied
  rw [node.satisfies_asType, typeFacets]
  rcases satisfied with absent | present
  · rw [Bool.and_eq_true] at absent
    have fits := null absent.1
    split
    · rename_i record
      rw [fits_null_of_isRecord record] at fits
      cases fits
    · rw [Facets.plain_default.admits]
      cases value with
      | null => exact kept .null fits
      | _ => cases absent.2
  · simp only [Bool.and_eq_true] at present
    split
    · simp only [Facets.admits, Bool.false_and, Bool.false_or, Bool.and_eq_true]
      exact ⟨⟨kept value present.1.1, present.1.2⟩, present.2⟩
    · rw [Facets.plain_default.admits]
      exact kept value present.1.1

theorem fits_kept_of_fits (guarded : node.Everywhere Guarded) (value : Json) (fits : node.fits value = true) :
    node.kept.fits value = true := by
  induction guarded generalizing value with
  | @intro node here inside ih =>
      have typed : ∀ part ∈ node.typedParts, ∀ value,
          part.satisfies value = true → part.asType.satisfies value = true := by
        intro part member value
        exact satisfies_asType_of_satisfies (here.typed part member) (ih part (mem_parts_of_typedParts member))
      refine Congruent.imp.fits (fun part member value => ?_) typed (fun shape _ fields => ?_)
        (fun mode variants same value => ?_) value fits
      · rw [part.satisfies_kept, part.satisfies_eq]
        exact Congruent.imp.admits (ih part member value)
      · intro all
        rw [List.all_eq_true] at all ⊢
        exact fun name member => all name (List.mem_of_mem_filter member)
      · obtain ⟨kind, facets⟩ := node
        cases same
        cases mode with
        | anyOf =>
            simp only [UnionMode.holds, List.any_map]
            exact Congruent.imp.any fun variant member => typed variant member value
        | oneOf =>
            -- More variants that accept would be worse than none, so the variants must accept just the same.
            rw [map_satisfies_asType (here.single variants rfl)]
            exact id

theorem satisfies_kept_of_satisfies (guarded : node.Everywhere Guarded) (value : Json)
    (satisfied : node.satisfies value = true) : node.kept.satisfies value = true := by
  rw [node.satisfies_eq] at satisfied
  rw [node.satisfies_kept]
  exact Congruent.imp.admits (fits_kept_of_fits guarded value) satisfied

end Node

end Schema

end ApiAtlas
