import ApiAtlas.Proofs.Schema.Resolves
import ApiAtlas.Proofs.Table

/-! # Resolved schemas as trees

The parts of a node, the node behind a reference included, and conditions that hold throughout a
tree. A condition on structures and facets holds throughout whatever a schema resolves to, once it
survives merging and filling in.
-/

namespace ApiAtlas

namespace Schema

/-- The schemas that an object schema holds. -/
def Shape.values {α : Type} (shape : Shape α) : List α :=
  shape.properties.map (·.2) ++
    match shape.additional with
    | .typed value => [value]
    | _ => []

/-- The nodes directly inside a node. -/
def Node.parts : Node → List Node
  | ⟨.object shape, _⟩ => shape.values
  | ⟨.array items, _⟩ => [items]
  | ⟨.primitive _, _⟩ => []
  | ⟨.union _ variants, _⟩ => variants
  | ⟨.reference _ resolved, _⟩ => [resolved]
  | ⟨.any, _⟩ => []

/-- A condition holds of a node and of all nodes inside it. -/
inductive Node.Everywhere (P : Node → Prop) : Node → Prop where
  | intro {node : Node} : P node → (∀ part ∈ node.parts, Everywhere P part) → Everywhere P node

namespace Shape

variable {α : Type} {shape part : Shape α} {value : α}

theorem mem_values_of_property {name : String} (member : (name, value) ∈ shape.properties) :
    value ∈ shape.values := List.mem_append_left _ (List.mem_map_of_mem member)

theorem mem_values_of_additional (said : shape.additional = .typed value) : value ∈ shape.values := by
  unfold values
  rw [said]
  exact List.mem_append_right _ (List.mem_singleton_self _)

theorem mem_values : value ∈ shape.values ↔
    (∃ name, (name, value) ∈ shape.properties) ∨ shape.additional = .typed value := by
  unfold values
  rw [List.mem_append, List.mem_map]
  refine or_congr ?_ ?_
  · constructor
    · rintro ⟨⟨name, _⟩, member, rfl⟩
      exact ⟨name, member⟩
    · rintro ⟨name, member⟩
      exact ⟨(name, value), member, rfl⟩
  · cases shape.additional with
    | typed other => simp [eq_comm]
    | unspecified | forbidden => simp

/-- Merging brings no schemas of its own. -/
theorem mem_values_merge (member : value ∈ (shape.merge part).values) :
    value ∈ shape.values ∨ value ∈ part.values := by
  rcases mem_values.mp member with ⟨name, member⟩ | said
  · rcases Table.mem_of_mem_foldl_put member with member | member
    · exact .inl (mem_values_of_property member)
    · exact .inr (mem_values_of_property member)
  · rw [merge] at said
    split at said
    · exact .inr (mem_values_of_additional said)
    · exact .inl (mem_values_of_additional said)

theorem mem_values_foldl_merge {shapes : List (Shape α)}
    (member : value ∈ (shapes.foldl merge shape).values) :
    value ∈ shape.values ∨ ∃ part ∈ shapes, value ∈ part.values := by
  induction shapes generalizing shape with
  | nil => exact .inl member
  | cons part shapes ih =>
      rcases ih member with member | ⟨other, found, member⟩
      · rcases mem_values_merge member with member | member
        · exact .inl member
        · exact .inr ⟨part, List.mem_cons_self, member⟩
      · exact .inr ⟨other, List.mem_cons_of_mem _ found, member⟩

end Shape

namespace Node

theorem sizeOf_lt_of_mem_parts {node part : Node} (member : part ∈ node.parts) :
    sizeOf part < sizeOf node := by
  obtain ⟨kind, facets⟩ := node
  cases kind with
  | object shape =>
      obtain ⟨properties, required, additional⟩ := shape
      rcases Shape.mem_values.mp member with ⟨name, member⟩ | said
      · have small := List.sizeOf_lt_of_mem member
        simp only [Prod.mk.sizeOf_spec, mk.sizeOf_spec, Kind.object.sizeOf_spec, Shape.mk.sizeOf_spec] at small ⊢
        omega
      · cases said
        simp only [mk.sizeOf_spec, Kind.object.sizeOf_spec, Shape.mk.sizeOf_spec, Additional.typed.sizeOf_spec]
        omega
  | array items =>
      obtain rfl := List.mem_singleton.mp member
      simp only [mk.sizeOf_spec, Kind.array.sizeOf_spec]
      omega
  | union mode variants =>
      have small : sizeOf part < sizeOf variants := List.sizeOf_lt_of_mem member
      simp only [mk.sizeOf_spec, Kind.union.sizeOf_spec]
      omega
  | reference name resolved =>
      obtain rfl := List.mem_singleton.mp member
      simp only [mk.sizeOf_spec, Kind.reference.sizeOf_spec]
      omega
  | primitive | any => cases member

theorem parts_withFacets {node : Node} {facets : Facets} : (node.withFacets facets).parts = node.parts := by
  obtain ⟨kind, _⟩ := node
  cases kind <;> rfl

theorem target_reference {name : String} {resolved : Node} {facets : Facets} :
    target ⟨.reference name resolved, facets⟩ = resolved.target := by rw [target]

namespace Everywhere

variable {P : Node → Prop} {node part : Node}

theorem here (h : Everywhere P node) : P node := by
  cases h with
  | intro here _ => exact here

theorem inside (h : Everywhere P node) (member : part ∈ node.parts) : Everywhere P part := by
  cases h with
  | intro _ inside => exact inside part member

theorem mono {Q : Node → Prop} (h : Everywhere P node) (weaker : ∀ node, P node → Q node) :
    Everywhere Q node := by
  induction h with
  | intro here _ ih => exact .intro (weaker _ here) ih

theorem target (h : Everywhere P node) : Everywhere P node.target := by
  induction h with
  | @intro node here inside ih =>
      obtain ⟨kind, facets⟩ := node
      cases kind with
      | reference name resolved =>
          rw [target_reference]
          exact ih resolved (List.mem_singleton_self _)
      | _ => exact .intro here inside

end Everywhere

end Node

/-- Conditions on the structure and the facets of a node that every node satisfies which is read off
schema objects as they should be. -/
structure Lasting (K : Kind Node → Prop) (F : Facets → Prop) (Q : Table Json → Prop) : Prop where
  any : K .any
  primitive (type : Primitive) : K (.primitive type)
  array (items : Node) : K (.array items)
  union (mode : UnionMode) {variants : List Node} : variants ≠ [] → K (.union mode variants)
  object {fields : Table Json} {answers : List (Json × Node)} {shape : Shape Node} :
    Q fields → (Inquiry.shape fields).Transcript answers shape → K (.object shape)
  bare : K (.object {})
  merge {shape part : Shape Node} :
    K (.object shape) → K (.object part) → K (.object (shape.merge part))
  none : F {}
  read {fields : Table Json} : Q fields → F (Facets.ofFields fields)
  fill {facets other : Facets} : F facets → F other → F (facets.fillFrom other)

/-- The conditions on structure and facets as one on nodes. -/
def Node.Has (K : Kind Node → Prop) (F : Facets → Prop) (node : Node) : Prop :=
  K node.kind ∧ F node.facets

namespace Lasting

open Inquiry Transcript

variable {K : Kind Node → Prop} {F : Facets → Prop} {Q : Table Json → Prop} {fields : Table Json}
  {facets : Facets} {answers : List (Json × Node)} {node : Node}

/-- The nodes of an object schema are those of the answers. -/
theorem mem_of_shape {found : Shape Node} (h : (Inquiry.shape fields).Transcript answers found)
    (member : node ∈ found.values) : node ∈ answers.map (·.2) := by
  obtain ⟨first, second, rfl, declared, said, _⟩ := shape_iff.mp h
  rw [List.map_append, List.mem_append]
  rcases Shape.mem_values.mp member with ⟨name, member⟩ | typed
  · left
    rcases properties_iff.mp declared with ⟨_, _, empty⟩ | ⟨entries, _, _, same⟩
    · rw [empty] at member
      exact absurd member List.not_mem_nil
    · rw [same] at member
      exact (List.of_mem_zip member).2
  · right
    rw [typed] at said
    rcases additional_iff.mp said with ⟨_, same, _⟩ | ⟨_, same, _⟩ | ⟨_, _, _, _, rfl, same⟩
    · cases same
    · cases same
    · cases same
      exact List.mem_singleton_self _

variable (law : Lasting K F Q)
include law

theorem everywhere_any (meets : F facets) : (⟨.any, facets⟩ : Node).Everywhere (Node.Has K F) :=
  .intro ⟨law.any, meets⟩ nofun

theorem everywhere_shape {found : Shape Node} (good : Q fields)
    (h : (Inquiry.shape fields).Transcript answers found)
    (answered : ∀ answer ∈ answers, answer.2.Everywhere (Node.Has K F)) (meets : F facets) :
    (⟨.object found, facets⟩ : Node).Everywhere (Node.Has K F) := by
  refine .intro ⟨law.object good h, meets⟩ fun part member => ?_
  obtain ⟨answer, asked, rfl⟩ := List.mem_map.mp (mem_of_shape h member)
  exact answered answer asked

theorem everywhere_typed {type : String} (good : Q fields)
    (h : (typed fields type facets).Transcript answers node)
    (answered : ∀ answer ∈ answers, answer.2.Everywhere (Node.Has K F)) (meets : F facets) :
    node.Everywhere (Node.Has K F) := by
  rcases typed_iff.mp h with ⟨_, found, shown, rfl⟩ | ⟨_, found, shown, rfl⟩ | ⟨_, _, _, primitive, _, rfl⟩
  · exact law.everywhere_shape good shown answered meets
  · refine .intro ⟨law.array found, meets⟩ fun part member => ?_
    obtain rfl := List.mem_singleton.mp member
    rcases items_iff.mp shown with ⟨_, _, rfl⟩ | ⟨schema, _, _, rfl⟩
    · exact law.everywhere_any law.none
    · exact answered _ (List.mem_singleton_self _)
  · exact .intro ⟨law.primitive primitive, meets⟩ nofun

theorem everywhere_typeList {types : List Json} (good : Q fields)
    (h : (typeList fields types facets).Transcript answers node)
    (answered : ∀ answer ∈ answers, answer.2.Everywhere (Node.Has K F)) (meets : F facets) :
    node.Everywhere (Node.Has K F) := by
  obtain ⟨names, _, ⟨_, _, rfl⟩ | ⟨name, _, shown⟩ | ⟨several, variants, shown, rfl⟩⟩ := typeList_iff.mp h
  · exact law.everywhere_any meets
  · exact law.everywhere_typed good shown answered meets
  · have nonempty : variants ≠ [] := by
      rintro rfl
      have length := length_of_mapM shown
      rw [List.length_nil] at length
      omega
    refine .intro ⟨law.union .anyOf nonempty, meets⟩ fun part member => ?_
    obtain ⟨name, _, asked, subset, shown⟩ := mem_of_mapM shown member
    exact law.everywhere_typed good shown (fun answer inside => answered answer (subset inside)) law.none

theorem everywhere_merged {parts : List Node} (h : (merged parts facets).Transcript [] node)
    (each : ∀ part ∈ parts, part.Everywhere (Node.Has K F)) (meets : F facets) :
    node.Everywhere (Node.Has K F) := by
  obtain ⟨_, ⟨_, rfl⟩ | ⟨single, rfl, _, rfl⟩ | ⟨_, shapes, same, rfl⟩⟩ := merged_iff.mp h
  · exact law.everywhere_any meets
  · have whole := each single (List.mem_singleton_self _)
    refine .intro ⟨whole.here.1, law.fill meets whole.here.2⟩ fun part member => whole.inside ?_
    rwa [← Node.parts_withFacets]
  · have branch : ∀ shape ∈ shapes, ∃ part ∈ parts, part.kind = .object shape := by
      intro shape member
      have listed : Kind.object shape ∈ parts.map Node.kind := same ▸ List.mem_map_of_mem member
      exact List.mem_map.mp listed
    have whole : K (.object (shapes.foldl Shape.merge {})) := by
      refine List.foldlRecOn (motive := fun sum => K (.object sum)) shapes Shape.merge law.bare
        fun sum good shape member => ?_
      obtain ⟨part, found, kind⟩ := branch shape member
      exact law.merge good (kind ▸ (each part found).here.1)
    refine .intro ⟨whole, meets⟩ fun value member => ?_
    rcases Shape.mem_values_foldl_merge member with member | ⟨shape, found, member⟩
    · exact absurd member List.not_mem_nil
    · obtain ⟨⟨kind, inside⟩, listed, rfl⟩ := branch shape found
      exact (each _ listed).inside member

/-- What a schema object resolves to keeps the conditions if everything inside it does. -/
theorem everywhere_plain (good : Q fields)
    (h : (plain fields (Facets.ofFields fields)).Transcript answers node)
    (answered : ∀ answer ∈ answers, answer.2.Everywhere (Node.Has K F)) :
    node.Everywhere (Node.Has K F) := by
  have meets := law.read good
  have form : Form fields _ (plain fields (Facets.ofFields fields)) (inner fields) := form_plain
  generalize plain fields (Facets.ofFields fields) = reading at h form
  generalize inner fields = asked at form
  cases form with
  | allOf value =>
      obtain ⟨first, second, nodes, rfl, _, _, besides, shown⟩ := allOf_iff.mp h
      have written : ∀ part ∈ first.map (·.2) ++ nodes, part.Everywhere (Node.Has K F) := by
        intro part member
        rcases List.mem_append.mp member with member | member
        · obtain ⟨answer, asked, rfl⟩ := List.mem_map.mp member
          exact answered answer (List.mem_append_left _ asked)
        · rw [beside_iff] at besides
          split at besides
          · obtain ⟨found, object, rfl⟩ := besides
            obtain rfl := List.mem_singleton.mp member
            exact law.everywhere_shape good object
              (fun answer asked => answered answer (List.mem_append_right _ asked)) law.none
          · rw [besides.2] at member
            exact absurd member List.not_mem_nil
      refine law.everywhere_merged shown (fun part member => ?_) meets
      obtain ⟨branch, listed, rfl⟩ := List.mem_map.mp (List.mem_filter.mp member).1
      exact (written branch listed).target
  | union mode value =>
      obtain ⟨_, nonempty, rfl⟩ := union_iff.mp h
      refine .intro ⟨law.union mode (by simpa using nonempty), meets⟩ fun part member => ?_
      obtain ⟨answer, asked, rfl⟩ := List.mem_map.mp member
      exact answered answer asked
  | typed type => exact law.everywhere_typed good h answered meets
  | typeList types => exact law.everywhere_typeList good h answered meets
  | reject reason => exact absurd h reject_iff
  | any =>
      obtain ⟨_, rfl⟩ := pure_iff.mp h
      exact law.everywhere_any meets

end Lasting

/-- A condition on schemas that holds of the schemas inside as well. -/
structure Hereditary (components : Table Json) (Q : Table Json → Prop) (S : Json → Prop) : Prop where
  object {fields : Table Json} : S (.object fields) → Q fields
  inner {fields : Table Json} {schema : Json} : S (.object fields) → schema ∈ inner fields → S schema
  component {name : String} {schema : Json} : Table.get? name components = some schema → S schema

/-- A node with a title keeps the conditions if its facets do. -/
theorem Node.Everywhere.titled {K : Kind Node → Prop} {F : Facets → Prop} {node : Node} {name : String}
    (h : node.Everywhere (Node.Has K F)) (meets : F (node.titled name).facets) :
    (node.titled name).Everywhere (Node.Has K F) := by
  refine .intro ⟨h.here.1, meets⟩ fun part member => h.inside ?_
  rwa [Node.titled, Node.parts_withFacets] at member

section Documents

variable {components : Table Json} {K : Kind Node → Prop} {F : Facets → Prop} {Q : Table Json → Prop}
  {S : Json → Prop} {schema : Json} {node : Node} {name : String} (law : Lasting K F Q)
  (titled : ∀ {facets : Facets} {name : String}, Table.has name components → F facets →
    F { facets with title := some (facets.title.getD name) })
  (reference : ∀ {text name : String} {inside : Node}, componentName? text = some name →
    IsComponent components name inside → K (.reference name inside))
  (heredity : Hereditary components Q S)

include law titled reference heredity

/-- Conditions that last hold throughout the node of a schema. -/
theorem Resolves.everywhere (h : Resolves components schema node) (good : S schema) :
    node.Everywhere (Node.Has K F) := by
  induction h with
  | truth => exact law.everywhere_any law.none
  | @reference fields text name schema node written named present inside ih =>
      have whole := ih (heredity.component present)
      refine .intro ⟨reference named ⟨schema, node, present, inside, rfl⟩, law.read (heredity.object good)⟩ ?_
      intro part member
      obtain rfl := List.mem_singleton.mp member
      exact whole.titled (titled (Table.has_of_get? present) whole.here.2)
  | plain absent shown _ ih =>
      refine law.everywhere_plain (heredity.object good) shown fun answer asked => ?_
      refine ih answer asked (heredity.inner good ?_)
      rw [← Inquiry.Transcript.asked_plain shown]
      exact List.mem_map_of_mem asked

/-- Conditions that last hold throughout the node of a component. -/
theorem IsComponent.everywhere (h : IsComponent components name node) : node.Everywhere (Node.Has K F) := by
  obtain ⟨schema, inside, present, resolves, rfl⟩ := h
  have whole := resolves.everywhere law titled reference heredity (heredity.component present)
  exact whole.titled (titled (Table.has_of_get? present) whole.here.2)

end Documents

/-- A reference carries what its component resolves to. -/
def Kind.Canonical (components : Table Json) (kind : Kind Node) : Prop :=
  ∀ name resolved, kind = .reference name resolved → IsComponent components name resolved

/-- Every reference in a tree carries what its component resolves to. -/
theorem Resolves.canonical {components : Table Json} {schema : Json} {node : Node}
    (h : Resolves components schema node) :
    node.Everywhere fun node => Kind.Canonical components node.kind := by
  have law : Lasting (Kind.Canonical components) (fun _ => True) (fun _ => True) := {
    any := nofun
    primitive _ := nofun
    array _ := nofun
    union _ _ _ := nofun
    object _ _ := nofun
    bare := nofun
    merge _ _ := nofun
    none := trivial
    read _ := trivial
    fill _ _ := trivial }
  have heredity : Hereditary components (fun _ => True) (fun _ => True) :=
    ⟨fun _ => trivial, fun _ _ => trivial, fun _ => trivial⟩
  have whole := h.everywhere law (fun _ meets => meets) (fun _ known _ _ same => by cases same; exact known) heredity trivial
  exact whole.mono fun _ both => both.1

end Schema

end ApiAtlas
