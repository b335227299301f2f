import ApiAtlas.Proofs.Document.Keyed
import ApiAtlas.Proofs.Schema.Cycles

/-! # Nodes that are read from documents

What a schema with distinct keys resolves to has distinct properties and constraints everywhere, and a
schema without a reference resolves to no reference.
-/

namespace ApiAtlas

namespace Schema

/-- Facets as they are read from a document: distinct keys everywhere, and only known constraints. -/
structure Facets.Regular (facets : Facets) : Prop where
  choices : ∀ choice ∈ facets.choices, choice.Keyed
  distinct : (Table.keys facets.constraints).Nodup
  known : ∀ keyword ∈ Table.keys facets.constraints, keyword ∈ constraintKeywords
  arguments : ∀ entry ∈ facets.constraints, entry.2.Keyed

/-- The structure of a node that is read from a document: properties are distinct, and references
canonical. -/
structure Kind.Regular (components : Table Json) (kind : Kind Node) : Prop where
  canonical : kind.Canonical components
  distinct : ∀ shape, kind = .object shape → (Table.keys shape.properties).Nodup

/-- A node that is read from a document. -/
def Node.Regular (components : Table Json) (node : Node) : Prop :=
  node.Everywhere (Node.Has (Kind.Regular components) Facets.Regular)

/-- The schemas inside a schema with distinct keys have distinct keys. -/
theorem keyed_inner {fields : Table Json} {schema : Json} (keyed : (Json.object fields).Keyed)
    (member : schema ∈ inner fields) : schema.Keyed := by
  cases standsIn_of_mem_inner member with
  | keyword _ found => exact keyed.get found
  | property found listed => exact (keyed.get found).field listed
  | branch _ found listed => exact (keyed.get found).item listed

section Facets

variable {facets other : Facets} {fields : Table Json}

theorem Facets.Regular.none : ({} : Facets).Regular := ⟨nofun, .nil, nofun, nofun⟩

theorem keys_found_sublist (keywords : List String) (fields : Table Json) :
    (Table.keys (keywords.filterMap fun keyword => (Table.get? keyword fields).map (keyword, ·))).Sublist keywords := by
  induction keywords with
  | nil => exact .slnil
  | cons keyword keywords ih =>
      rw [List.filterMap_cons]
      cases Table.get? keyword fields with
      | none => exact ih.cons keyword
      | some value => exact ih.cons_cons keyword

theorem Facets.Regular.read (keyed : (Json.object fields).Keyed) : (ofFields fields).Regular := by
  have listed : ∀ entry ∈ (ofFields fields).constraints, entry.1 ∈ constraintKeywords ∧
      Table.get? entry.1 fields = some entry.2 := by
    intro entry member
    obtain ⟨keyword, known, found⟩ := List.mem_filterMap.mp member
    obtain ⟨value, there, rfl⟩ := Option.map_eq_some_iff.mp found
    exact ⟨known, there⟩
  refine ⟨?_, ?_, fun keyword member => ?_, fun entry member => keyed.get (listed entry member).2⟩
  · intro choice member
    rw [ofFields] at member
    cases found : Table.get? "enum" fields with
    | none => simp [found] at member
    | some value =>
        cases value with
        | array items =>
            rw [found] at member
            exact (keyed.get found).item member
        | _ => simp [found, Json.items?] at member
  · exact (keys_found_sublist constraintKeywords fields).nodup (by decide)
  · obtain ⟨value, member⟩ := Table.mem_keys.mp member
    exact (listed _ member).1

theorem Facets.Regular.fill (regular : facets.Regular) (regular' : other.Regular) :
    (facets.fillFrom other).Regular := by
  refine ⟨?_, Table.nodup_keys_foldl_putNew regular.distinct, fun keyword member => ?_, fun entry member => ?_⟩
  · rw [fillFrom]
    split
    · exact regular'.choices
    · exact regular.choices
  · obtain ⟨value, member⟩ := Table.mem_keys.mp member
    rcases Table.mem_of_mem_foldl_putNew member with member | member
    · exact regular.known keyword (Table.mem_keys.mpr ⟨value, member⟩)
    · exact regular'.known keyword (Table.mem_keys.mpr ⟨value, member⟩)
  · rcases Table.mem_of_mem_foldl_putNew member with member | member
    · exact regular.arguments entry member
    · exact regular'.arguments entry member

end Facets

section Nodes

variable {components : Table Json} {schema : Json} {node : Node}

theorem distinct_of_shape {fields : Table Json} {answers : List (Json × Node)} {shape : Shape Node}
    (keyed : (Json.object fields).Keyed) (h : (Inquiry.shape fields).Transcript answers shape) :
    (Table.keys shape.properties).Nodup := by
  obtain ⟨first, second, _, declared, _⟩ := Inquiry.Transcript.shape_iff.mp h
  rcases Inquiry.Transcript.properties_iff.mp declared with ⟨_, _, empty⟩ | ⟨entries, found, same, zipped⟩
  · rw [empty]
    exact .nil
  · have distinct : (Table.keys entries).Nodup := (keyed.get found).distinct
    have lengths : (entries.map (·.1)).length ≤ (first.map (·.2)).length := by
      have equal := congrArg List.length same
      simp only [List.length_map] at equal ⊢
      omega
    rwa [zipped, Table.keys, List.map_fst_zip lengths]

theorem lasting_regular : Lasting (Kind.Regular components) Facets.Regular fun fields => (Json.object fields).Keyed where
  any := ⟨nofun, nofun⟩
  primitive _ := ⟨nofun, nofun⟩
  array _ := ⟨nofun, nofun⟩
  union _ _ _ := ⟨nofun, nofun⟩
  object keyed shown := ⟨nofun, fun shape same => by cases same; exact distinct_of_shape keyed shown⟩
  bare := ⟨nofun, fun shape same => by cases same; exact .nil⟩
  merge first second := ⟨nofun, fun shape same => by
    cases same
    exact Table.nodup_keys_foldl_put (first.distinct _ rfl)⟩
  none := .none
  read := .read
  fill := .fill

theorem hereditary_keyed (known : ∀ {name schema}, Table.get? name components = some schema → schema.Keyed) :
    Hereditary components (fun fields => (Json.object fields).Keyed) Json.Keyed := ⟨id, keyed_inner, known⟩

theorem Facets.Regular.titled {facets : Facets} {title : Option String} (regular : facets.Regular) :
    Facets.Regular { facets with title } := ⟨regular.choices, regular.distinct, regular.known, regular.arguments⟩

theorem Kind.Regular.reference {name : String} (component : IsComponent components name node) :
    Kind.Regular components (.reference name node) := ⟨fun _ _ same => by cases same; exact component, nofun⟩

/-- The node of a schema with distinct keys is regular. -/
theorem Resolves.regular (known : ∀ {name schema}, Table.get? name components = some schema → schema.Keyed)
    (h : Resolves components schema node) (keyed : schema.Keyed) : node.Regular components :=
  h.everywhere lasting_regular (fun _ => .titled) (fun _ => .reference) (hereditary_keyed known) keyed

theorem IsComponent.regular {name : String}
    (known : ∀ {name schema}, Table.get? name components = some schema → schema.Keyed)
    (h : IsComponent components name node) : node.Regular components :=
  h.everywhere lasting_regular (fun _ => .titled) (fun _ => .reference) (hereditary_keyed known)

end Nodes

section Inline

variable {components : Table Json} {fields : Table Json} {schema : Json} {facets : Facets}
  {answers : List (Json × Node)} {node : Node}

theorem Node.referenceTarget?_target (node : Node) : node.target.referenceTarget? = none := by
  obtain ⟨kind, facets⟩ := node
  cases kind with
  | reference name resolved =>
      rw [target_reference]
      exact referenceTarget?_target resolved
  | _ => rfl

open Inquiry Transcript in
theorem referenceTarget?_typed {type : String} (h : (typed fields type facets).Transcript answers node) :
    node.referenceTarget? = none := by
  rcases typed_iff.mp h with ⟨_, _, _, rfl⟩ | ⟨_, _, _, rfl⟩ | ⟨_, _, _, _, _, rfl⟩ <;> rfl

open Inquiry Transcript in
/-- A schema object without `$ref` resolves to no reference. -/
theorem referenceTarget?_plain (h : (plain fields facets).Transcript answers node) :
    node.referenceTarget? = none := by
  have form : Form fields facets (plain fields facets) (inner fields) := form_plain
  generalize plain fields facets = reading at h form
  generalize inner fields = asked at form
  cases form with
  | allOf value =>
      obtain ⟨_, _, nodes, _, _, _, _, shown⟩ := allOf_iff.mp h
      obtain ⟨_, ⟨_, rfl⟩ | ⟨single, listed, _, rfl⟩ | ⟨_, _, _, rfl⟩⟩ := merged_iff.mp shown
      · rfl
      · have member : single ∈ [single] := List.mem_singleton_self single
        rw [← listed] at member
        obtain ⟨branch, _, rfl⟩ := List.mem_map.mp (List.mem_filter.mp member).1
        exact branch.referenceTarget?_target
      · rfl
  | union mode value =>
      obtain ⟨_, _, rfl⟩ := union_iff.mp h
      rfl
  | typed type => exact referenceTarget?_typed h
  | typeList types =>
      obtain ⟨_, _, ⟨_, _, rfl⟩ | ⟨_, _, shown⟩ | ⟨_, _, _, rfl⟩⟩ := typeList_iff.mp h
      · rfl
      · exact referenceTarget?_typed shown
      · rfl
  | reject reason => exact absurd h reject_iff
  | any =>
      obtain ⟨_, rfl⟩ := pure_iff.mp h
      rfl

theorem Resolves.referenceTarget?_eq_none (h : Resolves components schema node)
    (inline : schema.get? "$ref" = none) : node.referenceTarget? = none := by
  cases h with
  | truth => rfl
  | reference written =>
      rw [Json.get?, written] at inline
      cases inline
  | plain _ shown => exact referenceTarget?_plain shown

theorem Resolves.referenceTarget?_eq_some (h : Resolves components schema node) {reference name : String}
    (written : schema.textAt? "$ref" = some reference) (named : componentName? reference = some name) :
    node.referenceTarget? = some name := by
  obtain ⟨found, _, _, same, _, _, kind⟩ := h.exists_target written
  rw [Node.referenceTarget?, kind, ← Option.some.inj (same.symm.trans named)]

end Inline

end Schema

end ApiAtlas
