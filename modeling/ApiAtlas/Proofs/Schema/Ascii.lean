import ApiAtlas.Proofs.Schema.Tree
import ApiAtlas.Proofs.Text.Basic

/-! # Schemas with names in ASCII

If titles and property names are in ASCII throughout a schema and throughout the components, they are in whatever the
schema resolves to: titles are read, filled in from another schema, or made of the key of a component.
-/

namespace ApiAtlas

namespace Schema

open Text (IsAscii)

/-- The names that a schema object gives are in ASCII: its title, and those of its properties. -/
@[mk_iff] structure AsciiNames (fields : Table Json) : Prop where
  title {title : String} : (Json.object fields).textAt? "title" = some title → IsAscii title
  properties {entries : Table Json} : Table.get? "properties" fields = some (.object entries) →
    ∀ name ∈ Table.keys entries, IsAscii name

/-- The names that a schema and the schemas inside it give are in ASCII. -/
inductive AsciiSchema : Json → Prop where
  | object {fields : Table Json} : AsciiNames fields → (∀ schema, StandsIn fields schema → AsciiSchema schema) →
    AsciiSchema (.object fields)
  | other {schema : Json} : schema.isObject = false → AsciiSchema schema

/-- A schema object has names in ASCII if it gives such names and the schemas that stand in it do. -/
theorem asciiSchema_object_iff {fields : Table Json} : AsciiSchema (.object fields) ↔ AsciiNames fields ∧
    (∀ key ∈ ["additionalProperties", "items"], ∀ schema, Table.get? key fields = some schema → AsciiSchema schema) ∧
    (∀ entries, Table.get? "properties" fields = some (.object entries) → ∀ entry ∈ entries, AsciiSchema entry.2) ∧
    ∀ key ∈ ["allOf", "anyOf", "oneOf"], ∀ items, Table.get? key fields = some (.array items) →
      ∀ schema ∈ items, AsciiSchema schema := by
  constructor
  · intro ascii
    cases ascii with
    | object names inside =>
        exact ⟨names, fun _ known _ found => inside _ (.keyword known found),
          fun _ found _ listed => inside _ (.property found listed),
          fun _ known _ found _ listed => inside _ (.branch known found listed)⟩
    | other not => cases not
  · rintro ⟨names, keywords, properties, branches⟩
    refine .object names fun schema stands => ?_
    cases stands with
    | keyword known found => exact keywords _ known _ found
    | property found listed => exact properties _ found _ listed
    | branch known found listed => exact branches _ known _ found _ listed

/-- The title is in ASCII. -/
def Facets.AsciiTitle (facets : Facets) : Prop := ∀ title, facets.title = some title → IsAscii title

/-- The names of properties, and that of the component that is referred to, are in ASCII. -/
structure Kind.AsciiNames (kind : Kind Node) : Prop where
  properties {shape : Shape Node} : kind = .object shape → ∀ name ∈ Table.keys shape.properties, IsAscii name
  target {name : String} {resolved : Node} : kind = .reference name resolved → IsAscii name

/-- All names in a tree are in ASCII. -/
def Node.AsciiNames (node : Node) : Prop := node.Everywhere (Node.Has Kind.AsciiNames Facets.AsciiTitle)

variable {components fields : Table Json} {facets : Facets} {name : String} {schema : Json} {node : Node}

theorem Facets.AsciiTitle.read (names : AsciiNames fields) : (ofFields fields).AsciiTitle := fun _ => names.title

theorem Facets.AsciiTitle.fill {other : Facets} (ascii : facets.AsciiTitle) (ascii' : other.AsciiTitle) :
    (facets.fillFrom other).AsciiTitle := by
  intro title found
  rcases Option.or_eq_some_iff.mp found with found | ⟨_, found⟩
  · exact ascii title found
  · exact ascii' title found

theorem Facets.AsciiTitle.titled (ascii : IsAscii name) (titled : facets.AsciiTitle) :
    Facets.AsciiTitle { facets with title := some (facets.title.getD name) } := by
  intro title found
  cases present : facets.title with
  | none =>
      simp only [present, Option.getD_none, Option.some.injEq] at found
      exact found ▸ ascii
  | some own =>
      simp only [present, Option.getD_some, Option.some.injEq] at found
      exact found ▸ titled own present

theorem asciiNames_of_shape {answers : List (Json × Node)} {shape : Shape Node} (names : AsciiNames fields)
    (h : (Inquiry.shape fields).Transcript answers shape) : Kind.AsciiNames (.object shape) := by
  refine ⟨fun same => ?_, nofun⟩
  cases same
  obtain ⟨first, second, _, declared, _⟩ := Inquiry.Transcript.shape_iff.mp h
  rcases Inquiry.Transcript.properties_iff.mp declared with ⟨_, _, empty⟩ | ⟨entries, found, _, zipped⟩
  · rw [empty]
    exact nofun
  · intro name member
    rw [zipped] at member
    obtain ⟨value, listed⟩ := Table.mem_keys.mp member
    exact names.properties found name (List.of_mem_zip listed).1

theorem Kind.AsciiNames.merge {shape part : Shape Node} (first : Kind.AsciiNames (.object shape))
    (second : Kind.AsciiNames (.object part)) : Kind.AsciiNames (.object (shape.merge part)) := by
  refine ⟨fun same => ?_, nofun⟩
  cases same
  intro name member
  obtain ⟨value, listed⟩ := Table.mem_keys.mp member
  rcases Table.mem_of_mem_foldl_put listed with listed | listed
  · exact first.properties rfl name (Table.mem_keys.mpr ⟨value, listed⟩)
  · exact second.properties rfl name (Table.mem_keys.mpr ⟨value, listed⟩)

theorem lasting_asciiNames : Lasting Kind.AsciiNames Facets.AsciiTitle AsciiNames where
  any := ⟨nofun, nofun⟩
  primitive _ := ⟨nofun, nofun⟩
  array _ := ⟨nofun, nofun⟩
  union _ _ _ := ⟨nofun, nofun⟩
  object := asciiNames_of_shape
  bare := ⟨fun same => by cases same; exact nofun, nofun⟩
  merge := .merge
  none := nofun
  read := .read
  fill := .fill

/-- The keys of the components are in ASCII, and so are the names that their schemas give. -/
structure AsciiComponents (components : Table Json) : Prop where
  keys : ∀ key ∈ Table.keys components, IsAscii key
  schemas : ∀ entry ∈ components, AsciiSchema entry.2

namespace AsciiComponents

theorem hereditary (ascii : AsciiComponents components) : Hereditary components AsciiNames AsciiSchema where
  object h := by
    cases h with
    | object names _ => exact names
    | other not => cases not
  inner h member := by
    cases h with
    | object _ inside => exact inside _ (standsIn_of_mem_inner member)
    | other not => cases not
  component present := ascii.schemas _ (Table.mem_of_get? present)

theorem titled (ascii : AsciiComponents components) (present : Table.has name components)
    (titled : facets.AsciiTitle) : Facets.AsciiTitle { facets with title := some (facets.title.getD name) } :=
  titled.titled (ascii.keys name (Table.mem_keys_iff_has.mpr present))

theorem reference (ascii : AsciiComponents components) (component : IsComponent components name node) :
    Kind.AsciiNames (.reference name node) := by
  refine ⟨nofun, fun same => ?_⟩
  cases same
  obtain ⟨schema, _, present, _⟩ := component
  exact ascii.keys name (Table.mem_keys_iff_has.mpr (Table.has_of_get? present))

end AsciiComponents

/-- The names in what a schema resolves to are in ASCII. -/
theorem Resolves.asciiNames (ascii : AsciiComponents components) (h : Resolves components schema node)
    (names : AsciiSchema schema) : node.AsciiNames :=
  h.everywhere lasting_asciiNames ascii.titled (fun _ => ascii.reference) ascii.hereditary names

theorem IsComponent.asciiNames (ascii : AsciiComponents components) (h : IsComponent components name node) :
    node.AsciiNames :=
  IsComponent.everywhere lasting_asciiNames ascii.titled (fun _ => ascii.reference) ascii.hereditary h

end Schema

end ApiAtlas
