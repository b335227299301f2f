import ApiAtlas.Payload.WellFormed
import ApiAtlas.Proofs.Model.Rendering

/-! # Nullable schemas

A nullable schema admits null and, beside that, what it would admit if it were not nullable. A check can be built for
both or for neither. The keywords that say what values look like stay as they are.
-/

namespace ApiAtlas

namespace Schema.Facets

/-- Facets that are read from schema objects, one of which may fill what another one leaves open. -/
inductive Gathered : Facets → Prop where
  | read {fields : Table Json} (keyed : (Json.object fields).Keyed) : Gathered (ofFields fields)
  | fill {facets other : Facets} : Gathered facets → Gathered other → Gathered (facets.fillFrom other)

variable {facets : Facets}

theorem Gathered.regular (gathered : facets.Gathered) : facets.Regular := by
  induction gathered with
  | read keyed => exact .read keyed
  | fill _ _ first second => exact first.fill second

theorem Regular.nullable (regular : facets.Regular) (nullable : Bool) : { facets with nullable }.Regular :=
  ⟨regular.choices, regular.distinct, regular.known, regular.arguments⟩

end Schema.Facets

namespace Payload

section Faults

variable {follow : String → Option String} {fields others : Table Json} {schema first second : Json}

/-- The fault of a keyword. -/
def keywordFault? (keyword : String) (argument : Json) : Option Problem :=
  if keyword = "items" || keyword = "additionalProperties" then fault? argument
  else if keyword = "$defs" || keyword = "properties" then
    match argument with
    | .object entries => firstFieldFault? entries
    | _ => none
  else if keyword = "allOf" || keyword = "anyOf" || keyword = "oneOf" then
    match argument with
    | .array items => firstItemFault? items
    | _ => none
  else argumentFault? keyword argument

theorem faults_cons (keyword : String) (argument : Json) (rest : Table Json) :
    faults ((keyword, argument) :: rest) =
      match keywordFault? keyword argument with
      | some problem => (keyword, problem) :: faults rest
      | none => faults rest := by
  cases argument <;> rfl

/-- Neither the arguments of a schema have a fault, nor its patterns and references. -/
def Sound (follow : String → Option String) (schema : Json) : Prop :=
  fault? schema = none ∧ firstTextFault? follow schema = none

/-- A keyword has no fault. -/
def SoundEntry (follow : String → Option String) (entry : String × Json) : Prop :=
  keywordFault? entry.1 entry.2 = none ∧ fieldTextFault? follow [entry] = none

theorem faults_eq_nil_iff : faults fields = [] ↔ ∀ entry ∈ fields, keywordFault? entry.1 entry.2 = none := by
  induction fields with
  | nil => exact iff_of_true rfl nofun
  | cons entry fields ih =>
      rw [faults_cons, List.forall_mem_cons, ← ih]
      cases keywordFault? entry.1 entry.2 <;> simp

theorem fault?_object_iff :
    fault? (.object fields) = none ↔ ∀ entry ∈ fields, keywordFault? entry.1 entry.2 = none := by
  rw [← faults_eq_nil_iff, fault?]
  cases faults fields <;> simp

theorem fieldTextFault?_cons (entry : String × Json) (rest : Table Json) :
    fieldTextFault? follow (entry :: rest) = (fieldTextFault? follow [entry]).or (fieldTextFault? follow rest) := by
  obtain ⟨keyword, argument⟩ := entry
  rw [fieldTextFault?.eq_def, fieldTextFault?.eq_def follow [_]]
  dsimp only
  rw [fieldTextFault?.eq_def follow [], Option.or_none]

theorem firstTextFault?_object_iff : firstTextFault? follow (.object fields) = none ↔
    ∀ entry ∈ fields, fieldTextFault? follow [entry] = none := by
  rw [firstTextFault?]
  induction fields with
  | nil => exact iff_of_true (by rw [fieldTextFault?]) nofun
  | cons entry fields ih => rw [fieldTextFault?_cons, Option.or_eq_none_iff, List.forall_mem_cons, ih]

theorem sound_object_iff : Sound follow (.object fields) ↔ ∀ entry ∈ fields, SoundEntry follow entry := by
  rw [Sound, fault?_object_iff, firstTextFault?_object_iff]
  exact forall₂_and.symm

theorem soundEntry_anyOf_iff :
    SoundEntry follow ("anyOf", .array [first, second]) ↔ Sound follow first ∧ Sound follow second := by
  simp [SoundEntry, Sound, keywordFault?, firstItemFault?, fieldTextFault?, listTextFault?]
  tauto

theorem defect?_eq_none_iff : defect? schema = none ↔
    Sound (textFaults.faultBehind? (textFaults (definitionsOf schema) (definitionsOf schema).length)) schema := by
  simp [defect?, Sound]

/-- The same keyword with the same argument, unless it lists the admitted values. -/
def SameEntry (entry other : String × Json) : Prop :=
  entry.1 = other.1 ∧ (entry.1 ≠ "enum" → entry.2 = other.2)

theorem SameEntry.refl (entry : String × Json) : SameEntry entry entry := ⟨rfl, fun _ => rfl⟩

theorem SameEntry.sound_iff {entry other : String × Json} (same : SameEntry entry other) :
    SoundEntry follow entry ↔ SoundEntry follow other := by
  obtain ⟨keyword, argument⟩ := entry
  obtain ⟨keyword', argument'⟩ := other
  obtain ⟨rfl, same⟩ := same
  by_cases enum : keyword = "enum"
  · have harmless (argument : Json) : SoundEntry follow ("enum", argument) := by
      simp [SoundEntry, keywordFault?, argumentFault?, fieldTextFault?]
    subst enum
    exact iff_of_true (harmless _) (harmless _)
  · obtain rfl := same enum
    rfl

theorem sound_object_congr (same : fields.Forall₂ SameEntry others) :
    Sound follow (.object fields) ↔ Sound follow (.object others) := by
  rw [sound_object_iff, sound_object_iff]
  induction same with
  | nil => rfl
  | cons same _ ih => rw [List.forall_mem_cons, List.forall_mem_cons, same.sound_iff, ih]

end Faults

/-- What a root schema says about a value; nothing if no check can be built for it. -/
def verdict? (schema : Json) (strict : Bool) (value : Json) : Option Bool :=
  if (defect? schema).isNone then some (check schema strict value).isEmpty else none

/-- A root schema with definitions. -/
def rooted (definitions fields : Table Json) : Json := .object (Table.put "$defs" (.object definitions) fields)

section Roots

variable {follow : String → Option String} {definitions fields : Table Json}

theorem definitionsOf_rooted : definitionsOf (rooted definitions fields) = definitions := by
  rw [definitionsOf, rooted, Json.get?, Table.get?_put_self]
  rfl

theorem sound_rooted_iff (fresh : Table.has "$defs" fields = false) : Sound follow (rooted definitions fields) ↔
    Sound follow (.object fields) ∧ SoundEntry follow ("$defs", .object definitions) := by
  rw [rooted, Table.put_of_not_has fresh, sound_object_iff, sound_object_iff, List.forall_mem_append,
    List.forall_mem_singleton]

end Roots

end Payload

namespace Model

open Payload
open Schema (Facets)

variable {fields others : Table Json} {facets : Facets} {key : String} {value value' : Json}

section Decoration

theorem sameEntries_put (same : fields.Forall₂ SameEntry others) (argument : key ≠ "enum" → value = value') :
    (Table.put key value fields).Forall₂ SameEntry (Table.put key value' others) := by
  induction same with
  | nil => exact .cons ⟨rfl, argument⟩ .nil
  | @cons entry other _ _ here rest ih =>
      obtain ⟨keyword, _⟩ := entry
      obtain ⟨keyword', _⟩ := other
      obtain ⟨rfl, same⟩ := here
      rw [Table.put, Table.put]
      split
      · rename_i found
        exact .cons ⟨rfl, fun other => argument (found ▸ other)⟩ rest
      · exact .cons ⟨rfl, same⟩ ih

theorem sameEntries_putSome {argument : Option Json} (same : fields.Forall₂ SameEntry others) :
    (putSome key argument fields).Forall₂ SameEntry (putSome key argument others) := by
  cases argument with
  | none => exact same
  | some argument => exact sameEntries_put same fun _ => rfl

theorem sameEntries_puts {entries : Table Json} (same : fields.Forall₂ SameEntry others) :
    (entries.foldl (fun acc c => Table.put c.1 c.2 acc) fields).Forall₂ SameEntry
      (entries.foldl (fun acc c => Table.put c.1 c.2 acc) others) := by
  induction entries generalizing fields others with
  | nil => exact same
  | cons entry entries ih => exact ih (sameEntries_put same fun _ => rfl)

/-- Whether a schema is nullable is written into the admitted values only. -/
theorem sameEntries_decorated (nullable other : Bool) : (decorated fields { facets with nullable }).Forall₂ SameEntry
    (decorated fields { facets with nullable := other }) := by
  have same : fields.Forall₂ SameEntry fields := List.forall₂_same.mpr fun entry _ => .refl entry
  refine sameEntries_puts (sameEntries_putSome (sameEntries_putSome ?_))
  dsimp only
  split
  · exact sameEntries_putSome (sameEntries_putSome same)
  · exact sameEntries_put (sameEntries_putSome (sameEntries_putSome same)) fun other => absurd rfl other

end Decoration

section Nullability

variable {body : Body} {strict : Bool} {definitions : Table Json}

/-- Null is admitted, and beside that what is admitted anyway. -/
theorem passes_nullable (gathered : facets.Gathered) (env : Surroundings) (value : Json) :
    passes env (.object (withFacets (body.schemaFields strict) { facets with nullable := true })) value =
      (value.isNull ||
        passes env (.object (withFacets (body.schemaFields strict) { facets with nullable := false })) value) := by
  rw [passes_withFacets body.shapely (gathered.regular.nullable true),
    passes_withFacets body.shapely (gathered.regular.nullable false)]
  rfl

theorem isEmpty_check_rooted {mode : Bool} : (check (rooted definitions fields) mode value).isEmpty =
    passes ⟨mode, followWithin definitions mode definitions.length⟩ (.object fields) value := by
  rw [check, definitionsOf_rooted]
  exact passes_put_idle (by decide)

/-- A check can be built for both or for neither, since the two have the same keywords inside. -/
theorem defect?_nullable (gathered : facets.Gathered) :
    defect? (rooted definitions (withFacets (body.schemaFields strict) { facets with nullable := true })) = none ↔
    defect? (rooted definitions (withFacets (body.schemaFields strict) { facets with nullable := false })) = none := by
  have fresh : Table.has "$defs" (decorated (body.schemaFields strict) { facets with nullable := false }) = false := by
    rw [Table.not_has_iff, get?_decorated body.shapely (gathered.regular.nullable false) (by decide) (by decide),
      ← Table.not_has_iff]
    exact body.shapely.not_has (by decide)
  have null (follow : String → Option String) : Sound follow (.object [("type", .string "null")]) := by
    rw [sound_object_iff, List.forall_mem_singleton, SoundEntry]
    simp [keywordFault?, argumentFault?, fieldTextFault?]
  rw [defect?_eq_none_iff, defect?_eq_none_iff, definitionsOf_rooted, definitionsOf_rooted]
  simp only [withFacets, if_true, Bool.false_eq_true, if_false]
  rw [sound_rooted_iff (Table.not_has_iff.mpr (Table.get?_cons_ne (by decide))), sound_rooted_iff fresh,
    sound_object_iff, List.forall_mem_singleton, soundEntry_anyOf_iff,
    sound_object_congr (sameEntries_decorated true false)]
  simp [null]

end Nullability

/-- A nullable schema of a type or of a record says of a value what it would say if it were not nullable, unless the
value is null, which it admits; this holds wherever the schema stands, and of a root with definitions, for which a check
can be built in both cases or in neither. Facets never replace a keyword that says what values look like. -/
theorem withFacets_nullable (body : Body) (strict : Bool) (gathered : facets.Gathered) :
    (∀ env value, passes env (.object (withFacets (body.schemaFields strict) { facets with nullable := true })) value =
      (value.isNull ||
        passes env (.object (withFacets (body.schemaFields strict) { facets with nullable := false })) value)) ∧
    (∀ definitions mode value,
      verdict? (rooted definitions (withFacets (body.schemaFields strict) { facets with nullable := true })) mode value =
        (verdict? (rooted definitions (withFacets (body.schemaFields strict) { facets with nullable := false })) mode
          value).map (value.isNull || ·)) ∧
    ∀ nullable, ∃ inner,
      withFacets (body.schemaFields strict) { facets with nullable } = (if nullable then
        [("anyOf", .array [.object inner, .object [("type", .string "null")]])] else inner) ∧
      ∀ key ∈ shapeKeywords, Table.get? key inner = Table.get? key (body.schemaFields strict) := by
  refine ⟨passes_nullable gathered, fun definitions mode value => ?_, fun nullable => ?_⟩
  · have both :
        (defect? (rooted definitions
          (withFacets (body.schemaFields strict) { facets with nullable := true }))).isNone =
        (defect? (rooted definitions
          (withFacets (body.schemaFields strict) { facets with nullable := false }))).isNone := by
      rw [Bool.eq_iff_iff, Option.isNone_iff_eq_none, Option.isNone_iff_eq_none]
      exact defect?_nullable gathered
    rw [verdict?, verdict?, both, isEmpty_check_rooted, isEmpty_check_rooted, passes_nullable gathered]
    split <;> rfl
  · refine ⟨decorated (body.schemaFields strict) { facets with nullable }, by cases nullable <;> rfl, ?_⟩
    intro key shape
    have apart : ∀ key ∈ shapeKeywords, key ∉ facetKeywords ∧ key ∉ Schema.constraintKeywords := by decide
    exact get?_decorated body.shapely (gathered.regular.nullable nullable) (apart key shape).1 (apart key shape).2

/-- The facets of a choice between colours, with the constraints of another schema. -/
def colourFacets : Facets :=
  (Facets.ofFields
    [("nullable", .bool true), ("enum", .array [.string "red", .string "green", .string "blue"])]).fillFrom
    (Facets.ofFields [("minLength", Json.ofNat 4), ("enum", .array [.string "grey"])])

def colourDefinitions : Table Json := [("Colour", .object [("type", .string "string"), ("maxLength", Json.ofNat 4)])]

theorem withFacets_nullable_colour : colourFacets.Gathered ∧
    ([.null, .string "green", .string "blue"].map (verdict? (rooted colourDefinitions
      (withFacets ((Body.alias (.model "Colour")).schemaFields true) { colourFacets with nullable := false })) true)) =
        [some false, some false, some true] ∧
    ([.null, .string "green", .string "blue"].map (verdict? (rooted colourDefinitions
      (withFacets ((Body.alias (.model "Colour")).schemaFields true) { colourFacets with nullable := true })) true)) =
        [some true, some false, some true] := by
  have gathered : colourFacets.Gathered := by
    refine .fill (.read ?_) (.read ?_) <;> simp [Table.keys, Json.ofNat, Json.Keyed.number]
  have without : ([.null, .string "green", .string "blue"].map (verdict? (rooted colourDefinitions
      (withFacets ((Body.alias (.model "Colour")).schemaFields true) { colourFacets with nullable := false })) true)) =
        [some false, some false, some true] := by decide +kernel
  obtain ⟨_, verdicts, _⟩ := withFacets_nullable (.alias (.model "Colour")) true gathered
  refine ⟨gathered, without, ?_⟩
  simp only [List.map_cons, List.map_nil, List.cons.injEq, and_true] at without ⊢
  obtain ⟨null, green, blue⟩ := without
  rw [verdicts, verdicts, verdicts, null, green, blue]
  exact ⟨rfl, rfl, rfl⟩

end Model

end ApiAtlas
