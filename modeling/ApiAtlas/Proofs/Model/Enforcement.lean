import ApiAtlas.Proofs.Model.Keeping

/-! # What models enforce

A payload that a model accepts has the required keys that the schema declares, and it satisfies the schema apart
from the other required keys, unless what became a type alone had values or constraints of its own.
-/

namespace ApiAtlas

namespace Schema

open Model.Modelling (isRecord)

mutual
/-- The schema without the required names that it does not declare. -/
def Node.declaring : Node → Node
  | ⟨.object ⟨properties, required, additional⟩, facets⟩ =>
    ⟨.object ⟨declaringProperties properties, required.filter (Table.has · properties),
      declaringAdditional additional⟩, facets⟩
  | ⟨.array items, facets⟩ => ⟨.array items.declaring, facets⟩
  | ⟨.primitive type, facets⟩ => ⟨.primitive type, facets⟩
  | ⟨.union mode variants, facets⟩ => ⟨.union mode (declaringVariants variants), facets⟩
  | ⟨.reference target resolved, facets⟩ => ⟨.reference target resolved.declaring, facets⟩
  | ⟨.any, facets⟩ => ⟨.any, facets⟩

def declaringProperties : List (String × Node) → List (String × Node)
  | [] => []
  | (name, node) :: rest => (name, node.declaring) :: declaringProperties rest

def declaringAdditional : Additional Node → Additional Node
  | .unspecified => .unspecified
  | .forbidden => .forbidden
  | .typed node => .typed node.declaring

def declaringVariants : List Node → List Node
  | [] => []
  | node :: rest => node.declaring :: declaringVariants rest
end

theorem declaringProperties_eq (properties : List (String × Node)) :
    declaringProperties properties = properties.map fun property => (property.1, property.2.declaring) := by
  induction properties with
  | nil => rw [declaringProperties]; rfl
  | cons property properties ih => rw [declaringProperties, ih]; rfl

theorem declaringVariants_eq (variants : List Node) : declaringVariants variants = variants.map Node.declaring := by
  induction variants with
  | nil => rw [declaringVariants]; rfl
  | cons variant variants ih => rw [declaringVariants, ih]; rfl

theorem Node.declaring_eq (node : Node) : node.declaring = ⟨
    match node.kind with
    | .object shape => .object {
        properties := shape.properties.map fun property => (property.1, property.2.declaring)
        required := shape.required.filter (Table.has · shape.properties)
        additional :=
          match shape.additional with
          | .unspecified => .unspecified
          | .forbidden => .forbidden
          | .typed value => .typed value.declaring }
    | .array items => .array items.declaring
    | .primitive type => .primitive type
    | .union mode variants => .union mode (variants.map declaring)
    | .reference target resolved => .reference target resolved.declaring
    | .any => .any, node.facets⟩ := by
  obtain ⟨kind, facets⟩ := node
  cases kind with
  | object shape =>
      obtain ⟨properties, required, additional⟩ := shape
      cases additional <;> rw [declaring, declaringProperties_eq, declaringAdditional] <;> rfl
  | union mode variants => rw [declaring, declaringVariants_eq]; rfl
  | _ => rw [declaring]; rfl

theorem keys_map_declaring (properties : List (String × Node)) :
    Table.keys (properties.map fun property => (property.1, property.2.declaring)) = Table.keys properties := by
  simp [Table.keys, Function.comp_def]

theorem Congruent.only_if : Congruent fun first second => second = true → first = true :=
  ⟨fun _ => id, by simp_all, by simp_all⟩

namespace Node

variable {node : Node}

theorem facets_declaring (node : Node) : node.declaring.facets = node.facets := by
  rw [declaring_eq]
  rfl

theorem isRecord_declaring (node : Node) : isRecord node.declaring = isRecord node := by
  rw [declaring_eq]
  obtain ⟨kind, facets⟩ := node
  cases kind with
  | object shape =>
      obtain ⟨properties, required, additional⟩ := shape
      cases properties <;> cases additional <;> rfl
  | _ => rfl

theorem asType_declaring (same : node.declaring.kept = node.kept) : node.declaring.asType = node.asType := by
  rw [asType, asType, typeFacets, typeFacets, isRecord_declaring, facets_declaring, same]

theorem keptProperties_declaring {properties : List (String × Node)}
    (inside : ∀ property ∈ properties, property.2.declaring.kept = property.2.kept) :
    keptProperties (properties.map fun property => (property.1, property.2.declaring)) = keptProperties properties := by
  rw [keptProperties_eq, keptProperties_eq, List.map_map]
  refine List.map_congr_left fun property member => ?_
  rw [Function.comp_apply, inside property member]

/-- The names that a schema declares are still declared when only those are required. -/
theorem filter_declaring (required : SortedSet String) (properties : List (String × Node)) :
    (required.filter (Table.has · properties)).filter
      (Table.has · (properties.map fun property => (property.1, property.2.declaring))) =
      required.filter (Table.has · properties) := by
  refine List.filter_eq_self.mpr fun name member => ?_
  rw [Table.has_congr (keys_map_declaring properties)]
  exact (List.mem_filter.mp member).2

/-- Models keep nothing of the names that are not declared. -/
theorem kept_declaring (node : Node) : node.declaring.kept = node.kept := by
  -- The recursion is on the tree; what becomes a type alone keeps the same facets, since records stay records.
  have inside : ∀ part ∈ node.parts, part.declaring.kept = part.kept := fun part _ => kept_declaring part
  have typed : ∀ part ∈ node.parts, part.declaring.asType = part.asType :=
    fun part member => asType_declaring (inside part member)
  obtain ⟨kind, facets⟩ := node
  cases kind with
  | object shape =>
      obtain ⟨properties, required, additional⟩ := shape
      have values := keptProperties_declaring fun property (member : property ∈ properties) =>
        inside _ (Shape.mem_values_of_property member)
      rw [declaring, declaringProperties_eq, kept, kept, values, filter_declaring]
      cases additional with
      | unspecified | forbidden => rw [declaringAdditional]
      | typed value =>
          rw [declaringAdditional, keptAdditional_typed, keptAdditional_typed,
            typed value (Shape.mem_values_of_additional rfl)]
  | array items => rw [declaring, kept_array, kept_array, typed items (List.mem_singleton_self _)]
  | union mode variants =>
      have same : (variants.map declaring).map asType = variants.map asType := by
        rw [List.map_map]
        exact List.map_congr_left typed
      rw [declaring, declaringVariants_eq, kept_union, kept_union, same]
  | reference target resolved => rw [declaring, kept, kept, inside resolved (List.mem_singleton_self _)]
  | primitive | any => rw [declaring]
termination_by sizeOf node
decreasing_by exact sizeOf_lt_of_mem_parts ‹_›

/-- A schema declares every name that it requires. -/
def Declared (node : Node) : Prop :=
  ∀ shape, node.kind = .object shape → ∀ name ∈ shape.required, Table.has name shape.properties

theorem declared_declaring (node : Node) : node.declaring.Declared := by
  rw [declaring_eq]
  obtain ⟨kind, facets⟩ := node
  cases kind with
  | object shape =>
      intro shape same name member
      cases same
      rw [Table.has_congr (keys_map_declaring _)]
      exact (List.mem_filter.mp member).2
  | _ => exact nofun

theorem mem_parts_declaring {part : Node} (member : part ∈ node.declaring.parts) :
    ∃ inside ∈ node.parts, inside.declaring = part := by
  rw [declaring_eq] at member
  obtain ⟨kind, facets⟩ := node
  cases kind with
  | object shape =>
      obtain ⟨properties, required, additional⟩ := shape
      rcases Shape.mem_values.mp member with ⟨name, member⟩ | said
      · obtain ⟨property, there, same⟩ := List.mem_map.mp member
        obtain ⟨rfl, rfl⟩ := Prod.mk.inj same
        exact ⟨_, Shape.mem_values_of_property there, rfl⟩
      · cases additional with
        | unspecified | forbidden => cases said
        | typed value =>
            cases said
            exact ⟨value, Shape.mem_values_of_additional rfl, rfl⟩
  | array items =>
      obtain rfl := List.mem_singleton.mp member
      exact ⟨items, List.mem_singleton_self _, rfl⟩
  | union mode variants => exact List.mem_map.mp member
  | reference target resolved =>
      obtain rfl := List.mem_singleton.mp member
      exact ⟨resolved, List.mem_singleton_self _, rfl⟩
  | primitive | any => cases member

theorem everywhere_declared (node : Node) : node.declaring.Everywhere Declared := by
  refine .intro node.declared_declaring fun part member => ?_
  obtain ⟨inside, there, rfl⟩ := mem_parts_declaring member
  exact everywhere_declared inside
termination_by sizeOf node
decreasing_by exact sizeOf_lt_of_mem_parts there

/-- What a schema loses admits nothing: what becomes a type alone inside, unless it is a record, has neither values
nor constraints of its own, and the variants of which exactly one counts lose nothing. -/
structure Binding (node : Node) : Prop where
  typed : ∀ part ∈ node.typedParts, isRecord part = false → part.facets.choices = [] ∧ part.facets.constraints = []
  single : ∀ variants, node.kind = .union .oneOf variants → ∀ variant ∈ variants,
    variant.Whole ∧ variant.Everywhere Exact

theorem satisfies_of_satisfies_asType (binds : isRecord node = false → node.facets.choices = [] ∧
      node.facets.constraints = []) (inside : ∀ value, node.kept.fits value = true → node.fits value = true)
    {value : Json} (satisfied : node.asType.satisfies value = true) : node.satisfies value = true := by
  rw [node.satisfies_eq, Facets.admits, Bool.or_eq_true]
  refine .inr ?_
  cases record : isRecord node with
  | true =>
      rw [node.satisfies_asType, typeFacets, if_pos record] at satisfied
      simp only [Facets.admits, Bool.false_and, Bool.false_or, Bool.and_eq_true] at satisfied ⊢
      exact ⟨⟨inside value satisfied.1.1, satisfied.1.2⟩, satisfied.2⟩
  | false =>
      obtain ⟨choices, constraints⟩ := binds record
      rw [node.asType_of_not_record record] at satisfied
      rw [choices, constraints, inside value satisfied]
      rfl

theorem fits_of_fits_kept (binding : node.Everywhere Binding) (declared : node.Everywhere Declared) (value : Json)
    (fits : node.kept.fits value = true) : node.fits value = true := by
  induction binding generalizing value with
  | @intro node here inside ih =>
      have ih part (member : part ∈ node.parts) := ih part member (declared.inside member)
      have typed : ∀ part ∈ node.typedParts, ∀ value,
          part.asType.satisfies value = true → part.satisfies value = true := by
        intro part member value
        exact satisfies_of_satisfies_asType (here.typed part member) (ih part (mem_parts_of_typedParts member))
      refine Congruent.only_if.fits (fun part member value => ?_) typed (fun shape same fields => ?_)
        (fun mode variants same value => ?_) value fits
      · rw [part.satisfies_kept, part.satisfies_eq]
        exact Congruent.only_if.admits (ih part member value)
      · rw [List.filter_eq_self.mpr (declared.here shape same)]
        exact id
      · obtain ⟨kind, facets⟩ := node
        cases same
        cases mode with
        | anyOf =>
            simp only [UnionMode.holds, List.any_map]
            exact Congruent.only_if.any fun variant member => typed variant member value
        | oneOf =>
            -- A variant that accepts more makes two out of one, or one out of none.
            rw [map_satisfies_asType (here.single variants rfl)]
            exact id

/-- What models keep of a schema implies all that it says of declared names. -/
theorem satisfies_declaring_of_kept (binding : node.declaring.Everywhere Binding) {value : Json}
    (satisfied : node.kept.satisfies value = true) : node.declaring.satisfies value = true := by
  rw [← node.kept_declaring, node.declaring.satisfies_kept] at satisfied
  rw [node.declaring.satisfies_eq]
  exact Congruent.only_if.admits (fits_of_fits_kept binding node.everywhere_declared value) satisfied

theorem fits_object_of_satisfies {fields : Table Json} (satisfied : node.satisfies (.object fields) = true) :
    node.fits (.object fields) = true := by
  have present : (Json.object fields).isNull = false := rfl
  rw [node.satisfies_eq, Facets.admits, present, Bool.and_false, Bool.false_or, Bool.and_eq_true,
    Bool.and_eq_true] at satisfied
  exact satisfied.1.1

/-- An object that satisfies what models keep fits what they keep behind all references. -/
theorem fits_kept_target {fields : Table Json} (satisfied : node.kept.satisfies (.object fields) = true) :
    node.target.kept.fits (.object fields) = true := by
  fun_induction target node with
  | case1 name resolved facets ih =>
      have fits := fits_object_of_satisfies satisfied
      rw [kept, fits_reference] at fits
      exact ih fits
  | case2 node direct => exact fits_object_of_satisfies satisfied

theorem has_required_of_kept {shape : Shape Node} (leads : node.shape? = some shape) {fields : Table Json}
    (satisfied : node.kept.satisfies (.object fields) = true) {name : String} (required : name ∈ shape.required)
    (declared : Table.has name shape.properties) : Table.has name fields := by
  have fits := fits_kept_target satisfied
  unfold shape? at leads
  generalize node.target = behind at fits leads
  obtain ⟨kind, facets⟩ := behind
  cases kind with
  | object found =>
      cases leads
      rw [kept, fits_object] at fits
      simp only [Bool.and_eq_true, List.all_eq_true] at fits
      exact fits.1.2 name (List.mem_filter.mpr ⟨required, declared⟩)
  | _ => cases leads

end Node

end Schema

namespace Model

open Schema (Call Node)

/-- A condition holds of the models of all components, and of the models of all bodies that have a schema of their
own. -/
def CompiledDocument.Throughout (P : Handle → Call → Prop) (doc : Document) (compiled : CompiledDocument) : Prop :=
  (∃ names, componentModels doc = .ok names ∧ ∀ key ∈ Table.keys doc.schemas, ∃ name model,
    Table.get? key names = some name ∧ compiled.model? name = some model ∧ P model (.component key)) ∧
  List.Forall₂ (OperationSpec.ServesWith P doc) doc.operations compiled.operations

section Throughout

variable {P Q : Handle → Call → Prop} {doc : Document} {compiled : CompiledDocument}

theorem ServedWith.mono {written : Json} {handle : Option Handle} (served : ServedWith P doc written handle)
    (weaker : ∀ handle call, P handle call → Q handle call) : ServedWith Q doc written handle := by
  obtain ⟨body, leads, models⟩ := served
  refine ⟨body, leads, fun schema content => ?_⟩
  obtain ⟨model, named, holds⟩ := models schema content
  exact ⟨model, named, fun inline => weaker _ _ (holds inline)⟩

theorem OperationSpec.ServesWith.mono {op : Operation} {spec : OperationSpec} (serves : ServesWith P doc op spec)
    (weaker : ∀ handle call, P handle call → Q handle call) : ServesWith Q doc op spec where
  request there := (serves.request there).mono weaker
  response there := by
    obtain ⟨response, found, served⟩ := serves.response there
    exact ⟨response, found, served.mono weaker⟩

theorem CompiledDocument.Throughout.mono (throughout : compiled.Throughout P doc)
    (weaker : ∀ handle call, P handle call → Q handle call) : compiled.Throughout Q doc := by
  obtain ⟨⟨names, modelled, components⟩, operations⟩ := throughout
  refine ⟨⟨names, modelled, fun key member => ?_⟩, operations.imp fun _ _ serves => serves.mono weaker⟩
  obtain ⟨name, model, found, there, holds⟩ := components key member
  exact ⟨name, model, found, there, weaker _ _ holds⟩

theorem throughout_carries (keyed : doc.root.Keyed) (compiles : compileDocument doc = .ok compiled) :
    compiled.Throughout (·.Carries doc.schemas) doc := by
  obtain ⟨stage, drafts, ends⟩ := exists_endsAt keyed compiles
  exact ⟨⟨_, ends.components, fun _ member => ends.carries member⟩, ends.servesWith⟩

end Throughout

/-- The model of a call rejects an object without a name that the schema requires and declares. -/
structure Handle.Requires (handle : Handle) (components : Table Json) (call : Call) : Prop where
  answered : ∃ node, Answered components call node
  required (node : Node) : Answered components call node → ∀ shape, node.shape? = some shape → ∀ validator,
    handle.validator false = .ok validator → ∀ fields, validator.accepts (.object fields) = true →
    ∀ name ∈ shape.required, Table.has name shape.properties → Table.has name fields

/-- The model of a call enforces its schema, but for required names that are not declared, if what the schema loses
admits nothing. -/
structure Handle.Enforces (handle : Handle) (components : Table Json) (call : Call) : Prop where
  answered : ∃ node, Answered components call node
  enforced (node : Node) : Answered components call node → node.declaring.Everywhere Node.Binding → ∀ validator,
    handle.validator false = .ok validator → ∀ value, validator.accepts value = true →
    node.declaring.satisfies value = true

namespace Handle.Carries

variable {handle : Handle} {components : Table Json} {call : Call}

theorem requires (carries : handle.Carries components call) : handle.Requires components call := by
  refine ⟨carries.answered, fun node found shape leads validator built fields accepted name => ?_⟩
  rw [carries.exactly node found validator built] at accepted
  exact Node.has_required_of_kept leads accepted

theorem enforces (carries : handle.Carries components call) : handle.Enforces components call := by
  refine ⟨carries.answered, fun node found binding validator built value accepted => ?_⟩
  rw [carries.exactly node found validator built] at accepted
  exact Node.satisfies_declaring_of_kept binding accepted

end Handle.Carries

/-- The required names that a schema declares are enforced by its model. -/
theorem compileDocument_requires {doc : Document} {compiled : CompiledDocument} (keyed : doc.root.Keyed)
    (compiles : compileDocument doc = .ok compiled) : compiled.Throughout (·.Requires doc.schemas) doc :=
  (throughout_carries keyed compiles).mono fun _ _ carries => carries.requires

/-- What the only component of `petDocument` is resolved to. -/
def petNode : Node :=
  ⟨.object { properties := [("name", ⟨.primitive .string, {}⟩)], required := ["name"] }, { title := some "Pet" }⟩

theorem compileDocument_requires_pets : ∃ compiled names name model, compileDocument petDocument = .ok compiled ∧
    componentModels petDocument = .ok names ∧ Table.get? "Pet" names = some name ∧ compiled.model? name = some model ∧
    ∀ validator, model.validator false = .ok validator → ∀ fields, validator.accepts (.object fields) = true →
      Table.has "name" fields := by
  have accepted : verdict? petDocument "Pet" (.object [("name", .string "Rex")]) = some true := by decide +kernel
  obtain ⟨compiled, _, _, _, _, compiles, _⟩ := exists_of_verdict? accepted
  obtain ⟨⟨names, modelled, components⟩, -⟩ := compileDocument_requires keyed_petDocument compiles
  obtain ⟨name, model, found, there, requires⟩ := components "Pet" (by decide +kernel)
  have resolved : answer? petDocument (.component "Pet") = some petNode := by rfl
  have leads : petNode.shape? = some { properties := [("name", ⟨.primitive .string, {}⟩)], required := ["name"] } := by
    rfl
  refine ⟨compiled, names, name, model, compiles, modelled, found, there, fun validator built fields accepted => ?_⟩
  exact requires.required petNode (answered_of_answer? resolved) _ leads validator built fields accepted "name"
    (List.mem_singleton_self _) (by decide)

/-- A tag that requires a name which it does not declare. -/
def tagDocument : Document where
  path := "tags.json"
  relativePath := "tags.json"
  fields := [("components", .object [("schemas", .object [("Tag", .object
    [("type", .string "object"), ("properties", .object [("name", .object [("type", .string "string")])]),
     ("required", .array [.string "id"])])])])]

def tagNode : Node :=
  ⟨.object { properties := [("name", ⟨.primitive .string, {}⟩)], required := ["id"] }, { title := some "Tag" }⟩

/-- A required name that the schema does not declare is not enforced. -/
theorem compileDocument_misses_required : ¬ ∀ (doc : Document) compiled names key name (model : Handle) node shape
    validator, doc.root.Keyed → compileDocument doc = .ok compiled → componentModels doc = .ok names →
    Table.get? key names = some name → compiled.model? name = some model →
    Answered doc.schemas (.component key) node → node.kind = .object shape → model.validator false = .ok validator →
    ∀ fields, validator.accepts (.object fields) = true → ∀ required ∈ shape.required, Table.has required fields := by
  intro requires
  have keyed : tagDocument.root.Keyed := by
    simp [Document.root, tagDocument, Table.keys]
  have accepted : verdict? tagDocument "Tag" (.object []) = some true := by decide +kernel
  obtain ⟨compiled, names, name, model, validator, compiles, modelled, found, there, built, accepts⟩ :=
    exists_of_verdict? accepted
  have resolved : answer? tagDocument (.component "Tag") = some tagNode := by rfl
  have missing := requires tagDocument compiled names "Tag" name model tagNode _ validator keyed compiles modelled
    found there (answered_of_answer? resolved) rfl built [] accepts "id" (List.mem_singleton_self _)
  cases missing

/-- The constraints of a schema are enforced by its model at every depth, where none of them stands on what becomes a
type alone. -/
theorem compileDocument_enforces {doc : Document} {compiled : CompiledDocument} (keyed : doc.root.Keyed)
    (compiles : compileDocument doc = .ok compiled) : compiled.Throughout (·.Enforces doc.schemas) doc :=
  (throughout_carries keyed compiles).mono fun _ _ carries => carries.enforces

/-- A log whose entries are records. -/
def logDocument : Document where
  path := "log.json"
  relativePath := "log.json"
  fields := [("components", .object [("schemas", .object [("Log", .object
    [("type", .string "array"),
     ("items", .object
       [("type", .string "object"),
        ("properties", .object
          [("level", .object [("type", .string "integer"), ("minimum", .number (.int 0))])]),
        ("required", .array [.string "level", .string "unit"])])])])])]

def logNode (required : SortedSet String) : Node :=
  let level : Node := ⟨.primitive .integer, { constraints := [("minimum", .number (.int 0))] }⟩
  ⟨.array ⟨.object { properties := [("level", level)], required }, {}⟩, { title := some "Log" }⟩

theorem declaring_log : (logNode ["level", "unit"]).declaring = logNode ["level"] := by rfl

theorem binding_log (required : SortedSet String) : (logNode required).Everywhere Node.Binding := by
  refine .intro ⟨fun part member => ?_, nofun⟩ fun part member => ?_
  · obtain rfl := List.mem_singleton.mp member
    exact nofun
  · obtain rfl := List.mem_singleton.mp member
    refine .intro ⟨nofun, nofun⟩ fun part member => ?_
    obtain rfl := List.mem_singleton.mp member
    exact .intro ⟨nofun, nofun⟩ nofun

theorem compileDocument_enforces_log : ∃ compiled names name model, compileDocument logDocument = .ok compiled ∧
    componentModels logDocument = .ok names ∧ Table.get? "Log" names = some name ∧ compiled.model? name = some model ∧
    ∀ validator, model.validator false = .ok validator → ∀ value, validator.accepts value = true →
      (logNode ["level"]).satisfies value = true := by
  have keyed : logDocument.root.Keyed := by
    simp [Document.root, logDocument, Table.keys, Json.Keyed.number]
  have accepted : verdict? logDocument "Log" (.array []) = some true := by decide +kernel
  obtain ⟨compiled, _, _, _, _, compiles, _⟩ := exists_of_verdict? accepted
  obtain ⟨⟨names, modelled, components⟩, -⟩ := compileDocument_enforces keyed compiles
  obtain ⟨name, model, found, there, enforces⟩ := components "Log" (by decide +kernel)
  have resolved : answer? logDocument (.component "Log") = some (logNode ["level", "unit"]) := by rfl
  have enforced := enforces.enforced _ (answered_of_answer? resolved)
  rw [declaring_log] at enforced
  exact ⟨compiled, names, name, model, compiles, modelled, found, there, enforced (binding_log _)⟩

/-- Levels that are not negative. -/
def levelsDocument : Document where
  path := "levels.json"
  relativePath := "levels.json"
  fields := [("components", .object [("schemas", .object [("Levels", .object
    [("type", .string "array"),
     ("items", .object [("type", .string "integer"), ("minimum", .number (.int 0))])])])])]

/-- A constraint of what becomes a type alone is not enforced: a negative level is accepted. -/
theorem compileDocument_misses_constraint : ¬ ∀ (doc : Document) compiled names key name (model : Handle) node validator,
    doc.root.Keyed → compileDocument doc = .ok compiled → componentModels doc = .ok names →
    Table.get? key names = some name → compiled.model? name = some model →
    Answered doc.schemas (.component key) node → model.validator false = .ok validator →
    ∀ value, validator.accepts value = true → node.declaring.satisfies value = true := by
  intro enforces
  have keyed : levelsDocument.root.Keyed := by
    simp [Document.root, levelsDocument, Table.keys, Json.Keyed.number]
  have accepted : verdict? levelsDocument "Levels" (.array [.number (.int (-1))]) = some true := by decide +kernel
  obtain ⟨compiled, names, name, model, validator, compiles, modelled, found, there, built, accepts⟩ :=
    exists_of_verdict? accepted
  have invalid : (answer? levelsDocument (.component "Levels")).map (·.declaring.satisfies (.array [.number (.int (-1))])) =
      some false := by decide +kernel
  obtain ⟨node, resolved, violated⟩ := Option.map_eq_some_iff.mp invalid
  have satisfied := enforces levelsDocument compiled names "Levels" name model node validator keyed compiles modelled
    found there (answered_of_answer? resolved) built _ accepts
  rw [violated] at satisfied
  cases satisfied

end Model

end ApiAtlas
