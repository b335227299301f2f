import Mathlib.Data.List.Forall2
import ApiAtlas.Proofs.Model.Stage

/-! # Schemas become models

Modelling a node yields a body, a type or a model that accepts what is kept of the node. The induction is on the
tree; a component is modelled where it is met first, and found again afterwards.
-/

namespace ApiAtlas

namespace Model

open Schema (Additional Facets IsComponent Kind Node Shape UnionMode keptAdditional keptProperties keptVariants
  propertiesSatisfied undeclaredFields variantsSatisfied)

variable {components : Table Json}

/-- Whether a body is a record. -/
def Body.isRecord : Body → Bool
  | .record _ _ => true
  | .union _ _ => false
  | .alias _ => false

namespace Stage

/-- A type stands for what types keep of a node. -/
structure Typed (stage : Stage components) (type : TypeExpr) (node : Node) : Prop where
  known : ∀ name ∈ type.mentions, stage.models.Has name
  means : type.accepts stage.accepts = node.asType.satisfies

/-- A body stands for the structure that models keep of a node. -/
structure Embodies (stage : Stage components) (body : Body) (node : Node) : Prop where
  known : ∀ name ∈ body.mentions, stage.models.Has name
  regular : body.Regular
  record : Modelling.isRecord node = body.isRecord
  means : body.accepts stage.accepts = node.kept.fits

/-- A model stands for what models keep of a node, and has its title. -/
structure Models (stage : Stage components) (name : String) (node : Node) : Prop where
  titled : stage.models.Titled name node.facets.title
  means : stage.accepts name = node.kept.satisfies

/-- A field stands for a property. -/
structure Declares (stage : Stage components) (required : SortedSet String) (field : Field)
    (property : String × Node) : Prop where
  name : field.name = property.1
  required : field.required = required.contains property.1
  facets : field.facets = property.2.facets
  type : stage.Typed field.type property.2

variable {before after stage : Stage components} {node : Node} {type : TypeExpr}

theorem Typed.grow (grows : before.Grows after) (h : before.Typed type node) : after.Typed type node where
  known name member := grows.has (h.known name member)
  means := by
    rw [← h.means]
    funext value
    exact TypeExpr.accepts_congr type (fun name member => grows.accepts (h.known name member)) value

theorem Models.grow {name : String} (grows : before.Grows after) (h : before.Models name node) :
    after.Models name node where
  titled := grows.titled h.titled
  means := (grows.accepts h.titled.has).trans h.means

theorem Declares.grow {required : SortedSet String} {field : Field} {property : String × Node}
    (grows : before.Grows after) (h : before.Declares required field property) :
    after.Declares required field property := { h with type := h.type.grow grows }

/-- The stage at which a component is known by a model that stands for it. -/
def keep {key placed : String} (stage : Stage components) (component : IsComponent components key node)
    (models : stage.Models placed node) : Stage components where
  registry := { stage.registry with components := Table.put key placed stage.registry.components }
  meaning := stage.meaning
  means.models := stage.means.models
  means.kept {other name} there := by
    by_cases same : other = key
    · subst same
      rw [Table.get?_put_self] at there
      cases there
      refine ⟨models.titled.has, fun found known => ?_⟩
      rw [known.unique component]
      exact models.means
    · rw [Table.get?_put_ne same] at there
      exact stage.means.kept there
  means.titled {other name found} there resolved := by
    by_cases same : other = key
    · subst same
      rw [Table.get?_put_self] at there
      cases there
      rw [resolved.unique component]
      exact models.titled
    · rw [Table.get?_put_ne same] at there
      exact stage.means.titled there resolved

/-- A field has the facets that its type has lost. -/
theorem Declares.accepts {required : SortedSet String} {field : Field} {property : String × Node}
    (h : stage.Declares required field property) : field.accepts stage.accepts = property.2.kept.satisfies := by
  funext value
  rw [Field.accepts, h.facets, h.type.means, property.2.satisfies_kept, property.2.satisfies_asType,
    Node.admits_typeFacets]

section Lists

variable {types : List TypeExpr} {variants : List Node} {fields : List Field}
  {properties : List (String × Node)} {required : SortedSet String}

theorem variantsAccept_of_typed (h : List.Forall₂ stage.Typed types variants) (value : Json) :
    TypeExpr.variantsAccept stage.accepts types value = variantsSatisfied (keptVariants variants) value := by
  induction h with
  | nil => rfl
  | cons typed _ ih =>
      rw [TypeExpr.variantsAccept, keptVariants, variantsSatisfied, typed.means, ih]
      rfl

theorem known_of_typed (h : List.Forall₂ stage.Typed types variants) :
    ∀ name ∈ TypeExpr.mentionsList types, stage.models.Has name := by
  induction h with
  | nil => exact nofun
  | cons typed _ ih =>
      intro name member
      rw [TypeExpr.mentionsList, List.mem_append] at member
      exact member.elim (typed.known name) (ih name)

theorem names_of_declares (h : List.Forall₂ (stage.Declares required) fields properties) :
    fields.map (·.name) = Table.keys properties := by
  induction h with
  | nil => rfl
  | cons declares _ ih => exact congrArg₂ List.cons declares.name ih

theorem facets_of_declares (h : List.Forall₂ (stage.Declares required) fields properties)
    (regular : ∀ property ∈ properties, property.2.facets.Regular) :
    ∀ field ∈ fields, field.facets.Regular := by
  induction h with
  | nil => exact nofun
  | cons declares _ ih =>
      rw [List.forall_mem_cons] at regular ⊢
      exact ⟨declares.facets ▸ regular.1, ih regular.2⟩

theorem known_of_declares (h : List.Forall₂ (stage.Declares required) fields properties) :
    ∀ name ∈ TypeExpr.mentionsList (fields.map (·.type)), stage.models.Has name := by
  induction h with
  | nil => exact nofun
  | cons declares _ ih =>
      intro name member
      rw [List.map_cons, TypeExpr.mentionsList, List.mem_append] at member
      exact member.elim (declares.type.known name) (ih name)

theorem fits_of_declares (h : List.Forall₂ (stage.Declares required) fields properties) (entries : Table Json) :
    (fields.all fun field => field.fits stage.accepts entries) =
      (propertiesSatisfied (keptProperties properties) entries &&
        properties.all fun property => !required.contains property.1 || Table.has property.1 entries) := by
  induction h with
  | nil => rfl
  | @cons field property _ _ declares _ ih =>
      obtain ⟨name, node⟩ := property
      rw [List.all_cons, List.all_cons, ih, keptProperties, propertiesSatisfied, Field.fits, declares.accepts,
        declares.name, declares.required]
      cases Table.get? name entries with
      | none => simp only [Option.all_none, Bool.true_and, Bool.and_left_comm]
      | some value => simp only [Option.all_some, Bool.and_assoc, Bool.and_left_comm]

end Lists

/-- What is said about undeclared keys, in types and in nodes. -/
inductive Adds (stage : Stage components) : Additional TypeExpr → Additional Node → Prop where
  | unspecified : Adds stage .unspecified .unspecified
  | forbidden : Adds stage .forbidden .forbidden
  | typed {type : TypeExpr} {node : Node} : stage.Typed type node → Adds stage (.typed type) (.typed node)

section Objects

variable {fields : List Field} {properties : List (String × Node)} {required : SortedSet String}
  {additional : Additional Node} {extra : Additional TypeExpr} {facets : Facets}

theorem required_all (entries : Table Json) :
    (properties.all fun property => !required.contains property.1 || Table.has property.1 entries) =
      (required.filter (Table.has · properties)).all (Table.has · entries) := by
  rw [Bool.eq_iff_iff, List.all_eq_true, List.all_eq_true]
  constructor
  · intro each name member
    obtain ⟨member, declared⟩ := List.mem_filter.mp member
    obtain ⟨node, listed⟩ := Table.mem_keys.mp (Table.mem_keys_iff_has.mpr declared)
    simpa [member] using each _ listed
  · intro each property listed
    by_cases member : property.1 ∈ required
    · have declared : Table.has property.1 properties := Table.mem_keys_iff_has.mp (List.mem_map_of_mem listed)
      simp [each _ (List.mem_filter.mpr ⟨member, declared⟩)]
    · simp [member]

/-- Fields and a type for undeclared keys stand for the structure of an object schema. -/
theorem embodies_record (regular : Node.Regular components ⟨.object ⟨properties, required, additional⟩, facets⟩)
    (other : Modelling.isMap properties additional = false)
    (declares : List.Forall₂ (stage.Declares required) fields properties) (adds : stage.Adds extra additional) :
    stage.Embodies (.record fields extra) ⟨.object ⟨properties, required, additional⟩, facets⟩ := by
  refine ⟨fun name member => ?_, ⟨facets_of_declares declares fun property member => ?_, ?_⟩, congrArg not other, ?_⟩
  · obtain ⟨type, listed, mentioned⟩ := TypeExpr.mem_mentionsList.mp member
    rcases List.mem_append.mp listed with listed | listed
    · exact known_of_declares declares name (TypeExpr.mem_mentionsList.mpr ⟨type, listed, mentioned⟩)
    · cases adds with
      | typed typed =>
          obtain rfl := List.mem_singleton.mp listed
          exact typed.known name mentioned
      | unspecified | forbidden => cases listed
  · exact (regular.inside (Shape.mem_values_of_property member)).here.2
  · rw [names_of_declares declares]
    exact regular.here.1.distinct _ rfl
  · have keys : Table.keys (fields.map fun field => (field.name, field)) = Table.keys (keptProperties properties) := by
      rw [Schema.keys_keptProperties, ← names_of_declares declares, Table.keys, List.map_map]
      rfl
    have extras : ∀ entries, extraAccepts stage.accepts extra entries =
        Schema.additionalSatisfied (keptAdditional additional) entries := by
      intro entries
      cases adds with
      | unspecified | forbidden => rw [keptAdditional]; rfl
      | typed typed =>
          rw [keptAdditional, extraAccepts, typed.means]
          rfl
    funext value
    rw [Node.kept, Node.fits_object]
    cases value with
    | object entries =>
        dsimp only
        rw [← required_all, ← fits_of_declares declares, ← extras, ← Schema.undeclaredFields_congr keys]
        rfl
    | _ => rfl

/-- A type of values stands for an object schema that declares nothing else. -/
theorem embodies_map (map : Modelling.isMap [] additional = true) (stands : ∀ entries : Table Json,
      (entries.all fun field => type.accepts stage.accepts field.2) =
        Schema.additionalSatisfied (keptAdditional additional) entries)
    (known : ∀ name ∈ type.mentions, stage.models.Has name) :
    stage.Embodies (.alias (.map type)) ⟨.object ⟨[], required, additional⟩, facets⟩ := by
  refine ⟨fun name member => ?_, trivial, ?_, funext fun value => ?_⟩
  · obtain ⟨listed, same, mentioned⟩ := TypeExpr.mem_mentionsList.mp member
    obtain rfl := List.mem_singleton.mp same
    exact known name mentioned
  · exact congrArg not map
  · have nothing : required.filter (Table.has · ([] : List (String × Node))) = [] :=
      List.filter_eq_nil_iff.mpr fun name _ => Bool.false_ne_true
    rw [Node.kept, Node.fits_object, nothing, keptProperties]
    cases value with
    | object entries =>
        dsimp only
        rw [Schema.undeclaredFields_nil, ← stands entries]
        rfl
    | _ => rfl

end Objects

/-- A body that is another name for a type stands for what the type does. -/
theorem embodies_alias (known : ∀ name ∈ type.mentions, stage.models.Has name) (other : Modelling.isRecord node = false)
    (means : ∀ value, type.accepts stage.accepts value = node.kept.fits value) :
    stage.Embodies (.alias type) node := by
  refine ⟨fun name member => ?_, trivial, other, funext means⟩
  obtain ⟨listed, same, mentioned⟩ := TypeExpr.mem_mentionsList.mp member
  obtain rfl := List.mem_singleton.mp same
  exact known name mentioned

end Stage

namespace Modelling

variable {before : Stage components} {node : Node} {name hint : String}

/-- Modelling the structure of a node succeeds, from any stage and under any name. -/
def Covers (components : Table Json) (node : Node) : Prop :=
  ∀ (before : Stage components) (name : String), Naming.Literal name →
    ∃ body after, Runs (bodyOf node name) before body after ∧ after.Embodies body node

theorem literal_modelName (literal : Naming.Literal hint) : Naming.Literal (modelName node hint) := by
  rw [modelName]
  split
  · rename_i name found
    obtain ⟨text, _, rfl⟩ := Option.map_eq_some_iff.mp (Option.filter_eq_some_iff.mp found).1
    exact Naming.literal_camelCase text
  · split
    · decide
    · exact literal

/-- The model of a node under its own facets. -/
theorem runs_model (covers : Covers components node) (facets : node.facets.Regular)
    (literal : Naming.Literal name) (before : Stage components) :
    ∃ placed after, Runs (bodyOf node name >>= fun body => register name body node.facets) before placed after ∧
      after.Models placed node := by
  obtain ⟨body, between, run, embodies⟩ := covers before name literal
  obtain ⟨placed, after, run', titled, means⟩ := runs_register literal embodies.regular facets embodies.known
  refine ⟨placed, after, run.bind run', titled, funext fun value => ?_⟩
  have same : body.accepts after.accepts = body.accepts between.accepts :=
    funext (Body.accepts_congr fun other member => run'.grows.accepts (embodies.known other member))
  rw [means, same, embodies.means, node.satisfies_kept]

theorem runs_typeOf (covers : Covers components node) (facets : node.facets.Regular)
    (literal : Naming.Literal hint) (before : Stage components) :
    ∃ type after, Runs (typeOf node (bodyOf node) hint) before type after ∧ after.Typed type node := by
  have named : Naming.Literal (if isRecord node then modelName node hint else hint) := by
    split
    · exact literal_modelName literal
    · exact literal
  obtain ⟨body, between, run, embodies⟩ := covers before _ named
  cases body with
  | record fields extra =>
      have plainer : Facets.Regular { node.facets with nullable := false } :=
        ⟨facets.choices, facets.distinct, facets.known, facets.arguments⟩
      obtain ⟨placed, after, run', titled, means⟩ := runs_register named embodies.regular plainer embodies.known
      refine ⟨.model placed, after, run.bind (run'.map TypeExpr.model), ?_, funext fun value => ?_⟩
      · intro other member
        obtain rfl := List.mem_singleton.mp member
        exact titled.has
      · have same : (Body.record fields extra).accepts after.accepts = (Body.record fields extra).accepts between.accepts :=
          funext (Body.accepts_congr fun other member => run'.grows.accepts (embodies.known other member))
        rw [TypeExpr.accepts, means, same, embodies.means, node.satisfies_asType, Node.typeFacets, embodies.record]
        rfl
  | union mode variants =>
      refine ⟨.union mode variants, between, run.bind (.pure _ _), embodies.known, ?_⟩
      rw [node.asType_of_not_record embodies.record, ← embodies.means]
      rfl
  | «alias» type =>
      refine ⟨type, between, run.bind (.pure _ _), fun other member => ?_, ?_⟩
      · exact embodies.known other (TypeExpr.mem_mentionsList.mpr ⟨type, List.mem_singleton_self _, member⟩)
      · rw [node.asType_of_not_record embodies.record, ← embodies.means]
        rfl

theorem runs_fieldsOf {properties : List (String × Node)} (required : SortedSet String)
    (covers : ∀ property ∈ properties, Covers components property.2)
    (facets : ∀ property ∈ properties, property.2.facets.Regular) (literal : Naming.Literal name)
    (before : Stage components) : ∃ fields after, Runs (fieldsOf properties required name) before fields after ∧
      List.Forall₂ (after.Declares required) fields properties := by
  induction properties generalizing before with
  | nil => exact ⟨[], before, .pure _ _, .nil⟩
  | cons property properties ih =>
      obtain ⟨key, node⟩ := property
      rw [List.forall_mem_cons] at covers facets
      obtain ⟨type, between, run, typed⟩ :=
        runs_typeOf covers.1 facets.1 (literal.append (Naming.literal_camelCase key)) before
      obtain ⟨fields, after, run', declares⟩ := ih covers.2 facets.2 between
      refine ⟨_, after, run.bind (run'.map (⟨key, type, required.contains key, node.facets⟩ :: ·)), ?_⟩
      exact .cons ⟨rfl, rfl, rfl, typed.grow run'.grows⟩ declares

theorem runs_variantsOf {variants : List Node} (covers : ∀ variant ∈ variants, Covers components variant)
    (facets : ∀ variant ∈ variants, variant.facets.Regular) (literal : Naming.Literal name) (k : Nat)
    (before : Stage components) : ∃ types after, Runs (variantsOf variants name k) before types after ∧
      List.Forall₂ after.Typed types variants := by
  induction variants generalizing k before with
  | nil => exact ⟨[], before, .pure _ _, .nil⟩
  | cons variant variants ih =>
      rw [List.forall_mem_cons] at covers facets
      have hint : Naming.Literal (name ++ "Variant" ++ toString k) :=
        (literal.append (by decide)).append (.number k)
      obtain ⟨type, between, run, typed⟩ := runs_typeOf covers.1 facets.1 hint before
      obtain ⟨types, after, run', rest⟩ := ih covers.2 facets.2 (k + 1) between
      exact ⟨type :: types, after, run.bind (run'.map (type :: ·)), .cons (typed.grow run'.grows) rest⟩

/-- A component is modelled once, and its model is the one that is found under its key. -/
theorem runs_componentModel {key : String} (covers : Covers components node) (facets : node.facets.Regular)
    (component : IsComponent components key node) (before : Stage components) :
    ∃ placed after, Runs (componentModel key node (bodyOf node)) before placed after ∧
      Table.get? key after.registry.components = some placed := by
  cases known : Table.get? key before.registry.components with
  | some placed => exact ⟨placed, before, ⟨run_componentModel_of_known known, .refl⟩, known⟩
  | none =>
      have literal : Naming.Literal (modelName node (Naming.camelCase key)) :=
        literal_modelName (Naming.literal_camelCase key)
      obtain ⟨placed, between, ⟨run, grows⟩, models⟩ := runs_model covers facets literal before
      refine ⟨placed, between.keep component models, ⟨run_componentModel_of_unknown known run, grows.models,
        grows.accepts, fun {other name} there => ?_⟩, Table.get?_put_self⟩
      have different : other ≠ key := by
        rintro rfl
        rw [known] at there
        cases there
      exact (Table.get?_put_ne different).trans (grows.components there)

/-- An object schema that only says what the values of keys are is modelled as a map. -/
theorem covers_map {properties : List (String × Node)} {required : SortedSet String} {additional : Additional Node}
    {facets : Facets} (map : isMap properties additional = true)
    (covers : ∀ value, additional = .typed value → Covers components value)
    (regular : ∀ value, additional = .typed value → value.facets.Regular) :
    Covers components ⟨.object ⟨properties, required, additional⟩, facets⟩ := by
  intro before name literal
  have hint : Naming.Literal (name ++ "Value") := literal.append (by decide)
  obtain rfl : properties = [] := by
    unfold isMap at map
    rw [Bool.and_eq_true, List.isEmpty_iff] at map
    exact map.1
  rw [bodyOf.eq_def]
  dsimp only
  rw [if_pos map]
  cases additional with
  | unspecified =>
      refine ⟨_, before, .pure _ _, Stage.embodies_map map (fun entries => ?_) (List.forall_mem_nil _)⟩
      rw [keptAdditional]
      exact List.all_eq_true.mpr fun _ _ => rfl
  | forbidden => cases map
  | typed value =>
      obtain ⟨type, after, run, typed⟩ := runs_typeOf (covers value rfl) (regular value rfl) hint before
      refine ⟨_, after, run.map fun type => Body.alias (.map type), Stage.embodies_map map (fun _ => ?_) typed.known⟩
      rw [Schema.keptAdditional_typed, typed.means]
      rfl

/-- Other object schemas are modelled as records. -/
theorem covers_record {properties : List (String × Node)} {required : SortedSet String}
    {additional : Additional Node} {facets : Facets}
    (regular : Node.Regular components ⟨.object ⟨properties, required, additional⟩, facets⟩)
    (other : isMap properties additional = false)
    (covers : ∀ value ∈ Shape.values ⟨properties, required, additional⟩, Covers components value) :
    Covers components ⟨.object ⟨properties, required, additional⟩, facets⟩ := by
  have facetsRegular : ∀ value ∈ Shape.values ⟨properties, required, additional⟩, value.facets.Regular :=
    fun value member => (regular.inside member).here.2
  intro before name literal
  have hint : Naming.Literal (name ++ "Value") := literal.append (by decide)
  rw [bodyOf.eq_def]
  dsimp only
  rw [if_neg (Bool.eq_false_iff.mp other)]
  obtain ⟨fields, between, run, declares⟩ := runs_fieldsOf required
    (fun property member => covers _ (Shape.mem_values_of_property member))
    (fun property member => facetsRegular _ (Shape.mem_values_of_property member)) literal before
  cases additional with
  | unspecified => exact ⟨_, between, run.bind (.pure _ _), Stage.embodies_record regular other declares .unspecified⟩
  | forbidden => exact ⟨_, between, run.bind (.pure _ _), Stage.embodies_record regular other declares .forbidden⟩
  | typed value =>
      have member : value ∈ Shape.values ⟨properties, required, .typed value⟩ := Shape.mem_values_of_additional rfl
      obtain ⟨type, after, run', typed⟩ := runs_typeOf (covers value member) (facetsRegular value member) hint between
      have grown := declares.imp fun _ _ declares => declares.grow run'.grows
      exact ⟨_, after, run.bind (run'.map fun type => Body.record fields (.typed type)),
        Stage.embodies_record regular other grown (.typed typed)⟩

theorem covers_object {shape : Shape Node} {facets : Facets} (regular : Node.Regular components ⟨.object shape, facets⟩)
    (covers : ∀ value ∈ shape.values, Covers components value) : Covers components ⟨.object shape, facets⟩ := by
  obtain ⟨properties, required, additional⟩ := shape
  cases map : isMap properties additional with
  | true =>
      exact covers_map map (fun value typed => covers value (Shape.mem_values_of_additional typed))
        fun value typed => (regular.inside (Shape.mem_values_of_additional typed)).here.2
  | false => exact covers_record regular map covers

theorem covers_array {items : Node} {facets : Facets} (covers : Covers components items)
    (regular : items.facets.Regular) : Covers components ⟨.array items, facets⟩ := by
  intro before name literal
  have hint : Naming.Literal (name ++ "Item") := literal.append (by decide)
  obtain ⟨type, after, run, typed⟩ := runs_typeOf covers regular hint before
  refine ⟨_, after, run.map fun type => Body.alias (.array type), Stage.embodies_alias typed.known rfl ?_⟩
  intro value
  rw [Node.kept_array, Node.fits_array, ← typed.means]
  cases value with
  | array values => simp only [TypeExpr.accepts]
  | _ => rfl

theorem covers_union {mode : UnionMode} {variants : List Node} {facets : Facets}
    (covers : ∀ variant ∈ variants, Covers components variant)
    (regular : ∀ variant ∈ variants, variant.facets.Regular) : Covers components ⟨.union mode variants, facets⟩ := by
  intro before name literal
  obtain ⟨types, after, run, typed⟩ := runs_variantsOf covers regular literal 1 before
  refine ⟨_, after, run.map (Body.union mode), Stage.known_of_typed typed, trivial, rfl, funext fun value => ?_⟩
  rw [Node.kept, Node.fits_union, ← Stage.variantsAccept_of_typed typed]
  rfl

/-- A reference is modelled as another name for the model of the component. -/
theorem covers_reference {target : String} {resolved : Node} {facets : Facets}
    (component : IsComponent components target resolved) (covers : Covers components resolved)
    (regular : resolved.facets.Regular) : Covers components ⟨.reference target resolved, facets⟩ := by
  intro before name literal
  obtain ⟨placed, after, run, found⟩ := runs_componentModel covers regular component before
  obtain ⟨has, means⟩ := after.means.kept found
  refine ⟨_, after, run.map fun name => Body.alias (.model name), Stage.embodies_alias ?_ rfl fun value => ?_⟩
  · intro other mentioned
    obtain rfl := List.mem_singleton.mp mentioned
    exact has
  · rw [Node.kept, Node.fits_reference, ← means resolved component]
    rfl

/-- The structure of every node that is read from a document can be modelled. -/
theorem covers_of_regular (regular : node.Regular components) : Covers components node := by
  induction regular with
  | @intro node here inside ih =>
      have facetsRegular : ∀ part ∈ node.parts, part.facets.Regular := fun part member => (inside part member).here.2
      have whole : node.Regular components := .intro here inside
      obtain ⟨kind, facets⟩ := node
      cases kind with
      | object shape => exact covers_object whole ih
      | array items =>
          have member := List.mem_singleton_self items
          exact covers_array (ih items member) (facetsRegular items member)
      | union mode variants => exact covers_union ih facetsRegular
      | reference target resolved =>
          have member := List.mem_singleton_self resolved
          exact covers_reference (here.1.canonical target resolved rfl) (ih resolved member)
            (facetsRegular resolved member)
      | primitive type =>
          intro before name literal
          refine ⟨_, before, .pure _ _, Stage.embodies_alias (List.forall_mem_nil _) rfl fun value => ?_⟩
          rw [Node.kept, Node.fits_primitive]
          rfl
      | any =>
          intro before name literal
          refine ⟨_, before, .pure _ _, Stage.embodies_alias (List.forall_mem_nil _) rfl fun value => ?_⟩
          rw [Node.kept, Node.fits_any]
          rfl

/-- The model of a body schema; it stands for the schema unless that is a reference, of which it stands for
the component. -/
theorem runs_topModel (regular : node.Regular components) (literal : Naming.Literal hint)
    (before : Stage components) : ∃ placed after, Runs (topModel hint node) before placed after ∧
      after.models.Has placed ∧ (node.referenceTarget? = none → after.Models placed node) ∧
      ∀ target, node.referenceTarget? = some target → Table.get? target after.registry.components = some placed := by
  have named : Naming.Literal (modelName node hint) := literal_modelName literal
  obtain ⟨placed, after, run, models⟩ := runs_model (covers_of_regular regular) regular.here.2 named before
  obtain ⟨kind, facets⟩ := node
  cases kind with
  | reference target resolved =>
      have inside : resolved.Regular components := regular.inside (List.mem_singleton_self _)
      have component : IsComponent components target resolved := regular.here.1.canonical target resolved rfl
      obtain ⟨placed, after, run, found⟩ :=
        runs_componentModel (covers_of_regular inside) inside.here.2 component before
      refine ⟨placed, after, run, (after.means.kept found).1, nofun, fun other same => ?_⟩
      cases same
      exact found
  | _ => exact ⟨placed, after, run, models.titled.has, fun _ => models, nofun⟩

end Modelling

end Model

end ApiAtlas
