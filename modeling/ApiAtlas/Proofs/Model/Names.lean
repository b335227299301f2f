import ApiAtlas.Proofs.Json.Reference
import ApiAtlas.Proofs.Model.Closedness
import ApiAtlas.Proofs.Naming.CamelCase
import ApiAtlas.Proofs.Schema.Ascii

/-! # Names of models

In a document with names in ASCII, models are called by identifiers. Modelling makes names of titles and keys in camel
case, of fixed suffixes, and of numbers, and wherever a title and a hint come to nothing it calls the model `Model`.
So a reference to a model is written as it stands, and nothing in it is decoded.
-/

namespace ApiAtlas

namespace Model

open Naming (IsAlphanumeric IsIdentifier)
open Payload (definitionName? definitionsOf)
open Schema (Additional AsciiComponents AsciiSchema Call Facets Node Session Shape)
open Text (IsAscii)

/-- Every model has an identifier for a name. -/
def Namespace.Identified (models : Namespace) : Prop := ∀ name ∈ SortedTable.keys models, IsIdentifier name

variable {models : Namespace} {name : String}

theorem Namespace.Identified.put {model : Definition} (identified : models.Identified) (identifier : IsIdentifier name) :
    Namespace.Identified (SortedTable.put name model models) := by
  intro other member
  rcases SortedTable.mem_keys_put.mp member with rfl | member
  · exact identifier
  · exact identified other member

theorem Registry.isIdentifier_candidate (identifier : IsIdentifier name) (k : Nat) : IsIdentifier (candidate name k) := by
  rw [candidate]
  split
  · exact identifier
  · exact identifier.append (.number k)

namespace Modelling

variable {α β : Type} {node : Node} {hint : String}

/-- After the step models have identifiers for names, if they had so before. -/
def Identifies (step : Modelling α) : Prop :=
  ∀ registry, registry.models.Identified → (step.run registry).2.models.Identified

theorem Identifies.pure (value : α) : Identifies (Pure.pure value : Modelling α) := fun _ identified => identified

theorem Identifies.bind {step : Modelling α} {next : α → Modelling β} (identifies : Identifies step)
    (rest : ∀ value, Identifies (next value)) : Identifies (step >>= next) :=
  fun registry identified => rest _ _ (identifies registry identified)

theorem Identifies.map {step : Modelling α} (identifies : Identifies step) (change : α → β) :
    Identifies (change <$> step) := identifies

/-- The structure of the node can be modelled under any name of letters and digits. -/
def BodyIdentifies (node : Node) : Prop := ∀ name, IsAlphanumeric name → Identifies (bodyOf node name)

theorem identifies_register (identifier : IsIdentifier name) (body : Body) (facets : Facets) :
    Identifies (register name body facets) := by
  rintro ⟨models, components⟩ identified
  obtain ⟨k, _, _, settled⟩ := Registry.placed_place models name body facets
  rcases settles : Registry.place models name body facets (models.length + 1) 1 with ⟨after, placed⟩
  have found := settled _ (Nat.lt_succ_self models.length)
  rw [settles] at found
  rw [run_register settles]
  cases found with
  | fresh => exact identified.put (Registry.isIdentifier_candidate identifier k)
  | shared => exact identified

/-- The name of a model is never empty: if neither the title nor the hint gives one, there is a name for that. -/
theorem isIdentifier_modelName (titled : node.facets.AsciiTitle) (alphanumeric : IsAlphanumeric hint) :
    IsIdentifier (modelName node hint) := by
  rw [modelName]
  split
  · rename_i name found
    obtain ⟨found, nonempty⟩ := Option.filter_eq_some_iff.mp found
    obtain ⟨title, written, rfl⟩ := Option.map_eq_some_iff.mp found
    exact ⟨bne_iff_ne.mp nonempty, Naming.alphanumeric_camelCase (titled title written)⟩
  · split
    · exact ⟨by decide, by decide⟩
    · rename_i nonempty
      exact ⟨fun empty => nonempty (String.isEmpty_iff.mpr empty), alphanumeric⟩

theorem identifies_model (identifies : BodyIdentifies node) (identifier : IsIdentifier name) (facets : Facets) :
    Identifies (bodyOf node name >>= fun body => register name body facets) :=
  (identifies name identifier.alphanumeric).bind fun body => identifies_register identifier body facets

/-- Only what becomes a record has the structure of one. -/
theorem isRecord_of_bodyOf {registry between : Registry} {fields : List Field} {extra : Additional TypeExpr}
    (run : (bodyOf node name).run registry = (.record fields extra, between)) : isRecord node = true := by
  obtain ⟨kind, facets⟩ := node
  rw [bodyOf.eq_def] at run
  cases kind with
  | object shape =>
      obtain ⟨properties, required, additional⟩ := shape
      dsimp only at run
      cases map : isMap properties additional with
      | true =>
          rw [map, if_pos rfl] at run
          cases additional <;> cases run
      | false => exact congrArg not map
  | array | primitive | union | reference | any => cases run

theorem identifies_typeOf (names : node.AsciiNames) (identifies : BodyIdentifies node)
    (alphanumeric : IsAlphanumeric hint) : Identifies (typeOf node (bodyOf node) hint) := by
  have identifier := isIdentifier_modelName names.here.2 alphanumeric
  have named : IsAlphanumeric (if isRecord node then modelName node hint else hint) := by
    split
    · exact identifier.alphanumeric
    · exact alphanumeric
  intro registry identified
  have kept := identifies _ named registry identified
  rw [typeOf]
  dsimp only
  rw [StateT.run_bind]
  rcases run : (bodyOf node (if isRecord node then modelName node hint else hint)).run registry with ⟨body, between⟩
  rw [run] at kept
  cases body with
  -- Only a record is registered, so a hint that is empty is never taken for a name.
  | record fields extra =>
      have record := isRecord_of_bodyOf run
      rw [if_pos record]
      exact (identifies_register identifier (.record fields extra) _).map TypeExpr.model between kept
  | union mode variants => exact kept
  | «alias» type => exact kept

theorem identifies_componentModel {key : String} (ascii : IsAscii key) (names : node.AsciiNames)
    (identifies : BodyIdentifies node) : Identifies (componentModel key node (bodyOf node)) := by
  have identifier := isIdentifier_modelName names.here.2 (Naming.alphanumeric_camelCase ascii)
  intro registry identified
  cases known : Table.get? key registry.components with
  | some placed =>
      rw [run_componentModel_of_known known]
      exact identified
  | none =>
      have kept := identifies_model identifies identifier node.facets registry identified
      rw [run_componentModel_of_unknown known rfl]
      exact kept

theorem identifies_fieldsOf {properties : List (String × Node)} (required : SortedSet String)
    (ascii : ∀ key ∈ Table.keys properties, IsAscii key) (names : ∀ property ∈ properties, property.2.AsciiNames)
    (identifies : ∀ property ∈ properties, BodyIdentifies property.2) (alphanumeric : IsAlphanumeric name) :
    Identifies (fieldsOf properties required name) := by
  induction properties with
  | nil => exact .pure _
  | cons property properties ih =>
      obtain ⟨key, node⟩ := property
      rw [List.forall_mem_cons] at names identifies
      obtain ⟨here, rest⟩ := List.forall_mem_cons.mp ascii
      have hint : IsAlphanumeric (name ++ Naming.camelCase key) :=
        alphanumeric.append (Naming.alphanumeric_camelCase here)
      exact (identifies_typeOf names.1 identifies.1 hint).bind fun type =>
        (ih rest names.2 identifies.2).map (⟨key, type, required.contains key, node.facets⟩ :: ·)

theorem identifies_variantsOf {variants : List Node} (names : ∀ variant ∈ variants, variant.AsciiNames)
    (identifies : ∀ variant ∈ variants, BodyIdentifies variant) (alphanumeric : IsAlphanumeric name) (k : Nat) :
    Identifies (variantsOf variants name k) := by
  induction variants generalizing k with
  | nil => exact .pure _
  | cons variant variants ih =>
      rw [List.forall_mem_cons] at names identifies
      have hint : IsAlphanumeric (name ++ "Variant" ++ toString k) :=
        (alphanumeric.append (by decide)).append (.number k)
      exact (identifies_typeOf names.1 identifies.1 hint).bind fun type =>
        (ih names.2 identifies.2 (k + 1)).map (type :: ·)

theorem bodyIdentifies_object {shape : Shape Node} {facets : Facets} (names : Node.AsciiNames ⟨.object shape, facets⟩)
    (identifies : ∀ value ∈ shape.values, BodyIdentifies value) : BodyIdentifies ⟨.object shape, facets⟩ := by
  obtain ⟨properties, required, additional⟩ := shape
  intro name alphanumeric
  have hint : IsAlphanumeric (name ++ "Value") := alphanumeric.append (by decide)
  have fields : Identifies (fieldsOf properties required name) := identifies_fieldsOf required (names.here.1.properties rfl)
    (fun property member => names.inside (Shape.mem_values_of_property member))
    (fun property member => identifies _ (Shape.mem_values_of_property member)) alphanumeric
  rw [bodyOf.eq_def]
  dsimp only
  cases additional with
  | typed value =>
      have member : value ∈ Shape.values ⟨properties, required, .typed value⟩ := Shape.mem_values_of_additional rfl
      have type := identifies_typeOf (names.inside member) (identifies value member) hint
      split
      · exact type.map fun type => Body.alias (.map type)
      · exact fields.bind fun fields => type.map fun type => Body.record fields (.typed type)
  | unspecified | forbidden =>
      split
      · exact .pure _
      · exact fields.bind fun _ => .pure _

/-- The structure of a node with names in ASCII is modelled by models with identifiers for names. -/
theorem bodyIdentifies_of_asciiNames (names : node.AsciiNames) : BodyIdentifies node := by
  induction names with
  | @intro node here inside ih =>
      have whole : node.AsciiNames := .intro here inside
      obtain ⟨kind, facets⟩ := node
      cases kind with
      | object shape => exact bodyIdentifies_object whole ih
      | array items =>
          have member := List.mem_singleton_self items
          intro name alphanumeric
          have hint : IsAlphanumeric (name ++ "Item") := alphanumeric.append (by decide)
          rw [bodyOf.eq_def]
          exact (identifies_typeOf (inside items member) (ih items member) hint).map fun type => Body.alias (.array type)
      | union mode variants =>
          intro name alphanumeric
          rw [bodyOf.eq_def]
          exact (identifies_variantsOf inside ih alphanumeric 1).map (Body.union mode)
      | reference target resolved =>
          have member := List.mem_singleton_self resolved
          intro name _
          rw [bodyOf.eq_def]
          exact (identifies_componentModel (here.1.target rfl) (inside resolved member) (ih resolved member)).map
            fun name => Body.alias (.model name)
      | primitive _ | any =>
          intro name _
          rw [bodyOf.eq_def]
          exact .pure _

/-- The model of a body schema has an identifier for a name, and so have the models in it. -/
theorem identifies_topModel (names : node.AsciiNames) (alphanumeric : IsAlphanumeric hint) :
    Identifies (topModel hint node) := by
  have model := identifies_model (bodyIdentifies_of_asciiNames names)
    (isIdentifier_modelName names.here.2 alphanumeric) node.facets
  obtain ⟨kind, facets⟩ := node
  cases kind with
  | reference target resolved =>
      have inside := names.inside (List.mem_singleton_self resolved)
      exact identifies_componentModel (names.here.1.target rfl) inside (bodyIdentifies_of_asciiNames inside)
  | _ => exact model

end Modelling

namespace Compiling

/-- The names in the schema of the JSON content of a body are in ASCII. -/
def AsciiBody (doc : Document) (written : Json) : Prop :=
  ∀ body schema, Operation.dereference? doc written = some body → jsonSchemaOf? body = some schema → AsciiSchema schema

/-- The id and the path of an operation are in ASCII, and so are the names in the schemas of its bodies. -/
structure AsciiOperation (doc : Document) (op : Operation) : Prop where
  id {id : String} : op.operationId? = some id → IsAscii id
  path : IsAscii op.path
  request {written : Json} : op.value.get? "requestBody" = some written → AsciiBody doc written
  responses : ∀ entry ∈ declaredResponses op, AsciiBody doc entry.2

/-- The memo is what calls have left, and all models have identifiers for names. -/
structure Identified (doc : Document) (progress : Progress) : Prop where
  memo : ∃ calls, progress.memo = (Session.after doc.schemas calls).memo
  models : progress.registry.models.Identified

variable {doc : Document} {before after : Progress} {location hint stem : String} {op : Operation}

theorem alphanumeric_responseHint (alphanumeric : IsAlphanumeric stem) (status : Nat) :
    IsAlphanumeric (responseHint stem status) := by
  have response : IsAlphanumeric (stem ++ "Response") := alphanumeric.append (by decide)
  rw [responseHint]
  split
  · exact response
  · exact response.append (.number status)

namespace Identified

theorem resolving {node : Node} (here : Identified doc before) (call : Call)
    (h : (resolving doc location (call.step doc.schemas).alone).run before = .ok (node, after)) :
    Answered doc.schemas call node ∧ Identified doc after := by
  obtain ⟨answered, memo, registry⟩ := answered_resolving call here.memo h
  exact ⟨answered, memo, registry ▸ here.models⟩

theorem modelling {α : Type} {step : Modelling α} {value : α} (here : Identified doc before)
    (identifies : step.Identifies) (h : (modelling step).run before = .ok (value, after)) : Identified doc after := by
  obtain ⟨run, memo⟩ := run_modelling h
  have kept := identifies before.registry here.models
  rw [run] at kept
  exact ⟨memo ▸ here.memo, kept⟩

theorem component {key : String} (ascii : AsciiComponents doc.schemas) (here : Identified doc before)
    (listed : IsAscii key) (h : (component doc key).run before = .ok ((), after)) : Identified doc after := by
  obtain ⟨node, between, resolved, rest⟩ := run_bind h
  obtain ⟨answered, there⟩ := here.resolving (.component key) resolved
  have names := answered.isComponent.asciiNames ascii
  obtain ⟨_, last, modelled, done⟩ := run_bind rest
  cases done
  exact there.modelling
    (Modelling.identifies_componentModel listed names (Modelling.bodyIdentifies_of_asciiNames names)) modelled

theorem contentModel {body : Json} {model : Option String} (ascii : AsciiComponents doc.schemas)
    (here : Identified doc before) (alphanumeric : IsAlphanumeric hint)
    (content : ∀ schema, jsonSchemaOf? body = some schema → AsciiSchema schema)
    (h : (contentModel doc location hint body).run before = .ok (model, after)) : Identified doc after := by
  unfold Compiling.contentModel at h
  split at h
  · cases h
    exact here
  · rename_i schema found
    obtain ⟨node, between, resolved, rest⟩ := run_bind h
    obtain ⟨answered, there⟩ := here.resolving (.resolve schema) resolved
    have names := answered.resolves.asciiNames ascii (content schema found)
    obtain ⟨_, last, modelled, done⟩ := run_bind rest
    cases done
    exact there.modelling (Modelling.identifies_topModel names alphanumeric) modelled

/-- A body gets a model, behind a reference too. -/
theorem body {written body : Json} {between : Progress} {model : Option String} (ascii : AsciiComponents doc.schemas)
    (here : Identified doc before) (alphanumeric : IsAlphanumeric hint) (names : AsciiBody doc written)
    (leads : (followed doc location written).run before = .ok (body, between))
    (h : (Compiling.contentModel doc location hint body).run between = .ok (model, after)) : Identified doc after := by
  obtain ⟨target, rfl⟩ := run_followed leads
  exact here.contentModel ascii alphanumeric (fun schema => names body schema target) h

theorem request {model : Option String} {required : Bool} (ascii : AsciiComponents doc.schemas)
    (here : Identified doc before) (alphanumeric : IsAlphanumeric stem) (names : AsciiOperation doc op)
    (h : (request doc op stem).run before = .ok ((model, required), after)) : Identified doc after := by
  unfold Compiling.request at h
  split at h
  · cases h
    exact here
  · rename_i written there
    obtain ⟨body, between, leads, rest⟩ := run_bind h
    obtain ⟨found, last, content, rest⟩ := run_bind rest
    cases rest
    have hint : IsAlphanumeric (stem ++ "Request") := alphanumeric.append (by decide)
    exact here.body ascii hint (names.request there) leads content

theorem responses {declared : List (String × Json)} {done found : SortedTable Nat (String × Option String)}
    (ascii : AsciiComponents doc.schemas) (here : Identified doc before) (alphanumeric : IsAlphanumeric stem)
    (names : ∀ entry ∈ declared, AsciiBody doc entry.2)
    (h : (responses doc op stem declared done).run before = .ok (found, after)) : Identified doc after := by
  induction declared generalizing done before with
  | nil =>
      cases h
      exact here
  | cons entry declared ih =>
      obtain ⟨code, response⟩ := entry
      rw [List.forall_mem_cons] at names
      rw [Compiling.responses] at h
      split at h
      · exact ih here names.2 h
      · rename_i number written
        obtain ⟨body, between, leads, rest⟩ := run_bind h
        obtain ⟨model, last, content, rest⟩ := run_bind rest
        exact ih (here.body ascii (alphanumeric_responseHint alphanumeric number) names.1 leads content) names.2 rest

theorem draft {found : Draft} (ascii : AsciiComponents doc.schemas) (here : Identified doc before)
    (names : AsciiOperation doc op) (h : (draft doc op).run before = .ok (found, after)) : Identified doc after := by
  have stem := Naming.alphanumeric_operationStem (fun _ => names.id) names.path
  obtain ⟨⟨request, required⟩, between, requested, rest⟩ := run_bind h
  obtain ⟨responses, last, responded, rest⟩ := run_bind rest
  cases rest
  exact (here.request ascii stem names requested).responses ascii stem names.responses responded

theorem components {entries : Table Json} (ascii : AsciiComponents doc.schemas) (here : Identified doc before)
    (listed : ∀ key ∈ Table.keys entries, IsAscii key)
    (h : (entries.forM fun entry => Compiling.component doc entry.1).run before = .ok ((), after)) :
    Identified doc after := by
  induction entries generalizing before with
  | nil =>
      cases h
      exact here
  | cons entry entries ih =>
      obtain ⟨first, others⟩ := List.forall_mem_cons.mp listed
      obtain ⟨⟨⟩, between, run, rest⟩ := run_bind h
      exact ih (here.component ascii first run) others rest

theorem drafts {ops : List Operation} {found : List Draft} (ascii : AsciiComponents doc.schemas)
    (here : Identified doc before) (names : ∀ op ∈ ops, AsciiOperation doc op)
    (h : (ops.mapM (Compiling.draft doc)).run before = .ok (found, after)) : Identified doc after := by
  induction ops generalizing before found with
  | nil =>
      cases h
      exact here
  | cons op ops ih =>
      rw [List.forall_mem_cons] at names
      rw [List.mapM_cons] at h
      obtain ⟨draft, between, run, rest⟩ := run_bind h
      obtain ⟨drafts, last, others, rest⟩ := run_bind rest
      cases rest
      exact ih (here.draft ascii names.1 run) names.2 others

end Identified

end Compiling

/-- The names in a document are in ASCII: keys, ids and paths, and the titles and property names in schemas. -/
structure AsciiDocument (doc : Document) : Prop where
  components : AsciiComponents doc.schemas
  operations : ∀ op ∈ doc.operations, Compiling.AsciiOperation doc op

theorem identified_of_asciiDocument {doc : Document} {compiled : CompiledDocument} (ascii : AsciiDocument doc)
    (compiles : compileDocument doc = .ok compiled) : compiled.models.Identified := by
  obtain ⟨⟨drafts, progress⟩, run, rest⟩ := bind_eq_ok_iff.mp compiles
  cases rest
  have start : Compiling.Identified doc {} := ⟨⟨[], rfl⟩, nofun⟩
  obtain ⟨⟨⟩, between, first, rest⟩ := Compiling.run_bind run
  have there := start.components ascii.components ascii.components.keys first
  exact (there.drafts ascii.components ascii.operations rest).models

/-- A reference to a definition is decoded to this name, as a pointer in a fragment and when payloads are checked. -/
structure DecodesTo (target name : String) : Prop where
  pointer : Pointer.namesOfReference? target = some ["$defs", name]
  definition : definitionName? target = some name

/-- A name of letters and digits is written in a reference as it stands. -/
theorem decodesTo_definition (alphanumeric : IsAlphanumeric name) : DecodesTo (definitionPrefix ++ name) name := by
  have literal : Naming.Literal name := alphanumeric.notMem (by decide)
  have written : Pointer.write ["$defs", name] = "/$defs/" ++ name := by
    have whole : '/' ∉ name.toList := alphanumeric.notMem (by decide)
    rw [Pointer.write_cons, Pointer.write_singleton, Pointer.escape_of_notMem literal whole, ← String.append_assoc]
    rfl
  have ascii : IsAscii (Pointer.write ["$defs", name]) := by
    rw [written]
    exact Text.IsAscii.append (by decide) alphanumeric.isAscii
  have plain : '%' ∉ (Pointer.write ["$defs", name]).toList := by
    rw [written, String.toList_append, List.mem_append, not_or]
    exact ⟨by decide, alphanumeric.notMem (by decide)⟩
  have reference : definitionPrefix ++ name = "#" ++ Pointer.write ["$defs", name] := by
    rw [written, ← String.append_assoc]
    rfl
  refine ⟨?_, definitionName?_eq literal⟩
  rw [reference]
  exact Pointer.namesOfReference?_write ascii plain

/-- In a document with names in ASCII, the names of all models are identifiers. So every reference that is generated
for a model is decoded to the name of a model, which is written in the reference as it stands. -/
theorem compileDocument_identifiers {doc : Document} {compiled : CompiledDocument} (ascii : AsciiDocument doc)
    (compiles : compileDocument doc = .ok compiled) :
    (∀ name ∈ SortedTable.keys compiled.models, IsIdentifier name ∧ DecodesTo (definitionPrefix ++ name) name) ∧
    (doc.root.Keyed → ∀ name handle strict target, compiled.model? name = some handle →
      PointsTo (handle.jsonSchema strict) target → ∃ other ∈ Table.keys (definitionsOf (handle.jsonSchema strict)),
        compiled.models.Has other ∧ target = definitionPrefix ++ other ∧ DecodesTo target other) := by
  have identified := identified_of_asciiDocument ascii compiles
  refine ⟨fun name member => ?_, fun keyed name handle strict target named points => ?_⟩
  · have identifier := identified name member
    exact ⟨identifier, decodesTo_definition identifier.alphanumeric⟩
  · obtain ⟨stage, _, ends⟩ := exists_endsAt keyed compiles
    have means : compiled.models.Means stage.meaning := ends.models ▸ stage.means.models
    have contained : handle.SelfContained strict := selfContained means named
    obtain ⟨other, defined, rfl⟩ := contained.pointers points
    have has : compiled.models.Has other := by
      obtain ⟨model, there, rfl⟩ := Option.map_eq_some_iff.mp named
      exact has_of_leads means (contained.definitions.mp defined)
    obtain ⟨model, there⟩ := has
    have identifier := identified other (SortedTable.mem_keys_of_get? there)
    exact ⟨other, defined, ⟨model, there⟩, rfl, decodesTo_definition identifier.alphanumeric⟩

/-- A body with JSON content of this schema, written in place. -/
def inlineBody (schema : Json) : Json :=
  .object [("content", .object [("application/json", .object [("schema", schema)])])]

theorem Compiling.asciiBody_inlineBody {doc : Document} {schema : Json} (names : AsciiSchema schema) :
    AsciiBody doc (inlineBody schema) := by
  intro body found leads content
  obtain rfl : inlineBody schema = body := Option.some.inj leads
  exact Option.some.inj content ▸ names

/-- A record without a title. -/
def formSchema : Json := .object
  [("type", .string "object"), ("properties", .object [("reason", .object [("type", .string "string")])])]

/-- A record with nothing in its title that camel case keeps. -/
def blankSchema : Json := .object
  [("title", .string "?"), ("type", .string "object"),
   ("properties", .object [("%~/", .object [("description", .string "naïve")])])]

/-- A record, again with nothing in its title, of records. -/
def markSchema : Json := .object
  [("title", .string "!"), ("type", .string "object"),
   ("properties", .object
     [("", blankSchema), ("kind of", .object [("oneOf", .array [formSchema, .object [("type", .string "string")]])])])]

/-- A form that is sent, for which marks or a list of forms come back. -/
def markOperation : Json := .object
  [("requestBody", inlineBody formSchema),
   ("responses", .object
     [("200", inlineBody (.object [("$ref", .string "#/components/schemas/_")])),
      ("404", inlineBody (.object [("type", .string "array"), ("items", formSchema)]))])]

/-- A document in which some names are taken from the path, and the others from nothing. -/
def markDocument : Document where
  path := "marks.json"
  relativePath := "marks.json"
  fields :=
    [("paths", .object [("/pets/\x7bid\x7d", .object [("post", markOperation)])]),
     ("components", .object [("schemas", .object [("_", markSchema)])])]

theorem asciiSchema_formSchema : AsciiSchema formSchema := by
  simp +decide [formSchema, Schema.asciiSchema_object_iff, Schema.asciiNames_iff, Table.get?]

theorem asciiSchema_markSchema : AsciiSchema markSchema := by
  have blank : AsciiSchema blankSchema := by
    simp +decide [blankSchema, Schema.asciiSchema_object_iff, Schema.asciiNames_iff, Table.get?]
  simp +decide [markSchema, Schema.asciiSchema_object_iff, Schema.asciiNames_iff, Table.get?, or_imp, forall_and, blank,
    asciiSchema_formSchema]

theorem asciiDocument_marks : AsciiDocument markDocument := by
  have marks : AsciiSchema (.object [("$ref", .string "#/components/schemas/_")]) := by
    simp +decide [Schema.asciiSchema_object_iff, Schema.asciiNames_iff, Table.get?]
  have forms : AsciiSchema (.object [("type", .string "array"), ("items", formSchema)]) := by
    simp +decide [Schema.asciiSchema_object_iff, Schema.asciiNames_iff, Table.get?, asciiSchema_formSchema]
  refine ⟨⟨by decide, fun entry member => ?_⟩, fun op member => ?_⟩
  · obtain rfl := List.mem_singleton.mp member
    exact asciiSchema_markSchema
  · obtain rfl := List.mem_singleton.mp member
    refine ⟨nofun, by decide, fun written => ?_, ?_⟩
    · obtain rfl := Option.some.inj written
      exact Compiling.asciiBody_inlineBody asciiSchema_formSchema
    · exact List.forall_mem_cons.mpr ⟨Compiling.asciiBody_inlineBody marks,
        List.forall_mem_singleton.mpr (Compiling.asciiBody_inlineBody forms)⟩

theorem compileDocument_identifiers_marks : AsciiDocument markDocument ∧ markDocument.root.Keyed ∧ ∃ compiled,
    compileDocument markDocument = .ok compiled ∧ SortedTable.keys compiled.models =
      ["Model", "Model2", "ModelKindOfVariant1", "PostPetsIdRequest", "PostPetsIdResponse404",
        "PostPetsIdResponse404Item"] ∧
    (∀ name ∈ SortedTable.keys compiled.models, IsIdentifier name ∧ DecodesTo (definitionPrefix ++ name) name) ∧
    ∀ name handle strict target, compiled.model? name = some handle → PointsTo (handle.jsonSchema strict) target →
      ∃ other ∈ Table.keys (definitionsOf (handle.jsonSchema strict)),
        compiled.models.Has other ∧ target = definitionPrefix ++ other ∧ DecodesTo target other := by
  have keyed : markDocument.root.Keyed := by
    simp [Document.root, markDocument, markOperation, markSchema, blankSchema, formSchema, inlineBody, Table.keys]
  have named : (compileDocument markDocument).toOption.map (SortedTable.keys ·.models) =
      some ["Model", "Model2", "ModelKindOfVariant1", "PostPetsIdRequest", "PostPetsIdResponse404",
        "PostPetsIdResponse404Item"] := by decide +kernel
  obtain ⟨compiled, compiles, named⟩ := Option.map_eq_some_iff.mp named
  have compiles := toOption_eq_some_iff.mp compiles
  obtain ⟨identifiers, references⟩ := compileDocument_identifiers asciiDocument_marks compiles
  exact ⟨asciiDocument_marks, keyed, compiled, compiles, named, identifiers, references keyed⟩

end Model

end ApiAtlas
