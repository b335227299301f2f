import ApiAtlas.Proofs.Model.Compilation
import ApiAtlas.Proofs.Model.Pointers

/-! # Compiled models are closed under mentions

A model mentions only models that came before it, so mentions lead out of no set of models and never back.
The schema of a model therefore has a definition for each reference in it, and none for the model itself.
-/

namespace ApiAtlas

namespace Model

open Payload (definitionsOf)
open Relation (ReflTransGen TransGen)

variable {models : Namespace} {meaning : Meaning} {root name other target : String} {model : Definition}
  {strict : Bool}

section Mentions

theorem mentions_iff : models.Mentions name other ↔ ∃ names,
    SortedTable.get? name (models.map fun entry => (entry.1, entry.2.body.mentions)) = some names ∧ other ∈ names := by
  simp [Namespace.Mentions, SortedTable.get?_map fun model : Definition => model.body.mentions]

theorem has_of_mentions (means : models.Means meaning) (mentions : models.Mentions name other) :
    models.Has other := by
  obtain ⟨model, there, member⟩ := mentions
  exact ((means there).earlier other member).1

theorem rank_lt_of_leads (means : models.Means meaning) (path : TransGen models.Mentions name other) :
    meaning.rank other < meaning.rank name := by
  induction path with
  | single mentions => exact rank_lt_of_mentions means mentions
  | tail _ mentions ih => exact (rank_lt_of_mentions means mentions).trans ih

theorem not_leads_back (means : models.Means meaning) : ¬ TransGen models.Mentions name name :=
  fun path => lt_irrefl _ (rank_lt_of_leads means path)

theorem mem_others_iff (means : models.Means meaning) :
    other ∈ models.others root ↔ TransGen models.Mentions root other := by
  constructor
  · intro member
    obtain ⟨member, different⟩ := List.mem_filter.mp member
    rcases Relation.reflTransGen_iff_eq_or_transGen.mp (Namespace.mem_closure.mp member) with rfl | path
    · simp at different
    · exact path
  · intro path
    obtain ⟨between, path, mentions⟩ := TransGen.tail'_iff.mp path
    exact mem_others means path mentions

theorem has_of_leads (means : models.Means meaning) (path : TransGen models.Mentions root other) :
    models.Has other := by
  obtain ⟨between, _, mentions⟩ := TransGen.tail'_iff.mp path
  exact has_of_mentions means mentions

end Mentions

section Definitions

def Namespace.definitions (models : Namespace) (root : String) (strict : Bool) : Table Json :=
  (models.others root).filterMap fun name =>
    (SortedTable.get? name models).map fun model => (name, Json.object (model.schemaFields strict))

theorem Namespace.mem_definitions {schema : Json} : (name, schema) ∈ models.definitions root strict ↔
    name ∈ models.others root ∧ ∃ model, SortedTable.get? name models = some model ∧
      schema = .object (model.schemaFields strict) := by
  simp only [definitions, List.mem_filterMap, Option.map_eq_some_iff, Prod.mk.injEq]
  grind

theorem Namespace.mem_keys_definitions (means : models.Means meaning) :
    name ∈ Table.keys (models.definitions root strict) ↔ TransGen models.Mentions root name := by
  simp only [Table.mem_keys, mem_definitions, mem_others_iff means]
  constructor
  · intro there
    obtain ⟨_, path, _⟩ := there
    exact path
  · intro path
    obtain ⟨model, there⟩ := has_of_leads means path
    exact ⟨_, path, model, there, rfl⟩

theorem get?_definitions_schemaFields (regular : model.Regular) :
    Table.get? "$defs" (model.schemaFields strict) = none := by
  rw [Definition.schemaFields, Table.get?_put_ne (by decide), withFacets]
  split
  · exact Table.get?_cons_ne (by decide)
  · have shapely : Shapely (model.body.schemaFields strict) := model.body.shapely
    rw [get?_decorated shapely regular.facets (by decide) (by decide), ← Table.not_has_iff]
    exact shapely.not_has (by decide)

theorem definitionsOf_jsonSchema (regular : model.Regular) :
    definitionsOf (models.jsonSchema model strict) = models.definitions model.name strict := by
  have schema : models.jsonSchema model strict = .object (if (models.definitions model.name strict).isEmpty
      then Table.put "$schema" (.string dialect) (model.schemaFields strict)
      else Table.put "$defs" (.object (models.definitions model.name strict))
        (Table.put "$schema" (.string dialect) (model.schemaFields strict))) := rfl
  rw [schema, definitionsOf, Json.get?]
  split
  · rename_i nothing
    rw [Table.get?_put_ne (by decide), get?_definitions_schemaFields regular, List.isEmpty_iff.mp nothing]
    rfl
  · rw [Table.get?_put_self]
    rfl

end Definitions

/-- A reference in the schema of a model stands in the model's own part of it or in a definition. -/
theorem pointsTo_jsonSchema (points : PointsTo (models.jsonSchema model strict) target) :
    PointsTo (.object (model.schemaFields strict)) target ∨
      ∃ entry ∈ models.definitions model.name strict, PointsTo entry.2 target := by
  have own : PointsTo (.object (Table.put "$schema" (.string dialect) (model.schemaFields strict))) target →
      PointsTo (.object (model.schemaFields strict)) target := (Annotates.refl.put (by decide)).pointsTo
  have written : PointsTo (.object (if (models.definitions model.name strict).isEmpty
      then Table.put "$schema" (.string dialect) (model.schemaFields strict)
      else Table.put "$defs" (.object (models.definitions model.name strict))
        (Table.put "$schema" (.string dialect) (model.schemaFields strict)))) target := points
  split at written
  · exact .inl (own written)
  · cases written with
    | here member =>
        rcases Table.mem_of_mem_put member with member | same
        · exact .inl (own (.here member))
        · simp at same
    | inside member under points =>
        rcases Table.mem_of_mem_put member with member | same
        · exact .inl (own (.inside member under points))
        · cases same
          obtain ⟨entry, listed, rfl⟩ := List.mem_map.mp under
          exact .inr ⟨entry, listed, points⟩

/-- The schema of a model refers to its own definitions only, and defines exactly the models that mentions
lead to, among which the model itself is not. -/
structure Handle.SelfContained (handle : Handle) (strict : Bool) : Prop where
  pointers {target : String} : PointsTo (handle.jsonSchema strict) target →
    Defines (Table.keys (definitionsOf (handle.jsonSchema strict))) target
  definitions {name : String} : name ∈ Table.keys (definitionsOf (handle.jsonSchema strict)) ↔
    TransGen handle.models.Mentions handle.name name
  itself : handle.name ∉ Table.keys (definitionsOf (handle.jsonSchema strict))

theorem selfContained (means : models.Means meaning) {handle : Handle}
    (named : Handle.ofName? models name = some handle) : handle.SelfContained strict := by
  obtain ⟨model, there, rfl⟩ := Option.map_eq_some_iff.mp named
  have fits := means there
  have same : definitionsOf (Handle.jsonSchema ⟨models, model⟩ strict) = models.definitions name strict :=
    fits.named ▸ definitionsOf_jsonSchema fits.regular
  have keys : ∀ {other}, other ∈ Table.keys (definitionsOf (Handle.jsonSchema ⟨models, model⟩ strict)) ↔
      TransGen models.Mentions name other := by
    intro other
    rw [same, Namespace.mem_keys_definitions means]
  have called : Handle.name ⟨models, model⟩ = name := fits.named
  refine ⟨fun points => ?_, fun {other} => called.symm ▸ keys, fun member => ?_⟩
  -- A reference stands for a mention, by the model or by one that mentions already lead to.
  · rcases pointsTo_jsonSchema points with points | ⟨⟨owner, schema⟩, listed, points⟩
    · refine (Definition.pointsTo_schemaFields fits.regular points).mono fun other member => ?_
      exact keys.mpr (.single ⟨model, there, member⟩)
    · rw [fits.named, Namespace.mem_definitions, mem_others_iff means] at listed
      obtain ⟨path, found, stored, rfl⟩ := listed
      refine (Definition.pointsTo_schemaFields (means stored).regular points).mono fun other member => ?_
      exact keys.mpr (path.tail ⟨found, stored, member⟩)
  · rw [called, keys] at member
    exact not_leads_back means member

section Operations

def operationDrafts (doc : Document) : Except BuildError (List Compiling.Draft) := do
  let (drafts, _) ← (Compiling.document doc).run {}
  return drafts

/-- A handle of the model of this name. -/
def CompiledDocument.Names (compiled : CompiledDocument) (name : String) (handle : Handle) : Prop :=
  compiled.model? name = some handle ∧ handle.name = name

/-- An operation has a handle for each model that its draft names. -/
structure OperationSpec.Keeps (compiled : CompiledDocument) (draft : Compiling.Draft) (spec : OperationSpec) :
    Prop where
  request : Option.Rel compiled.Names draft.request spec.request
  response (status : Nat) : Option.Rel
    (fun drafted response => response.description = drafted.1 ∧ Option.Rel compiled.Names drafted.2 response.model)
    (SortedTable.get? status draft.responses) (SortedTable.get? status spec.responses)

theorem Compiling.Drafts.known {doc : Document} {stage : Stage doc.schemas} {op : Operation} {draft : Draft}
    (drafts : Drafts stage doc op draft) (named : draft.request = some name) : stage.models.Has name := by
  cases written : op.value.get? "requestBody" with
  | none =>
      rw [drafts.absent written] at named
      cases named
  | some body =>
      obtain ⟨_, _, serves⟩ := drafts.request written
      exact serves.known name named

theorem Compiling.Responds.known {doc : Document} {stage : Stage doc.schemas} {declared : List (String × Json)}
    {found : SortedTable Nat (String × Option String)} {status : Nat} {description : String}
    (responds : Responds stage doc declared [] found)
    (listed : SortedTable.get? status found = some (description, some name)) : stage.models.Has name := by
  have answer := responds status
  cases written : documented status declared with
  | none =>
      rw [written, listed] at answer
      cases answer
  | some body =>
      rw [written] at answer
      obtain ⟨_, model, _, there, serves⟩ := answer
      rw [listed, Option.some.injEq, Prod.mk.injEq] at there
      exact serves.known name there.2.symm

theorem names_of_has {compiled : CompiledDocument} (means : compiled.models.Means meaning)
    {drafted : Option String} (known : ∀ name, drafted = some name → compiled.models.Has name) :
    Option.Rel compiled.Names drafted (drafted.bind compiled.model?) := by
  cases drafted with
  | none => exact .none
  | some name =>
      obtain ⟨model, there⟩ := known name rfl
      have handle : compiled.model? name = some ⟨compiled.models, model⟩ := by
        rw [CompiledDocument.model?, Handle.ofName?, there]
        rfl
      rw [Option.bind_some, handle]
      exact .some ⟨handle, (means there).named⟩

theorem OperationSpec.keeps_of_drafts {doc : Document} {stage : Stage doc.schemas} {compiled : CompiledDocument}
    {op : Operation} {draft : Compiling.Draft} (models : stage.models = compiled.models)
    (drafts : Compiling.Drafts stage doc op draft) : Keeps compiled draft (ofDraft doc compiled.models draft) := by
  have means : compiled.models.Means stage.meaning := models ▸ stage.means.models
  constructor
  case request => exact names_of_has means fun name named => models ▸ drafts.known named
  case response =>
    intro status
    rw [get?_responses]
    cases listed : SortedTable.get? status draft.responses with
    | none => exact .none
    | some drafted =>
        refine .some ⟨rfl, names_of_has means fun name named => ?_⟩
        obtain ⟨description, model⟩ := drafted
        subst named
        exact models ▸ drafts.responses.known listed

theorem OperationSpec.keep_of_drafts {doc : Document} {stage : Stage doc.schemas} {compiled : CompiledDocument}
    {ops : List Operation} {drafts : List Compiling.Draft} (models : stage.models = compiled.models)
    (drafted : List.Forall₂ (Compiling.Drafts stage doc) ops drafts) :
    List.Forall₂ (Keeps compiled) drafts (drafts.map (ofDraft doc compiled.models)) := by
  induction drafted with
  | nil => exact .nil
  | cons first _ ih => exact .cons (keeps_of_drafts models first) ih

end Operations

/-- What compiling yields is closed under mentions and free of cycles, the schema of each model is complete
in itself, and every model that an operation was given is there. -/
theorem compileDocument_closed {doc : Document} {compiled : CompiledDocument} (keyed : doc.root.Keyed)
    (compiles : compileDocument doc = .ok compiled) :
    (∀ first second, compiled.models.Mentions first second → compiled.models.Has second) ∧
    (∀ name, ¬ TransGen compiled.models.Mentions name name) ∧
    (∀ name handle, compiled.model? name = some handle → handle.models = compiled.models ∧ handle.name = name ∧
      ∀ strict, handle.SelfContained strict) ∧
    ∃ drafts, operationDrafts doc = .ok drafts ∧
      List.Forall₂ (OperationSpec.Keeps compiled) drafts compiled.operations := by
  obtain ⟨⟨drafts, progress⟩, run, rest⟩ := bind_eq_ok_iff.mp compiles
  obtain ⟨stage, registry, drafted, _⟩ := Compiling.reached keyed run
  have models : stage.models = compiled.models := by
    cases rest
    exact congrArg Registry.models registry
  have means : compiled.models.Means stage.meaning := models ▸ stage.means.models
  have operations : operationDrafts doc = .ok drafts := by
    rw [operationDrafts, run]
    rfl
  refine ⟨fun _ _ => has_of_mentions means, fun _ => not_leads_back means, fun name handle named => ?_,
    drafts, operations, ?_⟩
  · obtain ⟨model, there, same⟩ := Option.map_eq_some_iff.mp named
    subst same
    exact ⟨rfl, (means there).named, fun strict => selfContained means named⟩
  · have written : compiled.operations = drafts.map (OperationSpec.ofDraft doc compiled.models) := by
      cases rest
      rfl
    rw [written]
    exact OperationSpec.keep_of_drafts models drafted

theorem of_rel_some {α β : Type} {r : α → β → Prop} {first : α} {second : β}
    (rel : Option.Rel r (some first) (some second)) : r first second := by
  cases rel with
  | some related => exact related

/-- A component that describes two kinds of persons under one title, and operations that exchange it. -/
def clinicDocument : Document where
  path := "clinic.json"
  relativePath := "clinic.json"
  fields :=
    [("paths", .object [("/pets", .object [("put", .object
        [("requestBody", .object [("content", .object [("application/json", .object [("schema", .object
          [("type", .string "array"), ("items", .object [("$ref", .string "#/components/schemas/Pet")])])])])]),
         ("responses", .object [("200", .object [("content", .object [("application/json", .object [("schema",
           .object [("$ref", .string "#/components/schemas/Pet")])])])])])])])]),
     ("components", .object [("schemas", .object
        [("Pet", .object
          [("type", .string "object"),
           ("properties", .object
             [("owner", .object
                [("title", .string "Person"), ("type", .string "object"), ("nullable", .bool true),
                 ("properties", .object [("name", .object [("type", .string "string")])])]),
              ("vet", .object
                [("title", .string "Person"), ("type", .string "object"),
                 ("properties", .object [("tags", .object
                    [("type", .string "array"), ("items", .object [("$ref", .string "#/components/schemas/Tag")])])])])])]),
         ("Tag", .object [("type", .string "string")])])])]

theorem compileDocument_closed_clinic : clinicDocument.root.Keyed ∧ ∃ compiled spec request response,
    compileDocument clinicDocument = .ok compiled ∧
    compiled.models.map (fun entry => (entry.1, entry.2.body.mentions)) = [("Person", []), ("Person2", ["Tag"]),
      ("Pet", ["Person", "Person2"]), ("PutPetsRequest", ["Pet"]), ("Tag", [])] ∧
    compiled.models.Has "Tag" ∧ ¬ TransGen compiled.models.Mentions "Pet" "Pet" ∧
    compiled.operations = [spec] ∧
    spec.request = some request ∧ compiled.Names "PutPetsRequest" request ∧ request.SelfContained true ∧
    Table.keys (definitionsOf (request.jsonSchema true)) = ["Person", "Person2", "Pet", "Tag"] ∧
    TransGen compiled.models.Mentions "PutPetsRequest" "Tag" ∧
    (SortedTable.get? 200 spec.responses).bind (·.model) = some response ∧ compiled.Names "Pet" response ∧
    response.SelfContained false ∧
    Table.keys (definitionsOf (response.jsonSchema false)) = ["Person", "Person2", "Tag"] := by
  have keyed : clinicDocument.root.Keyed := by
    simp [Document.root, clinicDocument, Table.keys]
  have succeeds : (compileDocument clinicDocument).isOk = true := by decide +kernel
  have mentions : (compileDocument clinicDocument).toOption.map (fun compiled =>
      compiled.models.map fun entry => (entry.1, entry.2.body.mentions)) = some [("Person", []), ("Person2", ["Tag"]),
        ("Pet", ["Person", "Person2"]), ("PutPetsRequest", ["Pet"]), ("Tag", [])] := by
    decide +kernel
  have drafted : (operationDrafts clinicDocument).toOption.map (·.map fun draft =>
      (draft.request, (SortedTable.get? 200 draft.responses).map (·.2))) =
        some [(some "PutPetsRequest", some (some "Pet"))] := by
    decide +kernel
  have requests : (compileDocument clinicDocument).toOption.map (fun compiled => compiled.operations.map fun spec =>
      spec.request.map fun request => Table.keys (definitionsOf (request.jsonSchema true))) =
        some [some ["Person", "Person2", "Pet", "Tag"]] := by
    decide +kernel
  have responses : (compileDocument clinicDocument).toOption.map (fun compiled => compiled.operations.map fun spec =>
      ((SortedTable.get? 200 spec.responses).bind (·.model)).map fun response =>
        Table.keys (definitionsOf (response.jsonSchema false))) = some [some ["Person", "Person2", "Tag"]] := by
    decide +kernel
  obtain ⟨compiled, compiles⟩ := exists_eq_ok_of_isOk succeeds
  obtain ⟨closed, acyclic, handles, drafts, drafting, keeps⟩ := compileDocument_closed keyed compiles
  replace mentions := apply_eq_of_toOption_map compiles mentions
  replace requests := apply_eq_of_toOption_map compiles requests
  replace responses := apply_eq_of_toOption_map compiles responses
  replace drafted := apply_eq_of_toOption_map drafting drafted
  obtain ⟨spec, listed, requests⟩ := List.map_eq_singleton_iff.mp requests
  obtain ⟨draft, alone, drafted⟩ := List.map_eq_singleton_iff.mp drafted
  rw [listed, List.map_singleton, List.singleton_inj] at responses
  rw [listed, alone] at keeps
  obtain ⟨requestDrafted, responseDrafted⟩ := Prod.mk.inj drafted
  obtain ⟨request, requested, requestDefines⟩ := Option.map_eq_some_iff.mp requests
  obtain ⟨response, responded, responseDefines⟩ := Option.map_eq_some_iff.mp responses
  have kept := (List.forall₂_cons.mp keeps).1
  have requestNamed : compiled.Names "PutPetsRequest" request := by
    have named := kept.request
    rw [requestDrafted, requested] at named
    exact of_rel_some named
  have responseNamed : compiled.Names "Pet" response := by
    obtain ⟨found, there, model⟩ := Option.bind_eq_some_iff.mp responded
    obtain ⟨⟨_, _⟩, drafted, rfl⟩ := Option.map_eq_some_iff.mp responseDrafted
    have named := kept.response 200
    rw [drafted, there] at named
    replace named := (of_rel_some named).2
    rw [model] at named
    exact of_rel_some named
  obtain ⟨models, called, requestSelfContained⟩ := handles _ _ requestNamed.1
  obtain ⟨_, _, responseSelfContained⟩ := handles _ _ responseNamed.1
  have leads : TransGen compiled.models.Mentions "PutPetsRequest" "Tag" := by
    rw [← models, ← called, ← (requestSelfContained true).definitions, requestDefines]
    decide
  have mentioned : compiled.models.Mentions "Person2" "Tag" := by
    rw [mentions_iff, mentions]
    exact ⟨_, rfl, List.mem_singleton_self _⟩
  exact ⟨keyed, compiled, spec, request, response, compiles, mentions, closed _ _ mentioned, acyclic _, listed, requested,
    requestNamed, requestSelfContained _, requestDefines, leads, responded, responseNamed, responseSelfContained _,
    responseDefines⟩

end Model

end ApiAtlas
