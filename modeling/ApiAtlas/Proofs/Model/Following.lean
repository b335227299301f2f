import ApiAtlas.Proofs.Model.Bodies
import ApiAtlas.Validation.Structure

/-! # References of bodies

A body may be given by a reference, which leads to an object or to one more reference. Compiling follows the first
of them: an operation has the models and the descriptions of its bodies if they are written in place or one reference
away, and what lies further on is not looked at.
-/

namespace ApiAtlas

/-- References that lead from what is written to an object without one, and how many there are. -/
inductive Document.LeadsTo (doc : Document) : (steps : Nat) → Json → Json → Prop where
  | here {body : Json} : body.textAt? "$ref" = none → LeadsTo doc 0 body body
  | step {steps : Nat} {written next body : Json} {reference : String} : written.textAt? "$ref" = some reference →
    doc.resolveLocal? reference = some next → LeadsTo doc steps next body → LeadsTo doc (steps + 1) written body

namespace Document.LeadsTo

variable {doc : Document} {steps steps' : Nat} {written body body' : Json}

/-- References lead to one object, and in one way. -/
theorem unique (leads : doc.LeadsTo steps written body) (leads' : doc.LeadsTo steps' written body') :
    steps = steps' ∧ body = body' := by
  induction leads generalizing steps' with
  | here inline =>
      cases leads' with
      | here _ => exact ⟨rfl, rfl⟩
      | step referring =>
          rw [inline] at referring
          cases referring
  | step referring found _ ih =>
      cases leads' with
      | here inline =>
          rw [inline] at referring
          cases referring
      | step referring' found' rest =>
          cases Option.some.inj (referring.symm.trans referring')
          cases Option.some.inj (found.symm.trans found')
          obtain ⟨rfl, rfl⟩ := ih rest
          exact ⟨rfl, rfl⟩

theorem dereference? (leads : doc.LeadsTo steps written body) (near : steps ≤ 1) :
    Operation.dereference? doc written = some body := by
  rw [Operation.dereference?]
  cases leads with
  | here inline => rw [inline]
  | step referring found rest =>
      rw [referring]
      cases rest with
      | here _ => exact found
      | step _ _ _ => omega

end Document.LeadsTo

namespace Model

/-- The model of a schema: the one of the component that it is a reference to, or one of its own. -/
structure Handle.IsModelOf (handle : Handle) (doc : Document) (compiled : CompiledDocument) (names : Table String)
    (schema : Json) : Prop where
  inline : schema.get? "$ref" = none → handle.Carries doc.schemas (.resolve schema)
  reference {reference key : String} : schema.textAt? "$ref" = some reference →
    Schema.componentName? reference = some key →
    ∃ name, Table.get? key names = some name ∧ compiled.model? name = some handle

/-- A compiled operation has what its bodies say that are at most one reference away. -/
structure OperationSpec.Follows (doc : Document) (compiled : CompiledDocument) (names : Table String)
    (op : Operation) (spec : OperationSpec) : Prop where
  required {steps : Nat} {written body : Json} : op.value.get? "requestBody" = some written →
    doc.LeadsTo steps written body → steps ≤ 1 → spec.requestRequired = (body.boolAt? "required").getD false
  request {steps : Nat} {written body schema : Json} : op.value.get? "requestBody" = some written →
    doc.LeadsTo steps written body → steps ≤ 1 → Compiling.jsonSchemaOf? body = some schema →
    ∃ handle, spec.request = some handle ∧ handle.IsModelOf doc compiled names schema
  response {status steps : Nat} {written body : Json} :
    Compiling.documented status (Compiling.declaredResponses op) = some written →
    doc.LeadsTo steps written body → steps ≤ 1 → ∃ response, SortedTable.get? status spec.responses = some response ∧
      response.description = (body.textAt? "description").getD "" ∧
      ∀ schema, Compiling.jsonSchemaOf? body = some schema →
        ∃ handle, response.model = some handle ∧ handle.IsModelOf doc compiled names schema

variable {doc : Document} {compiled : CompiledDocument} {stage : Stage doc.schemas} {op : Operation}

theorem exists_isModelOf {drafts : List Compiling.Draft} (ends : EndsAt doc compiled stage drafts)
    {body schema : Json} {model : Option String} (serves : Compiling.Serves stage body model)
    (content : Compiling.jsonSchemaOf? body = some schema) :
    ∃ handle, model.bind (Handle.ofName? stage.models) = some handle ∧
      handle.IsModelOf doc compiled stage.registry.components schema := by
  obtain ⟨name, rfl, has, node, answered, models⟩ := serves.content schema content
  obtain ⟨handle, named, preserves⟩ := exists_handle has
  refine ⟨handle, named, fun inline => ?_, fun written target => ?_⟩
  · refine (preserves node.kept (models inline).means).carries answered fun other found => ?_
    exact found.resolves.unique answered.resolves
  · obtain ⟨placed, same, found⟩ := serves.reference content written target
    cases same
    refine ⟨name, found, ?_⟩
    rw [← named, ends.models]
    rfl

theorem OperationSpec.follows_of_drafts {drafts : List Compiling.Draft} (ends : EndsAt doc compiled stage drafts)
    {draft : Compiling.Draft} (drafted : Compiling.Drafts stage doc op draft)
    (requests : Requests doc op (ofDraft doc stage.models draft)) :
    Follows doc compiled stage.registry.components op (ofDraft doc stage.models draft) where
  required {_ _ body} declared leads near := by
    have requested : op.requestBody? doc = some body := by
      rw [Operation.requestBody?, declared, Option.bind_some, leads.dereference? near]
    have required := requests.required
    rw [Operation.RequiresBody, requested] at required
    cases marked : body.boolAt? "required" with
    | none => simpa [marked] using required
    | some value => cases value <;> simpa [marked] using required
  request declared leads near content := by
    obtain ⟨body, same, serves⟩ := drafted.request declared
    cases Option.some.inj ((leads.dereference? near).symm.trans same)
    exact exists_isModelOf ends serves content
  response {status _ _ _} documented leads near := by
    have responds := drafted.responses status
    rw [documented] at responds
    obtain ⟨body, model, same, found, serves⟩ := responds
    cases Option.some.inj ((leads.dereference? near).symm.trans same)
    have served : SortedTable.get? status (ofDraft doc stage.models draft).responses = _ := get?_responses
    rw [found] at served
    exact ⟨_, served, rfl, fun schema content => exists_isModelOf ends serves content⟩

/-- Compiling follows a reference to a body, but no reference after it. -/
theorem compileDocument_follows {doc : Document} {compiled : CompiledDocument} (keyed : doc.root.Keyed)
    (compiles : compileDocument doc = .ok compiled) : ∃ names, componentModels doc = .ok names ∧
      List.Forall₂ (OperationSpec.Follows doc compiled names) doc.operations compiled.operations := by
  obtain ⟨stage, drafts, ends⟩ := exists_endsAt keyed compiles
  refine ⟨_, ends.components, ?_⟩
  -- The stage knows the models of the bodies, whether one is required is known from the run alone.
  have requests := compileDocument_requests keyed compiles
  rw [ends.operations, List.forall₂_map_right_iff] at requests ⊢
  exact (forall₂_and ends.drafted requests).imp fun op draft both =>
    OperationSpec.follows_of_drafts ends both.1 both.2

/-- The reference to a request body or a response of a document. -/
def toBody (kind name : String) : Json := .object [("$ref", .string ("#/components/" ++ kind ++ "/" ++ name))]

/-- A body with these fields, and with JSON content. -/
def jsonBody (fields : Table Json) : Json :=
  .object (fields ++ [("content", .object [("application/json",
    .object [("schema", .object [("$ref", .string "#/components/schemas/Pet")])])])])

/-- An operation with a request body and a response that are given by references. -/
def fosterDocument (requestBodies : Table Json) : Document where
  path := "foster.json"
  relativePath := "foster.json"
  fields :=
    [("openapi", .string "3.0.3"),
     ("paths", .object [("/pets", .object [("post", .object
        [("requestBody", toBody "requestBodies" "NewPet"),
         ("responses", .object [("200", toBody "responses" "Pet")])])])]),
     ("components", .object
        [("requestBodies", .object requestBodies),
         ("responses", .object [("Pet", jsonBody [("description", .string "The pet.")])]),
         ("schemas", .object [("Pet", .object [("title", .string "Pet"), ("type", .string "object")])])])]

/-- The request body, one reference away. -/
def nearBodies : Table Json := [("NewPet", jsonBody [("required", .bool true)])]

/-- The same, two references away. -/
def farBodies : Table Json := [("NewPet", toBody "requestBodies" "Pet"), ("Pet", jsonBody [("required", .bool true)])]

theorem compileDocument_follows_foster : (fosterDocument nearBodies).root.Keyed ∧ ∃ compiled spec pet response,
    compileDocument (fosterDocument nearBodies) = .ok compiled ∧
    componentModels (fosterDocument nearBodies) = .ok [("Pet", "Pet")] ∧ compiled.model? "Pet" = some pet ∧
    compiled.operations = [spec] ∧
    (fosterDocument nearBodies).LeadsTo 1 (toBody "requestBodies" "NewPet") (jsonBody [("required", .bool true)]) ∧
    spec.requestRequired = true ∧ spec.request = some pet ∧
    SortedTable.get? 200 spec.responses = some response ∧ response.description = "The pet." ∧
    response.model = some pet := by
  have keyed : (fosterDocument nearBodies).root.Keyed := by
    simp [Document.root, fosterDocument, nearBodies, jsonBody, toBody, Table.keys]
  have single : (compileDocument (fosterDocument nearBodies)).toOption.map (·.operations.length) = some 1 := by
    decide +kernel
  have placed : (componentModels (fosterDocument nearBodies)).toOption = some [("Pet", "Pet")] := by decide +kernel
  obtain ⟨compiled, compiles, single⟩ := Option.map_eq_some_iff.mp single
  rw [toOption_eq_some_iff] at compiles placed
  obtain ⟨spec, listed⟩ := List.length_eq_one_iff.mp single
  obtain ⟨names, modelled, follows⟩ := compileDocument_follows keyed compiles
  cases Except.ok.inj (placed.symm.trans modelled)
  rw [listed] at follows
  have followed : OperationSpec.Follows (fosterDocument nearBodies) compiled [("Pet", "Pet")] _ spec :=
    (List.forall₂_cons.mp follows).1
  have target : Schema.componentName? "#/components/schemas/Pet" = some "Pet" := by decide +kernel
  have requestLeads : (fosterDocument nearBodies).LeadsTo 1 (toBody "requestBodies" "NewPet")
      (jsonBody [("required", .bool true)]) := .step rfl rfl (.here rfl)
  have responseLeads : (fosterDocument nearBodies).LeadsTo 1 (toBody "responses" "Pet")
      (jsonBody [("description", .string "The pet.")]) := .step rfl rfl (.here rfl)
  obtain ⟨request, requested, isRequest⟩ := followed.request rfl requestLeads le_rfl rfl
  obtain ⟨name, found, there⟩ := isRequest.reference rfl target
  cases found
  obtain ⟨response, responded, description, models⟩ := @followed.response 200 _ _ _ rfl responseLeads le_rfl
  obtain ⟨answer, answered, isAnswer⟩ := models _ rfl
  obtain ⟨name, found, also⟩ := isAnswer.reference rfl target
  cases found
  cases there.symm.trans also
  exact ⟨keyed, compiled, spec, request, response, compiles, placed, there, listed, requestLeads,
    followed.required rfl requestLeads le_rfl, requested, responded, description, answered⟩

/-- A request body that is required is lost behind a second reference, and nothing is said of it. -/
theorem compileDocument_loses_body : (fosterDocument farBodies).root.Keyed ∧
    Structure.check (fosterDocument farBodies) = .ok () ∧ ∃ compiled op spec written body schema,
      compileDocument (fosterDocument farBodies) = .ok compiled ∧ (fosterDocument farBodies).operations = [op] ∧
      compiled.operations = [spec] ∧ op.value.get? "requestBody" = some written ∧
      (fosterDocument farBodies).LeadsTo 2 written body ∧ Compiling.jsonSchemaOf? body = some schema ∧
      body.boolAt? "required" = some true ∧ spec.request = none ∧ spec.requestRequired = false := by
  have keyed : (fosterDocument farBodies).root.Keyed := by
    simp [Document.root, fosterDocument, farBodies, jsonBody, toBody, Table.keys]
  have passes : (Structure.check (fosterDocument farBodies)).isOk = true := by decide +kernel
  obtain ⟨⟨⟩, accepted⟩ := exists_eq_ok_of_isOk passes
  have lost : ((compileDocument (fosterDocument farBodies)).toOption.map fun compiled =>
      compiled.operations.map fun spec => (spec.request.isSome, spec.requestRequired)) = some [(false, false)] := by
    decide +kernel
  obtain ⟨compiled, compiles, lost⟩ := Option.map_eq_some_iff.mp lost
  obtain ⟨spec, listed, lost⟩ := List.map_eq_singleton_iff.mp lost
  obtain ⟨request, required⟩ := Prod.mk.inj lost
  have leads : (fosterDocument farBodies).LeadsTo 2 (toBody "requestBodies" "NewPet")
      (jsonBody [("required", .bool true)]) := .step rfl rfl (.step rfl rfl (.here rfl))
  exact ⟨keyed, accepted, compiled, _, spec, _, _, _, toOption_eq_some_iff.mp compiles, rfl, listed, rfl, leads, rfl,
    rfl, by simpa using request, required⟩

end Model

end ApiAtlas
