import ApiAtlas.Model.Compile
import ApiAtlas.Proofs.Document.Keyed
import ApiAtlas.Proofs.Except
import ApiAtlas.Proofs.Model.Modelling
import ApiAtlas.Proofs.Model.Validation
import ApiAtlas.Proofs.Schema.Calls
import ApiAtlas.Proofs.Schema.Regular

/-! # Compiling keeps the meaning of schemas

A document is compiled by one resolver and one registry. Each component and each body schema gets a model
at some stage, and later stages leave it alone, so that in the end the validator of the model accepts what
the schema says.
-/

namespace ApiAtlas

namespace Model

open Schema (Call IsComponent Node Resolves Session)

/-- A lenient validator of the model, if it can be built, accepts exactly what satisfies the node. -/
def Handle.Preserves (handle : Handle) (node : Node) : Prop :=
  ∀ validator, handle.validator false = .ok validator → ∀ value, validator.accepts value = node.satisfies value

/-- A resolver that was used before answers a call with a node. -/
def Answered (components : Table Json) (call : Call) (node : Node) : Prop :=
  ∃ calls, ((call.step components).outcome (Session.after components calls)).1 = .ok node

/-- The model means what a call is answered with, as far as models can say it. -/
structure Handle.StandsFor (handle : Handle) (components : Table Json) (call : Call) : Prop where
  answered : ∃ node, Answered components call node
  preserves (node : Node) : Answered components call node → node.Faithful → handle.Preserves node

section Answers

variable {components : Table Json} {node : Node}

theorem Answered.isComponent {key : String} (h : Answered components (.component key) node) :
    IsComponent components key node := by
  obtain ⟨calls, answered⟩ := h
  exact ((Session.idle_after calls).resolveComponent key).right answered

theorem Answered.resolves {schema : Json} (h : Answered components (.resolve schema) node) :
    Resolves components schema node := by
  obtain ⟨calls, answered⟩ := h
  exact ((Session.idle_after calls).resolve schema).right answered

end Answers

namespace Compiling

variable {doc : Document} {before after : Progress} {location : String}

/-- What compiling carries along at some stage: the memo of a resolver between calls, and the registry. -/
structure At (doc : Document) (progress : Progress) (stage : Stage doc.schemas) : Prop where
  memo : ∃ calls, progress.memo = (Session.after doc.schemas calls).memo
  registry : progress.registry = stage.registry

theorem run_resolving {α : Type} {step : Schema.Resolution α} {value : α}
    (h : (resolving doc location step).run before = .ok (value, after)) :
    step.run.run before.memo = (.ok value, after.memo) ∧ after.registry = before.registry := by
  rcases outcome : step.run.run before.memo with ⟨error | found, memo⟩
  · simp only [resolving, StateT.run_bind, StateT.run_get, pure_bind, outcome, StateT.run_set] at h
    cases h
  · simp only [resolving, StateT.run_bind, StateT.run_get, pure_bind, outcome, StateT.run_set] at h
    cases h
    exact ⟨rfl, rfl⟩

theorem run_modelling {α : Type} {step : Modelling α} {value : α}
    (h : (modelling step).run before = .ok (value, after)) :
    step.run before.registry = (value, after.registry) ∧ after.memo = before.memo := by
  rcases outcome : step.run before.registry with ⟨found, registry⟩
  simp only [modelling, StateT.run_bind, StateT.run_get, pure_bind, outcome, StateT.run_set] at h
  cases h
  exact ⟨rfl, rfl⟩

/-- A call is answered from what calls have left in the memo. The registry stays as it is. -/
theorem answered_resolving {node : Node} (call : Call)
    (memo : ∃ calls, before.memo = (Session.after doc.schemas calls).memo)
    (h : (resolving doc location (call.step doc.schemas).alone).run before = .ok (node, after)) :
    Answered doc.schemas call node ∧ (∃ calls, after.memo = (Session.after doc.schemas calls).memo) ∧
      after.registry = before.registry := by
  obtain ⟨calls, memo⟩ := memo
  obtain ⟨run, registry⟩ := run_resolving h
  rw [memo, Session.run_alone calls call, Prod.mk.injEq] at run
  exact ⟨⟨calls, run.1⟩, ⟨_, run.2.symm⟩, registry⟩

theorem At.resolving {stage : Stage doc.schemas} {node : Node} (call : Call) (here : At doc before stage)
    (h : (resolving doc location (call.step doc.schemas).alone).run before = .ok (node, after)) :
    Answered doc.schemas call node ∧ At doc after stage := by
  obtain ⟨answered, memo, registry⟩ := answered_resolving call here.memo h
  exact ⟨answered, memo, registry.trans here.registry⟩

theorem At.modelling {stage grown : Stage doc.schemas} {α : Type} {step : Modelling α} {value found : α}
    (here : At doc before stage) (h : (modelling step).run before = .ok (value, after))
    (runs : Modelling.Runs step stage found grown) : value = found ∧ At doc after grown := by
  obtain ⟨run, memo⟩ := run_modelling h
  rw [here.registry, runs.run, Prod.mk.injEq] at run
  obtain ⟨calls, same⟩ := here.memo
  exact ⟨run.1.symm, ⟨calls, memo.trans same⟩, run.2.symm⟩

theorem run_bind {α β : Type} {first : Compiling α} {next : α → Compiling β} {result : β}
    (h : (first >>= next).run before = .ok (result, after)) :
    ∃ value between, first.run before = .ok (value, between) ∧ (next value).run between = .ok (result, after) := by
  rw [StateT.run_bind, bind_eq_ok_iff] at h
  obtain ⟨⟨value, between⟩, run, rest⟩ := h
  exact ⟨value, between, run, rest⟩

/-- Every component is distinctly keyed. -/
def Known (doc : Document) : Prop :=
  ∀ {name schema}, Table.get? name doc.schemas = some schema → schema.Keyed

/-- A component gets a model. -/
theorem At.component {stage : Stage doc.schemas} {key : String} (known : Known doc) (here : At doc before stage)
    (h : (component doc key).run before = .ok ((), after)) :
    ∃ grown, stage.Grows grown ∧ At doc after grown ∧ (∃ node, Answered doc.schemas (.component key) node) ∧
      ∃ placed, Table.get? key grown.registry.components = some placed := by
  obtain ⟨node, between, resolved, rest⟩ := run_bind h
  obtain ⟨answered, there⟩ := here.resolving (.component key) resolved
  have regular := answered.isComponent.regular known
  obtain ⟨placed, grown, runs, found⟩ :=
    Modelling.runs_componentModel (Modelling.covers_of_regular regular) regular.here.2 answered.isComponent stage
  obtain ⟨_, last, modelled, done⟩ := run_bind rest
  obtain ⟨_, arrived⟩ := there.modelling modelled runs
  cases done
  exact ⟨grown, runs.grows, arrived, ⟨node, answered⟩, placed, found⟩

/-- The model of the JSON content of a body, under its name. -/
structure Serves {components : Table Json} (stage : Stage components) (body : Json) (model : Option String) :
    Prop where
  content : ∀ schema, jsonSchemaOf? body = some schema → ∃ name, model = some name ∧ stage.models.Has name ∧
    ∃ node, Answered components (.resolve schema) node ∧ (schema.get? "$ref" = none → stage.Models name node)
  known : ∀ name, model = some name → stage.models.Has name
  reference {schema : Json} {reference key : String} : jsonSchemaOf? body = some schema →
    schema.textAt? "$ref" = some reference → Schema.componentName? reference = some key →
    ∃ name, model = some name ∧ Table.get? key stage.registry.components = some name

theorem Serves.grow {components : Table Json} {stage grown : Stage components} {body : Json} {model : Option String}
    (grows : stage.Grows grown) (serves : Serves stage body model) : Serves grown body model where
  content schema found := by
    obtain ⟨name, named, has, node, answered, models⟩ := serves.content schema found
    exact ⟨name, named, grows.has has, node, answered, fun inline => (models inline).grow grows⟩
  known name named := grows.has (serves.known name named)
  reference content written target := by
    obtain ⟨name, named, found⟩ := serves.reference content written target
    exact ⟨name, named, grows.components found⟩

theorem keyed_jsonSchemaOf? {body schema : Json} (keyed : body.Keyed) (found : jsonSchemaOf? body = some schema) :
    schema.Keyed := by
  obtain ⟨media, there, inside⟩ := Option.bind_eq_some_iff.mp found
  obtain ⟨content, written, typed⟩ := Option.bind_eq_some_iff.mp there
  exact ((keyed.get? written).get? typed).get? inside

/-- A body with JSON content gets a model. -/
theorem At.contentModel {stage : Stage doc.schemas} {hint : String} {body : Json} {model : Option String}
    (known : Known doc) (here : At doc before stage) (literal : Naming.Literal hint) (keyed : body.Keyed)
    (h : (contentModel doc location hint body).run before = .ok (model, after)) :
    ∃ grown, stage.Grows grown ∧ At doc after grown ∧ Serves grown body model := by
  unfold Compiling.contentModel at h
  split at h
  · rename_i absent
    cases h
    refine ⟨stage, .refl, here, fun schema found => ?_, nofun, fun found => ?_⟩
    all_goals
      rw [absent] at found
      cases found
  · rename_i schema content
    obtain ⟨node, between, resolved, rest⟩ := run_bind h
    obtain ⟨answered, there⟩ := here.resolving (.resolve schema) resolved
    have resolves := answered.resolves
    obtain ⟨placed, grown, runs, has, models, component⟩ :=
      Modelling.runs_topModel (resolves.regular known (keyed_jsonSchemaOf? keyed content)) literal stage
    obtain ⟨_, last, modelled, done⟩ := run_bind rest
    obtain ⟨rfl, arrived⟩ := there.modelling modelled runs
    cases done
    refine ⟨grown, runs.grows, arrived, fun other found => ?_, fun name named => Option.some.inj named ▸ has,
      fun found written target => ?_⟩
    all_goals obtain rfl := Option.some.inj (content.symm.trans found)
    · exact ⟨_, rfl, has, node, answered, fun inline => models (resolves.referenceTarget?_eq_none inline)⟩
    · exact ⟨_, rfl, component _ (resolves.referenceTarget?_eq_some written target)⟩

theorem run_followed {value found : Json} (h : (followed doc location value).run before = .ok (found, after)) :
    Operation.dereference? doc value = some found ∧ after = before := by
  unfold followed at h
  unfold Operation.dereference?
  cases written : value.textAt? "$ref" with
  | none =>
      rw [written] at h
      cases h
      exact ⟨rfl, rfl⟩
  | some reference =>
      rw [written] at h
      cases leads : doc.resolveLocal? reference with
      | none =>
          simp only [leads] at h
          cases h
      | some target =>
          simp only [leads] at h
          cases h
          exact ⟨leads, rfl⟩

/-- The response that is documented for a status: the last one whose key writes it. -/
def documented (status : Nat) : (declared : List (String × Json)) → Option Json
  | [] => none
  | (code, response) :: rest =>
    (documented status rest).or (if statusCode? code = some status then some response else none)

/-- A table of responses has a description and a model for what is documented, and for the rest what another table
has. -/
def Responds {components : Table Json} (stage : Stage components) (doc : Document) (declared : List (String × Json))
    (done found : SortedTable Nat (String × Option String)) : Prop :=
  ∀ status, match documented status declared with
    | none => SortedTable.get? status found = SortedTable.get? status done
    | some response => ∃ body model, Operation.dereference? doc response = some body ∧
        SortedTable.get? status found = some ((body.textAt? "description").getD "", model) ∧ Serves stage body model

theorem literal_responseHint {stem : String} {status : Nat} (literal : Naming.Literal stem) :
    Naming.Literal (responseHint stem status) := by
  have response : Naming.Literal (stem ++ "Response") := literal.append (by decide)
  rw [responseHint]
  split
  · exact response
  · exact response.append (.number status)

/-- A key that writes no status documents none. -/
theorem Responds.skip {components : Table Json} {stage : Stage components} {code : String} {response : Json}
    {declared : List (String × Json)} {done found : SortedTable Nat (String × Option String)}
    (none : statusCode? code = .none) (responds : Responds stage doc declared done found) :
    Responds stage doc ((code, response) :: declared) done found := by
  intro status
  have same := responds status
  rw [documented, none, if_neg nofun, Option.or_none]
  exact same

/-- A response is found under its status, unless a later one has the same status. -/
theorem Responds.put {components : Table Json} {stage : Stage components} {code : String} {response body : Json}
    {number : Nat} {model : Option String} {declared : List (String × Json)}
    {done found : SortedTable Nat (String × Option String)} (written : statusCode? code = some number)
    (leads : Operation.dereference? doc response = some body) (serves : Serves stage body model)
    (responds : Responds stage doc declared
      (SortedTable.put number ((body.textAt? "description").getD "", model) done) found) :
    Responds stage doc ((code, response) :: declared) done found := by
  intro status
  have same := responds status
  rw [documented, written]
  cases later : documented status declared with
  | some response =>
      rw [later] at same
      exact same
  | none =>
      rw [later] at same
      rw [Option.none_or]
      by_cases here : number = status
      · subst here
        rw [if_pos rfl]
        exact ⟨body, model, leads, same.trans SortedTable.get?_put_self, serves⟩
      · rw [if_neg fun found => here (Option.some.inj found)]
        exact same.trans (SortedTable.get?_put_ne (Ne.symm here))

/-- Responses get models. -/
theorem At.responses {stage : Stage doc.schemas} {op : Operation} {stem : String} {declared : List (String × Json)}
    {done found : SortedTable Nat (String × Option String)} (root : doc.root.Keyed) (here : At doc before stage)
    (literal : Naming.Literal stem) (keyed : ∀ entry ∈ declared, entry.2.Keyed)
    (h : (responses doc op stem declared done).run before = .ok (found, after)) :
    ∃ grown, stage.Grows grown ∧ At doc after grown ∧ Responds grown doc declared done found := by
  -- What is done so far grows, so that a later response takes the place of an earlier one.
  induction declared generalizing done before stage with
  | nil =>
      cases h
      exact ⟨stage, .refl, here, fun _ => rfl⟩
  | cons entry declared ih =>
      obtain ⟨code, response⟩ := entry
      rw [List.forall_mem_cons] at keyed
      rw [Compiling.responses] at h
      split at h
      · rename_i none
        obtain ⟨grown, grows, there, responds⟩ := ih here keyed.2 h
        exact ⟨grown, grows, there, responds.skip none⟩
      · rename_i number written
        obtain ⟨body, between, followed, rest⟩ := run_bind h
        obtain ⟨leads, rfl⟩ := run_followed followed
        obtain ⟨model, between, content, rest⟩ := run_bind rest
        have hint : Naming.Literal (responseHint stem number) := literal_responseHint literal
        have bodyKeyed := Document.keyed_dereference? root keyed.1 leads
        obtain ⟨grown, grows, there, serves⟩ :=
          here.contentModel (Document.keyed_schemas root) hint bodyKeyed content
        obtain ⟨last, grows', arrived, responds⟩ := ih there keyed.2 rest
        exact ⟨last, grows.trans grows', arrived, responds.put written leads (serves.grow grows')⟩

theorem Responds.grow {components : Table Json} {stage grown : Stage components} {declared : List (String × Json)}
    {done found : SortedTable Nat (String × Option String)} (grows : stage.Grows grown)
    (responds : Responds stage doc declared done found) : Responds grown doc declared done found := by
  intro status
  have same := responds status
  cases there : documented status declared with
  | none =>
      rw [there] at same
      exact same
  | some response =>
      rw [there] at same
      obtain ⟨body, model, leads, found, serves⟩ := same
      exact ⟨body, model, leads, found, serves.grow grows⟩

/-- The responses that an operation declares, by the keys that they are written under. -/
def declaredResponses (op : Operation) : List (String × Json) :=
  ((op.value.get? "responses").bind Json.fields?).getD []

/-- The bodies of an operation have models. -/
structure Drafts {components : Table Json} (stage : Stage components) (doc : Document) (op : Operation)
    (draft : Draft) : Prop where
  operation : draft.operation = op
  request {written : Json} : op.value.get? "requestBody" = some written →
    ∃ body, Operation.dereference? doc written = some body ∧ Serves stage body draft.request
  absent : op.value.get? "requestBody" = none → draft.request = none
  responses : Responds stage doc (declaredResponses op) [] draft.responses

theorem Drafts.grow {components : Table Json} {stage grown : Stage components} {op : Operation} {draft : Draft}
    (grows : stage.Grows grown) (drafts : Drafts stage doc op draft) : Drafts grown doc op draft where
  operation := drafts.operation
  request written := by
    obtain ⟨body, leads, serves⟩ := drafts.request written
    exact ⟨body, leads, serves.grow grows⟩
  absent := drafts.absent
  responses := drafts.responses.grow grows

/-- The request body gets a model. -/
theorem At.request {stage : Stage doc.schemas} {op : Operation} {stem : String} {model : Option String}
    {required : Bool} (root : doc.root.Keyed) (here : At doc before stage) (literal : Naming.Literal stem)
    (keyed : op.value.Keyed) (h : (request doc op stem).run before = .ok ((model, required), after)) :
    ∃ grown, stage.Grows grown ∧ At doc after grown ∧ (op.value.get? "requestBody" = none → model = none) ∧
      ∀ {written}, op.value.get? "requestBody" = some written →
        ∃ body, Operation.dereference? doc written = some body ∧ Serves grown body model := by
  unfold Compiling.request at h
  split at h
  · rename_i absent
    cases h
    refine ⟨stage, .refl, here, fun _ => rfl, fun written => ?_⟩
    rw [absent] at written
    cases written
  · rename_i value there
    obtain ⟨body, between, followed, rest⟩ := run_bind h
    obtain ⟨leads, rfl⟩ := run_followed followed
    obtain ⟨found, between, content, rest⟩ := run_bind rest
    cases rest
    have hint : Naming.Literal (stem ++ "Request") := literal.append (by decide)
    obtain ⟨grown, grows, arrived, serves⟩ := here.contentModel (Document.keyed_schemas root) hint
      (Document.keyed_dereference? root (keyed.get? there) leads) content
    refine ⟨grown, grows, arrived, fun absent => ?_, fun written => ?_⟩
    · rw [there] at absent
      cases absent
    · obtain rfl := Option.some.inj (there.symm.trans written)
      exact ⟨body, leads, serves⟩

theorem keyed_declaredResponses {op : Operation} (keyed : op.value.Keyed) :
    ∀ entry ∈ declaredResponses op, entry.2.Keyed := by
  intro entry member
  obtain ⟨fields, found, listed⟩ := Json.exists_fields_of_mem member
  exact (keyed.get? found).field listed

/-- An operation gets models. -/
theorem At.draft {stage : Stage doc.schemas} {op : Operation} {found : Draft} (root : doc.root.Keyed)
    (here : At doc before stage) (keyed : op.value.Keyed)
    (h : (draft doc op).run before = .ok (found, after)) :
    ∃ grown, stage.Grows grown ∧ At doc after grown ∧ Drafts grown doc op found := by
  have literal := Naming.literal_operationStem op.operationId? op.method op.path
  obtain ⟨⟨request, required⟩, between, requested, rest⟩ := run_bind h
  obtain ⟨grown, grows, there, absent, served⟩ := here.request root literal keyed requested
  obtain ⟨responses, last, responded, rest⟩ := run_bind rest
  cases rest
  obtain ⟨final, grows', arrived, responds⟩ :=
    there.responses root literal (keyed_declaredResponses keyed) responded
  refine ⟨final, grows.trans grows', arrived, rfl, fun written => ?_, absent, responds⟩
  obtain ⟨body, leads, serves⟩ := served written
  exact ⟨body, leads, serves.grow grows'⟩

/-- Components get models one after another. -/
theorem At.components {stage : Stage doc.schemas} {entries : Table Json} (known : Known doc)
    (here : At doc before stage)
    (h : (entries.forM fun entry => Compiling.component doc entry.1).run before = .ok ((), after)) :
    ∃ grown, stage.Grows grown ∧ At doc after grown ∧ ∀ key ∈ Table.keys entries,
      (∃ node, Answered doc.schemas (.component key) node) ∧
      ∃ placed, Table.get? key grown.registry.components = some placed := by
  induction entries generalizing before stage with
  | nil =>
      cases h
      exact ⟨stage, .refl, here, nofun⟩
  | cons entry entries ih =>
      obtain ⟨⟨⟩, between, first, rest⟩ := run_bind h
      obtain ⟨grown, grows, there, answered, placed, found⟩ := here.component known first
      obtain ⟨last, grows', arrived, each⟩ := ih there rest
      refine ⟨last, grows.trans grows', arrived, fun key member => ?_⟩
      rcases List.mem_cons.mp member with rfl | member
      · exact ⟨answered, placed, grows'.components found⟩
      · exact each key member

/-- Operations get models one after another. -/
theorem At.drafts {stage : Stage doc.schemas} {ops : List Operation} {found : List Draft} (root : doc.root.Keyed)
    (here : At doc before stage) (keyed : ∀ op ∈ ops, op.value.Keyed)
    (h : (ops.mapM (Compiling.draft doc)).run before = .ok (found, after)) :
    ∃ grown, stage.Grows grown ∧ At doc after grown ∧ List.Forall₂ (Drafts grown doc) ops found := by
  induction ops generalizing before stage found with
  | nil =>
      cases h
      exact ⟨stage, .refl, here, .nil⟩
  | cons op ops ih =>
      rw [List.forall_mem_cons] at keyed
      rw [List.mapM_cons] at h
      obtain ⟨draft, between, first, rest⟩ := run_bind h
      obtain ⟨drafts, last, others, rest⟩ := run_bind rest
      cases rest
      obtain ⟨grown, grows, there, drafted⟩ := here.draft root keyed.1 first
      obtain ⟨final, grows', arrived, each⟩ := ih there keyed.2 others
      exact ⟨final, grows.trans grows', arrived, .cons (drafted.grow grows') each⟩

/-- Compiling a document leads to a stage where everything has its model. -/
theorem reached (root : doc.root.Keyed) {found : List Draft}
    (h : (Compiling.document doc).run {} = .ok (found, after)) : ∃ stage : Stage doc.schemas,
      stage.registry = after.registry ∧ List.Forall₂ (Drafts stage doc) doc.operations found ∧
      ∀ key ∈ Table.keys doc.schemas, (∃ node, Answered doc.schemas (.component key) node) ∧
        ∃ placed, Table.get? key after.registry.components = some placed := by
  have start : At doc {} (.empty : Stage doc.schemas) := ⟨⟨[], rfl⟩, rfl⟩
  obtain ⟨⟨⟩, between, first, rest⟩ := run_bind h
  obtain ⟨grown, _, there, components⟩ := start.components (Document.keyed_schemas root) first
  obtain ⟨last, grows, arrived, drafts⟩ := there.drafts root (fun op => Document.keyed_operation root) rest
  refine ⟨last, arrived.registry.symm, drafts, fun key member => ?_⟩
  obtain ⟨answered, placed, found⟩ := components key member
  exact ⟨answered, placed, arrived.registry ▸ grows.components found⟩

end Compiling

/-- Which model each component of a document becomes. -/
def componentModels (doc : Document) : Except BuildError (Table String) := do
  let (_, progress) ← (Compiling.document doc).run {}
  return progress.registry.components

/-- Where compiling a document ends: at a stage of its models, with a draft of each operation. -/
structure EndsAt (doc : Document) (compiled : CompiledDocument) (stage : Stage doc.schemas)
    (drafts : List Compiling.Draft) : Prop where
  models : stage.models = compiled.models
  operations : compiled.operations = drafts.map (OperationSpec.ofDraft doc stage.models)
  drafted : List.Forall₂ (Compiling.Drafts stage doc) doc.operations drafts
  components : componentModels doc = .ok stage.registry.components
  placed : ∀ key ∈ Table.keys doc.schemas, (∃ node, Answered doc.schemas (.component key) node) ∧
    ∃ name, Table.get? key stage.registry.components = some name

theorem exists_endsAt {doc : Document} {compiled : CompiledDocument} (keyed : doc.root.Keyed)
    (compiles : compileDocument doc = .ok compiled) : ∃ stage drafts, EndsAt doc compiled stage drafts := by
  obtain ⟨⟨drafts, progress⟩, run, rest⟩ := bind_eq_ok_iff.mp compiles
  cases rest
  obtain ⟨stage, registry, drafted, components⟩ := Compiling.reached keyed run
  have named : componentModels doc = .ok progress.registry.components := by
    rw [componentModels, run]
    rfl
  have models : stage.models = progress.registry.models := congrArg Registry.models registry
  refine ⟨stage, drafts, models, ?_, drafted, ?_, ?_⟩
  · rw [models]
  · rw [named, registry]
  · rw [registry]
    exact components

/-- A body has a model, which stands for the schema of its JSON content unless that is a reference. -/
def ServedBy (doc : Document) (written : Json) (handle : Option Handle) : Prop :=
  ∃ body, Operation.dereference? doc written = some body ∧
    ∀ schema, Compiling.jsonSchemaOf? body = some schema → ∃ model, handle = some model ∧
      (schema.get? "$ref" = none → model.StandsFor doc.schemas (.resolve schema))

/-- The request and the responses of an operation are served. -/
structure OperationSpec.Serves (doc : Document) (op : Operation) (spec : OperationSpec) : Prop where
  request {written : Json} : op.value.get? "requestBody" = some written → ServedBy doc written spec.request
  response {status : Nat} {written : Json} :
    Compiling.documented status (Compiling.declaredResponses op) = some written →
    ∃ response, SortedTable.get? status spec.responses = some response ∧ ServedBy doc written response.model

/-- The handle of a model that is there, which means what is said under its name. -/
theorem exists_handle {components : Table Json} {stage : Stage components} {name : String}
    (has : stage.models.Has name) : ∃ handle, Handle.ofName? stage.models name = some handle ∧
      ∀ node, stage.accepts name = node.satisfies → handle.Preserves node := by
  obtain ⟨model, there⟩ := has
  have named : Handle.ofName? stage.models name = some ⟨stage.models, model⟩ := by rw [Handle.ofName?, there]; rfl
  refine ⟨_, named, fun node means validator built value => ?_⟩
  rw [accepts_validator stage.means.models stage.means.models.reads named built]
  exact congrFun means value

/-- The model of a call accepts exactly what is kept of the node that answers it, and so every value of a node of
which nothing is lost that rejects. -/
structure Handle.Carries (handle : Handle) (components : Table Json) (call : Call) : Prop where
  answered : ∃ node, Answered components call node
  exactly (node : Node) : Answered components call node → handle.Preserves node.kept
  valid (node : Node) : Answered components call node → node.Everywhere Node.Guarded → ∀ validator,
    handle.validator false = .ok validator → ∀ value, node.satisfies value = true → validator.accepts value = true

namespace Handle

variable {handle : Handle} {components : Table Json} {call : Call} {node : Node}

theorem Preserves.carries (preserves : handle.Preserves node.kept) (answered : Answered components call node)
    (unique : ∀ other, Answered components call other → other = node) : handle.Carries components call := by
  refine ⟨⟨node, answered⟩, fun other found => unique other found ▸ preserves, ?_⟩
  intro other found guarded validator built value satisfied
  obtain rfl := unique other found
  rw [preserves validator built]
  exact Node.satisfies_kept_of_satisfies guarded value satisfied

theorem Carries.standsFor (carries : handle.Carries components call) : handle.StandsFor components call := by
  refine ⟨carries.answered, fun node found faithful validator built value => ?_⟩
  rw [carries.exactly node found validator built, faithful.kept]

end Handle

/-- A body has a model, of which a condition holds together with the schema of its JSON content, unless that is a
reference. -/
def ServedWith (P : Handle → Call → Prop) (doc : Document) (written : Json) (handle : Option Handle) : Prop :=
  ∃ body, Operation.dereference? doc written = some body ∧
    ∀ schema, Compiling.jsonSchemaOf? body = some schema → ∃ model, handle = some model ∧
      (schema.get? "$ref" = none → P model (.resolve schema))

/-- The request and the responses of an operation have models of which a condition holds. -/
structure OperationSpec.ServesWith (P : Handle → Call → Prop) (doc : Document) (op : Operation)
    (spec : OperationSpec) : Prop where
  request {written : Json} : op.value.get? "requestBody" = some written → ServedWith P doc written spec.request
  response {status : Nat} {written : Json} :
    Compiling.documented status (Compiling.declaredResponses op) = some written →
    ∃ response, SortedTable.get? status spec.responses = some response ∧ ServedWith P doc written response.model

theorem servedWith_of_serves {doc : Document} {stage : Stage doc.schemas} {written body : Json} {model : Option String}
    (leads : Operation.dereference? doc written = some body) (serves : Compiling.Serves stage body model) :
    ServedWith (·.Carries doc.schemas) doc written (model.bind (Handle.ofName? stage.models)) := by
  refine ⟨body, leads, fun schema content => ?_⟩
  obtain ⟨name, rfl, has, node, answered, models⟩ := serves.content schema content
  obtain ⟨handle, named, preserves⟩ := exists_handle has
  refine ⟨handle, named, fun inline => (preserves node.kept (models inline).means).carries answered ?_⟩
  exact fun other found => found.resolves.unique answered.resolves

theorem ServedWith.servedBy {doc : Document} {written : Json} {handle : Option Handle}
    (served : ServedWith (·.Carries doc.schemas) doc written handle) : ServedBy doc written handle := by
  obtain ⟨body, leads, models⟩ := served
  refine ⟨body, leads, fun schema content => ?_⟩
  obtain ⟨model, named, carries⟩ := models schema content
  exact ⟨model, named, fun inline => (carries inline).standsFor⟩

theorem OperationSpec.get?_responses {doc : Document} {models : Namespace} {draft : Compiling.Draft} {status : Nat} :
    SortedTable.get? status (ofDraft doc models draft).responses =
      (SortedTable.get? status draft.responses).map fun drafted =>
        { description := drafted.1, model := drafted.2.bind (Handle.ofName? models) } :=
  SortedTable.get?_map fun drafted : String × Option String =>
    ({ description := drafted.1, model := drafted.2.bind (Handle.ofName? models) } : Response)

theorem OperationSpec.servesWith_of_drafts {doc : Document} {stage : Stage doc.schemas} {op : Operation}
    {draft : Compiling.Draft} (drafts : Compiling.Drafts stage doc op draft) :
    OperationSpec.ServesWith (·.Carries doc.schemas) doc op (ofDraft doc stage.models draft) where
  request there := by
    obtain ⟨body, leads, serves⟩ := drafts.request there
    exact servedWith_of_serves leads serves
  response {status written} there := by
    have responds := drafts.responses status
    rw [there] at responds
    obtain ⟨body, model, leads, found, serves⟩ := responds
    have served : SortedTable.get? status (ofDraft doc stage.models draft).responses = _ := get?_responses
    rw [found] at served
    exact ⟨_, served, servedWith_of_serves leads serves⟩

theorem OperationSpec.ServesWith.serves {doc : Document} {op : Operation} {spec : OperationSpec}
    (serves : ServesWith (·.Carries doc.schemas) doc op spec) : Serves doc op spec where
  request there := (serves.request there).servedBy
  response there := by
    obtain ⟨response, found, served⟩ := serves.response there
    exact ⟨response, found, served.servedBy⟩

namespace EndsAt

variable {doc : Document} {compiled : CompiledDocument} {stage : Stage doc.schemas} {drafts : List Compiling.Draft}

theorem carries {key : String} (ends : EndsAt doc compiled stage drafts) (member : key ∈ Table.keys doc.schemas) :
    ∃ name model, Table.get? key stage.registry.components = some name ∧ compiled.model? name = some model ∧
      model.Carries doc.schemas (.component key) := by
  obtain ⟨⟨node, answered⟩, name, found⟩ := ends.placed key member
  obtain ⟨has, means⟩ := stage.means.kept found
  obtain ⟨handle, there, preserves⟩ := exists_handle has
  have kept : handle.Preserves node.kept := preserves node.kept (means node answered.isComponent)
  refine ⟨name, handle, found, ?_, kept.carries answered fun other found => ?_⟩
  · rw [CompiledDocument.model?, ← ends.models, there]
  · exact found.isComponent.unique answered.isComponent

theorem servesWith (ends : EndsAt doc compiled stage drafts) :
    List.Forall₂ (OperationSpec.ServesWith (·.Carries doc.schemas) doc) doc.operations compiled.operations := by
  rw [ends.operations, List.forall₂_map_right_iff]
  exact ends.drafted.imp fun _ _ drafts => OperationSpec.servesWith_of_drafts drafts

end EndsAt

/-- Compiling keeps the meaning: the models of components and of bodies stand for what the schemas say. -/
theorem compileDocument_preserves {doc : Document} {compiled : CompiledDocument} (keyed : doc.root.Keyed)
    (compiles : compileDocument doc = .ok compiled) :
    (∃ names, componentModels doc = .ok names ∧ ∀ key ∈ Table.keys doc.schemas, ∃ name model,
      Table.get? key names = some name ∧ compiled.model? name = some model ∧
      model.StandsFor doc.schemas (.component key)) ∧
    List.Forall₂ (OperationSpec.Serves doc) doc.operations compiled.operations := by
  obtain ⟨stage, drafts, ends⟩ := exists_endsAt keyed compiles
  refine ⟨⟨_, ends.components, fun key member => ?_⟩, ends.servesWith.imp fun _ _ serves => serves.serves⟩
  obtain ⟨name, model, found, there, carries⟩ := ends.carries member
  exact ⟨name, model, found, there, carries.standsFor⟩

/-- What a model says about some values, leniently. -/
def Handle.verdicts? (handle : Handle) (values : List Json) : Option (List Bool) :=
  (handle.validator false).toOption.map fun validator => values.map validator.accepts

/-- A list of what the component `Pet` describes. -/
def petList : Json :=
  .object [("type", .string "array"), ("items", .object [("$ref", .string "#/components/schemas/Pet")])]

/-- A component, and an operation that receives a list of what it describes and answers with a number. -/
def petDocument : Document where
  path := "pets.json"
  relativePath := "pets.json"
  fields :=
    [("paths", .object [("/pets", .object [("post", .object
        [("requestBody", .object [("content", .object [("application/json", .object [("schema", petList)])])]),
         ("responses", .object [("201", .object [("content", .object [("application/json", .object [("schema",
           .object [("type", .string "integer")])])])])])])])]),
     ("components", .object [("schemas", .object [("Pet", .object
        [("type", .string "object"), ("required", .array [.string "name"]),
         ("properties", .object [("name", .object [("type", .string "string")])])])])])]

theorem keyed_petDocument : petDocument.root.Keyed := by
  simp [Document.root, petDocument, petList, Table.keys]

/-- Two things that may be called a pet, of which the second one has no name. -/
def rex : Json := .object [("name", .string "Rex")]

def nameless : Json := .object []

theorem compileDocument_preserves_pets : petDocument.root.Keyed ∧ ∃ compiled pet spec request response,
    compileDocument petDocument = .ok compiled ∧ componentModels petDocument = .ok [("Pet", "Pet")] ∧
    compiled.model? "Pet" = some pet ∧ pet.StandsFor petDocument.schemas (.component "Pet") ∧
    pet.verdicts? [rex, nameless, .null] = some [true, false, false] ∧ compiled.operations = [spec] ∧
    spec.request = some request ∧ request.name = "PostPetsRequest" ∧
    request.StandsFor petDocument.schemas (.resolve petList) ∧
    request.verdicts? [.array [rex], .array [nameless], rex] = some [true, false, false] ∧
    (SortedTable.get? 201 spec.responses).bind (·.model) = some response ∧ response.name = "PostPetsResponse201" ∧
    response.StandsFor petDocument.schemas (.resolve (.object [("type", .string "integer")])) ∧
    response.verdicts? [.number (.int 7), rex] = some [true, false] := by
  have placed : (componentModels petDocument).toOption = some [("Pet", "Pet")] := by decide +kernel
  have succeeds : (compileDocument petDocument).isOk = true := by decide +kernel
  have judged : (compileDocument petDocument).toOption.map (fun compiled =>
      (compiled.model? "Pet").bind (·.verdicts? [rex, nameless, .null])) = some (some [true, false, false]) := by
    decide +kernel
  have requests : (compileDocument petDocument).toOption.map (fun compiled => compiled.operations.map fun spec =>
      spec.request.map fun request => (request.name, request.verdicts? [.array [rex], .array [nameless], rex])) =
        some [some ("PostPetsRequest", some [true, false, false])] := by
    decide +kernel
  have responses : (compileDocument petDocument).toOption.map (fun compiled => compiled.operations.map fun spec =>
      ((SortedTable.get? 201 spec.responses).bind (·.model)).map fun response =>
        (response.name, response.verdicts? [.number (.int 7), rex])) =
        some [some ("PostPetsResponse201", some [true, false])] := by
    decide +kernel
  obtain ⟨compiled, compiles⟩ := exists_eq_ok_of_isOk succeeds
  replace judged := apply_eq_of_toOption_map compiles judged
  replace requests := apply_eq_of_toOption_map compiles requests
  replace responses := apply_eq_of_toOption_map compiles responses
  obtain ⟨spec, listed, requests⟩ := List.map_eq_singleton_iff.mp requests
  rw [listed, List.map_singleton, List.singleton_inj] at responses
  obtain ⟨request, requested, requestJudged⟩ := Option.map_eq_some_iff.mp requests
  obtain ⟨response, responded, responseJudged⟩ := Option.map_eq_some_iff.mp responses
  rw [toOption_eq_some_iff] at placed
  obtain ⟨⟨names, modelled, components⟩, serves⟩ := compileDocument_preserves keyed_petDocument compiles
  obtain ⟨name, pet, found, there, stands⟩ := components "Pet" (by decide +kernel)
  cases Except.ok.inj (placed.symm.trans modelled)
  cases found
  rw [there, Option.bind_some] at judged
  rw [listed] at serves
  have served : OperationSpec.Serves petDocument _ spec := (List.forall₂_cons.mp serves).1
  obtain ⟨_, leads, models⟩ := served.request rfl
  cases leads
  obtain ⟨_, same, requestStands⟩ := models petList rfl
  cases requested.symm.trans same
  obtain ⟨_, answers, _, leads, models⟩ := @served.response 201 _ rfl
  cases leads
  rw [answers] at responded
  obtain ⟨_, same, responseStands⟩ := models _ rfl
  cases responded.symm.trans same
  exact ⟨keyed_petDocument, compiled, pet, spec, request, response, compiles, placed, there, stands, judged, listed,
    requested, congrArg Prod.fst requestJudged, requestStands rfl, congrArg Prod.snd requestJudged, answers ▸ same,
    congrArg Prod.fst responseJudged, responseStands rfl, congrArg Prod.snd responseJudged⟩

end Model

end ApiAtlas
