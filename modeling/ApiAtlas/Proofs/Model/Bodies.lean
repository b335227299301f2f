import ApiAtlas.Proofs.Model.Closedness

/-! # Bodies of operations

What an operation of a document says about its bodies comes through to the compiled operation. A body of requests is
required where the document says so, and has a model exactly if there is a schema for JSON content. The responses are
listed by status, each status once.
-/

namespace ApiAtlas

theorem forall₂_and {α β : Type} {R S : α → β → Prop} {first : List α} {second : List β}
    (h : List.Forall₂ R first second) (h' : List.Forall₂ S first second) :
    List.Forall₂ (fun a b => R a b ∧ S a b) first second := by
  induction h with
  | nil => exact .nil
  | cons here _ ih =>
      cases h' with
      | cons here' rest' => exact .cons ⟨here, here'⟩ (ih rest')

namespace Operation

variable (doc : Document) (op : Operation)

/-- The declared body of requests, its reference followed. -/
def requestBody? : Option Json := (op.value.get? "requestBody").bind (dereference? doc)

/-- Requests have to have a body. -/
def RequiresBody : Prop := ∃ body, op.requestBody? doc = some body ∧ body.boolAt? "required" = some true

/-- There is a schema for JSON bodies of requests. -/
def TakesJson : Prop :=
  ∃ body schema, op.requestBody? doc = some body ∧ Model.Compiling.jsonSchemaOf? body = some schema

end Operation

namespace Model

namespace Compiling

variable {doc : Document} {op : Operation} {before after : Progress} {location hint stem : String}

/-- A draft says about the body of requests what the operation says. -/
structure Requests (doc : Document) (op : Operation) (required : Bool) (model : Option String) : Prop where
  required : required = true ↔ op.RequiresBody doc
  model : model.isSome ↔ op.TakesJson doc

theorem isSome_contentModel {body : Json} {model : Option String}
    (h : (contentModel doc location hint body).run before = .ok (model, after)) :
    model.isSome ↔ ∃ schema, jsonSchemaOf? body = some schema := by
  unfold contentModel at h
  split at h
  · rename_i absent
    cases h
    simp [absent]
  · rename_i schema content
    obtain ⟨node, between, _, rest⟩ := run_bind h
    obtain ⟨name, last, _, done⟩ := run_bind rest
    cases done
    simp [content]

theorem requests_request {model : Option String} {required : Bool}
    (h : (request doc op stem).run before = .ok ((model, required), after)) : Requests doc op required model := by
  unfold request at h
  split at h
  · rename_i absent
    cases h
    constructor <;> simp [Operation.RequiresBody, Operation.TakesJson, Operation.requestBody?, absent]
  · rename_i written there
    obtain ⟨body, between, followed, rest⟩ := run_bind h
    obtain ⟨leads, rfl⟩ := run_followed followed
    obtain ⟨found, last, content, done⟩ := run_bind rest
    cases done
    have declared : op.requestBody? doc = some body := by rw [Operation.requestBody?, there, Option.bind_some, leads]
    constructor
    case model => simp [isSome_contentModel content, Operation.TakesJson, declared]
    case required =>
      cases marked : body.boolAt? "required" with
      | none => simp [Operation.RequiresBody, declared, marked]
      | some required => simp [Operation.RequiresBody, declared, marked]

theorem requests_draft {found : Draft} (h : (draft doc op).run before = .ok (found, after)) :
    Requests doc op found.requestRequired found.request := by
  obtain ⟨⟨model, required⟩, between, requested, rest⟩ := run_bind h
  obtain ⟨responses, last, _, done⟩ := run_bind rest
  cases done
  exact requests_request requested

/-- The statuses of responses increase. -/
theorem ascending_responses {declared : List (String × Json)} {done found : SortedTable Nat (String × Option String)}
    (ascending : SortedTable.Ascending done)
    (h : (responses doc op stem declared done).run before = .ok (found, after)) : SortedTable.Ascending found := by
  induction declared generalizing done before with
  | nil =>
      cases h
      exact ascending
  | cons entry declared ih =>
      rw [responses] at h
      split at h
      · exact ih ascending h
      · obtain ⟨body, between, _, rest⟩ := run_bind h
        obtain ⟨model, last, _, rest⟩ := run_bind rest
        exact ih (SortedTable.ascending_put ascending) rest

theorem ascending_draft {found : Draft} (h : (draft doc op).run before = .ok (found, after)) :
    SortedTable.Ascending found.responses := by
  obtain ⟨requested, between, _, rest⟩ := run_bind h
  obtain ⟨responses, last, listed, done⟩ := run_bind rest
  cases done
  exact ascending_responses SortedTable.ascending_nil listed

/-- What a draft of an operation always satisfies, the drafts of operations satisfy one by one. -/
theorem forall₂_drafts {R : Operation → Draft → Prop} {ops : List Operation} {found : List Draft}
    (each : ∀ {op before draft after}, (Compiling.draft doc op).run before = .ok (draft, after) → R op draft)
    (h : (ops.mapM (draft doc)).run before = .ok (found, after)) : List.Forall₂ R ops found := by
  induction ops generalizing before found with
  | nil =>
      cases h
      exact .nil
  | cons op ops ih =>
      rw [List.mapM_cons] at h
      obtain ⟨draft, between, first, rest⟩ := run_bind h
      obtain ⟨drafts, last, others, done⟩ := run_bind rest
      cases done
      exact .cons (each first) (ih others)

end Compiling

/-- A compiled operation says about the body of requests what the operation says. -/
structure OperationSpec.Requests (doc : Document) (op : Operation) (spec : OperationSpec) : Prop where
  route : (spec.path, spec.method) = (op.path, op.method)
  source : spec.source = doc.path
  required : spec.requestRequired = true ↔ op.RequiresBody doc
  model : spec.request.isSome ↔ op.TakesJson doc

theorem compileDocument_requests {doc : Document} {compiled : CompiledDocument} (keyed : doc.root.Keyed)
    (compiles : compileDocument doc = .ok compiled) :
    List.Forall₂ (OperationSpec.Requests doc) doc.operations compiled.operations := by
  obtain ⟨⟨drafts, progress⟩, run, rest⟩ := bind_eq_ok_iff.mp compiles
  cases rest
  obtain ⟨stage, registry, drafted, _⟩ := Compiling.reached keyed run
  have models : stage.models = progress.registry.models := congrArg Registry.models registry
  have means : progress.registry.models.Means stage.meaning := models ▸ stage.means.models
  obtain ⟨⟨⟩, between, _, rest⟩ := Compiling.run_bind run
  rw [List.forall₂_map_right_iff]
  refine (forall₂_and drafted (Compiling.forall₂_drafts Compiling.requests_draft rest)).imp fun op draft both => ?_
  obtain ⟨drafts, requests⟩ := both
  have operation := drafts.operation
  -- A model that a draft names is there, so no request loses its model.
  have kept : ((OperationSpec.ofDraft doc progress.registry.models draft).request).isSome = draft.request.isSome := by
    have request : (OperationSpec.ofDraft doc progress.registry.models draft).request =
        draft.request.bind (Handle.ofName? progress.registry.models) := rfl
    rw [request]
    cases named : draft.request with
    | none => rfl
    | some name =>
        obtain ⟨model, there⟩ := drafts.known named
        rw [Option.bind_some, Handle.ofName?, ← models, there]
        rfl
  subst operation
  exact ⟨rfl, rfl, requests.required, kept ▸ requests.model⟩

theorem compileDocument_ascending {doc : Document} {compiled : CompiledDocument} {spec : OperationSpec}
    (compiles : compileDocument doc = .ok compiled) (declared : spec ∈ compiled.operations) :
    SortedTable.Ascending spec.responses := by
  obtain ⟨⟨drafts, progress⟩, run, rest⟩ := bind_eq_ok_iff.mp compiles
  cases rest
  obtain ⟨draft, member, rfl⟩ := List.mem_map.mp declared
  obtain ⟨⟨⟩, between, _, rest⟩ := Compiling.run_bind run
  have drafts := Compiling.forall₂_drafts (fun h => Compiling.ascending_draft h) rest
  obtain ⟨_, _, ascending⟩ := exists_left_of_forall₂ drafts member
  -- Looking up the models of the responses leaves their statuses alone.
  have statuses : SortedTable.keys (OperationSpec.ofDraft doc progress.registry.models draft).responses =
      SortedTable.keys draft.responses := List.map_map
  rwa [SortedTable.Ascending, statuses]

end Model

end ApiAtlas
