import ApiAtlas.Proofs.Model.Compilation
import ApiAtlas.Proofs.Schema.Answerable

/-! # Which documents compile

A document compiles, unless its schemas are nested too deeply, exactly if its components and the bodies of
its operations resolve. This says nothing of the order in which schemas are resolved, nor of what was
remembered by then.
-/

namespace ApiAtlas

open Schema (Call Demands)

/-- A body leads somewhere, and the schema of its JSON content resolves. -/
def Document.BodyResolves (doc : Document) (written : Json) : Prop :=
  ∃ body, Operation.dereference? doc written = some body ∧
    ∀ schema, Model.Compiling.jsonSchemaOf? body = some schema → (Call.resolve schema).Answerable doc.schemas

/-- The bodies of an operation that get models resolve. -/
structure Operation.Compilable (doc : Document) (op : Operation) : Prop where
  request : ∀ written, op.value.get? "requestBody" = some written → doc.BodyResolves written
  responses : ∀ entry ∈ Model.Compiling.declaredResponses op,
    (Model.Compiling.statusCode? entry.1).isSome → doc.BodyResolves entry.2

/-- The components of a document and the bodies of its operations resolve. -/
structure Document.Compilable (doc : Document) : Prop where
  components : ∀ entry ∈ doc.schemas, (Call.component entry.1).Answerable doc.schemas
  operations : ∀ op ∈ doc.operations, op.Compilable doc

namespace Model

namespace Compiling

variable {doc : Document} {α : Type} {location : String}

def IsTooDeep (doc : Document) (error : BuildError) : Prop :=
  ∃ location, error = .schema doc.path location Schema.tooDeep

/-- A step succeeds exactly if something holds, unless the nesting is too deep. -/
abbrev Needs (doc : Document) (step : Compiling α) (need : Prop) : Prop :=
  Demands doc.schemas Progress.memo (IsTooDeep doc) step need

namespace Needs

theorem resolving (call : Call) : Needs doc (resolving doc location (call.step doc.schemas).alone)
    (call.Answerable doc.schemas) := by
  refine Demands.call (fun before memo => { before with memo }) (.schema doc.path location) (fun _ _ => rfl)
    ⟨location, rfl⟩ ?_ ?_
  all_goals
    intro before _ _ run
    simp only [Compiling.resolving, StateT.run_bind, StateT.run_get, pure_bind, run, StateT.run_set]
    rfl

theorem modelling (step : Modelling α) : Needs doc (modelling step) True := fun _ valid => ⟨trivial, valid⟩

theorem followed {written : Json} {next : Json → Compiling α} {need : Json → Prop}
    (each : ∀ body, Needs doc (next body) (need body)) : Needs doc (followed doc location written >>= next)
      (∃ body, Operation.dereference? doc written = some body ∧ need body) := by
  unfold Compiling.followed Operation.dereference?
  cases written.textAt? "$ref" with
  | none =>
      rw [pure_bind]
      exact (each written).congr (by simp)
  | some reference =>
      cases leads : doc.resolveLocal? reference with
      | none =>
          simp only [leads]
          exact (Demands.throw_bind _ _).congr (by simp)
      | some body =>
          simp only [leads, pure_bind]
          exact (each body).congr (by simp)

theorem contentModel {hint : String} {body : Json} : Needs doc (contentModel doc location hint body)
    (∀ schema, jsonSchemaOf? body = some schema → (Call.resolve schema).Answerable doc.schemas) := by
  unfold Compiling.contentModel
  split
  · rename_i absent
    exact (Demands.pure _).congr (by simp [absent])
  · rename_i schema content
    exact ((resolving (.resolve schema)).bind fun node => (modelling _).map some).congr (by simp [content])

theorem request {op : Operation} {stem : String} : Needs doc (request doc op stem)
    (∀ written, op.value.get? "requestBody" = some written → doc.BodyResolves written) := by
  unfold Compiling.request
  split
  · rename_i absent
    exact (Demands.pure _).congr (by simp [absent])
  · rename_i body written
    exact (followed fun body => contentModel.map _).congr (by simp [written, Document.BodyResolves])

theorem responses {op : Operation} {stem : String} {declared : List (String × Json)}
    {done : SortedTable Nat (String × Option String)} : Needs doc (responses doc op stem declared done)
      (∀ entry ∈ declared, (statusCode? entry.1).isSome → doc.BodyResolves entry.2) := by
  induction declared generalizing done with
  | nil => exact (Demands.pure _).congr (by simp)
  | cons entry declared ih =>
      obtain ⟨code, response⟩ := entry
      rw [Compiling.responses]
      split
      · rename_i none
        exact ih.congr (by simp [none])
      · rename_i status some
        refine (followed fun body => contentModel.bind fun model => ih).congr ?_
        rw [List.forall_mem_cons, some]
        simp [Document.BodyResolves]
        grind

theorem draft {op : Operation} : Needs doc (draft doc op) (op.Compilable doc) := by
  refine (request.bind ?_).congr ⟨fun ⟨request, responses⟩ => ⟨request, responses⟩, fun h => ⟨h.request, h.responses⟩⟩
  intro ⟨_, _⟩
  exact responses.map _

theorem component {key : String} : Needs doc (component doc key) ((Call.component key).Answerable doc.schemas) :=
  ((resolving (.component key)).bind fun _ => (modelling _).map _).congr (and_iff_left trivial)

theorem document : Needs doc (document doc) doc.Compilable := by
  have components : Needs doc (doc.schemas.forM fun entry => Compiling.component doc entry.1) _ :=
    Demands.forM fun _ => component
  have operations : Needs doc (doc.operations.mapM (Compiling.draft doc)) _ := Demands.mapM fun _ => draft
  refine (components.bind fun _ => operations).congr ?_
  exact ⟨fun ⟨components, operations⟩ => ⟨components, operations⟩, fun h => ⟨h.components, h.operations⟩⟩

end Needs

end Compiling

/-- A document compiles exactly if its schemas resolve, unless they are nested too deeply. -/
theorem compileDocument_needs (doc : Document) :
    match compileDocument doc with
    | .ok _ => doc.Compilable
    | .error error => doc.Compilable → Compiling.IsTooDeep doc error := by
  have needs := @Compiling.Needs.document doc {} .nil
  unfold compileDocument
  cases run : (Compiling.document doc).run {} with
  | error error =>
      rw [run] at needs
      exact needs
  | ok outcome =>
      rw [run] at needs
      exact needs.1

theorem compilable_of_compiles {doc : Document} {compiled : CompiledDocument}
    (compiles : compileDocument doc = .ok compiled) : doc.Compilable := by
  have needs := compileDocument_needs doc
  rw [compiles] at needs
  exact needs

theorem compiles_of_compilable {doc : Document} (compilable : doc.Compilable) :
    (∃ compiled, compileDocument doc = .ok compiled) ∨
      ∃ location, compileDocument doc = .error (.schema doc.path location (.malformed .tooDeep)) := by
  have needs := compileDocument_needs doc
  cases result : compileDocument doc with
  | ok compiled => exact .inl ⟨compiled, rfl⟩
  | error error =>
      rw [result] at needs
      obtain ⟨location, rfl⟩ := needs compilable
      exact .inr ⟨location, rfl⟩

end Model

end ApiAtlas
