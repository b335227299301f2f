import ApiAtlas.BuildError
import ApiAtlas.Model.Operation
import ApiAtlas.Model.Registry
import ApiAtlas.Schema.Resolution

/-! # Compiling documents

A document becomes a set of named models and a list of operations. Models come from the component
schemas first, in document order, then from the bodies of the operations.
-/

namespace ApiAtlas

namespace Model

open Schema (Node)

/-- What compiling a document carries along. -/
structure Progress where
  memo : Schema.Memo := []
  registry : Registry := {}
deriving Inhabited

abbrev Compiling (α : Type) := StateT Progress (Except BuildError) α

namespace Compiling

/-- A resolving step, whose error is reported at a location of the document. -/
def resolving {α : Type} (doc : Document) (location : String) (step : Schema.Resolution α) :
    Compiling α := do
  let progress ← get
  let (result, memo) := step.run.run progress.memo
  set { progress with memo }
  match result with
  | .ok value => return value
  | .error error => throw (.schema doc.path location error)

def modelling {α : Type} (step : Modelling α) : Compiling α := do
  let progress ← get
  let (value, registry) := step.run progress.registry
  set { progress with registry }
  return value

/-- The value that a body stands for: what its reference leads to, or itself. -/
def followed (doc : Document) (location : String) (value : Json) : Compiling Json :=
  match value.textAt? "$ref" with
  | some reference =>
    match doc.resolveLocal? reference with
    | some target => return target
    | none => throw (.schema doc.path location (.unresolved reference))
  | none => return value

/-- The media type whose schemas become models. -/
def jsonMediaType : String := "application/json"

def jsonSchemaOf? (body : Json) : Option Json :=
  ((body.get? "content").bind (·.get? jsonMediaType)).bind (·.get? "schema")

/-- The model of the JSON content of a body, if it has one. -/
def contentModel (doc : Document) (location hint : String) (body : Json) :
    Compiling (Option String) :=
  match jsonSchemaOf? body with
  | none => return none
  | some schema => do
    let node ← resolving doc location (Schema.resolve doc.schemas schema)
    return some (← modelling (Modelling.topModel hint node))

/-- The status code that a key of `responses` writes: decimal digits after an optional plus, at most
65535. -/
def statusCode? (key : String) : Option Nat :=
  let digits := match key.toList with
    | '+' :: rest => rest
    | chars => chars
  if digits.isEmpty || !digits.all Char.isDigit then none
  else
    let n := digits.foldl (fun n c => n * 10 + (c.toNat - '0'.toNat)) 0
    if n < 65536 then some n else none

/-- An operation whose models are known by name only. -/
structure Draft where
  operation : Operation
  request : Option String
  requestRequired : Bool
  responses : SortedTable Nat (String × Option String)

/-- The request model of an operation, and whether a body is required. -/
def request (doc : Document) (op : Operation) (stem : String) : Compiling (Option String × Bool) :=
  match op.value.get? "requestBody" with
  | none => return (none, false)
  | some body => do
    let location := op.location ++ " (requestBody)"
    let body ← followed doc location body
    let model ← contentModel doc location (stem ++ "Request") body
    return (model, (body.boolAt? "required").getD false)

/-- The name of a response model without a title. -/
def responseHint (stem : String) (status : Nat) : String :=
  if status = 200 then stem ++ "Response" else stem ++ "Response" ++ toString status

/-- The responses with a numeric status, by status; of two keys for one status the later counts. -/
def responses (doc : Document) (op : Operation) (stem : String) :
    (declared : List (String × Json)) → SortedTable Nat (String × Option String) →
    Compiling (SortedTable Nat (String × Option String))
  | [], done => return done
  | (code, response) :: rest, done =>
    match statusCode? code with
    | none => responses doc op stem rest done
    | some status => do
      let location := op.location ++ " (response " ++ code ++ ")"
      let response ← followed doc location response
      let model ← contentModel doc location (responseHint stem status) response
      let description := (response.textAt? "description").getD ""
      responses doc op stem rest (SortedTable.put status (description, model) done)

def draft (doc : Document) (op : Operation) : Compiling Draft := do
  let stem := Naming.operationStem op.operationId? op.method op.path
  let (request, requestRequired) ← request doc op stem
  let declared := ((op.value.get? "responses").bind Json.fields?).getD []
  return { operation := op, request, requestRequired, responses := ← responses doc op stem declared [] }

def component (doc : Document) (key : String) : Compiling Unit := do
  let node ← resolving doc ("#/components/schemas/" ++ key) (Schema.resolveComponent doc.schemas key)
  let _ ← modelling (Modelling.componentModel key node (Modelling.bodyOf node))

/-- Compiles the components, then the operations. -/
def document (doc : Document) : Compiling (List Draft) := do
  doc.schemas.forM fun entry => component doc entry.1
  doc.operations.mapM (draft doc)

end Compiling

/-- The operation of a draft, its models looked up by name. -/
def OperationSpec.ofDraft (doc : Document) (models : Namespace) (draft : Compiling.Draft) :
    OperationSpec :=
  let handle (name : Option String) : Option Handle := name.bind (Handle.ofName? models)
  let op := draft.operation
  { path := op.path
    method := op.method
    operationId := op.operationId?
    summary := op.summary?
    description := op.description?
    tags := op.tags
    deprecated := op.deprecated
    parameters := op.parameters doc
    request := handle draft.request
    requestRequired := draft.requestRequired
    responses := draft.responses.map fun (status, description, model) =>
      (status, { description, model := handle model })
    source := doc.path }

def compileDocument (doc : Document) : Except BuildError CompiledDocument := do
  let (drafts, progress) ← (Compiling.document doc).run {}
  let models := progress.registry.models
  return {
    source := doc.path
    models
    operations := drafts.map (OperationSpec.ofDraft doc models) }

end Model

end ApiAtlas
