import ApiAtlas.BuildError
import ApiAtlas.Route.Binding

/-! # Routes

A route is an operation with the handler that answers it and with its documentation. Both are taken from
the binding of the route, from that of its method, and then from the document.
-/

namespace ApiAtlas

namespace Route

open Model (CompiledDocument Handle OperationSpec)

/-- Where the handler of a route comes from. -/
inductive HandlerSource where
  | override
  | methodDefault
  | stub
deriving DecidableEq, Repr, Inhabited

def HandlerSource.name : HandlerSource → String
  | .override => "override"
  | .methodDefault => "method_default"
  | .stub => "stub"

structure Entry where
  path : String
  method : Method
  name : String
  summary : String
  description : Option String
  tags : List String
  operationId : Option String
  deprecated : Bool
  parameters : List Parameter
  request : Option Handle
  requestRequired : Bool
  response : Option Handle
  responseStatus : Nat
  responseDescription : String
  responses : SortedTable Nat Model.Response
  handler : Http.Handler
  handlerSource : HandlerSource
  source : String
deriving Inhabited

/-- Gives a request to the handler, under the name of the route. -/
def Entry.call (entry : Entry) (request : Http.Request) : Http.Response :=
  entry.handler { request with routeName := entry.name }

/-- The handler of a route that nobody bound: it answers with an empty object. -/
def stubHandler : Http.Handler := fun _ => .ofJson 200 (.object [])

/-- The description of a response that nobody described. -/
def defaultResponseDescription : String := "Successful response"

/-- The handler of an operation, and where it comes from. -/
def handlerOf? (bindings : Bindings) (allowStubs : Bool) (op : OperationSpec) :
    Option (Http.Handler × HandlerSource) :=
  let factory (binding : Option Binding) := binding.bind (·.handler)
  match factory (bindings.override? op.path op.method), factory (bindings.default? op.method) with
  | some make, _ => some (make op, .override)
  | none, some make => some (make op, .methodDefault)
  | none, none => if allowStubs then some (stubHandler, .stub) else none

/-- The bindings that apply to an operation, the most specific first. -/
def layers (bindings : Bindings) (op : OperationSpec) : List Binding :=
  (bindings.override? op.path op.method).toList ++ (bindings.default? op.method).toList

/-- Describes a status, and keeps the model that it may have. -/
def describe (responses : SortedTable Nat Model.Response) (status : Nat) (description : String) :
    SortedTable Nat Model.Response :=
  let model := (SortedTable.get? status responses).bind (·.model)
  SortedTable.put status { description, model } responses

/-- The responses of an operation with the descriptions of its bindings; the most specific counts. -/
def describedResponses (layers : List Binding) (op : OperationSpec) :
    SortedTable Nat Model.Response :=
  (layers.reverse.flatMap (·.responses)).foldl
    (fun responses extra => describe responses extra.1 extra.2) op.responses

def entryOf (bindings : Bindings) (op : OperationSpec) (handler : Http.Handler)
    (handlerSource : HandlerSource) : Entry :=
  let layers := layers bindings op
  let name := (layers.findSome? (·.name? op)).getD (Naming.routeName op.method op.path)
  let documented := (op.primaryResponse?.map (·.description)).filter (· != "")
  { path := op.path
    method := op.method
    name
    summary := (layers.findSome? (·.summary) <|> op.summary).getD name
    description := layers.findSome? (·.description) <|> op.description
    tags := (layers.findSome? (·.tags)).getD op.tags
    operationId := op.operationId
    deprecated := op.deprecated
    parameters := op.parameters
    request := op.request
    requestRequired := op.requestRequired
    response := op.responseModel?
    responseStatus := op.primaryStatus?.getD 200
    responseDescription :=
      (layers.findSome? (·.responseDescription) <|> documented).getD defaultResponseDescription
    responses := describedResponses layers op
    handler
    handlerSource
    source := op.source }

def resolveOne (bindings : Bindings) (allowStubs : Bool) (op : OperationSpec) :
    Except BuildError Entry :=
  match handlerOf? bindings allowStubs op with
  | some (handler, handlerSource) => .ok (entryOf bindings op handler handlerSource)
  | none => .error (.unboundRoute op.path op.method)

/-- An operation whose route an earlier one has too. -/
def duplicate? (earlier : List OperationSpec) : List OperationSpec → Option BuildError
  | [] => none
  | op :: rest =>
    match earlier.find? fun first => first.path == op.path && first.method == op.method with
    | some first => some (.duplicateRoute op.path op.method first.source op.source)
    | none => duplicate? (earlier ++ [op]) rest

/-- A bound route that no operation has. -/
def unknown? (bindings : Bindings) (ops : List OperationSpec) : Option BuildError :=
  (bindings.overridden.find? fun route =>
      !ops.any fun op => op.path == route.1 && op.method == route.2).map fun route =>
    .unknownRoute route.1 route.2

/-- The routes of documents, in the order of their operations. Two operations with one route are an error,
and so are a binding without a route and a route without a handler. -/
def resolve (bindings : Bindings) (allowStubs : Bool) (docs : List CompiledDocument) :
    Except BuildError (List Entry) :=
  let ops := docs.flatMap (·.operations)
  match duplicate? [] ops, unknown? bindings ops with
  | some error, _ => .error error
  | none, some error => .error error
  | none, none => ops.mapM (resolveOne bindings allowStubs)

end Route

end ApiAtlas
