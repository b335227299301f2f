import ApiAtlas.Http.Query
import ApiAtlas.Payload.Validator
import ApiAtlas.Route.Entry
import ApiAtlas.Route.Template

/-! # Dispatching requests

A table of routes answers requests. Routes are tried in the order in which they were registered. A body
that does not fit the model of the request is answered by the table, so a handler never sees it.
-/

namespace ApiAtlas

namespace Route

/-- A route in a table. -/
structure Registered where
  template : Template
  entry : Entry
  /-- Checks bodies, if the operation has a model for them. -/
  validator : Option Payload.Validator
deriving Inhabited

def Registered.serves (route : Registered) (method : Method) (path : String) : Bool :=
  route.entry.method == method && route.template.accepts path

/-- The validator of bodies, if the operation has a model for them. -/
def Entry.validator? (entry : Entry) (strict : Bool) : Except Schema.Error (Option Payload.Validator) :=
  entry.request.mapM (·.validator strict)

/-- Routes in the order of registration. -/
structure DispatchTable where
  /-- Whether bodies are checked strictly. -/
  strict : Bool := false
  routes : List Registered := []
deriving Inhabited

namespace DispatchTable

def entries (table : DispatchTable) : List Entry := table.routes.map (·.entry)

/-- Registers a route; its template has to be readable, and the schema of its request model has to be well formed. -/
def register (entry : Entry) (table : DispatchTable) : Except String DispatchTable :=
  match Template.read? entry.path, entry.validator? table.strict with
  | none, _ => .error ("invalid path template " ++ entry.path)
  | some _, .error _ => .error ("cannot build request validator for " ++ entry.method ++ " " ++ entry.path)
  | some template, .ok validator => .ok { table with routes := table.routes ++ [{ template, entry, validator }] }

/-- The entry for a method and a path, with the parameters of the path: that of the first route for the method
whose template captures them. -/
def find? (table : DispatchTable) (method : Method) (path : String) :
    Option (Entry × Http.Pairs) :=
  (table.routes.filter (·.entry.method == method)).findSome? fun route =>
    (route.template.capture? path).map fun parameters => (route.entry, parameters)

/-- The methods of the routes that match a path, in the order of registration. -/
def allowedMethods (table : DispatchTable) (path : String) : List Method :=
  ((table.routes.filter (·.template.accepts path)).map (·.entry.method)).eraseDups

/-- The answer to a request that no route is for: it names the methods that the path admits, if any. -/
def refusal (table : DispatchTable) (path : String) : Http.Response :=
  match table.allowedMethods path with
  | [] => .ofError 404 "Not Found"
  | methods =>
    (Http.Response.ofError 405 "Method Not Allowed").withHeader "allow" (Text.join ", " methods)

/-- The answer to a body that does not fit the model; nothing if it fits. -/
def objection? (route : Registered) (body : Option Json) : Option Http.Response :=
  match route.validator, body with
  | none, _ => none
  | some validator, none =>
    if route.entry.requestRequired then
      some (.ofJson 422 (.object
        [("error", .string "Request body is required"), ("model", .string validator.model)]))
    else none
  | some validator, some body =>
    match validator.violations body with
    | [] => none
    | violations =>
      some (.ofJson 422 (.object
        [("error", .string "Request validation failed"), ("model", .string validator.model),
          ("errors", Json.strings violations)]))

/-- Moves what follows the first question mark of the path to the query parameters. -/
def withQuery (request : Http.Request) : Http.Request :=
  match Text.cutAt? '?' request.path.toList with
  | none => request
  | some (path, query) =>
    { request with
      path := String.ofList path
      query := request.query ++ Query.parse (String.ofList query) }

/-- The first route that serves a method and a path. -/
def route? (table : DispatchTable) (method : Method) (path : String) : Option Registered :=
  table.routes.find? (·.serves method path)

/-- Answers a request. The parameters of its path are captured once its body has been let through. -/
def dispatch (table : DispatchTable) (request : Http.Request) : Http.Response :=
  let request := withQuery request
  match table.route? request.method request.path with
  | none => table.refusal request.path
  | some route =>
    match objection? route request.body with
    | some response => response
    | none =>
      route.entry.call
        { request with pathParameters := (route.template.capture? request.path).getD [] }

end DispatchTable

end Route

end ApiAtlas
