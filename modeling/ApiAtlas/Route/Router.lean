import ApiAtlas.Document.Loading
import ApiAtlas.Model.Compile
import ApiAtlas.Route.Dispatch
import ApiAtlas.Settings
import ApiAtlas.Validation.Chain

/-! # Routers

A router compiles the documents of a tree once, when they are first needed, and keeps them. Bindings may
change after that. Its routes are registered one by one, and only if all of them can be resolved.
-/

namespace ApiAtlas

open Model (CompiledDocument Handle OperationSpec)
open Route (Binding Bindings DispatchTable Entry)

structure Router where
  /-- The directory of the documents, or a single document. -/
  specsPath : String
  chain : ValidatorChain := {}
  bindings : Bindings := {}
  allowStubs : Bool := false
  strict : Bool := false
  /-- The compiled documents, once they are needed. -/
  compiled : Option (List CompiledDocument) := none

namespace Router

def ofSettings (tree : FileTree) (settings : Settings) : Except SettingsError Router :=
  (settings.selected tree).map fun validators =>
    { specsPath := settings.specsPath
      chain := { others := validators }
      allowStubs := settings.allowStubs
      strict := settings.strict }

def bind (router : Router) (path : String) (method : Method) (binding : Binding) : Router :=
  { router with bindings := router.bindings.setOverride path method binding }

/-- Binds to every route of a method that has no binding of its own. -/
def bindDefault (router : Router) (method : Method) (binding : Binding) : Router :=
  { router with bindings := router.bindings.setDefault method binding }

/-- Validates and compiles a document. -/
def compileOne (chain : ValidatorChain) (doc : Document) : Except BuildError CompiledDocument := do
  chain.validate doc
  Model.compileDocument doc

/-- Loads, validates and compiles all documents of a tree; the first error ends it. -/
def compileTree (tree : FileTree) (root : String) (chain : ValidatorChain) :
    Except BuildError (List CompiledDocument) := do
  let docs ← (Document.loadAll tree root).mapError .load
  docs.mapM (compileOne chain)

/-- A step of using a router, which may keep compiled documents. -/
abbrev Using (α : Type) := ExceptT BuildError (StateM Router) α

/-- The compiled documents. They are kept, unless there was an error. -/
def documents (tree : FileTree) : Using (List CompiledDocument) := do
  let router ← get
  match router.compiled with
  | some docs => return docs
  | none =>
    let docs ← MonadExcept.ofExcept (compileTree tree router.specsPath router.chain)
    set { router with compiled := some docs }
    return docs

def resolve (tree : FileTree) : Using (List Entry) := do
  let docs ← documents tree
  let router ← get
  MonadExcept.ofExcept (Route.resolve router.bindings router.allowStubs docs)

/-- Registers routes in order, up to the first refusal, and counts them. What registers them has a state
of its own. -/
def registerAll {σ : Type} (register : Entry → ExceptT String (StateM σ) Unit)
    (entries : List Entry) : ExceptT BuildError (StateM σ) Nat := do
  entries.forM fun entry =>
    ExceptT.adapt (BuildError.registration entry.path entry.method) (register entry)
  return entries.length

def assemble {σ : Type} (tree : FileTree) (register : Entry → ExceptT String (StateM σ) Unit)
    (state : σ) (router : Router) : (Except BuildError Nat × σ) × Router :=
  match (resolve tree).run.run router with
  | (.error error, router) => ((.error error, state), router)
  | (.ok entries, router) => ((registerAll register entries).run.run state, router)

/-- Registers a route in a table. -/
def registerInTable (entry : Entry) : ExceptT String (StateM DispatchTable) Unit := do
  set (← MonadExcept.ofExcept ((← get).register entry))

def table (tree : FileTree) (router : Router) : Except BuildError DispatchTable × Router :=
  let ((result, table), router) :=
    assemble tree registerInTable { strict := router.strict } router
  (result.map fun _ => table, router)

def operation? (tree : FileTree) (path : String) (method : Method) :
    Using (Option OperationSpec) := do
  let docs ← documents tree
  return (docs.flatMap (·.operations)).find? fun op => op.path == path && op.method == method

/-- The model of the request body of a route. -/
def requestModel? (tree : FileTree) (path : String) (method : Method) : Using (Option Handle) := do
  let op ← operation? tree path method
  return op.bind (·.request)

/-- The model of the response of a route that stands for success. -/
def responseModel? (tree : FileTree) (path : String) (method : Method) : Using (Option Handle) := do
  let op ← operation? tree path method
  return op.bind (·.responseModel?)

end Router

end ApiAtlas
