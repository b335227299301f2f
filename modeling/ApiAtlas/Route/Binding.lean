import ApiAtlas.Http.Exchange
import ApiAtlas.Model.Operation

/-! # Bindings

The caller binds handlers and documentation to routes: to a single route, or to all routes of a method
that have none of their own.
-/

namespace ApiAtlas

namespace Route

open Model (OperationSpec)

/-- What is bound to a route. Fields that are not set are left to a less specific source. -/
structure Binding where
  /-- Makes the handler of an operation. -/
  handler : Option (OperationSpec → Http.Handler) := none
  name : Option String := none
  /-- Makes the name of a route from its path and operation. -/
  naming : Option (String → OperationSpec → String) := none
  summary : Option String := none
  description : Option String := none
  tags : Option (List String) := none
  responseDescription : Option String := none
  /-- Descriptions of further statuses. -/
  responses : SortedTable Nat String := []
deriving Inhabited

def Binding.name? (binding : Binding) (op : OperationSpec) : Option String :=
  binding.name <|> binding.naming.map fun make => make op.path op

/-- All bindings: one per method, and one per single route, in the order in which these were made. -/
structure Bindings where
  defaults : Table Binding := []
  overrides : List ((String × Method) × Binding) := []
deriving Inhabited

namespace Bindings

/-- Binds to every route of a method that has no binding of its own. -/
def setDefault (method : Method) (binding : Binding) (bindings : Bindings) : Bindings :=
  { bindings with defaults := Table.put method binding bindings.defaults }

/-- Replaces the binding of a route where it stands, or appends one. -/
def putOverride (route : String × Method) (binding : Binding) :
    List ((String × Method) × Binding) → List ((String × Method) × Binding)
  | [] => [(route, binding)]
  | entry :: rest =>
    if entry.1 = route then (route, binding) :: rest else entry :: putOverride route binding rest

def setOverride (path : String) (method : Method) (binding : Binding) (bindings : Bindings) :
    Bindings :=
  { bindings with overrides := putOverride (path, method) binding bindings.overrides }

def default? (bindings : Bindings) (method : Method) : Option Binding :=
  Table.get? method bindings.defaults

def override? (bindings : Bindings) (path : String) (method : Method) : Option Binding :=
  (bindings.overrides.find? (·.1 == (path, method))).map (·.2)

/-- The routes with a binding of their own, in the order of the first binding. -/
def overridden (bindings : Bindings) : List (String × Method) := bindings.overrides.map (·.1)

end Bindings

end Route

end ApiAtlas
