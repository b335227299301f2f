import ApiAtlas.Document.Operation
import ApiAtlas.Model.Rendering

/-! # Compiled documents

What a document is once its schemas are models: operations whose bodies are given by models.
-/

namespace ApiAtlas

namespace Model

/-- A model together with the models of its document. -/
structure Handle where
  models : Namespace
  definition : Definition
deriving Inhabited

namespace Handle

def ofName? (models : Namespace) (name : String) : Option Handle :=
  (SortedTable.get? name models).map fun definition => { models, definition }

def name (handle : Handle) : String := handle.definition.name

def jsonSchema (handle : Handle) (strict : Bool) : Json :=
  handle.models.jsonSchema handle.definition strict

end Handle

structure Response where
  description : String
  model : Option Handle
deriving Inhabited

structure OperationSpec where
  path : String
  method : Method
  operationId : Option String
  summary : Option String
  description : Option String
  tags : List String
  deprecated : Bool
  parameters : List Parameter
  request : Option Handle
  requestRequired : Bool
  responses : SortedTable Nat Response
  source : String
deriving Inhabited

namespace OperationSpec

/-- How messages name the operation. -/
def location (op : OperationSpec) : String := op.path ++ " " ++ op.method

/-- The status of the response that stands for success: 200 if documented, or else the least
documented status from 200 to 299. -/
def primaryStatus? (op : OperationSpec) : Option Nat :=
  let statuses := SortedTable.keys op.responses
  if statuses.contains 200 then some 200 else statuses.find? fun s => 200 ≤ s && s < 300

def primaryResponse? (op : OperationSpec) : Option Response :=
  op.primaryStatus?.bind (SortedTable.get? · op.responses)

def responseModel? (op : OperationSpec) : Option Handle := op.primaryResponse?.bind (·.model)

end OperationSpec

structure CompiledDocument where
  source : String
  models : Namespace
  operations : List OperationSpec
deriving Inhabited

def CompiledDocument.model? (doc : CompiledDocument) (name : String) : Option Handle :=
  Handle.ofName? doc.models name

end Model

end ApiAtlas
