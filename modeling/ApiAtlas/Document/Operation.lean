import ApiAtlas.Document.Basic

/-! # Operations of a document

An operation is a method of a path item. Operations are listed path by path in document order, and
within a path in a fixed order of methods.
-/

namespace ApiAtlas

inductive OperationKey where
  | get
  | put
  | post
  | delete
  | options
  | head
  | patch
  | trace
deriving DecidableEq, Repr, Inhabited

namespace OperationKey

/-- All keys, in the order in which operations are listed. -/
def all : List OperationKey := [.get, .put, .post, .delete, .options, .head, .patch, .trace]

def text : OperationKey → String
  | .get => "get"
  | .put => "put"
  | .post => "post"
  | .delete => "delete"
  | .options => "options"
  | .head => "head"
  | .patch => "patch"
  | .trace => "trace"

def method : OperationKey → Method
  | .get => "GET"
  | .put => "PUT"
  | .post => "POST"
  | .delete => "DELETE"
  | .options => "OPTIONS"
  | .head => "HEAD"
  | .patch => "PATCH"
  | .trace => "TRACE"

/-- The key with a given text. -/
def ofText? (text : String) : Option OperationKey := all.find? (·.text == text)

end OperationKey

inductive ParameterPlace where
  | path
  | query
  | header
  | cookie
deriving DecidableEq, Repr, Inhabited

namespace ParameterPlace

/-- The place that a text names, in any letter case. -/
def ofText? (text : String) : Option ParameterPlace :=
  let key := Text.asciiLower text
  if key = "path" then some .path
  else if key = "query" then some .query
  else if key = "header" then some .header
  else if key = "cookie" then some .cookie
  else none

def name : ParameterPlace → String
  | .path => "Path"
  | .query => "Query"
  | .header => "Header"
  | .cookie => "Cookie"

end ParameterPlace

structure Parameter where
  name : String
  place : ParameterPlace
  required : Bool
  description : Option String
  schema : Option Json
deriving Repr, Inhabited

/-- Reads a parameter object; it needs a name and a place. Path parameters are always required. -/
def Parameter.ofValue? (value : Json) : Option Parameter := do
  let name ← value.textAt? "name"
  let place ← (value.textAt? "in").bind ParameterPlace.ofText?
  return {
    name
    place
    required := place == .path || (value.boolAt? "required").getD false
    description := value.textAt? "description"
    schema := value.get? "schema" }

/-- An operation as declared: its path, its method, its value and the path item around it. -/
structure Operation where
  path : String
  key : OperationKey
  value : Json
  item : Json
deriving Repr, Inhabited

namespace Operation

def method (op : Operation) : Method := op.key.method

/-- How messages name the operation. -/
def location (op : Operation) : String := op.path ++ " " ++ op.method

/-- The `operationId`. -/
def operationId? (op : Operation) : Option String := op.value.textAt? "operationId"

def summary? (op : Operation) : Option String := op.value.textAt? "summary"

def description? (op : Operation) : Option String := op.value.textAt? "description"

def deprecated (op : Operation) : Bool := (op.value.boolAt? "deprecated").getD false

def tags (op : Operation) : List String :=
  ((op.value.itemsAt? "tags").getD []).filterMap Json.text?

/-- Follows the reference of an object, if it has one. -/
def dereference? (doc : Document) (value : Json) : Option Json :=
  match value.textAt? "$ref" with
  | some reference => doc.resolveLocal? reference
  | none => some value

/-- The parameters of the path item, then those of the operation. References are followed once; what
is no parameter is left out. -/
def parameters (doc : Document) (op : Operation) : List Parameter :=
  [op.item, op.value].flatMap fun source =>
    ((source.itemsAt? "parameters").getD []).filterMap fun value =>
      (dereference? doc value).bind Parameter.ofValue?

end Operation

def operationsOf (path : String) (item : Json) : List Operation :=
  OperationKey.all.filterMap fun key =>
    (item.get? key.text).map fun value => { path, key, value, item }

def Document.operations (doc : Document) : List Operation :=
  (doc.paths?.getD []).flatMap fun (path, item) => operationsOf path item

end ApiAtlas
