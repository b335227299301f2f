import ApiAtlas.Validation.References
import ApiAtlas.Validation.Validator

/-! # The structural validator

The check that every document has to pass: a supported version, well-shaped paths, references that
lead somewhere, named parameters, bodies and components whose schemas resolve, and titles for the
components that are referred to.
-/

namespace ApiAtlas

namespace Structure

def validatorName : String := "DefaultValidator"

/-- The version has to be a string that starts with 3. -/
def checkVersion (doc : Document) : Except Violation Unit :=
  match doc.version? with
  | none => violated "UnsupportedVersion" "document has no 'openapi' version string"
  | some version =>
    if Text.startsWith "3" version then .ok ()
    else violated "UnsupportedVersion"
      ("OpenAPI version '" ++ version ++ "' is not supported, expected 3.x") (some "openapi")

/-- The operations of a path item have to be objects. -/
def checkOperations (path : String) (item : Json) : List OperationKey → Except Violation Unit
  | [] => .ok ()
  | key :: rest =>
    match item.get? key.text with
    | none => checkOperations path item rest
    | some operation =>
      if operation.isObject then checkOperations path item rest
      else violated "InvalidOperation" ("operation '" ++ key.text ++ "' must be an object")
        (some path)

/-- Path items have to be objects. -/
def checkPathItems : List (String × Json) → Except Violation Unit
  | [] => .ok ()
  | (path, item) :: rest => do
    if !item.isObject then
      violated "InvalidPaths" "path item must be an object" (some path)
    else
      checkOperations path item OperationKey.all
      checkPathItems rest

/-- The paths have to be an object of path items, if there are any. -/
def checkPaths (doc : Document) : Except Violation Unit :=
  match doc.root.get? "paths" with
  | none => .ok ()
  | some (.object items) => checkPathItems items
  | some _ => violated "InvalidPaths" "'paths' must be an object" (some "paths")

/-- A parameter has to have a name that is not empty, and a place. -/
def checkParameter (doc : Document) (location : String) (value : Json) : Except Violation Unit :=
  let parameter := (Operation.dereference? doc value).getD value
  if (parameter.textAt? "name").getD "" == "" then
    violated "MissingParameter" "parameter has no 'name'" (some location)
  else if (parameter.textAt? "in").isNone then
    violated "MissingParameter" "parameter has no 'in' location" (some location)
  else .ok ()

/-- Parameters have to be a list, if there are any. -/
def checkParameterList (doc : Document) (location : String) (source : Json) :
    Except Violation Unit :=
  match source.get? "parameters" with
  | none => .ok ()
  | some (.array parameters) => parameters.forM (checkParameter doc location)
  | some _ => violated "MissingParameter" "'parameters' must be an array" (some location)

/-- Checks the parameters of an operation, those of its path item first. -/
def checkParameters (doc : Document) (op : Operation) : Except Violation Unit := do
  checkParameterList doc op.location op.item
  checkParameterList doc op.location op.value

/-- A check that resolves schemas and remembers the components that it resolved. -/
abbrev Checking (α : Type) := StateT Schema.Memo (Except Violation) α

/-- A resolving step, whose error becomes a violation at a location. -/
def resolving {α : Type} (location : String) (step : Schema.Resolution α) : Checking α := do
  let (result, memo) := step.run.run (← get)
  set memo
  match result with
  | .ok value => return value
  | .error error => throw (.ofSchema location error)

/-- What is wrong with the title of a component. Only one that is referred to needs a title, but a
title has to be a string that is not blank. -/
def titleViolation? (name : String) (title : Option Json) (referenced : Bool) : Option Violation :=
  match title with
  | none =>
    if referenced then
      some {
        kind := "MissingSchemaTitle"
        message := "schema '" ++ name ++ "' is referenced but has no title" }
    else none
  | some title =>
    if title.text?.any fun text => !Text.isBlank text then none
    else
      some {
        kind := "MissingSchemaTitle"
        message := "schema '" ++ name ++ "' has an empty or non-string title" }

/-- The component that a schema refers to has to have a title. -/
def checkTitle (doc : Document) (schema : Json) (location : String) : Except Violation Unit :=
  match (schema.textAt? "$ref").bind Schema.componentName? with
  | none => .ok ()
  | some name =>
    let title := (Table.get? name doc.schemas).bind (·.get? "title")
    match titleViolation? name title true with
    | some violation => .error (violation.at' location)
    | none => .ok ()

/-- The schema of a media type has to resolve. -/
def checkMedia (doc : Document) (location : String) (media : Json) : Checking Unit :=
  match media.get? "schema" with
  | none => return ()
  | some schema => do
    let _ ← resolving location (Schema.resolve doc.schemas schema)
    checkTitle doc schema location

/-- A request body or response has to be an object whose content is an object. -/
def checkBody (doc : Document) (location : String) (value : Json) : Checking Unit := do
  let body ← match value.textAt? "$ref" with
    | none => pure value
    | some reference =>
      match doc.resolveLocal? reference with
      | some target => pure target
      | none => throw (.ofSchema location (.unresolved reference))
  if !body.isObject then
    throw { kind := "InvalidBody", message := "must be an object", location := some location }
  match body.get? "content" with
  | none => return ()
  | some (.object content) => content.forM fun entry => checkMedia doc location entry.2
  | some _ =>
    throw {
      kind := "InvalidBody"
      message := "'content' must be an object"
      location := some location }

def checkRequest (doc : Document) (op : Operation) : Checking Unit :=
  match op.value.get? "requestBody" with
  | none => return ()
  | some body => checkBody doc (op.location ++ " (requestBody)") body

/-- Checks the responses of an operation, which have to be an object. -/
def checkResponses (doc : Document) (op : Operation) : Checking Unit :=
  match op.value.get? "responses" with
  | none => return ()
  | some (.object responses) => responses.forM fun (code, response) =>
      checkBody doc (op.location ++ " (response " ++ code ++ ")") response
  | some _ =>
    throw {
      kind := "InvalidResponses"
      message := "'responses' must be an object"
      location := some op.location }

def checkOperation (doc : Document) (op : Operation) : Checking Unit := do
  checkParameters doc op
  checkRequest doc op
  checkResponses doc op

/-- A component has to resolve, and to have a title if it is referred to. -/
def checkComponent (doc : Document) (referenced : SortedSet String) (entry : String × Json) :
    Checking Unit := do
  let location := "#/components/schemas/" ++ entry.1
  let _ ← resolving location (Schema.resolveComponent doc.schemas entry.1)
  match titleViolation? entry.1 (entry.2.get? "title") (referenced.contains entry.1) with
  | some violation => throw (violation.at' location)
  | none => return ()

/-- Checks the operations, then the components. -/
def checkSchemas (doc : Document) (referenced : SortedSet String) : Checking Unit := do
  doc.operations.forM (checkOperation doc)
  doc.schemas.forM (checkComponent doc referenced)

/-- Checks a document; the first violation in the order of the checks counts. -/
def check (doc : Document) : Except Violation Unit := do
  checkVersion doc
  checkPaths doc
  let referenced ← References.check doc
  (checkSchemas doc referenced).run' []

def validator : Validator where
  name := validatorName
  validate := check

end Structure

end ApiAtlas
