import ApiAtlas.Schema.Resolution
import ApiAtlas.Validation.Validator

/-! # The data product validator

A data product has one endpoint with nothing but a POST operation. Its bodies name component schemas,
it defines no servers and no security, and it takes two headers.
-/

namespace ApiAtlas

namespace DataProduct

def validatorName : String := "DataProductStandards"

/-- Whether a value is an object with fields. -/
def hasFields (value : Json) : Bool :=
  match value with
  | .object (_ :: _) => true
  | _ => false

def hasContent (body : Json) : Bool := (body.get? "content").any hasFields

/-- The only path and its item. -/
def onlyPath (doc : Document) : Except Violation (String × Json) :=
  match doc.paths?.getD [] with
  | [] => violated "NoEndpointsDefined" "no paths are defined"
  | [entry] => .ok entry
  | paths =>
    violated "OnlyOneEndpointAllowed"
      (toString paths.length ++ " paths defined, a data product has exactly one")

/-- The only operation of the path item, which is a POST. -/
def onlyPost (path : String) (item : Json) : Except Violation Json :=
  match item.get? "post" with
  | none => violated "PostMethodIsMissing" "no POST operation" (some path)
  | some post =>
    if (Table.keys (item.fields?.getD [])).any (· != "post") then
      violated "OnlyPostMethodAllowed" "only the POST method may be defined" (some path)
    else .ok post

/-- The component schemas, at least one. -/
def someSchemas (doc : Document) : Except Violation (Table Json) :=
  match doc.schemas with
  | [] => violated "SchemaMissing" "no \"components/schemas\" section defined"
  | schemas => .ok schemas

/-- The JSON content of a body has to name a component schema. -/
def checkBody (schemas : Table Json) (body : Json) : Except Violation Unit :=
  match (body.get? "content").bind (·.get? "application/json") with
  | none => violated "WrongContentType" "model description must be in application/json format"
  | some media =>
  match (media.get? "schema").bind (·.textAt? "$ref") with
  | none =>
    violated "SchemaMissing" "request or response model is missing from \"schema/$ref\" section"
  | some reference =>
  match Text.afterStart? Schema.componentPrefix reference with
  | none =>
    violated "SchemaMissing"
      "request and response models must be defined in the \"#/components/schemas/\" section"
  | some name =>
    if Table.has name schemas then .ok ()
    else violated "SchemaMissing" ("component schema is missing for " ++ name)

/-- The names of the header parameters, in small letters. -/
def headerNames (post : Json) : List String :=
  ((post.itemsAt? "parameters").getD []).filterMap fun parameter =>
    if parameter.textAt? "in" == some "header" then
      (parameter.textAt? "name").map Text.asciiLower
    else none

/-- Both headers have to be among the parameters. -/
def checkHeaders (post : Json) : Except Violation Unit :=
  let names := headerNames post
  if !names.contains "authorization" then
    violated "AuthorizationHeaderMissing" "the 'authorization' header parameter is required"
  else if !names.contains "x-authorization-provider" then
    violated "AuthProviderHeaderMissing"
      "the 'x-authorization-provider' header parameter is required"
  else .ok ()

/-- Checks the bodies of the operation: a request body only if it has content, and the response for
200. -/
def checkBodies (schemas : Table Json) (post : Json) : Except Violation Unit := do
  match post.get? "requestBody" with
  | some body => if hasContent body then checkBody schemas body
  | none => pure ()
  match (post.get? "responses").bind (·.get? "200") with
  | some response =>
    if hasContent response then checkBody schemas response
    else violated "ResponseBodyMissing" "no 200 response body defined"
  | none => violated "ResponseBodyMissing" "no 200 response body defined"

/-- Checks a document; the first violation in the order of the checks counts. -/
def check (doc : Document) : Except Violation Unit := do
  if (doc.root.get? "servers").isSome then
    violated "ServersShouldNotBeDefined" "\"servers\" section found"
  let (path, item) ← onlyPath doc
  let post ← onlyPost path item
  let schemas ← someSchemas doc
  if (post.get? "security").isSome then
    violated "SecurityShouldNotBeDefined" "\"security\" section found"
  checkBodies schemas post
  checkHeaders post

def validator : Validator where
  name := validatorName
  validate := check

end DataProduct

end ApiAtlas
