import ApiAtlas.Document.LoadError
import ApiAtlas.Json.Pointer
import ApiAtlas.Naming

/-! # Documents

An OpenAPI document is a JSON object with the path of its file. The views below read its parts; a
part of the wrong type counts as absent.
-/

namespace ApiAtlas

structure Document where
  /-- The path of the file. -/
  path : String
  /-- The path relative to the directory that was searched. -/
  relativePath : String
  /-- The fields of the root object. -/
  fields : Table Json
deriving Repr, Inhabited

namespace Document

/-- The document of a JSON value, which must be an object. -/
def ofValue (path relativePath : String) (value : Json) : Except LoadError Document :=
  match value with
  | .object fields => .ok { path, relativePath, fields }
  | _ => .error ⟨path, .rootNotObject⟩

def root (doc : Document) : Json := .object doc.fields

def version? (doc : Document) : Option String := doc.root.textAt? "openapi"

def title? (doc : Document) : Option String :=
  (doc.root.get? "info").bind fun info => info.textAt? "title"

def paths? (doc : Document) : Option (Table Json) := (doc.root.get? "paths").bind Json.fields?

def schemas? (doc : Document) : Option (Table Json) :=
  ((doc.root.get? "components").bind (·.get? "schemas")).bind Json.fields?

/-- The component schemas, none if there is no such section. -/
def schemas (doc : Document) : Table Json := doc.schemas?.getD []

/-- What a reference leads to: a number sign, then a pointer from the root. -/
def resolveLocal? (doc : Document) (reference : String) : Option Json :=
  (Text.afterStart? "#" reference).bind doc.root.pointer?

end Document

end ApiAtlas
