import ApiAtlas.Json.Printer
import ApiAtlas.Text.Basic

/-! # Schema errors

Why a schema cannot be resolved, or why no payload check can be built for its model.
-/

namespace ApiAtlas

namespace Schema

/-- The greatest number of schemas inside one another, references included. -/
def greatestNesting : Nat := 128

inductive CompositionFault where
  | noBranches
  | notAList
  /-- The branch at this position, counted among those with a type, is not an object schema. -/
  | branchNotObject (index : Nat)
deriving DecidableEq, Repr

def CompositionFault.message : CompositionFault → String
  | .noBranches => "no branches"
  | .notAList => "must be an array of schemas"
  | .branchNotObject index => "branch " ++ toString index ++ " is not an object schema"

/-- Why a schema is rejected as malformed or unsupported. -/
inductive Malformation where
  | tooDeep
  | notAnObject (found : Json)
  | referenceNotText
  | typeNotText (found : Json)
  | typeEntryNotText (found : Json)
  | unknownType (name : String)
  | propertiesNotObject
  | itemsList
  /-- No payload check can be built for the model. -/
  | unusable (model problem : String)
deriving Repr

def Malformation.message : Malformation → String
  | .tooDeep => "schema nesting exceeds " ++ toString greatestNesting ++ " levels"
  | .notAnObject found => "expected a schema object, found " ++ found.compact
  | .referenceNotText => "'$ref' must be a string"
  | .typeNotText found => "'type' must be a string or an array, found " ++ found.compact
  | .typeEntryNotText found => "'type' entries must be strings, found " ++ found.compact
  | .unknownType name => "unknown type '" ++ name ++ "'"
  | .propertiesNotObject => "'properties' must be an object"
  | .itemsList => "tuple-style 'items' arrays are not supported"
  | .unusable model problem => "model " ++ model ++ ": " ++ problem

inductive Error where
  /-- A reference that leads nowhere, or out of the document. -/
  | unresolved (reference : String)
  /-- The component names from a component back to itself. -/
  | circular (chain : List String)
  | composition (keyword : String) (fault : CompositionFault)
  | malformed (reason : Malformation)
deriving Repr

namespace Error

def kind : Error → String
  | .unresolved _ => "UnresolvedReference"
  | .circular _ => "CircularReference"
  | .composition _ _ => "InvalidComposition"
  | .malformed _ => "InvalidSchema"

def message : Error → String
  | .unresolved reference => "unresolved schema reference '" ++ reference ++ "'"
  | .circular chain => "circular schema reference: " ++ Text.join " -> " chain
  | .composition keyword fault => "invalid '" ++ keyword ++ "' composition: " ++ fault.message
  | .malformed reason => "invalid schema: " ++ reason.message

end Error

end Schema

end ApiAtlas
