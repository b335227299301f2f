import ApiAtlas.Files.Walk

/-! # Load errors

Why a file does not become a document, a set of rules or a configuration.
-/

namespace ApiAtlas

inductive LoadFault where
  | rootMissing
  | unreadable (error : FileError)
  | notUtf8
  | malformedJson
  | rootNotObject
  | invalidRules
  | invalidSettings
  /-- A walk over the files cannot visit the entry at this path, or one that it does not name below it. -/
  | unvisited (path : String) (fault : WalkFault)
deriving DecidableEq, Repr

def LoadFault.message : LoadFault → String
  | .rootMissing => "spec root does not exist"
  | .unreadable error => error.message
  | .notUtf8 => "stream did not contain valid UTF-8"
  | .malformedJson => "malformed JSON"
  | .rootNotObject => "document root is not a JSON object"
  | .invalidRules => "invalid rules file"
  | .invalidSettings => "invalid router config"
  | .unvisited path (.unreadable error) =>
    "IO error for operation on " ++ path ++ ": " ++ error.message
  | .unvisited _ .unopened => FileError.denied.message
  | .unvisited path (.loop ancestor) =>
    "File system loop found: " ++ path ++ " points to an ancestor " ++ ancestor

/-- A file that cannot be used, and why. -/
structure LoadError where
  path : String
  fault : LoadFault
deriving DecidableEq, Repr

def LoadError.message (error : LoadError) : String :=
  "failed to load spec '" ++ error.path ++ "': " ++ error.fault.message

end ApiAtlas
