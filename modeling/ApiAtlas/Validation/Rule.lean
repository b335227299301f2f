import ApiAtlas.Validation.Validator

/-! # Rules

A rule is a validator given by data: bounds on the number of paths, methods that may or must occur,
keys that must not, and what every operation has to declare. Methods and header names are compared
ignoring ASCII letter case.
-/

namespace ApiAtlas

structure Rule where
  name : String
  minPaths : Option Nat := none
  maxPaths : Option Nat := none
  exactPaths : Option Nat := none
  allowedMethods : Option (List String) := none
  requiredMethods : List String := []
  forbiddenKeys : List String := []
  requiredHeaders : List String := []
  requireOperationId : Bool := false
deriving DecidableEq, Repr, Inhabited

namespace Rule

/-- No forbidden key may stand at top level. -/
def checkKeys (rule : Rule) (doc : Document) : Except Violation Unit :=
  match rule.forbiddenKeys.find? fun key => (doc.root.get? key).isSome with
  | some key => violated "ForbiddenKey" ("top-level '" ++ key ++ "' section is not allowed")
  | none => .ok ()

/-- The number of paths has to obey every bound. -/
def checkPathCount (rule : Rule) (count : Nat) : Except Violation Unit :=
  let found (words : String) (bound : Nat) : String :=
    "expected " ++ words ++ " " ++ toString bound ++ " path(s), found " ++ toString count
  if let some bound := rule.exactPaths.filter (count ≠ ·) then
    violated "PathCountMismatch" (found "exactly" bound)
  else if let some bound := rule.minPaths.filter (count < ·) then
    violated "TooFewPaths" (found "at least" bound)
  else if let some bound := rule.maxPaths.filter (· < count) then
    violated "TooManyPaths" (found "at most" bound)
  else .ok ()

/-- If methods are listed as allowed, no operation may have another one. -/
def checkAllowed (rule : Rule) (operations : List Operation) : Except Violation Unit :=
  match rule.allowedMethods with
  | none => .ok ()
  | some allowed =>
    match operations.find? fun op => !allowed.any (Text.sameIgnoringAsciiCase op.method) with
    | some op =>
      violated "MethodNotAllowed" ("method " ++ op.method ++ " is not allowed") (some op.location)
    | none => .ok ()

/-- Every required method has to occur. -/
def checkRequired (rule : Rule) (operations : List Operation) : Except Violation Unit :=
  match rule.requiredMethods.find? fun name =>
      !operations.any fun op => Text.sameIgnoringAsciiCase op.method name with
  | none => .ok ()
  | some name =>
    if (OperationKey.ofText? (Text.asciiLower name)).isSome then
      violated "MethodMissing" ("no " ++ Text.asciiUpper name ++ " operation is defined")
    else
      violated "MethodMissing" ("'" ++ name ++ "' is not an HTTP method this tool understands")

/-- The names of the header parameters of an operation, in small letters. -/
def headerNames (doc : Document) (op : Operation) : List String :=
  ((op.parameters doc).filter (·.place == .header)).map fun p => Text.asciiLower p.name

/-- An operation has to have an id, if demanded, and every required header. -/
def checkOperation (rule : Rule) (doc : Document) (op : Operation) : Except Violation Unit :=
  if rule.requireOperationId && op.operationId?.isNone then
    violated "MissingOperationId" "operation has no operationId" (some op.location)
  else
    let names := headerNames doc op
    match rule.requiredHeaders.find? fun header => !names.contains (Text.asciiLower header) with
    | some header =>
      violated "HeaderMissing" ("header parameter '" ++ header ++ "' is required") (some op.location)
    | none => .ok ()

/-- Checks a document; the first violation in the order of the checks counts. -/
def check (rule : Rule) (doc : Document) : Except Violation Unit := do
  rule.checkKeys doc
  rule.checkPathCount (doc.paths?.getD []).length
  let operations := doc.operations
  rule.checkAllowed operations
  rule.checkRequired operations
  operations.forM (rule.checkOperation doc)

def validator (rule : Rule) : Validator where
  name := rule.name
  validate := rule.check

end Rule

end ApiAtlas
