import ApiAtlas.Document.Loading
import ApiAtlas.Model.Compile
import ApiAtlas.Validation.Chain

/-! # Conformance

Checks all documents of a tree and reports on each of them. A document goes through stages: it is loaded,
validated and compiled, and its routes are compared with those of the documents before it. After a stage
that fails, the later ones are skipped; other documents are not affected.
-/

namespace ApiAtlas

namespace Conformance

/-- The stage that loads a document. It is only reported if it fails. -/
def loaderStage : String := "SpecLoader"

def compilerStage : String := "ModelCompiler"

def routesStage : String := "RouteResolver"

/-- The routes declared so far, each with the document that declared it first. -/
abbrev Declared := List ((String × Method) × String)

def declaredIn? (declared : Declared) (op : Model.OperationSpec) : Option String :=
  (declared.find? (·.1 == (op.path, op.method))).map (·.2)

/-- Declares the route of an operation. A route that is declared already stays with its document, and
the first such clash counts. -/
def declareOne (source : String) (state : Option Violation × Declared) (op : Model.OperationSpec) :
    Option Violation × Declared :=
  match declaredIn? state.2 op with
  | none => (state.1, state.2 ++ [((op.path, op.method), source)])
  | some first =>
    let clash : Violation := {
      kind := "DuplicateRoute"
      message := "route already declared in '" ++ first ++ "'"
      location := some op.location }
    (state.1 <|> some clash, state.2)

/-- Declares the routes of operations in order. -/
def declare (source : String) (ops : List Model.OperationSpec) (declared : Declared) :
    Option Violation × Declared :=
  ops.foldl (declareOne source) (none, declared)

/-- What the comparison of routes says about a document. -/
def outcomeOfClash : Option Violation → Outcome
  | none => .passed
  | some clash => .failed clash

def violationOf : BuildError → Violation
  | .schema _ location error => .ofSchema location error
  | .validation _ _ violation => violation
  | error => { kind := error.kind, message := error.message }

def unloaded (chain : ValidatorChain) (error : LoadError) : DocumentReport :=
  { path := error.path
    outcomes :=
      [(loaderStage, .failed { kind := "LoadError", message := error.fault.message })]
        ++ (chain.names ++ [compilerStage, routesStage]).map fun name => (name, .skipped) }

def checkOne (chain : ValidatorChain) (declared : Declared) (loaded : Except LoadError Document) :
    DocumentReport × Declared :=
  match loaded with
  | .error error => (unloaded chain error, declared)
  | .ok doc =>
    let report := chain.check doc
    if !report.passed then
      (report.append [(compilerStage, .skipped), (routesStage, .skipped)], declared)
    else
      match Model.compileDocument doc with
      | .error error =>
        (report.append [(compilerStage, .failed (violationOf error)), (routesStage, .skipped)],
          declared)
      | .ok compiled =>
        let (clash, declared) := declare doc.path compiled.operations declared
        (report.append [(compilerStage, .passed), (routesStage, outcomeOfClash clash)], declared)

/-- Reports on documents in order. -/
def checkAll (chain : ValidatorChain) (declared : Declared) :
    List (Except LoadError Document) → List DocumentReport
  | [] => []
  | loaded :: rest =>
    let (report, declared) := checkOne chain declared loaded
    report :: checkAll chain declared rest

/-- Reports on the documents below a root. Only a root that cannot be walked is an error. -/
def run (tree : FileTree) (root : String) (chain : ValidatorChain) : Except LoadError TreeReport :=
  (Document.loadEach tree root).map fun loaded => { documents := checkAll chain [] loaded }

/-! ## The report as text -/

def ruler : String := String.ofList (List.replicate 60 '-')

def outcomeLine (stage : String) : Outcome → String
  | .passed => "   ✅ [PASSED] " ++ stage
  | .failed violation => "   ❌ [FAILED] " ++ stage ++ ": " ++ violation.text
  | .skipped => "   ⏭️  [SKIPPED] " ++ stage

def documentLines (report : DocumentReport) : List String :=
  [ruler, (if report.passed then "✅ " else "❌ ") ++ report.path]
    ++ report.outcomes.map fun (stage, outcome) => outcomeLine stage outcome

def render (report : TreeReport) : String :=
  let lines :=
    report.documents.flatMap documentLines ++ [ruler, "Summary: " ++ report.summary]
  String.join (lines.map (· ++ "\n"))

end Conformance

end ApiAtlas
