import ApiAtlas.Files.Path
import ApiAtlas.Table
import ApiAtlas.Violation

/-! # Reports

What each stage said about each document of a tree.
-/

namespace ApiAtlas

inductive Outcome where
  | passed
  | failed (violation : Violation)
  | skipped
deriving Repr, Inhabited

def Outcome.isFailed : Outcome → Bool
  | .failed _ => true
  | _ => false

/-- The outcomes of the stages for one document, in order. -/
structure DocumentReport where
  path : String
  outcomes : List (String × Outcome)
deriving Repr, Inhabited

namespace DocumentReport

/-- Whether no stage found a violation. -/
def passed (report : DocumentReport) : Bool := !report.outcomes.any (·.2.isFailed)

def append (report : DocumentReport) (outcomes : List (String × Outcome)) : DocumentReport :=
  { report with outcomes := report.outcomes ++ outcomes }

def outcomeOf? (report : DocumentReport) (stage : String) : Option Outcome :=
  Table.get? stage report.outcomes

def failures (report : DocumentReport) : List (String × Violation) :=
  report.outcomes.filterMap fun (stage, outcome) =>
    match outcome with
    | .failed violation => some (stage, violation)
    | _ => none

end DocumentReport

structure TreeReport where
  documents : List DocumentReport
deriving Repr, Inhabited

namespace TreeReport

def passed (report : TreeReport) : Bool := report.documents.all (·.passed)

def passedCount (report : TreeReport) : Nat := (report.documents.filter (·.passed)).length

/-- The number of documents that did not pass. -/
def failedCount (report : TreeReport) : Nat := report.documents.length - report.passedCount

def summary (report : TreeReport) : String :=
  "Total: " ++ toString report.documents.length ++ ", Passed: " ++ toString report.passedCount
    ++ ", Failed: " ++ toString report.failedCount

def exitCode (report : TreeReport) : Nat := if report.failedCount = 0 then 0 else 1

/-- The first report whose path is the given one or ends in it. -/
def document? (report : TreeReport) (path : String) : Option DocumentReport :=
  report.documents.find? fun doc => Path.same doc.path path || Path.endsWith doc.path path

end TreeReport

end ApiAtlas
