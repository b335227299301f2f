import ApiAtlas.Document.Basic
import ApiAtlas.Json.Parser

/-! # Loading documents

The documents of a tree are the files below a directory whose extension is `json`, in the order of their
paths. A root that is a file is the only document, whatever its name.
-/

namespace ApiAtlas

def FileTree.readText (tree : FileTree) (path : String) : Except LoadError String :=
  match tree.read path with
  | .error error => .error ⟨path, .unreadable error⟩
  | .ok content =>
    match String.fromUTF8? content with
    | none => .error ⟨path, .notUtf8⟩
    | some text => .ok text

namespace Document

def isDocumentPath (path : String) : Bool := Path.extension? path == some "json"

/-- What a finding of a walk means for discovery: a document, an error to report, or nothing. An entry
that cannot be visited is reported if it may be a document or hold documents. -/
def ofFinding? (tree : FileTree) (finding : Finding) : Option (Except LoadError String) :=
  match finding.fault with
  | none => if isDocumentPath finding.path then some (.ok finding.path) else none
  | some fault =>
    if isDocumentPath finding.path || tree.isDirectory finding.path || fault.isLoop then
      some (.error ⟨finding.path, .unvisited finding.path fault⟩)
    else none

/-- The error of the whole that a finding of a walk is: a fault at the root, or one that names no path. -/
def rootError? (root : String) (finding : Finding) : Option LoadError :=
  finding.fault.bind fun fault =>
    if !fault.namesPath || Path.same finding.path root then some ⟨root, .unvisited root fault⟩ else none

/-- The path that a discovered entry is about. -/
def pathOf : Except LoadError String → String
  | .ok path => path
  | .error error => error.path

/-- What discovery makes of the findings of a walk: the first error of the whole, or the entries in the order of
their paths as seen from the root. -/
def gather (tree : FileTree) (root : String) (found : List Finding) :
    Except LoadError (List (Except LoadError String)) :=
  match found.findSome? (rootError? root) with
  | some error => .error error
  | none =>
    let key (entry : Except LoadError String) : String := Path.relativeTo root (pathOf entry)
    .ok ((found.filterMap (ofFinding? tree)).mergeSort fun a b => Path.le (key a) (key b))

/-- The entries below a root. It is an error of the whole that the root does not exist or cannot be walked. -/
def entries (tree : FileTree) (root : String) :
    Except LoadError (List (Except LoadError String)) :=
  if tree.isFile root then .ok [.ok root]
  else if !tree.isDirectory root then .error ⟨root, .rootMissing⟩
  else gather tree root (tree.walk root)

/-- The paths of the documents below a root; the first entry that cannot be visited is an error. -/
def discover (tree : FileTree) (root : String) : Except LoadError (List String) := do
  (← entries tree root).mapM id

def load (tree : FileTree) (root path : String) : Except LoadError Document := do
  let text ← tree.readText path
  match Json.parse? text with
  | none => .error ⟨path, .malformedJson⟩
  | some value => ofValue path (Path.relativeTo root path) value

/-- Loads every document below a root; the first one that cannot be loaded ends it. -/
def loadAll (tree : FileTree) (root : String) : Except LoadError (List Document) := do
  (← discover tree root).mapM (load tree root)

/-- Loads every document below a root, and keeps the errors where they occur. -/
def loadEach (tree : FileTree) (root : String) :
    Except LoadError (List (Except LoadError Document)) :=
  (entries tree root).map fun found => found.map fun entry => entry.bind (load tree root)

end Document

end ApiAtlas
