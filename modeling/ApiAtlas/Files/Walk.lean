import ApiAtlas.Files.Tree

/-! # Walking a tree

Visits the files below a directory and follows links. A link to a directory that is being visited is
not entered: it is an error of its own. A directory that is no link is always entered, even where a link
above it makes it a directory that is being visited. A directory that may not be listed is an error, too.
-/

namespace ApiAtlas

inductive WalkFault where
  | unreadable (error : FileError)
  /-- The entry is a link to a directory that may not be opened. It is opened to be compared with those being
  visited, and this error does not say at which path. -/
  | unopened
  /-- The entry is a link that leads back to a directory being visited. -/
  | loop (ancestor : String)
deriving DecidableEq, Repr

namespace WalkFault

/-- Whether the error says at which path it occurred. -/
def namesPath : WalkFault → Bool
  | .unreadable _ => true
  | .unopened => false
  | .loop _ => true

def isLoop : WalkFault → Bool
  | .unreadable _ => false
  | .unopened => false
  | .loop _ => true

/-- The fault of a directory that may not be listed. -/
def unlisted (isLink : Bool) : WalkFault := if isLink then .unopened else .unreadable .denied

end WalkFault

/-- What a walk finds at a path: a file, or an entry that it cannot visit. -/
structure Finding where
  path : String
  fault : Option WalkFault := none
deriving DecidableEq, Repr

namespace FileTree

/-- A directory being visited: the names that lead to it, and the path by which it was reached. -/
abbrev Ancestor := List String × String

/-- The findings at one entry; `enter` visits a directory. The entry is what its whole path leads to, and all links on
that path count. -/
def visit (tree : FileTree) (enter : List Ancestor → Ancestor → List Finding)
    (ancestors : List Ancestor) (directory : Ancestor) (name : String) : List Finding :=
  let path := Path.join directory.2 name
  let isLink := (tree.entry? (directory.1 ++ [name])).any (·.isLink)
  match tree.locate path with
  | .error error => [⟨path, some (.unreadable error)⟩]
  | .ok names =>
    match tree.entry? names with
    | some (.directory false) => [⟨path, some (.unlisted isLink)⟩]
    | some (.directory true) =>
      match ancestors.find? fun ancestor => isLink && ancestor.1 == names with
      | some ancestor => [⟨path, some (.loop ancestor.2)⟩]
      | none => enter ancestors (names, path)
    | _ => [⟨path, none⟩]

/-- The findings below a directory, at most `room` directories deep. -/
def findingsIn (tree : FileTree) : Nat → List Ancestor → Ancestor → List Finding
  | 0, _, _ => []
  | room + 1, above, directory =>
    let ancestors := directory :: above
    (tree.namesIn directory.1).flatMap fun name =>
      tree.visit (findingsIn tree room) ancestors directory name

/-- How deep a walk can get. No two links on the way lead to the same directory, and between two links
a path gets longer with each step. -/
def depthLimit (tree : FileTree) : Nat :=
  (tree.entries.length + 2) * ((tree.entries.map (·.1.length)).foldl max 0 + 2)

/-- The findings below a directory that a path leads to, or at the directory itself if it may not be listed. -/
def walk (tree : FileTree) (root : String) : List Finding :=
  match tree.locate root with
  | .error _ => []
  | .ok names =>
    match tree.entry? names with
    | some (.directory false) => [⟨root, some (.unlisted (tree.isLink root))⟩]
    | _ => tree.findingsIn tree.depthLimit [] (names, root)

end FileTree

end ApiAtlas
