import ApiAtlas.Files.Path

/-! # File trees

Documents, rules and settings are read from a tree of files. The tree is a value: a list of entries,
each with the names that lead to it from the root. Reading follows links, at most forty of them for one
path. A file may be closed to readers, and so may the list of what is in a directory; a path still leads
to such a file, and on through such a directory.
-/

namespace ApiAtlas

inductive FileError where
  | notFound
  | notDirectory
  | isDirectory
  | linkCycle
  | denied
deriving DecidableEq, Repr

/-- The text of an error, with the number of the error. -/
def FileError.message : FileError → String
  | .notFound => "No such file or directory (os error 2)"
  | .notDirectory => "Not a directory (os error 20)"
  | .isDirectory => "Is a directory (os error 21)"
  | .linkCycle => "Too many levels of symbolic links (os error 40)"
  | .denied => "Permission denied (os error 13)"

inductive FileEntry where
  | file (content : ByteArray) (readable : Bool := true)
  | directory (readable : Bool := true)
  /-- A link to a path, which is read from the directory of the link. -/
  | link (target : String)

def FileEntry.isFile : FileEntry → Bool
  | .file _ _ => true
  | .directory _ => false
  | .link _ => false

def FileEntry.isDirectory : FileEntry → Bool
  | .file _ _ => false
  | .directory _ => true
  | .link _ => false

def FileEntry.isLink : FileEntry → Bool
  | .file _ _ => false
  | .directory _ => false
  | .link _ => true

/-- A tree of files, and the directory in which paths start. -/
structure FileTree where
  /-- The entries, each under the names that lead to it. The root has no entry. -/
  entries : List (List String × FileEntry) := []
  /-- The names that lead to the directory in which paths start. -/
  home : List String := []

namespace FileTree

/-- The entry under a list of names; the root is a directory that anyone may list. -/
def entry? (tree : FileTree) : List String → Option FileEntry
  | [] => some .directory
  | names => (tree.entries.find? (·.1 == names)).map (·.2)

/-- The names of the entries directly in a directory. -/
def namesIn (tree : FileTree) (directory : List String) : List String :=
  tree.entries.filterMap fun entry =>
    match entry.1.reverse with
    | [] => none
    | name :: above => if above.reverse = directory then some name else none

def linkLimit : Nat := 40

/-- Follows pieces of a path from `here`, through links, to the names of an entry that is no link. -/
def follow (tree : FileTree) (links : Nat) (here pending : List String) :
    Except FileError (List String) :=
  match pending with
  | [] => .ok here
  | piece :: rest =>
    if !(tree.entry? here).any (·.isDirectory) then .error .notDirectory
    else if Path.isIdle piece then follow tree links here rest
    else if piece = ".." then follow tree links here.dropLast rest
    else
      match tree.entry? (here ++ [piece]) with
      | none => .error .notFound
      | some (.link target) =>
        match links with
        | 0 => .error .linkCycle
        | left + 1 =>
          follow tree left (if Path.isAbsolute target then [] else here) (Path.pieces target ++ rest)
      | some _ => follow tree links (here ++ [piece]) rest
termination_by (links, pending.length)

/-- The names of the entry that a path leads to. -/
def locate (tree : FileTree) (path : String) : Except FileError (List String) :=
  if path = "" then .error .notFound
  else follow tree linkLimit (if Path.isAbsolute path then [] else tree.home) (Path.pieces path)

def isFile (tree : FileTree) (path : String) : Bool :=
  match tree.locate path with
  | .ok names => (tree.entry? names).any (·.isFile)
  | .error _ => false

def isDirectory (tree : FileTree) (path : String) : Bool :=
  match tree.locate path with
  | .ok names => (tree.entry? names).any (·.isDirectory)
  | .error _ => false

/-- Whether the last piece of a path names a link. -/
def isLink (tree : FileTree) (path : String) : Bool :=
  match (Path.pieces path).reverse with
  | [] => false
  | name :: above =>
    match tree.follow linkLimit (if Path.isAbsolute path then [] else tree.home) above.reverse with
    | .ok directory => !Path.isIdle name && (tree.entry? (directory ++ [name])).any (·.isLink)
    | .error _ => false

def read (tree : FileTree) (path : String) : Except FileError ByteArray :=
  match tree.locate path with
  | .error error => .error error
  | .ok names =>
    match tree.entry? names with
    | some (.file content readable) => if readable then .ok content else .error .denied
    | some (.directory readable) => .error (if readable then .isDirectory else .denied)
    | some (.link _) | none => .error .notFound

/-! ## Changing a tree -/

/-- Stores an entry under its names, in place of an earlier one. -/
def put (tree : FileTree) (names : List String) (entry : FileEntry) : FileTree :=
  if tree.entries.any (·.1 == names) then
    { tree with entries := tree.entries.map fun old => if old.1 == names then (names, entry) else old }
  else { tree with entries := tree.entries ++ [(names, entry)] }

/-- Makes the directories along a list of names, where nothing is yet. -/
def makeDirectories (tree : FileTree) (names : List String) : FileTree :=
  (List.range (names.length + 1)).foldl
    (fun tree count =>
      let above := names.take count
      if (tree.entry? above).isSome then tree else tree.put above .directory)
    tree

/-- The names under which an entry is stored, from the pieces of its path. Links above the entry are
followed, and the entry itself may be a link that is to be replaced. -/
def namesFrom (tree : FileTree) (here : List String) : List String → List String
  | [] => here
  | ".." :: rest => namesFrom tree here.dropLast rest
  | [name] => here ++ [name]
  | piece :: rest =>
    match tree.follow linkLimit here [piece] with
    | .ok names => namesFrom tree names rest
    | .error _ => namesFrom tree (here ++ [piece]) rest

/-- The names under which an entry at a path is stored. -/
def namesOf (tree : FileTree) (path : String) : List String :=
  namesFrom tree (if Path.isAbsolute path then [] else tree.home)
    ((Path.pieces path).filter fun piece => !Path.isIdle piece)

/-- Stores an entry at a path and makes the directories above it. -/
def place (tree : FileTree) (path : String) (entry : FileEntry) : FileTree :=
  let names := tree.namesOf path
  (tree.makeDirectories names.dropLast).put names entry

/-- The tree without the entry at a path. -/
def remove (tree : FileTree) (path : String) : FileTree :=
  { tree with entries := tree.entries.filter (·.1 != tree.namesOf path) }

end FileTree

end ApiAtlas
