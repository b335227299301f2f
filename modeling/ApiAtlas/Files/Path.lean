import ApiAtlas.Text.Basic

/-! # Paths

A path is kept as it was written, because it is shown that way. What it means is its list of parts:
doubled slashes, a slash at the end and dots inside it name nothing.
-/

namespace ApiAtlas

namespace Path

/-- Whether a piece between slashes names nothing. -/
def isIdle (piece : String) : Bool := piece == "" || piece == "."

def isAbsolute (path : String) : Bool := Text.startsWith "/" path

def pieces (path : String) : List String := Text.split '/' path

/-- The parts of a path. The root is the part `/`, and a dot is a part only at the start. -/
def parts (path : String) : List String :=
  match pieces path with
  | [] => []
  | first :: rest =>
    let names := rest.filter fun piece => !isIdle piece
    if isAbsolute path then "/" :: names
    else if first == "" then names
    else first :: names

def same (a b : String) : Bool := parts a == parts b

/-- Whether the last parts of a path are those of another. -/
def endsWith (path ending : String) : Bool := (parts ending).isSuffixOf (parts path)

/-- Whether a part stands for a place rather than naming one. -/
def isRelation (part : String) : Bool := part == "/" || part == "." || part == ".."

/-- The last part, if it is a name. -/
def fileName? (path : String) : Option String :=
  (parts path).getLast?.filter fun part => !isRelation part

/-- What follows the last dot of a name, unless the name starts with that dot. -/
def extensionOf? (name : String) : Option String :=
  match Text.cutAt? '.' name.toList.reverse with
  | none => none
  | some (_, []) => none
  | some (ending, _ :: _) => some (String.ofList ending.reverse)

def extension? (path : String) : Option String := (fileName? path).bind extensionOf?

/-- A path below a directory, with one slash between the two. -/
def join (directory name : String) : String :=
  if directory.toList.getLast?.all (· == '/') then directory ++ name else directory ++ "/" ++ name

/-- The last `count` pieces that name something, with what stands between them. -/
def lastPieces (count : Nat) : List String → List String
  | [] => []
  | piece :: rest =>
    if !isIdle piece && (piece :: rest).countP (fun p => !isIdle p) ≤ count then piece :: rest
    else lastPieces count rest

/-- What is written after the parts of a directory that a path is below. -/
def below (directory path : String) : String :=
  let written := (pieces path).reverse.dropWhile isIdle |>.reverse
  match parts directory with
  | [] => path
  | _ :: _ =>
    Text.join "/" (lastPieces ((parts path).length - (parts directory).length) written)

/-- A path as seen from a directory; for a path that is not below it, the file name. -/
def relativeTo (directory path : String) : String :=
  if (parts directory).isPrefixOf (parts path) && parts directory != parts path then
    below directory path
  else (fileName? path).getD path

/-- The order of part lists: the first difference decides, and a list comes after its beginnings. -/
def partsLe : List String → List String → Bool
  | [], _ => true
  | _ :: _, [] => false
  | p :: ps, q :: qs => if p = q then partsLe ps qs else decide (p < q)

/-- The order of paths part by part, in which `a/b` comes before `a-b`. -/
def le (a b : String) : Bool := partsLe (parts a) (parts b)

end Path

end ApiAtlas
