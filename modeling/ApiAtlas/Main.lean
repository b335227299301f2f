import ApiAtlas.CommandLine.Run

/-! # The program

Takes over the files that a command names into a tree, runs the command on it and prints what it wrote.
-/

namespace ApiAtlas

namespace Main

/-- A name that no file has. -/
def absentName : String := "\x00"

/-- The place of a directory once links are followed, and the names of what is in it. -/
def list (path : String) : IO (String × List String) := do
  let place ← IO.FS.realPath path
  return (toString place, (← place.readDir).toList.map (·.fileName))

/-- Adds what is at a path to a tree, with all that is below it. A directory that is entered again below
itself becomes a link back to it; `above` lists the directories entered, the innermost first. -/
partial def capture (above : List String) (path : String) (tree : FileTree) : IO FileTree := do
  match ← (list path).toBaseIO with
  | .ok (place, names) =>
    match above.idxOf? place with
    | some steps =>
      return tree.place path (.link (Text.join "/" ("." :: List.replicate steps "..")))
    | none =>
      let mut tree := tree.place path .directory
      for name in names do
        tree ← capture (place :: above) (Path.join path name) tree
      return tree
  | .error _ =>
    match ← (IO.FS.readBinFile path).toBaseIO, ← (IO.FS.realPath path).toBaseIO with
    | .ok content, _ => return tree.place path (.file content)
    | .error _, .ok place =>
      return tree.place path (if ← place.isDir then .directory false else .file .empty false)
    | .error _, .error _ => return tree.place path (.link absentName)

def captureAbove (path : String) (tree : FileTree) : IO FileTree := do
  let pieces := Path.pieces path
  let mut tree := tree
  for count in List.range pieces.length do
    let above := Text.join "/" (pieces.take count)
    if above != "" then
      match ← (list above).toBaseIO with
      | .ok _ => tree := tree.place above .directory
      | .error _ => pure ()
  return tree

def treeFor (common : CommandLine.Common) : IO FileTree := do
  let mut tree : FileTree := {}
  for path in common.path :: common.rules.toList do
    tree ← capture [] path (← captureAbove path tree)
  return tree

def environment : IO Environment := do
  let names := ["SPECROUTER_SPECS_PATH", "SPECROUTER_RULES"]
  let values ← names.mapM fun name => do return (← IO.getEnv name).map (name, ·)
  return values.filterMap id

def usage : String :=
  "Usage: specrouter validate|routes --path <PATH> [--validator <NAME>]... [--rules <FILE>]"

end Main

end ApiAtlas

open ApiAtlas in
def main (arguments : List String) : IO UInt32 := do
  match CommandLine.parse (← Main.environment) arguments with
  | .error ending =>
    if ending = .shown then IO.println Main.usage else IO.eprintln Main.usage
    return ending.exitCode.toUInt32
  | .ok invocation =>
    let common := match invocation with
      | .validate common => common
      | .routes common _ _ => common
    let result := CommandLine.run (← Main.treeFor common) invocation
    IO.print result.text
    return result.exitCode.toUInt32
