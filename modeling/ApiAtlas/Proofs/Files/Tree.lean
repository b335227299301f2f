import ApiAtlas.Document.Loading
import ApiAtlas.Proofs.Files.Locating

/-! # The directory in which paths start

What is found there by a path of one name, and by a walk. A path that leads to a file leads to a single document, and
documents that stand side by side in the directory are loaded in the order of their names.
-/

namespace ApiAtlas

theorem fromUTF8?_toUTF8 (text : String) : String.fromUTF8? text.toUTF8 = some text := by
  simp only [String.fromUTF8?, String.toUTF8_eq_toByteArray, Option.dite_none_right_eq_some, Option.some.injEq]
  exact ⟨text.isValidUTF8, rfl⟩

namespace FileTree

variable {tree : FileTree} {links : Nat} {name target path text : String} {names : List String} {content : ByteArray}
  {readable : Bool}

theorem follow_dot (rest : List String) : tree.follow links [] ("." :: rest) = tree.follow links [] rest := by
  have top : (tree.entry? []).any (·.isDirectory) = true := rfl
  have here : Path.isIdle "." = true := by decide
  rw [follow, top, here]
  rfl

theorem follow_name {entry : FileEntry} (named : Path.isIdle name = false) (below : name ≠ "..")
    (found : tree.entry? [name] = some entry) (plain : entry.isLink = false) :
    tree.follow links [] [name] = .ok [name] := by
  have top : (tree.entry? []).any (·.isDirectory) = true := rfl
  rw [follow, top]
  cases entry with
  | link target => cases plain
  | file content readable => simp [named, below, found, follow]
  | directory readable => simp [named, below, found, follow]

theorem follow_absent (named : Path.isIdle name = false) (below : name ≠ "..") (absent : tree.entry? [name] = none) :
    tree.follow links [] [name] = .error .notFound := by
  have top : (tree.entry? []).any (·.isDirectory) = true := rfl
  rw [follow, top]
  simp [named, below, absent]

theorem follow_link (named : Path.isIdle name = false) (below : name ≠ "..")
    (entry : tree.entry? [name] = some (.link target)) (relative : Path.isAbsolute target = false) :
    tree.follow (links + 1) [] [name] = tree.follow links [] (Path.pieces target) := by
  have top : (tree.entry? []).any (·.isDirectory) = true := rfl
  rw [follow, top]
  simp [named, below, entry, relative]

theorem locate_relative (home : tree.home = []) (written : path ≠ "") (relative : Path.isAbsolute path = false) :
    tree.locate path = tree.follow linkLimit [] (Path.pieces path) := by
  rw [locate, if_neg written, relative, home]
  rfl

theorem readText_of_locate (located : tree.locate path = .ok names)
    (entry : tree.entry? names = some (.file text.toUTF8)) : tree.readText path = .ok text := by
  have read : tree.read path = .ok text.toUTF8 := by simp [read, located, entry]
  simp only [readText, read, fromUTF8?_toUTF8]

theorem readText_file (home : tree.home = []) (written : path ≠ "") (relative : Path.isAbsolute path = false)
    (pieces : Path.pieces path = [".", name]) (named : Path.isIdle name = false) (below : name ≠ "..")
    (entry : tree.entry? [name] = some (.file text.toUTF8)) : tree.readText path = .ok text := by
  have located : tree.locate path = .ok [name] := by
    rw [locate_relative home written relative, pieces, follow_dot, follow_name named below entry rfl]
  exact readText_of_locate located entry

theorem locate_dot (home : tree.home = []) : tree.locate "." = .ok [] := by
  have pieces : Path.pieces "." = ["."] := by decide
  rw [locate_relative home (by decide) (by decide), pieces, follow_dot, follow]

theorem locate_join_dot (home : tree.home = []) (whole : '/' ∉ name.toList) :
    tree.locate (Path.join "." name) = tree.follow linkLimit [] [name] := by
  have joined : Path.join "." name = "." ++ "/" ++ name := if_neg (by decide)
  have written : Path.join "." name ≠ "" := Path.join_ne_empty (by decide)
  have relative : Path.isAbsolute (Path.join "." name) = false := Path.isAbsolute_join (by decide)
  have dot : Path.pieces "." = ["."] := by decide
  rw [locate_relative home written relative, joined, Path.pieces_append_slash, Path.pieces_eq_singleton whole, dot,
    List.singleton_append, follow_dot]

theorem isFile_dot (home : tree.home = []) : tree.isFile "." = false := by
  rw [isFile, locate_dot home]
  rfl

theorem isDirectory_dot (home : tree.home = []) : tree.isDirectory "." = true := by
  rw [isDirectory, locate_dot home]
  rfl

/-- A walk visits the names of the directory that it starts in, one after another. -/
theorem walk_dot (home : tree.home = []) : ∃ enter, tree.walk "." =
    (tree.namesIn []).flatMap fun name => tree.visit enter [([], ".")] ([], ".") name := by
  obtain ⟨room, deep⟩ : ∃ room, tree.depthLimit = room + 1 :=
    Nat.exists_eq_add_one_of_ne_zero (Nat.mul_ne_zero (Nat.succ_ne_zero _) (Nat.succ_ne_zero _))
  refine ⟨tree.findingsIn room, ?_⟩
  have listed : tree.entry? [] = some (.directory true) := rfl
  simp only [walk, locate_dot home, listed, deep]
  rfl

variable {enter : List Ancestor → Ancestor → List Finding} {ancestors : List Ancestor}

theorem visit_file (home : tree.home = []) (named : Path.IsName name)
    (entry : tree.entry? [name] = some (.file content readable)) :
    tree.visit enter ancestors ([], ".") name = [⟨Path.join "." name, none⟩] := by
  simp only [visit, locate_join_dot home named.whole, follow_name named.isIdle_eq named.notAbove entry rfl, entry]

theorem visit_error {error : FileError} (home : tree.home = []) (whole : '/' ∉ name.toList)
    (fails : tree.follow linkLimit [] [name] = .error error) :
    tree.visit enter ancestors ([], ".") name = [⟨Path.join "." name, some (.unreadable error)⟩] := by
  simp only [visit, locate_join_dot home whole, fails]

end FileTree

/-- A root that is a file is the only document. -/
theorem Document.loadAll_file {tree : FileTree} {name text : String} {doc : Document} (home : tree.home = [])
    (plain : name ≠ "" ∧ Path.isAbsolute name = false ∧ Path.pieces name = [name] ∧ Path.isIdle name = false ∧
      name ≠ ".." ∧ Path.relativeTo name name = name)
    (entry : tree.entry? [name] = some (.file text.toUTF8)) (parses : Json.parse? text = some doc.root)
    (holds : ofValue name name doc.root = .ok doc) : loadAll tree name = .ok [doc] := by
  obtain ⟨written, relative, pieces, named, below, seen⟩ := plain
  have located : tree.locate name = .ok [name] := by
    rw [FileTree.locate_relative home written relative, pieces, FileTree.follow_name named below entry rfl]
  have file : tree.isFile name = true := by
    simp only [FileTree.isFile, located, entry]
    rfl
  have read : tree.readText name = .ok text := FileTree.readText_of_locate located entry
  have loads : load tree name name = .ok doc := by
    rw [load, bind_eq_ok_iff]
    refine ⟨text, read, ?_⟩
    simp only [parses, seen, holds]
  have discovered : discover tree name = .ok [name] := by
    rw [discover, entries, if_pos file]
    rfl
  rw [loadAll, bind_eq_ok_iff]
  exact ⟨[name], discovered, mapM_eq_ok_iff.mpr (.cons loads .nil)⟩

/-! ## Texts side by side -/

/-- Texts under the names of files. -/
def FileTree.ofTexts (files : List (String × String)) : FileTree where
  entries := files.map fun file => ([file.1], .file file.2.toUTF8)

namespace Document

/-- How the text of a document is loaded. -/
def loadText (path relativePath text : String) : Except LoadError Document :=
  match Json.parse? text with
  | none => .error ⟨path, .malformedJson⟩
  | some value => ofValue path relativePath value

variable {files : List (String × String)} {name text : String}

theorem relativeTo_dot (named : Path.IsName name) : Path.relativeTo "." (Path.join "." name) = name := by
  have single : ∀ part ∈ [name], Path.IsName part := List.forall_mem_singleton.mpr named
  change Path.relativeTo "." (Path.under "." [name]) = Text.join "/" [name]
  exact Path.relativeTo_under single (List.cons_ne_nil _ _) (by decide)

theorem entry?_ofTexts (sorted : files.Pairwise fun a b => a.1 < b.1) (member : (name, text) ∈ files) :
    FileTree.entry? (FileTree.ofTexts files) [name] = some (.file text.toUTF8) := by
  have names : (files.map (·.1)).Nodup := List.pairwise_map.mpr (sorted.imp ne_of_lt)
  have distinct : ((FileTree.ofTexts files).entries.map (·.1)).Nodup := by
    have same : (FileTree.ofTexts files).entries.map (·.1) = (files.map (·.1)).map fun name => [name] := by
      simp [FileTree.ofTexts]
    rw [same]
    exact names.map fun _ _ same => (List.cons.inj same).1
  rw [FileTree.entry?_eq_some_iff distinct (List.cons_ne_nil _ _)]
  exact List.mem_map.mpr ⟨(name, text), member, rfl⟩

variable (named : ∀ file ∈ files, Path.IsName file.1) (sorted : files.Pairwise fun a b => a.1 < b.1)

include named sorted

theorem walk_ofTexts : (FileTree.ofTexts files).walk "." = files.map fun file => ⟨Path.join "." file.1, none⟩ := by
  have walks : ∃ enter, (FileTree.ofTexts files).walk "." = _ := FileTree.walk_dot rfl
  obtain ⟨enter, walked⟩ := walks
  have names : (FileTree.ofTexts files).namesIn [] = files.map (·.1) := by
    simp [FileTree.namesIn, FileTree.ofTexts, List.filterMap_map]
  have each : ∀ file ∈ files, (FileTree.ofTexts files).visit enter [([], ".")] ([], ".") file.1 =
      [⟨Path.join "." file.1, none⟩] :=
    fun file member => FileTree.visit_file rfl (named file member) (entry?_ofTexts sorted member)
  rw [walked, names, List.flatMap_map, List.flatMap_congr each]
  exact List.flatMap_pure_eq_map _ _

theorem entries_ofTexts (json : ∀ file ∈ files, isDocumentPath (Path.join "." file.1)) :
    entries (FileTree.ofTexts files) "." = .ok (files.map fun file => .ok (Path.join "." file.1)) := by
  have sound : (files.map fun file => (⟨Path.join "." file.1, none⟩ : Finding)).findSome? (rootError? ".") = none := by
    rw [List.findSome?_map]
    exact List.findSome?_eq_none_iff.mpr fun file _ => rfl
  have kept : (files.map fun file => (⟨Path.join "." file.1, none⟩ : Finding)).filterMap
      (ofFinding? (FileTree.ofTexts files)) = files.map fun file => .ok (Path.join "." file.1) := by
    rw [List.filterMap_map, ← List.filterMap_eq_map]
    exact List.filterMap_congr fun file member => by simp [ofFinding?, json file member]
  rw [entries, FileTree.isFile_dot rfl, FileTree.isDirectory_dot rfl, walk_ofTexts named sorted, gather]
  simp only [Bool.false_eq_true, if_false, Bool.not_true, sound, kept]
  rw [List.mergeSort_of_pairwise]
  refine List.pairwise_map.mpr (sorted.imp_of_mem fun {a b} here there less => ?_)
  have parts {file} (member : file ∈ files) : Path.parts file.1 = [file.1] :=
    Path.parts_join_names (List.forall_mem_singleton.mpr (named file member)) (List.cons_ne_nil _ _)
  simp only [pathOf, relativeTo_dot (named a here), relativeTo_dot (named b there), Path.le, parts here, parts there,
    Path.partsLe_iff]
  exact le_of_lt (List.cons_lt_cons_iff.mpr (.inl less))

theorem loadEach_ofTexts (json : ∀ file ∈ files, isDocumentPath (Path.join "." file.1)) :
    loadEach (FileTree.ofTexts files) "." =
      .ok (files.map fun file => loadText (Path.join "." file.1) file.1 file.2) := by
  rw [loadEach, entries_ofTexts named sorted json, Except.map, List.map_map]
  refine congrArg Except.ok (List.map_congr_left fun file member => ?_)
  have here := named file member
  have located : (FileTree.ofTexts files).locate (Path.join "." file.1) = .ok [file.1] := by
    rw [FileTree.locate_join_dot rfl here.whole,
      FileTree.follow_name here.isIdle_eq here.notAbove (entry?_ofTexts sorted member) rfl]
  have read := FileTree.readText_of_locate located (entry?_ofTexts sorted member)
  simp only [Function.comp, Except.bind, load, read, loadText, relativeTo_dot here]
  rfl

end Document

end ApiAtlas
