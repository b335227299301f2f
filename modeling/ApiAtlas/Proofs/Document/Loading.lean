import ApiAtlas.Proofs.Except
import ApiAtlas.Proofs.Files.Tree
import ApiAtlas.Proofs.Files.Walk

/-! # Loading all documents, and loading each

Both ways of loading go over the same entries, and one keeps the failures where they occur. The other one ends with
a failure: it visits all entries before it reads the first document, so an entry that cannot be visited comes
before every document that cannot be read.
-/

namespace ApiAtlas

/-- Whether an entry could not be visited, so that there was nothing to read. -/
def LoadFault.isUnvisited : LoadFault → Bool
  | .unvisited _ _ => true
  | .rootMissing => false
  | .unreadable _ => false
  | .notUtf8 => false
  | .malformedJson => false
  | .rootNotObject => false
  | .invalidRules => false
  | .invalidSettings => false

namespace Document

variable {tree : FileTree} {root path : String} {error : LoadError} {found : List (Except LoadError String)}

/-- The failure that loading all documents ends with: that of the first entry that cannot be visited, or else the
first one. -/
def firstFailure? (results : List (Except LoadError Document)) : Option LoadError :=
  ((failures results).find? (·.fault.isUnvisited)).or (failures results).head?

/-- All documents are loaded exactly if none of them fails on its own. -/
theorem loadAll_eq_ok_iff {docs : List Document} :
    loadAll tree root = .ok docs ↔ loadEach tree root = .ok (docs.map .ok) := by
  unfold loadAll loadEach discover
  cases entries tree root with
  | error error => simp [bind, Except.bind, Except.map]
  | ok entries =>
      simp only [Except.map, Except.ok.injEq]
      exact mapM_mapM_eq_ok_iff

/-- The entries are visited, and the documents among them read. -/
theorem loadAll_eq (listed : entries tree root = .ok found) :
    loadAll tree root = (found.mapM id >>= (·.mapM (load tree root))) := by
  rw [loadAll, discover, listed]
  rfl

theorem loadEach_eq (listed : entries tree root = .ok found) :
    loadEach tree root = .ok (found.map (·.bind (load tree root))) := by
  rw [loadEach, listed]
  rfl

theorem isUnvisited_of_ofFinding? {finding : Finding} (discovered : ofFinding? tree finding = some (.error error)) :
    error.fault.isUnvisited := by
  unfold ofFinding? at discovered
  split at discovered
  · split at discovered <;> cases discovered
  · split at discovered
    · cases discovered
      rfl
    · cases discovered

theorem gather_eq_error_iff {findings : List Finding} :
    gather tree root findings = .error error ↔ findings.findSome? (rootError? root) = some error := by
  unfold gather
  cases findings.findSome? (rootError? root) <;> simp

/-- The findings that discovery keeps, in the order of their paths as seen from the root. -/
def arranged (tree : FileTree) (root : String) (found : List Finding) : List (Except LoadError String) :=
  (found.filterMap (ofFinding? tree)).mergeSort fun a b =>
    Path.le (Path.relativeTo root (pathOf a)) (Path.relativeTo root (pathOf b))

theorem gather_of_findSome? {findings : List Finding} (none : findings.findSome? (rootError? root) = none) :
    gather tree root findings = .ok (arranged tree root findings) := by
  rw [gather, none]
  rfl

/-- An entry fails only because it cannot be visited. -/
theorem isUnvisited_of_entries (listed : entries tree root = .ok found) (member : .error error ∈ found) :
    error.fault.isUnvisited := by
  unfold entries at listed
  split at listed
  · cases listed
    cases List.mem_singleton.mp member
  · split at listed
    · cases listed
    · unfold gather at listed
      split at listed
      · cases listed
      · cases listed
        obtain ⟨finding, _, discovered⟩ := List.mem_filterMap.mp (List.mem_mergeSort.mp member)
        exact isUnvisited_of_ofFinding? discovered

theorem not_isUnvisited_of_readText (fails : tree.readText path = .error error) : error.fault.isUnvisited = false := by
  unfold FileTree.readText at fails
  split at fails
  · cases fails
    rfl
  · split at fails
    · cases fails
      rfl
    · cases fails

theorem not_isUnvisited_of_ofValue {relativePath : String} {value : Json}
    (fails : ofValue path relativePath value = .error error) : error.fault.isUnvisited = false := by
  unfold ofValue at fails
  split at fails
  · cases fails
  · cases fails
    rfl

/-- Reading a document fails for no such reason. -/
theorem not_isUnvisited_of_load (fails : load tree root path = .error error) : error.fault.isUnvisited = false := by
  unfold load at fails
  cases read : tree.readText path with
  | error reason =>
      rw [read] at fails
      cases fails
      exact not_isUnvisited_of_readText read
  | ok text =>
      simp only [read, bind, Except.bind] at fails
      split at fails
      · cases fails
        rfl
      · exact not_isUnvisited_of_ofValue fails

/-- The failures to visit are those of the entries. -/
theorem find?_failures (unvisited : ∀ {error}, Except.error error ∈ found → error.fault.isUnvisited) :
    (failures (found.map (·.bind (load tree root)))).find? (·.fault.isUnvisited) = (failures found).head? := by
  induction found with
  | nil => rfl
  | cons entry found ih =>
      have others := ih fun member => unvisited (List.mem_cons_of_mem _ member)
      cases entry with
      | error error =>
          have here : error.fault.isUnvisited := unvisited List.mem_cons_self
          simp [Except.bind, here]
      | ok path =>
          rw [failures_cons_ok, ← others, List.map_cons]
          cases loaded : load tree root path with
          | error error => simp [Except.bind, loaded, not_isUnvisited_of_load loaded]
          | ok doc => simp [Except.bind, loaded]

/-- Loading all documents ends with the first failure. -/
theorem loadAll_eq_error_iff (listed : entries tree root = .ok found) :
    loadAll tree root = .error error ↔
      firstFailure? (found.map (·.bind (load tree root))) = some error := by
  rw [loadAll_eq listed, mapM_mapM_eq_error_iff, firstFailure?,
    find?_failures fun member => isUnvisited_of_entries listed member]

/-- Why the root itself cannot be walked. -/
inductive Unwalkable (tree : FileTree) (root : String) : LoadError → Prop where
  | missing (file : tree.isFile root = false) (directory : tree.isDirectory root = false) :
    Unwalkable tree root ⟨root, .rootMissing⟩
  | unlisted (closed : tree.IsUnlisted root) :
    Unwalkable tree root ⟨root, .unvisited root (.unlisted (tree.isLink root))⟩
  /-- A link below the root leads to a directory that may not be opened. That error names no path, so it is one of the
  root. -/
  | unopened {finding : Finding} (directory : tree.isDirectory root) (found : finding ∈ tree.walk root)
    (fails : finding.fault = some .unopened) : Unwalkable tree root ⟨root, .unvisited root .unopened⟩

/-- A fault at the root is that of a directory that may not be listed, and all others name no path. -/
theorem unwalkable_of_rootError? {finding : Finding} (wf : tree.WellFormed) (directory : tree.isDirectory root)
    (found : finding ∈ tree.walk root) (fails : rootError? root finding = some error) : Unwalkable tree root error := by
  obtain ⟨fault, faulty, about⟩ := Option.bind_eq_some_iff.mp fails
  rcases tree.isBelow_of_mem_walk wf directory found with ⟨closed, rfl⟩ | ⟨-, below, -⟩
  · cases faulty
    have same : Path.same root root = true := by simp [Path.same]
    rw [same, Bool.or_true, if_pos rfl] at about
    cases about
    exact .unlisted closed
  · have apart : Path.same finding.path root = false := by
      obtain ⟨names, some_, named, path⟩ := below
      simp [Path.same, path, Path.parts_under named (tree.walk_cases directory).1, some_]
    cases fault with
    | unopened =>
        cases about
        exact .unopened directory found faulty
    | unreadable | loop => simp [WalkFault.namesPath, apart] at about

theorem rootError?_of_unwalkable (directory : tree.isDirectory root) (fails : Unwalkable tree root error) :
    ∃ finding ∈ tree.walk root, (rootError? root finding).isSome := by
  cases fails with
  | missing _ none => exact absurd directory (by simp [none])
  | unlisted closed =>
      obtain ⟨-, ⟨-, walked⟩ | ⟨listed, -⟩⟩ := tree.walk_cases directory
      · exact ⟨_, walked ▸ List.mem_singleton_self _, by simp [rootError?, Path.same]⟩
      · exact absurd closed listed
  | unopened _ found fails => exact ⟨_, found, by simp [rootError?, fails, WalkFault.namesPath]⟩

theorem unwalkable_of_entries (wf : tree.WellFormed) (fails : entries tree root = .error error) :
    Unwalkable tree root error := by
  unfold entries at fails
  split at fails
  · cases fails
  · rename_i file
    cases directory : tree.isDirectory root with
    | false =>
        rw [directory] at fails
        cases fails
        exact .missing (Bool.eq_false_iff.mpr file) directory
    | true =>
        rw [directory, Bool.not_true, if_neg Bool.false_ne_true, gather_eq_error_iff] at fails
        obtain ⟨finding, found, first⟩ := List.exists_of_findSome?_eq_some fails
        exact unwalkable_of_rootError? wf directory found first

theorem not_unwalkable_of_entries (listed : entries tree root = .ok found) : ¬ Unwalkable tree root error := by
  intro unwalkable
  unfold entries at listed
  split at listed
  · rename_i file
    have none : tree.isDirectory root = false := FileTree.isDirectory_of_isFile file
    cases unwalkable with
    | missing missing => exact absurd file (by simp [missing])
    | unlisted closed => exact absurd (FileTree.isDirectory_of_isUnlisted closed) (by simp [none])
    | unopened directory => exact absurd directory (by simp [none])
  · cases directory : tree.isDirectory root with
    | false =>
        rw [directory] at listed
        cases listed
    | true =>
        rw [directory, Bool.not_true, if_neg Bool.false_ne_true] at listed
        obtain ⟨finding, found, fails⟩ := rootError?_of_unwalkable directory unwalkable
        obtain ⟨error, first⟩ := Option.isSome_iff_exists.mp (List.findSome?_isSome_iff.mpr ⟨finding, found, fails⟩)
        rw [gather_eq_error_iff.mpr first] at listed
        cases listed

/-- Loading all documents and loading each come to the same. If the root itself cannot be walked, both fail with the
same error. Otherwise all documents are loaded exactly if each of them is, and else the first failure is the error,
where an entry that cannot be visited comes before every document that cannot be read. -/
theorem loadAll_sequences (wf : tree.WellFormed) (root : String) :
    (∃ error, Unwalkable tree root error ∧ loadAll tree root = .error error ∧ loadEach tree root = .error error) ∨
    ((∀ error, ¬ Unwalkable tree root error) ∧ ∃ results, loadEach tree root = .ok results ∧
      (∀ docs, loadAll tree root = .ok docs ↔ results = docs.map .ok) ∧
      ∀ error, loadAll tree root = .error error ↔ firstFailure? results = some error) := by
  cases listed : entries tree root with
  | error error =>
      refine .inl ⟨error, unwalkable_of_entries wf listed, ?_, ?_⟩
      · rw [loadAll, discover, listed]
        rfl
      · rw [loadEach, listed]
        rfl
  | ok found =>
      refine .inr ⟨fun _ => not_unwalkable_of_entries listed, _, loadEach_eq listed, fun docs => ?_, fun error =>
        loadAll_eq_error_iff listed⟩
      rw [loadAll_eq_ok_iff, loadEach_eq listed, Except.ok.injEq]

/-- A document that is no JSON, and a link that leads nowhere. -/
def brokenTree : FileTree where
  entries := [(["a.json"], .file "".toUTF8), (["b.json"], .link "gone.json")]

def brokenLink : LoadError := ⟨"./b.json", .unvisited "./b.json" (.unreadable .notFound)⟩

theorem wellFormed_brokenTree : brokenTree.WellFormed where
  named := by decide
  distinct := by decide
  above := by
    intro entry member
    simp only [brokenTree, List.mem_cons, List.not_mem_nil, or_false] at member
    rcases member with rfl | rfl
    · exact ⟨[], "a.json", true, rfl, rfl⟩
    · exact ⟨[], "b.json", true, rfl, rfl⟩

theorem entries_broken : entries brokenTree "." = .ok [.ok "./a.json", .error brokenLink] := by
  have home : brokenTree.home = [] := rfl
  have names : brokenTree.namesIn [] = ["a.json", "b.json"] := rfl
  have dangling : brokenTree.follow FileTree.linkLimit [] ["b.json"] = .error .notFound := by
    have pieces : Path.pieces "gone.json" = ["gone.json"] := by decide
    have linked : brokenTree.entry? ["b.json"] = some (.link "gone.json") := rfl
    rw [FileTree.linkLimit, FileTree.follow_link (by decide) (by decide) linked (by decide), pieces,
      FileTree.follow_absent (by decide) (by decide) rfl]
  obtain ⟨enter, walked⟩ := FileTree.walk_dot home
  have visited₁ : brokenTree.visit enter [([], ".")] ([], ".") "a.json" = [⟨Path.join "." "a.json", none⟩] :=
    FileTree.visit_file home (by decide) rfl
  have visited₂ : brokenTree.visit enter [([], ".")] ([], ".") "b.json" = _ :=
    FileTree.visit_error home (by decide) dangling
  have joined : Path.join "." "a.json" = "./a.json" ∧ Path.join "." "b.json" = "./b.json" := by decide
  have documents : [(⟨"./a.json", none⟩ : Finding), ⟨"./b.json", some (.unreadable .notFound)⟩].filterMap
      (ofFinding? brokenTree) = [.ok "./a.json", .error brokenLink] := by
    have json : ∀ path ∈ ["./a.json", "./b.json"], isDocumentPath path = true := by decide
    simp [ofFinding?, json, brokenLink]
  rw [entries, FileTree.isFile_dot home, FileTree.isDirectory_dot home, walked, names]
  simp only [Bool.false_eq_true, if_false, Bool.not_true, List.flatMap_cons, List.flatMap_nil, visited₁, visited₂,
    joined]
  have below : [(⟨"./a.json", none⟩ : Finding), ⟨"./b.json", some (.unreadable .notFound)⟩].findSome?
      (rootError? ".") = none := by decide
  rw [List.append_nil, List.singleton_append, gather_of_findSome? below, arranged, documents, List.mergeSort_of_pairwise]
  decide

theorem load_broken : load brokenTree "." "./a.json" = .error ⟨"./a.json", .malformedJson⟩ := by
  have entry : brokenTree.entry? ["a.json"] = some (.file "".toUTF8) := rfl
  have read : brokenTree.readText "./a.json" = .ok "" :=
    FileTree.readText_file rfl (by decide) (by decide) (by decide +kernel) (by decide) (by decide) entry
  have malformed : Json.parse? "" = none := by cbv
  rw [load, read]
  simp [bind, Except.bind, malformed]

theorem loadEach_broken :
    loadEach brokenTree "." = .ok [.error ⟨"./a.json", .malformedJson⟩, .error brokenLink] := by
  rw [loadEach_eq entries_broken]
  simp [Except.bind, load_broken]

/-- A directory that may not be listed, with a document in it. -/
def closedTree : FileTree where
  entries := [(["specs"], .directory false), (["specs", "a.json"], .file "{}".toUTF8)]

def closedRoot : LoadError := ⟨"specs", .unvisited "specs" (.unreadable .denied)⟩

theorem wellFormed_closedTree : closedTree.WellFormed where
  named := by decide
  distinct := by decide
  above := by
    intro entry member
    simp only [closedTree, List.mem_cons, List.not_mem_nil, or_false] at member
    rcases member with rfl | rfl
    · exact ⟨[], "specs", true, rfl, rfl⟩
    · exact ⟨["specs"], "a.json", false, rfl, rfl⟩

theorem locate_closed : closedTree.locate "specs" = .ok ["specs"] := by
  have pieces : Path.pieces "specs" = ["specs"] := by decide
  rw [FileTree.locate_relative rfl (by decide) (by decide), pieces]
  exact FileTree.follow_name (by decide) (by decide) rfl rfl

theorem unwalkable_closed {error : LoadError} (fails : Unwalkable closedTree "specs" error) : error = closedRoot := by
  have closed : closedTree.IsUnlisted "specs" := ⟨_, locate_closed, rfl⟩
  have plain : closedTree.isLink "specs" = false := by
    have pieces : (Path.pieces "specs").reverse = ["specs"] := by decide
    have start : closedTree.follow FileTree.linkLimit [] [] = .ok [] := by rw [FileTree.follow]
    have relative : Path.isAbsolute "specs" = false := by decide
    simp only [FileTree.isLink, pieces, relative]
    exact start ▸ rfl
  cases fails with
  | missing _ none => exact absurd (FileTree.isDirectory_of_isUnlisted closed) (by simp [none])
  | unlisted _ => rw [plain]; rfl
  | unopened directory found fails =>
      obtain ⟨-, ⟨-, walked⟩ | ⟨listed, -⟩⟩ := closedTree.walk_cases directory
      · rw [walked, List.mem_singleton] at found
        rw [found, plain] at fails
        cases fails
      · exact absurd closed listed

/-- A root that may not be listed is one error for both; a link that leads nowhere is one of its own, and it is the
first one that loading all documents comes to. -/
theorem loadAll_sequences_closed :
    (closedTree.WellFormed ∧ loadAll closedTree "specs" = .error closedRoot ∧
      loadEach closedTree "specs" = .error closedRoot ∧ closedRoot.message =
        "failed to load spec 'specs': IO error for operation on specs: Permission denied (os error 13)") ∧
    brokenTree.WellFormed ∧ loadAll brokenTree "." = .error brokenLink ∧
      loadEach brokenTree "." = .ok [.error ⟨"./a.json", .malformedJson⟩, .error brokenLink] := by
  constructor
  · refine ⟨wellFormed_closedTree, ?_⟩
    rcases loadAll_sequences wellFormed_closedTree "specs" with ⟨error, unwalkable, all, each⟩ | ⟨walkable, -⟩
    · obtain rfl := unwalkable_closed unwalkable
      exact ⟨all, each, by decide +kernel⟩
    · exact absurd (.unlisted ⟨_, locate_closed, rfl⟩) (walkable _)
  · refine ⟨wellFormed_brokenTree, ?_, loadEach_broken⟩
    rcases loadAll_sequences wellFormed_brokenTree "." with ⟨error, unwalkable, -⟩ | ⟨-, results, each, -, first⟩
    · exact absurd unwalkable (not_unwalkable_of_entries entries_broken)
    · obtain rfl := Except.ok.inj (loadEach_broken.symm.trans each)
      exact (first brokenLink).mpr (by decide)

/-- The failure that comes first in the list need not be the error: a link that leads nowhere goes before. -/
theorem loadAll_visits_first : ¬ ∀ (tree : FileTree) (root : String) results error, loadEach tree root = .ok results →
    (failures results).head? = some error → loadAll tree root = .error error := by
  intro sequences
  have ends : loadAll brokenTree "." = .error brokenLink := by
    rw [loadAll_eq entries_broken]
    rfl
  have first := sequences _ _ _ _ loadEach_broken rfl
  rw [ends, Except.error.injEq] at first
  exact absurd (congrArg LoadError.path first) (by decide)

end Document

end ApiAtlas
