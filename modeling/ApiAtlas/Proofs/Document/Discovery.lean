import ApiAtlas.Proofs.Document.Loading

/-! # Discovering documents

The documents below a directory are all files there with the extension of documents, each once, in the order of their
paths. No two entries are alike in that order, so it does not matter in which order they were found.
-/

namespace ApiAtlas

namespace Document

variable {tree other : FileTree} {root path : String} {finding : Finding} {found : List Finding}
  {entry : Except LoadError String}

/-- The parts of the path of an entry as seen from the root. -/
def seenParts (root : String) (entry : Except LoadError String) : List String :=
  Path.parts (Path.relativeTo root (pathOf entry))

theorem entries_eq (directory : tree.isDirectory root) : entries tree root = gather tree root (tree.walk root) := by
  have file : tree.isFile root = false := Bool.eq_false_iff.mpr fun file => by
    simp [FileTree.isDirectory_of_isFile file] at directory
  rw [entries, file, directory]
  rfl

theorem arranged_perm (tree : FileTree) (root : String) (found : List Finding) :
    (arranged tree root found).Perm (found.filterMap (ofFinding? tree)) := List.mergeSort_perm _ _

theorem mem_arranged : entry ∈ arranged tree root found ↔ ∃ finding ∈ found, ofFinding? tree finding = some entry := by
  rw [(arranged_perm _ _ _).mem_iff, List.mem_filterMap]

theorem pathOf_of_ofFinding? (kept : ofFinding? tree finding = some entry) : pathOf entry = finding.path := by
  unfold ofFinding? at kept
  split at kept <;> split at kept <;> cases kept <;> rfl

theorem ofFinding?_eq_ok_iff :
    ofFinding? tree finding = some (.ok path) ↔ finding = ⟨path, none⟩ ∧ isDocumentPath path := by
  obtain ⟨found, fault⟩ := finding
  cases fault with
  | none => grind [ofFinding?]
  | some fault => simp [ofFinding?]

theorem sorted_arranged (tree : FileTree) (root : String) (found : List Finding) :
    (arranged tree root found).Pairwise fun a b => seenParts root a ≤ seenParts root b := by
  unfold arranged
  refine (List.pairwise_mergeSort ?_ ?_ _).imp ?_ <;> simp only [Path.le, Bool.or_eq_true, Path.partsLe_iff]
  · exact fun _ _ _ => le_trans
  · exact fun _ _ => le_total _ _
  · exact id

theorem map_pathOf (tree : FileTree) (found : List Finding) :
    (found.filterMap (ofFinding? tree)).map pathOf =
      (found.filter fun finding => (ofFinding? tree finding).isSome).map (·.path) := by
  induction found with
  | nil => rfl
  | cons finding found ih =>
      cases kept : ofFinding? tree finding with
      | none => simp [kept, ih]
      | some entry => simp [kept, ih, pathOf_of_ofFinding? kept]

/-- All errors of the whole that a walk finds below the root are alike. -/
theorem eq_of_rootError? {error : LoadError} (wf : tree.WellFormed) (directory : tree.isDirectory root)
    (listed : ¬ tree.IsUnlisted root) (found : finding ∈ tree.walk root) (fails : rootError? root finding = some error) :
    error = ⟨root, .unvisited root .unopened⟩ := by
  cases unwalkable_of_rootError? wf directory found fails with
  | missing _ none => exact absurd directory (by simp [none])
  | unlisted closed => exact absurd closed listed
  | unopened => rfl

section Walk

variable (wf : tree.WellFormed) (directory : tree.isDirectory root) (perm : found.Perm (tree.walk root))

include wf directory perm

theorem nodup_arranged : ((arranged tree root found).map pathOf).Nodup := by
  have paths : (found.map (·.path)).Nodup := (perm.map _).nodup_iff.mpr (tree.nodup_walk wf directory)
  rw [((arranged_perm _ _ _).map pathOf).nodup_iff, map_pathOf]
  exact paths.sublist (List.filter_sublist.map _)

section Listed

variable (listed : ¬ tree.IsUnlisted root)

include listed

/-- No two entries are alike as seen from the root. -/
theorem eq_of_seenParts {a b : Except LoadError String} (here : a ∈ arranged tree root found)
    (there : b ∈ arranged tree root found) (same : seenParts root a = seenParts root b) : a = b := by
  have seen {entry} (member : entry ∈ arranged tree root found) :
      pathOf entry = Path.under root (seenParts root entry) := by
    obtain ⟨finding, found, kept⟩ := mem_arranged.mp member
    rcases tree.isBelow_of_mem_walk wf directory (perm.mem_iff.mp found) with
      ⟨closed, -⟩ | ⟨-, ⟨names, some_, named, path⟩, -⟩
    · exact absurd closed listed
    · rw [seenParts, pathOf_of_ofFinding? kept, path]
      rw [Path.relativeTo_under named some_ (tree.walk_cases directory).1, Path.parts_join_names named some_]
  refine List.inj_on_of_nodup_map (nodup_arranged wf directory perm) here there ?_
  rw [seen here, seen there, same]

theorem arranged_eq : arranged tree root found = arranged tree root (tree.walk root) := by
  have entries : (arranged tree root found).Perm (arranged tree root (tree.walk root)) :=
    (arranged_perm _ _ _).trans ((perm.filterMap _).trans (arranged_perm _ _ _).symm)
  refine entries.eq_of_pairwise ?_ (sorted_arranged _ _ _) (sorted_arranged _ _ _)
  intro a b here there less more
  exact eq_of_seenParts wf directory perm listed here (entries.mem_iff.mpr there) (le_antisymm less more)

theorem strictly_sorted_arranged :
    (arranged tree root found).Pairwise fun a b => seenParts root a < seenParts root b := by
  have distinct : (arranged tree root found).Nodup := .of_map _ (nodup_arranged wf directory perm)
  refine ((sorted_arranged tree root found).and distinct).imp_of_mem fun here there ⟨le, different⟩ => ?_
  exact lt_of_le_of_ne le fun same => different (eq_of_seenParts wf directory perm listed here there same)

theorem findSome?_rootError? : found.findSome? (rootError? root) = (tree.walk root).findSome? (rootError? root) := by
  have same {error other : LoadError} (here : found.findSome? (rootError? root) = some error)
      (there : (tree.walk root).findSome? (rootError? root) = some other) : error = other := by
    obtain ⟨finding, member, fails⟩ := List.exists_of_findSome?_eq_some here
    obtain ⟨finding', member', fails'⟩ := List.exists_of_findSome?_eq_some there
    rw [eq_of_rootError? wf directory listed (perm.mem_iff.mp member) fails,
      eq_of_rootError? wf directory listed member' fails']
  have none : found.findSome? (rootError? root) = none ↔ (tree.walk root).findSome? (rootError? root) = none := by
    simp only [List.findSome?_eq_none_iff, perm.mem_iff]
  cases here : found.findSome? (rootError? root) with
  | none => exact (none.mp here).symm
  | some error =>
      cases there : (tree.walk root).findSome? (rootError? root) with
      | none => exact absurd (none.mpr there) (by simp [here])
      | some other => rw [same here there]

end Listed

/-- The order in which a walk finds its entries does not matter. -/
theorem gather_perm : gather tree root found = gather tree root (tree.walk root) := by
  obtain ⟨-, ⟨-, walked⟩ | ⟨listed, -⟩⟩ := tree.walk_cases directory
  · rw [walked] at perm ⊢
    rw [List.perm_singleton.mp perm]
  · have errors := findSome?_rootError? wf directory perm listed
    have entries : arranged tree root found = arranged tree root (tree.walk root) := arranged_eq wf directory perm listed
    cases first : (tree.walk root).findSome? (rootError? root) with
    | some error =>
        rw [gather_eq_error_iff.mpr first, gather_eq_error_iff.mpr (errors.trans first)]
    | none => rw [gather_of_findSome? first, gather_of_findSome? (errors.trans first), entries]

end Walk

theorem discover_eq_ok_iff {paths : List String} :
    discover tree root = .ok paths ↔ entries tree root = .ok (paths.map .ok) := by
  simp only [discover, bind_eq_ok_iff, mapM_eq_ok_iff, id_eq]
  have each (found : List (Except LoadError String)) :
      found.Forall₂ (fun entry path => entry = .ok path) paths ↔ found = paths.map .ok := by
    rw [← List.forall₂_eq_eq_eq, List.forall₂_map_right_iff]
  simp [each]

section Discovered

variable {paths : List String} (directory : tree.isDirectory root) (discovered : discover tree root = .ok paths)

include directory discovered

/-- The walk found no error of the whole, and none of its own at any entry. -/
theorem arranged_walk : (tree.walk root).findSome? (rootError? root) = none ∧
    arranged tree root (tree.walk root) = paths.map .ok := by
  rw [discover_eq_ok_iff, entries_eq directory] at discovered
  cases first : (tree.walk root).findSome? (rootError? root) with
  | some error =>
      rw [gather_eq_error_iff.mpr first] at discovered
      cases discovered
  | none =>
      rw [gather_of_findSome? first, Except.ok.injEq] at discovered
      exact ⟨rfl, discovered⟩

/-- A directory at fault is always reported, so there was none. -/
theorem sound_of_discovered (found : finding ∈ tree.walk root) : finding.Sound tree := by
  refine Classical.or_iff_not_imp_left.mpr fun faulty inside => ?_
  obtain ⟨fault, fails⟩ := Option.ne_none_iff_exists'.mp faulty
  have kept : ofFinding? tree finding = some (.error ⟨finding.path, .unvisited finding.path fault⟩) := by
    simp [ofFinding?, fails, inside]
  have member : Except.error _ ∈ arranged tree root (tree.walk root) := mem_arranged.mpr ⟨finding, found, kept⟩
  rw [(arranged_walk directory discovered).2] at member
  simp at member

omit directory in
theorem not_isUnlisted_of_discovered : ¬ tree.IsUnlisted root := fun closed =>
  not_unwalkable_of_entries (discover_eq_ok_iff.mp discovered) (.unlisted closed)

theorem mem_discovered_iff (wf : tree.WellFormed) :
    path ∈ paths ↔ Path.IsBelow root path ∧ tree.isFile path ∧ Path.extension? path = some "json" := by
  have listed : path ∈ paths ↔ ⟨path, none⟩ ∈ tree.walk root ∧ isDocumentPath path := by
    have entry : path ∈ paths ↔ .ok path ∈ arranged tree root (tree.walk root) := by
      simp [(arranged_walk directory discovered).2]
    rw [entry, mem_arranged]
    simp [ofFinding?_eq_ok_iff]
  have extension : isDocumentPath path ↔ Path.extension? path = some "json" := beq_iff_eq
  rw [listed, extension, ← and_assoc]
  refine and_congr_left fun _ => ⟨fun found => ?_, fun ⟨below, file⟩ => ?_⟩
  · rcases tree.isBelow_of_mem_walk wf directory found with ⟨closed, -⟩ | ⟨-, below, file⟩
    · exact absurd closed (not_isUnlisted_of_discovered discovered)
    · exact ⟨below, file rfl⟩
  · exact tree.mem_walk_of_isFile directory below file fun finding found =>
      sound_of_discovered directory discovered found

end Discovered

theorem gather_relisted (wf : tree.WellFormed) (relists : other.Relists tree) (root : String) (found : List Finding) :
    gather other root found = gather tree root found := by
  have same : ofFinding? other = ofFinding? tree := by
    funext finding
    simp only [ofFinding?, relists.isDirectory_eq wf]
  rw [gather, gather, same]

/-- Discovery gives every document below a directory once and nothing else, in increasing order of the paths as seen
from the directory, part by part. Neither the order in which a walk finds its entries nor the one in which the
directories list theirs can be seen in the result. -/
theorem discover_complete (wf : tree.WellFormed) (directory : tree.isDirectory root) :
    (∀ paths, discover tree root = .ok paths →
      (∀ path, path ∈ paths ↔
        Path.IsBelow root path ∧ tree.isFile path ∧ Path.extension? path = some "json") ∧
      paths.Nodup ∧
      paths.Pairwise fun a b => Path.parts (Path.relativeTo root a) < Path.parts (Path.relativeTo root b)) ∧
    (∀ found, found.Perm (tree.walk root) → entries tree root = gather tree root found) ∧
    ∀ other : FileTree, other.Relists tree → entries other root = entries tree root := by
  refine ⟨fun paths discovered => ?_, fun found perm => ?_, fun other relists => ?_⟩
  · have listed := not_isUnlisted_of_discovered discovered
    have distinct := nodup_arranged wf directory (.refl _)
    have sorted := strictly_sorted_arranged wf directory (.refl _) listed
    rw [(arranged_walk directory discovered).2] at distinct sorted
    refine ⟨fun path => mem_discovered_iff directory discovered wf, ?_, ?_⟩
    · simpa [Function.comp_def, pathOf] using distinct
    · rwa [List.pairwise_map] at sorted
  · rw [entries_eq directory, gather_perm wf directory perm]
  · have directory' : other.isDirectory root := by rw [relists.isDirectory_eq wf, directory]
    rw [entries_eq directory', entries_eq directory, gather_relisted wf relists,
      gather_perm wf directory (relists.walk_perm wf root)]

/-- A directory with a document, and a link to a text under the name of a document. -/
def notesTree : FileTree where
  entries := [(["zeta.json"], .link "notes.txt"), (["alpha"], .directory),
    (["alpha", "b.json"], .file "".toUTF8), (["notes.txt"], .file "".toUTF8)]

theorem wellFormed_notesTree : notesTree.WellFormed where
  named := by decide
  distinct := by decide
  above := by
    intro entry member
    simp only [notesTree, List.mem_cons, List.not_mem_nil, or_false] at member
    rcases member with rfl | rfl | rfl | rfl
    · exact ⟨[], "zeta.json", true, rfl, rfl⟩
    · exact ⟨[], "alpha", true, rfl, rfl⟩
    · exact ⟨["alpha"], "b.json", true, rfl, rfl⟩
    · exact ⟨[], "notes.txt", true, rfl, rfl⟩

theorem locate_notesTree : notesTree.locate "./zeta.json" = .ok ["notes.txt"] ∧
    notesTree.locate "./alpha" = .ok ["alpha"] ∧ notesTree.locate "./alpha/b.json" = .ok ["alpha", "b.json"] ∧
    notesTree.locate "./notes.txt" = .ok ["notes.txt"] := by
  have pieces : Path.pieces "./zeta.json" = [".", "zeta.json"] ∧ Path.pieces "notes.txt" = ["notes.txt"] ∧
      Path.pieces "./alpha" = [".", "alpha"] ∧ Path.pieces "./alpha/b.json" = [".", "alpha", "b.json"] ∧
      Path.pieces "./notes.txt" = [".", "notes.txt"] := by decide
  have relative : ∀ path ∈ ["./zeta.json", "notes.txt", "./alpha", "./alpha/b.json", "./notes.txt"],
      Path.isAbsolute path = false := by decide
  simp only [List.forall_mem_cons] at relative
  simp [FileTree.locate, FileTree.follow, pieces, relative, notesTree, FileTree.entry?, FileTree.linkLimit,
    FileEntry.isDirectory, Path.isIdle]

theorem walk_notesTree : notesTree.walk "." =
    [⟨"./zeta.json", none⟩, ⟨"./alpha/b.json", none⟩, ⟨"./notes.txt", none⟩] := by
  have joined : Path.join "." "zeta.json" = "./zeta.json" ∧ Path.join "." "alpha" = "./alpha" ∧
      Path.join "./alpha" "b.json" = "./alpha/b.json" ∧ Path.join "." "notes.txt" = "./notes.txt" := by decide
  have names : notesTree.namesIn [] = ["zeta.json", "alpha", "notes.txt"] ∧ notesTree.namesIn ["alpha"] = ["b.json"] :=
    ⟨rfl, rfl⟩
  have entries : notesTree.entry? ["notes.txt"] = some (.file "".toUTF8) ∧ notesTree.entry? ["alpha"] = some .directory ∧
      notesTree.entry? ["alpha", "b.json"] = some (.file "".toUTF8) := ⟨rfl, rfl, rfl⟩
  have zeta (enter) : notesTree.visit enter [([], ".")] ([], ".") "zeta.json" = [⟨"./zeta.json", none⟩] := by
    simp [FileTree.visit, joined, locate_notesTree, entries]
  have alpha (enter) : notesTree.visit enter [([], ".")] ([], ".") "alpha" =
      enter [([], ".")] (["alpha"], "./alpha") := by
    simp [FileTree.visit, joined, locate_notesTree, entries, FileEntry.isLink]
  have inner (enter ancestors) : notesTree.visit enter ancestors (["alpha"], "./alpha") "b.json" =
      [⟨"./alpha/b.json", none⟩] := by
    simp [FileTree.visit, joined, locate_notesTree, entries]
  have notes (enter) : notesTree.visit enter [([], ".")] ([], ".") "notes.txt" = [⟨"./notes.txt", none⟩] := by
    simp [FileTree.visit, joined, locate_notesTree, entries]
  have deep : notesTree.depthLimit = 22 + 1 + 1 := rfl
  have located : notesTree.locate "." = .ok [] := FileTree.locate_dot rfl
  have root : notesTree.entry? [] = some (.directory true) := rfl
  simp only [FileTree.walk, located, root, deep]
  simp [FileTree.findingsIn, names, zeta, alpha, inner, notes]

theorem discover_notesTree : discover notesTree "." = .ok ["./alpha/b.json", "./zeta.json"] := by
  have directory : notesTree.isDirectory "." := FileTree.isDirectory_dot rfl
  have perm : [(⟨"./alpha/b.json", none⟩ : Finding), ⟨"./zeta.json", none⟩, ⟨"./notes.txt", none⟩].Perm
      (notesTree.walk ".") := by
    rw [walk_notesTree]
    exact .swap _ _ _
  have documents : isDocumentPath "./alpha/b.json" = true ∧ isDocumentPath "./zeta.json" = true ∧
      isDocumentPath "./notes.txt" = false := by decide
  have kept : [(⟨"./alpha/b.json", none⟩ : Finding), ⟨"./zeta.json", none⟩, ⟨"./notes.txt", none⟩].filterMap
      (ofFinding? notesTree) = [.ok "./alpha/b.json", .ok "./zeta.json"] := by simp [ofFinding?, documents]
  rw [discover_eq_ok_iff, entries_eq directory, ← gather_perm wellFormed_notesTree directory perm,
    gather_of_findSome? rfl, arranged, kept, List.mergeSort_of_pairwise]
  · rfl
  · decide

/-- The link leads to a text, but its path has the extension of documents. -/
theorem discover_complete_notes : notesTree.WellFormed ∧ notesTree.isDirectory "." ∧
    discover notesTree "." = .ok ["./alpha/b.json", "./zeta.json"] ∧
    (∀ path, path ∈ ["./alpha/b.json", "./zeta.json"] ↔
      Path.IsBelow "." path ∧ notesTree.isFile path ∧ Path.extension? path = some "json") ∧
    entries ⟨notesTree.entries.reverse, notesTree.home⟩ "." = .ok [.ok "./alpha/b.json", .ok "./zeta.json"] := by
  have directory : notesTree.isDirectory "." := FileTree.isDirectory_dot rfl
  obtain ⟨complete, -, relisted⟩ := discover_complete wellFormed_notesTree directory
  have relists : FileTree.Relists ⟨notesTree.entries.reverse, notesTree.home⟩ notesTree := ⟨List.reverse_perm _, rfl⟩
  refine ⟨wellFormed_notesTree, directory, discover_notesTree, (complete _ discover_notesTree).1, ?_⟩
  rw [relisted _ relists, discover_eq_ok_iff.mp discover_notesTree]
  rfl

end Document

end ApiAtlas
