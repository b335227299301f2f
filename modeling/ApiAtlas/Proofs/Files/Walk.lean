import Mathlib.Data.Finset.Card
import ApiAtlas.Files.Walk
import ApiAtlas.Proofs.Files.Locating

/-! # What a walk finds

A walk finds each path at most once, and at a path without a fault there is a file. Where no directory is at fault, as
one is that may not be listed or that a link leads back to, it finds every file. The order of the entries of a tree does
not matter.
-/

namespace ApiAtlas

/-- No files are missed because of a finding: it has no fault, or is no directory. -/
def Finding.Sound (tree : FileTree) (finding : Finding) : Prop :=
  finding.fault = none ∨ ¬ tree.isDirectory finding.path

namespace FileTree

variable {tree other : FileTree} {enter : List Ancestor → Ancestor → List Finding} {ancestors above : List Ancestor}
  {directory : Ancestor} {name root : String} {names : List String} {entry : FileEntry} {finding : Finding}
  {room : Nat}

/-- What is found at a directory that may be listed: a link back, or all that is found in it. -/
theorem visit_directory (enter : List Ancestor → Ancestor → List Finding) (ancestors : List Ancestor)
    (located : tree.locate (Path.join directory.2 name) = .ok names)
    (here : tree.entry? names = some (.directory true)) :
    (∃ ancestor, tree.visit enter ancestors directory name = [⟨Path.join directory.2 name, some (.loop ancestor)⟩]) ∨
    tree.visit enter ancestors directory name = enter ancestors (names, Path.join directory.2 name) ∧
      ((tree.entry? (directory.1 ++ [name])).any (·.isLink) → ∀ ancestor ∈ ancestors, ancestor.1 ≠ names) := by
  simp only [visit, located, here]
  split
  · exact .inl ⟨_, rfl⟩
  · rename_i absent
    refine .inr ⟨rfl, fun link ancestor member same => ?_⟩
    simpa [link, same] using List.find?_eq_none.mp absent ancestor member

theorem visit_unlisted (enter : List Ancestor → Ancestor → List Finding) (ancestors : List Ancestor)
    (located : tree.locate (Path.join directory.2 name) = .ok names)
    (here : tree.entry? names = some (.directory false)) : ∃ isLink,
    tree.visit enter ancestors directory name = [⟨Path.join directory.2 name, some (.unlisted isLink)⟩] := by
  simp only [visit, located, here]
  exact ⟨_, rfl⟩

theorem visit_isFile (enter : List Ancestor → Ancestor → List Finding) (ancestors : List Ancestor)
    (directory : Ancestor) (file : tree.isFile (Path.join directory.2 name)) :
    tree.visit enter ancestors directory name = [⟨Path.join directory.2 name, none⟩] := by
  obtain ⟨names, content, readable, located, here⟩ := isFile_iff.mp file
  simp only [visit, located, here]

/-- What is found at an entry is the entry itself or, if that is a directory to enter, all that is in it. -/
theorem visit_cases (wf : tree.WellFormed) (enter : List Ancestor → Ancestor → List Finding) (ancestors : List Ancestor)
    (directory : Ancestor) (name : String) :
    (∃ fault, tree.visit enter ancestors directory name = [⟨Path.join directory.2 name, fault⟩] ∧
      (fault = none → tree.isFile (Path.join directory.2 name))) ∨
    ∃ names, tree.visit enter ancestors directory name = enter ancestors (names, Path.join directory.2 name) := by
  cases located : tree.locate (Path.join directory.2 name) with
  | error error =>
      left
      refine ⟨some (.unreadable error), ?_, nofun⟩
      simp only [visit, located]
  | ok names =>
      obtain ⟨entry, here, plain⟩ := wf.locate located
      cases entry with
      | link target => cases plain
      | file content readable =>
          have file : tree.isFile (Path.join directory.2 name) :=
            isFile_iff.mpr ⟨names, content, readable, located, here⟩
          exact .inl ⟨none, visit_isFile _ _ _ file, fun _ => file⟩
      | directory readable =>
          cases readable with
          | false =>
              obtain ⟨isLink, unlisted⟩ := visit_unlisted enter ancestors located here
              exact .inl ⟨_, unlisted, nofun⟩
          | true =>
              rcases visit_directory enter ancestors located here with ⟨ancestor, loop⟩ | ⟨entered, -⟩
              · exact .inl ⟨_, loop, nofun⟩
              · exact .inr ⟨names, entered⟩

theorem mem_visit (wf : tree.WellFormed) (found : finding ∈ tree.visit enter ancestors directory name) :
    finding.path = Path.join directory.2 name ∧ (finding.fault = none → tree.isFile finding.path) ∨
    ∃ names, finding ∈ enter ancestors (names, Path.join directory.2 name) := by
  rcases visit_cases wf enter ancestors directory name with ⟨fault, visited, file⟩ | ⟨names, entered⟩
  · rw [visited, List.mem_singleton] at found
    subst found
    exact .inl ⟨rfl, file⟩
  · exact .inr ⟨names, entered ▸ found⟩

theorem WellFormed.isName (wf : tree.WellFormed) (member : name ∈ tree.namesIn names) : Path.IsName name := by
  obtain ⟨entry, member⟩ := mem_namesIn.mp member
  exact wf.named _ member name (by simp)

/-- A walk below a directory stays below it, and where it finds no fault there is a file. -/
theorem isBelow_of_mem_findingsIn (wf : tree.WellFormed) (found : finding ∈ tree.findingsIn room above directory) :
    Path.IsBelow directory.2 finding.path ∧ (finding.fault = none → tree.isFile finding.path) := by
  induction room generalizing above directory with
  | zero => cases found
  | succ room ih =>
      obtain ⟨name, member, found⟩ := List.mem_flatMap.mp found
      have named := wf.isName member
      rcases mem_visit wf found with ⟨here, file⟩ | ⟨names, found⟩
      · exact ⟨here ▸ Path.isBelow_join named, file⟩
      · obtain ⟨below, file⟩ := ih found
        exact ⟨below.of_join named, file⟩

/-- What is found at an entry has a path that goes through the name of the entry. -/
theorem exists_path_of_mem_visit (wf : tree.WellFormed) (named : Path.IsName name)
    (found : finding ∈ tree.visit (tree.findingsIn room) ancestors directory name) :
    ∃ names, (∀ next ∈ name :: names, Path.IsName next) ∧ finding.path = Path.under directory.2 (name :: names) := by
  rcases mem_visit wf found with ⟨here, -⟩ | ⟨_, found⟩
  · exact ⟨[], List.forall_mem_singleton.mpr named, here⟩
  · obtain ⟨⟨names, -, others, same⟩, -⟩ := isBelow_of_mem_findingsIn wf found
    exact ⟨names, List.forall_mem_cons.mpr ⟨named, others⟩, same⟩

theorem nodup_findingsIn (wf : tree.WellFormed) (written : directory.2 ≠ "") :
    ((tree.findingsIn room above directory).map (·.path)).Nodup := by
  induction room generalizing above directory with
  | zero => exact List.nodup_nil
  | succ room ih =>
      rw [findingsIn, List.map_flatMap, List.nodup_flatMap]
      constructor
      · intro name _
        rcases visit_cases wf (tree.findingsIn room) (directory :: above) directory name with
          ⟨fault, visited, -⟩ | ⟨names, entered⟩
        · rw [visited]
          exact List.nodup_singleton _
        · rw [entered]
          exact ih (Path.join_ne_empty written)
      · -- The paths found at two entries go on with different names.
        refine (nodup_namesIn wf.distinct directory.1).imp_of_mem fun {name other} member member' different path => ?_
        intro inside inside'
        obtain ⟨finding, found, rfl⟩ := List.mem_map.mp inside
        obtain ⟨finding', found', same⟩ := List.mem_map.mp inside'
        obtain ⟨names, named, path⟩ := exists_path_of_mem_visit wf (wf.isName member) found
        obtain ⟨names', named', path'⟩ := exists_path_of_mem_visit wf (wf.isName member') found'
        rw [path, path'] at same
        exact different (List.cons.inj (Path.under_injective named' named written same)).1.symm

/-! ## How deep a walk gets -/

/-- The length of the longest list of names that leads to an entry. -/
def deepest (tree : FileTree) : Nat := (tree.entries.map (·.1.length)).foldl max 0

/-- The names that lead to directories which are not being visited, files and links counted as well. -/
def unvisited (tree : FileTree) (ancestors : List Ancestor) : Finset (List String) :=
  insert [] (tree.entries.map (·.1)).toFinset \ (ancestors.map (·.1)).toFinset

/-- A bound for the directories that a walk may still enter one in another. -/
def ahead (tree : FileTree) (above : List Ancestor) (directory : Ancestor) : Nat :=
  (tree.unvisited (directory :: above)).card * (tree.deepest + 1) + (tree.deepest - directory.1.length)

theorem length_le_deepest (found : tree.entry? names = some entry) :
    names.length ≤ tree.deepest := by
  rcases mem_of_entry?_eq_some found with ⟨rfl, -⟩ | member
  · exact Nat.zero_le _
  · rw [deepest, List.foldl_max]
    exact le_max_of_le_right (List.le_max?_getD_of_mem (List.mem_map_of_mem member))

/-- With each directory entered there are fewer ahead. One reached by a link is new, and one in the directory has a
longer list of names. -/
theorem ahead_lt (path : String) (there : tree.entry? names = some entry)
    (new : names ∉ (directory :: above).map (·.1) ∨ ∃ name, names = directory.1 ++ [name]) :
    tree.ahead (directory :: above) (names, path) < tree.ahead above directory := by
  have length := length_le_deepest there
  have fewer : tree.unvisited ((names, path) :: directory :: above) ⊆ tree.unvisited (directory :: above) := by
    apply Finset.sdiff_subset_sdiff (Finset.Subset.refl _)
    simp
  unfold ahead
  rcases new with new | ⟨name, rfl⟩
  · have inside : names ∈ tree.unvisited (directory :: above) := by
      refine Finset.mem_sdiff.mpr ⟨?_, mt List.mem_toFinset.mp new⟩
      rcases mem_of_entry?_eq_some there with ⟨rfl, -⟩ | member
      · exact Finset.mem_insert_self _ _
      · exact Finset.mem_insert_of_mem (List.mem_toFinset.mpr (List.mem_map_of_mem member))
    have less : (tree.unvisited ((names, path) :: directory :: above)).card <
        (tree.unvisited (directory :: above)).card := by
      refine Finset.card_lt_card (Finset.ssubset_iff_subset_ne.mpr ⟨fewer, ?_⟩)
      intro same
      rw [← same] at inside
      simp [unvisited] at inside
    have weights := Nat.mul_le_mul_right (tree.deepest + 1) less
    rw [Nat.succ_mul] at weights
    omega
  · have weights := Nat.mul_le_mul_right (tree.deepest + 1) (Finset.card_le_card fewer)
    rw [List.length_append, List.length_singleton] at length ⊢
    omega

theorem ahead_lt_depthLimit {path : String} : tree.ahead [] (names, path) < tree.depthLimit := by
  have few : (tree.unvisited [(names, path)]).card ≤ tree.entries.length + 1 := by
    refine (Finset.card_le_card Finset.sdiff_subset).trans ((Finset.card_insert_le _ _).trans ?_)
    simpa using List.toFinset_card_le (tree.entries.map (·.1))
  calc tree.ahead [] (names, path)
      ≤ (tree.entries.length + 1) * (tree.deepest + 1) + tree.deepest :=
        Nat.add_le_add (Nat.mul_le_mul_right _ few) (Nat.sub_le _ _)
    _ < (tree.entries.length + 2) * (tree.deepest + 1) := by
        simp only [Nat.add_mul]
        omega
    _ ≤ tree.depthLimit := Nat.mul_le_mul_left _ (Nat.le_succ _)

/-! ## All files are found -/

section Complete

variable {path : String} {here : List String} (arrived : tree.locate path = .ok here)

include arrived

theorem mem_namesIn_of_locate (named : Path.IsName name) (written : path ≠ "")
    (located : tree.locate (Path.join path name) = .ok names) : name ∈ tree.namesIn here := by
  obtain ⟨_, entry, arrived', -, there, -⟩ := locate_join_eq_ok named written located
  obtain rfl := Except.ok.inj (arrived.symm.trans arrived')
  exact mem_namesIn.mpr ⟨entry, (mem_of_entry?_eq_some there).resolve_left (by simp)⟩

/-- A directory that is not at fault is entered, and there are fewer ahead then. -/
theorem visit_enters (named : Path.IsName name) (written : path ≠ "")
    (located : tree.locate (Path.join path name) = .ok names)
    (inside : ∃ readable, tree.entry? names = some (.directory readable))
    (sound : ∀ finding ∈ tree.visit enter ((here, path) :: above) (here, path) name, finding.Sound tree) :
    tree.visit enter ((here, path) :: above) (here, path) name =
      enter ((here, path) :: above) (names, Path.join path name) ∧
    tree.ahead ((here, path) :: above) (names, Path.join path name) < tree.ahead above (here, path) := by
  obtain ⟨_, entry, arrived', -, there, plain⟩ := locate_join_eq_ok named written located
  obtain rfl := Except.ok.inj (arrived.symm.trans arrived')
  obtain ⟨readable, inside⟩ := inside
  have directory : tree.isDirectory (Path.join path name) := isDirectory_iff.mpr ⟨names, readable, located, inside⟩
  have clear {fault : WalkFault} (found : ⟨Path.join path name, some fault⟩ ∈
      tree.visit enter ((here, path) :: above) (here, path) name) : False := by
    rcases sound _ found with none | other
    · cases none
    · exact other directory
  cases readable with
  | false =>
      obtain ⟨isLink, unlisted⟩ : ∃ isLink, tree.visit enter _ (here, path) name = [⟨_, some (.unlisted isLink)⟩] :=
        visit_unlisted enter ((here, path) :: above) located inside
      exact (clear (unlisted ▸ List.mem_singleton_self _)).elim
  | true =>
      have visited : (∃ ancestor, tree.visit enter _ (here, path) name = [⟨_, some (.loop ancestor)⟩]) ∨ _ :=
        visit_directory enter ((here, path) :: above) located inside
      rcases visited with ⟨ancestor, loop⟩ | ⟨entered, fresh⟩
      · exact (clear (loop ▸ List.mem_singleton_self _)).elim
      · refine ⟨entered, ahead_lt _ inside ?_⟩
        cases link : entry.isLink with
        | true =>
            left
            intro visited
            obtain ⟨ancestor, visiting, same⟩ := List.mem_map.mp visited
            exact fresh (by simp [there, link]) ancestor visiting same
        | false => exact .inr ⟨name, plain link⟩

/-- Where no directory is at fault, each file below a directory is found. -/
theorem mem_findingsIn_of_isFile (some_ : names ≠ []) (named : ∀ name ∈ names, Path.IsName name) (written : path ≠ "")
    (file : tree.isFile (Path.under path names)) (deep : tree.ahead above (here, path) < room)
    (sound : ∀ finding ∈ tree.findingsIn room above (here, path), finding.Sound tree) :
    ⟨Path.under path names, none⟩ ∈ tree.findingsIn room above (here, path) := by
  induction names generalizing room above here path with
  | nil => exact absurd rfl some_
  | cons name rest ih =>
      obtain ⟨room, rfl⟩ := Nat.exists_eq_add_one_of_ne_zero (Nat.ne_zero_of_lt deep)
      obtain ⟨first, others⟩ := List.forall_mem_cons.mp named
      rw [Path.under_cons] at file ⊢
      obtain ⟨final, content, readable, reached, -⟩ := isFile_iff.mp file
      obtain ⟨names, located, inside⟩ := exists_locate_of_under others (Path.join_ne_empty written) reached
      have member := mem_namesIn_of_locate arrived first written located
      have each {finding}
          (found : finding ∈ tree.visit (tree.findingsIn room) ((here, path) :: above) (here, path) name) :
          finding ∈ tree.findingsIn (room + 1) above (here, path) :=
        List.mem_flatMap.mpr ⟨name, member, found⟩
      apply each
      cases rest with
      | nil =>
          rw [visit_isFile _ _ (here, path) file]
          exact List.mem_singleton_self _
      | cons next rest =>
          obtain ⟨entered, less⟩ := visit_enters arrived first written located (inside (List.cons_ne_nil _ _))
            fun finding found => sound finding (each found)
          rw [entered] at each ⊢
          exact ih located (List.cons_ne_nil _ _) others (Path.join_ne_empty written) file (by omega)
            fun finding found => sound finding (each found)

end Complete

/-! ## Walks -/

/-- The path leads to a directory that may not be listed. -/
def IsUnlisted (tree : FileTree) (path : String) : Prop :=
  ∃ names, tree.locate path = .ok names ∧ tree.entry? names = some (.directory false)

theorem isDirectory_of_isUnlisted (closed : tree.IsUnlisted root) : tree.isDirectory root := by
  obtain ⟨names, located, here⟩ := closed
  exact isDirectory_iff.mpr ⟨names, false, located, here⟩

/-- A walk of a directory finds a fault at the directory, if that may not be listed, or else what is below it. -/
theorem walk_cases (directory : tree.isDirectory root) : root ≠ "" ∧
    (tree.IsUnlisted root ∧ tree.walk root = [⟨root, some (.unlisted (tree.isLink root))⟩] ∨
    ¬ tree.IsUnlisted root ∧ ∃ names, tree.locate root = .ok names ∧
      tree.walk root = tree.findingsIn tree.depthLimit [] (names, root)) := by
  obtain ⟨names, readable, located, here⟩ := isDirectory_iff.mp directory
  constructor
  · rintro rfl
    cases located
  · cases readable with
    | false => exact .inl ⟨⟨names, located, here⟩, by simp only [walk, located, here]⟩
    | true => exact .inr ⟨by simp [IsUnlisted, located, here], names, located, by simp only [walk, located, here]⟩

theorem isBelow_of_mem_walk (wf : tree.WellFormed) (directory : tree.isDirectory root)
    (found : finding ∈ tree.walk root) :
    tree.IsUnlisted root ∧ finding = ⟨root, some (.unlisted (tree.isLink root))⟩ ∨
    ¬ tree.IsUnlisted root ∧ Path.IsBelow root finding.path ∧ (finding.fault = none → tree.isFile finding.path) := by
  obtain ⟨-, ⟨unlisted, walked⟩ | ⟨listed, names, -, walked⟩⟩ := walk_cases directory
  · rw [walked, List.mem_singleton] at found
    exact .inl ⟨unlisted, found⟩
  · rw [walked] at found
    exact .inr ⟨listed, isBelow_of_mem_findingsIn wf found⟩

theorem nodup_walk (wf : tree.WellFormed) (directory : tree.isDirectory root) :
    ((tree.walk root).map (·.path)).Nodup := by
  obtain ⟨written, ⟨-, walked⟩ | ⟨-, names, -, walked⟩⟩ := walk_cases directory
  · rw [walked]
    exact List.nodup_singleton _
  · rw [walked]
    exact nodup_findingsIn wf written

theorem mem_walk_of_isFile (directory : tree.isDirectory root) {path : String} (below : Path.IsBelow root path)
    (file : tree.isFile path) (sound : ∀ finding ∈ tree.walk root, finding.Sound tree) :
    ⟨path, none⟩ ∈ tree.walk root := by
  obtain ⟨written, ⟨-, walked⟩ | ⟨-, here, located, walked⟩⟩ := walk_cases directory
  · rw [walked, List.forall_mem_singleton] at sound
    exact sound.elim nofun fun other => (other directory).elim
  · obtain ⟨names, some_, named, rfl⟩ := below
    rw [walked] at sound ⊢
    exact mem_findingsIn_of_isFile located some_ named written file ahead_lt_depthLimit sound

/-! ## The order of the entries -/

section Relists

variable (relists : other.Relists tree) (wf : tree.WellFormed)

include relists

theorem Relists.depthLimit_eq : other.depthLimit = tree.depthLimit := by
  have lengths := relists.entries.map (·.1.length)
  rw [depthLimit, depthLimit, relists.entries.length_eq, lengths.foldl_eq]

include wf

theorem Relists.findingsIn_perm :
    (other.findingsIn room above directory).Perm (tree.findingsIn room above directory) := by
  induction room generalizing above directory with
  | zero => exact .nil
  | succ room ih =>
      refine (relists.entries.filterMap _).flatMap fun name _ => ?_
      simp only [visit, relists.locate_eq wf, relists.entry?_eq wf]
      split
      · exact .refl _
      · split
        · exact .refl _
        · split
          · exact .refl _
          · exact ih
        · exact .refl _

/-- A tree with its entries in another order gives the same findings in another order. -/
theorem Relists.walk_perm (root : String) : (other.walk root).Perm (tree.walk root) := by
  simp only [walk, relists.locate_eq wf, relists.entry?_eq wf, relists.isLink_eq wf, relists.depthLimit_eq]
  split
  · exact .refl _
  · split
    · exact .refl _
    · exact relists.findingsIn_perm wf

end Relists

end FileTree

end ApiAtlas
