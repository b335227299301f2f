import Mathlib.Data.List.Nodup
import ApiAtlas.Files.Tree
import ApiAtlas.Proofs.Except
import ApiAtlas.Proofs.Files.Path

/-! # What paths lead to

Entries of a tree, and how a path is followed to one of them. A name joined to a path is followed from the directory
that the path leads to, with the links that are left there.
-/

namespace ApiAtlas

namespace FileTree

/-- Whether the entries make up a tree: each is in a directory, under a name, and no two have the same names. -/
structure WellFormed (tree : FileTree) : Prop where
  named : ∀ entry ∈ tree.entries, ∀ name ∈ entry.1, Path.IsName name
  distinct : (tree.entries.map (·.1)).Nodup
  above : ∀ entry ∈ tree.entries, ∃ directory name readable, entry.1 = directory ++ [name] ∧
    tree.entry? directory = some (.directory readable)

variable {tree other : FileTree} {links : Nat} {here names directory : List String} {name path : String}
  {entry : FileEntry}

theorem any_isDirectory_iff :
    (tree.entry? names).any (·.isDirectory) ↔ ∃ readable, tree.entry? names = some (.directory readable) := by
  rcases tree.entry? names with _ | (_ | _ | _) <;> simp [FileEntry.isDirectory]

theorem entry?_ne_nil (some_ : names ≠ []) :
    tree.entry? names = (tree.entries.find? (·.1 == names)).map (·.2) := by
  cases names with
  | nil => exact absurd rfl some_
  | cons name names => rfl

theorem mem_of_entry?_eq_some (found : tree.entry? names = some entry) :
    names = [] ∧ entry = .directory true ∨ (names, entry) ∈ tree.entries := by
  by_cases root : names = []
  · subst root
    cases found
    exact .inl ⟨rfl, rfl⟩
  · rw [entry?_ne_nil root, Option.map_eq_some_iff] at found
    obtain ⟨⟨_, _⟩, found, rfl⟩ := found
    obtain rfl : _ = names := by simpa using List.find?_some found
    exact .inr (List.mem_of_find?_eq_some found)

theorem entry?_eq_some_iff (distinct : (tree.entries.map (·.1)).Nodup) (some_ : names ≠ []) :
    tree.entry? names = some entry ↔ (names, entry) ∈ tree.entries := by
  constructor
  · intro found
    exact (mem_of_entry?_eq_some found).resolve_left fun root => some_ root.1
  · intro member
    have there : (tree.entries.find? (·.1 == names)).isSome := List.find?_isSome.mpr ⟨_, member, by simp⟩
    obtain ⟨old, found⟩ := Option.isSome_iff_exists.mp there
    have key : old.1 = names := by simpa using List.find?_some found
    have same := List.inj_on_of_nodup_map distinct (List.mem_of_find?_eq_some found) member key
    rw [entry?_ne_nil some_, found, same]
    rfl

theorem mem_namesIn : name ∈ tree.namesIn directory ↔ ∃ entry, (directory ++ [name], entry) ∈ tree.entries := by
  simp only [namesIn, List.mem_filterMap]
  constructor
  · rintro ⟨⟨names, entry⟩, member, last⟩
    rcases List.eq_nil_or_concat' names with rfl | ⟨above, final, rfl⟩
    · cases last
    · obtain ⟨rfl, rfl⟩ : above = directory ∧ final = name := by simpa using last
      exact ⟨entry, member⟩
  · rintro ⟨entry, member⟩
    exact ⟨_, member, by simp⟩

theorem nodup_namesIn (distinct : (tree.entries.map (·.1)).Nodup) (directory : List String) :
    (tree.namesIn directory).Nodup := by
  refine (List.pairwise_map.mp distinct).filterMap _ fun {old other} different name last name' last' same => ?_
  obtain ⟨names, entry⟩ := old
  obtain ⟨others, entry'⟩ := other
  subst same
  rcases List.eq_nil_or_concat' names with rfl | ⟨above, final, rfl⟩ <;>
    rcases List.eq_nil_or_concat' others with rfl | ⟨above', final', rfl⟩ <;>
    simp at last last'
  grind

/-! ## Following a path -/

/-- Follows pieces of a path as `follow` does, and keeps how many links may still be followed. -/
def reach (tree : FileTree) (links : Nat) (here pending : List String) : Except FileError (Nat × List String) :=
  match pending with
  | [] => .ok (links, here)
  | piece :: rest =>
    if !(tree.entry? here).any (·.isDirectory) then .error .notDirectory
    else if Path.isIdle piece then reach tree links here rest
    else if piece = ".." then reach tree links here.dropLast rest
    else
      match tree.entry? (here ++ [piece]) with
      | none => .error .notFound
      | some (.link target) =>
        match links with
        | 0 => .error .linkCycle
        | left + 1 =>
          reach tree left (if Path.isAbsolute target then [] else here) (Path.pieces target ++ rest)
      | some _ => reach tree links (here ++ [piece]) rest
termination_by (links, pending.length)

theorem follow_eq (tree : FileTree) (links : Nat) (here pending : List String) :
    tree.follow links here pending = (tree.reach links here pending).map (·.2) := by
  fun_induction follow tree links here pending <;> simp_all [reach, Except.map]

theorem reach_append (tree : FileTree) (links : Nat) (here front back : List String) :
    tree.reach links here (front ++ back) =
      (tree.reach links here front).bind fun reached => tree.reach reached.1 reached.2 back := by
  fun_induction reach tree links here front <;> simp_all [reach, Except.bind]

variable {reached : Nat × List String}

theorem reach_cons_eq_ok (h : tree.reach links here (name :: names) = .ok reached) :
    ∃ readable, tree.entry? here = some (.directory readable) := by
  rw [reach] at h
  split at h
  · cases h
  · rename_i directory
    exact any_isDirectory_iff.mp (by simpa using directory)

theorem reach_idle {next : String} {rest : List String} (idle : Path.isIdle name) :
    tree.reach links here (name :: next :: rest) = tree.reach links here (next :: rest) := by
  rw [reach]
  split
  · rename_i other
    rw [reach, if_pos other]
  · rfl

/-- A name leads to an entry of the directory, and on from there only if that is a link. -/
theorem reach_name (named : Path.IsName name) (h : tree.reach links here [name] = .ok reached) :
    ∃ entry, tree.entry? (here ++ [name]) = some entry ∧ (entry.isLink = false → reached.2 = here ++ [name]) := by
  have directory := any_isDirectory_iff.mpr (reach_cons_eq_ok h)
  rw [reach, directory, named.isIdle_eq] at h
  simp only [Bool.not_true, Bool.false_eq_true, if_false, named.notAbove] at h
  cases found : tree.entry? (here ++ [name]) with
  | none => simp [found] at h
  | some entry =>
      refine ⟨entry, rfl, fun plain => ?_⟩
      cases entry with
      | link target => cases plain
      | file content readable =>
          simp only [found, reach, Except.ok.injEq] at h
          exact congrArg Prod.snd h.symm
      | directory readable =>
          simp only [found, reach, Except.ok.injEq] at h
          exact congrArg Prod.snd h.symm

/-- Where a path leads, and how many links may still be followed there. -/
def arrive (tree : FileTree) (path : String) : Except FileError (Nat × List String) :=
  if path = "" then .error .notFound
  else tree.reach linkLimit (if Path.isAbsolute path then [] else tree.home) (Path.pieces path)

theorem locate_eq (tree : FileTree) (path : String) : tree.locate path = (tree.arrive path).map (·.2) := by
  unfold locate arrive
  split
  · rfl
  · exact follow_eq _ _ _ _

theorem arrive_join (whole : '/' ∉ name.toList) (written : path ≠ "") :
    tree.arrive (Path.join path name) =
      (tree.arrive path).bind fun reached => tree.reach reached.1 reached.2 [name] := by
  obtain ⟨base, -, joined, split⟩ := Path.pieces_join whole written
  rw [arrive, if_neg (Path.join_ne_empty written), arrive, if_neg written, Path.isAbsolute_join written, joined]
  rcases split with split | split
  · rw [split, reach_append]
  · -- The empty piece after the last slash is passed on the way to the name.
    rw [split, ← reach_append, List.append_assoc, reach_append, reach_append]
    congr 1
    funext reached
    exact (reach_idle (by decide)).symm

/-- A path that goes on after a name leads through a directory. -/
theorem locate_join_eq_ok (named : Path.IsName name) (written : path ≠ "")
    (located : tree.locate (Path.join path name) = .ok names) :
    ∃ directory entry, tree.locate path = .ok directory ∧
      (∃ readable, tree.entry? directory = some (.directory readable)) ∧
      tree.entry? (directory ++ [name]) = some entry ∧ (entry.isLink = false → names = directory ++ [name]) := by
  rw [locate_eq, arrive_join named.whole written, map_eq_ok_iff] at located
  obtain ⟨final, located, rfl⟩ := located
  obtain ⟨reached, arrived, step⟩ := bind_eq_ok_iff.mp located
  obtain ⟨entry, found, plain⟩ := reach_name named step
  refine ⟨reached.2, entry, ?_, reach_cons_eq_ok step, found, plain⟩
  rw [locate_eq, arrived]
  rfl

/-- What a path leads to is on the way of all paths below it. -/
theorem exists_locate_of_under {through : List String} (named : ∀ name ∈ through, Path.IsName name)
    (written : path ≠ "") (located : tree.locate (Path.under path through) = .ok names) :
    ∃ found, tree.locate path = .ok found ∧
      (through ≠ [] → ∃ readable, tree.entry? found = some (.directory readable)) := by
  induction through generalizing path with
  | nil => exact ⟨names, located, absurd rfl⟩
  | cons name through ih =>
      obtain ⟨here, others⟩ := List.forall_mem_cons.mp named
      rw [Path.under_cons] at located
      obtain ⟨next, located, -⟩ := ih others (Path.join_ne_empty written) located
      obtain ⟨directory, entry, located, there, -⟩ := locate_join_eq_ok here written located
      exact ⟨directory, located, fun _ => there⟩

theorem WellFormed.dropLast (wf : tree.WellFormed) (found : tree.entry? here = some entry) :
    ∃ readable, tree.entry? here.dropLast = some (.directory readable) := by
  rcases mem_of_entry?_eq_some found with ⟨rfl, -⟩ | member
  · exact ⟨true, rfl⟩
  · obtain ⟨above, name, readable, same, there⟩ := wf.above _ member
    simp only at same
    rw [same, List.dropLast_concat]
    exact ⟨readable, there⟩

/-- Following pieces ends at an entry that is no link. -/
theorem WellFormed.reach (wf : tree.WellFormed) (start : ∃ entry, tree.entry? here = some entry ∧ entry.isLink = false)
    (h : tree.reach links here names = .ok reached) :
    ∃ entry, tree.entry? reached.2 = some entry ∧ entry.isLink = false := by
  fun_induction FileTree.reach tree links here names with
  | case1 links here =>
      cases h
      exact start
  | case2 | case5 | case6 => cases h
  | case3 links here piece rest _ _ ih => exact ih start h
  | case4 links here rest directory _ ih =>
      obtain ⟨readable, there⟩ := any_isDirectory_iff.mp (by simpa using directory)
      obtain ⟨readable, above⟩ := wf.dropLast there
      exact ih ⟨_, above, rfl⟩ h
  | case7 here piece rest _ _ _ target _ left ih =>
      refine ih ?_ h
      split
      · exact ⟨.directory true, rfl, rfl⟩
      · exact start
  | case8 links here piece rest _ _ _ entry plain found ih =>
      refine ih ⟨entry, found, ?_⟩ h
      cases entry with
      | link target => exact (plain target rfl).elim
      | file content readable => rfl
      | directory readable => rfl

/-- A path leads to a file or to a directory. -/
theorem WellFormed.locate (wf : tree.WellFormed) (located : tree.locate path = .ok names) :
    ∃ entry, tree.entry? names = some entry ∧ entry.isLink = false := by
  by_cases empty : path = ""
  · rw [FileTree.locate, if_pos empty] at located
    cases located
  · obtain ⟨first, rest, split⟩ := List.exists_cons_of_ne_nil (Path.pieces_ne_nil path)
    rw [locate_eq, arrive, if_neg empty, split, map_eq_ok_iff] at located
    obtain ⟨reached, followed, rfl⟩ := located
    obtain ⟨readable, start⟩ := reach_cons_eq_ok followed
    exact wf.reach ⟨_, start, rfl⟩ followed

theorem isFile_iff : tree.isFile path ↔
    ∃ names content readable, tree.locate path = .ok names ∧ tree.entry? names = some (.file content readable) := by
  rw [isFile]
  cases located : tree.locate path with
  | error error => simp
  | ok names => rcases found : tree.entry? names with _ | (_ | _ | _) <;> simp [FileEntry.isFile, found, -Bool.exists_bool]

theorem isDirectory_iff : tree.isDirectory path ↔
    ∃ names readable, tree.locate path = .ok names ∧ tree.entry? names = some (.directory readable) := by
  rw [isDirectory]
  cases located : tree.locate path with
  | error error => simp
  | ok names => rcases found : tree.entry? names with _ | (_ | _ | _) <;> simp [FileEntry.isDirectory, found]

theorem isDirectory_of_isFile (file : tree.isFile path) : tree.isDirectory path = false := by
  obtain ⟨names, content, readable, located, here⟩ := isFile_iff.mp file
  simp [isDirectory, located, here, FileEntry.isDirectory]

/-! ## The order of the entries -/

/-- Whether a tree has the entries of another one, in any order. -/
structure Relists (other tree : FileTree) : Prop where
  entries : other.entries.Perm tree.entries
  home : other.home = tree.home

section Relists

variable (relists : other.Relists tree) (wf : tree.WellFormed)

include relists wf

theorem Relists.distinct : (other.entries.map (·.1)).Nodup :=
  (relists.entries.map _).nodup_iff.mpr wf.distinct

theorem Relists.entry?_eq (names : List String) : other.entry? names = tree.entry? names := by
  by_cases root : names = []
  · rw [root]
    rfl
  · ext entry
    rw [entry?_eq_some_iff (relists.distinct wf) root, entry?_eq_some_iff wf.distinct root, relists.entries.mem_iff]

theorem Relists.follow_eq (links : Nat) (here pending : List String) :
    other.follow links here pending = tree.follow links here pending := by
  have same := relists.entry?_eq wf
  fun_induction follow other links here pending <;> simp_all [follow]

theorem Relists.locate_eq (path : String) : other.locate path = tree.locate path := by
  rw [FileTree.locate, FileTree.locate, relists.home, relists.follow_eq wf]

theorem Relists.isLink_eq (path : String) : other.isLink path = tree.isLink path := by
  simp only [isLink, relists.home, relists.follow_eq wf, relists.entry?_eq wf]

theorem Relists.isDirectory_eq (path : String) : other.isDirectory path = tree.isDirectory path := by
  simp only [isDirectory, relists.locate_eq wf, relists.entry?_eq wf]

end Relists

end FileTree

end ApiAtlas
