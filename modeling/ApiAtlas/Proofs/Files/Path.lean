import Mathlib.Data.List.Induction
import Mathlib.Data.List.Lex
import Mathlib.Data.String.Basic
import ApiAtlas.Files.Path
import ApiAtlas.Proofs.Text.Basic

/-! # Paths below a directory

A name that is joined to a path becomes its last part. So a path below a directory has the parts of the directory
and then its own names, and these are what is seen of it from the directory.
-/

namespace ApiAtlas

namespace Path

/-- Whether a text can name an entry. -/
structure IsName (name : String) : Prop where
  written : name ≠ ""
  notHere : name ≠ "."
  notAbove : name ≠ ".."
  whole : '/' ∉ name.toList

instance : DecidablePred IsName := fun name =>
  decidable_of_iff (name ≠ "" ∧ name ≠ "." ∧ name ≠ ".." ∧ '/' ∉ name.toList)
    ⟨fun ⟨written, notHere, notAbove, whole⟩ => ⟨written, notHere, notAbove, whole⟩,
      fun named => ⟨named.written, named.notHere, named.notAbove, named.whole⟩⟩

/-- The path that leads from a directory through names. -/
def under (directory : String) (names : List String) : String := names.foldl join directory

/-- Whether a path leads from a directory through names. -/
def IsBelow (directory path : String) : Prop :=
  ∃ names, names ≠ [] ∧ (∀ name ∈ names, IsName name) ∧ path = under directory names

variable {directory name : String} {names : List String}

theorem IsName.isIdle_eq (named : IsName name) : isIdle name = false := by
  simp [isIdle, named.written, named.notHere]

theorem pieces_ne_nil (path : String) : pieces path ≠ [] := Text.split_ne_nil _ _

theorem pieces_append_slash (front back : String) : pieces (front ++ "/" ++ back) = pieces front ++ pieces back := by
  simp [pieces, Text.split_eq_splitOn, List.splitOn_append_cons_self]

theorem pieces_eq_singleton (whole : '/' ∉ name.toList) : pieces name = [name] := by
  rw [pieces, Text.split, Text.splitChars_whole whole, List.map_singleton, String.ofList_toList]

theorem join_eq (directory name : String) :
    join directory name = directory ++ name ∨ join directory name = directory ++ ("/" ++ name) := by
  unfold join
  split
  · exact .inl rfl
  · exact .inr String.append_assoc

theorem join_ne_empty (written : directory ≠ "") : join directory name ≠ "" := by
  rcases join_eq directory name with same | same <;> simp [same, written]

theorem isAbsolute_join (written : directory ≠ "") : isAbsolute (join directory name) = isAbsolute directory := by
  obtain ⟨c, rest, same⟩ := List.exists_cons_of_ne_nil (mt String.toList_eq_nil_iff.mp written)
  rcases join_eq directory name with joined | joined <;>
    simp [isAbsolute, Text.startsWith, joined, same, List.isPrefixOf]

/-- A name joined to a path is its last piece. The slash that a path may end in stays the only one. -/
theorem pieces_join (whole : '/' ∉ name.toList) (written : directory ≠ "") : ∃ base, base ≠ [] ∧
    pieces (join directory name) = base ++ [name] ∧ (pieces directory = base ∨ pieces directory = base ++ [""]) := by
  have last := pieces_eq_singleton whole
  cases ends : directory.toList.getLast?.all (· == '/') with
  | true =>
      have some_ : directory.toList ≠ [] := mt String.toList_eq_nil_iff.mp written
      obtain ⟨front, c, same⟩ := List.eq_nil_or_concat' directory.toList |>.resolve_left some_
      obtain rfl : c = '/' := by simpa [same] using ends
      have split : directory = String.ofList front ++ "/" ++ "" := by
        apply String.toList_injective
        simp [same]
      have joined : join directory name = String.ofList front ++ "/" ++ name := by
        rw [join, if_pos ends, split, String.append_empty]
      have empty : pieces "" = [""] := by decide
      refine ⟨pieces (String.ofList front), pieces_ne_nil _, ?_, .inr ?_⟩
      · rw [joined, pieces_append_slash, last]
      · rw [split, pieces_append_slash, empty]
  | false =>
      refine ⟨pieces directory, pieces_ne_nil _, ?_, .inl rfl⟩
      rw [join, ends, if_neg Bool.false_ne_true, pieces_append_slash, last]

theorem parts_join (named : IsName name) (written : directory ≠ "") :
    parts (join directory name) = parts directory ++ [name] := by
  obtain ⟨base, some_, joined, split⟩ := pieces_join named.whole written
  obtain ⟨first, rest, rfl⟩ := List.exists_cons_of_ne_nil some_
  rw [parts, parts, joined, isAbsolute_join written]
  have idle : isIdle "" = true := by decide
  have last : (rest ++ [name]).filter (fun piece => !isIdle piece) =
      rest.filter (fun piece => !isIdle piece) ++ [name] := by
    simp [named.isIdle_eq]
  rcases split with split | split <;> rw [split] <;> simp only [List.cons_append, last, List.filter_append] <;>
    split_ifs <;> simp [idle]

@[simp] theorem under_nil (directory : String) : under directory [] = directory := rfl

@[simp] theorem under_cons (directory name : String) (names : List String) :
    under directory (name :: names) = under (join directory name) names := rfl

theorem under_concat (directory : String) (names : List String) (name : String) :
    under directory (names ++ [name]) = join (under directory names) name := by
  simp [under]

theorem under_ne_empty (written : directory ≠ "") (names : List String) : under directory names ≠ "" := by
  induction names generalizing directory with
  | nil => exact written
  | cons name names ih => exact ih (join_ne_empty written)

theorem parts_under (named : ∀ name ∈ names, IsName name) (written : directory ≠ "") :
    parts (under directory names) = parts directory ++ names := by
  induction names generalizing directory with
  | nil => simp
  | cons name names ih =>
      obtain ⟨here, others⟩ := List.forall_mem_cons.mp named
      rw [under_cons, ih others (join_ne_empty written), parts_join here written, List.append_assoc]
      rfl

theorem isBelow_join (named : IsName name) : IsBelow directory (join directory name) :=
  ⟨[name], List.cons_ne_nil _ _, List.forall_mem_singleton.mpr named, rfl⟩

theorem IsBelow.of_join {path : String} (below : IsBelow (join directory name) path) (named : IsName name) :
    IsBelow directory path := by
  obtain ⟨names, -, others, rfl⟩ := below
  exact ⟨name :: names, List.cons_ne_nil _ _, List.forall_mem_cons.mpr ⟨named, others⟩, rfl⟩

/-- Different names lead to different paths. -/
theorem under_injective {others : List String} (named : ∀ name ∈ names, IsName name)
    (named' : ∀ name ∈ others, IsName name) (written : directory ≠ "")
    (same : under directory names = under directory others) : names = others := by
  have parts := congrArg parts same
  rwa [parts_under named written, parts_under named' written, List.append_cancel_left_eq] at parts

/-- The names stand at the end of the pieces, one after another. -/
theorem exists_pieces_under (named : ∀ name ∈ names, IsName name) (written : directory ≠ "") :
    ∃ front, pieces (under directory names) = front ++ names := by
  induction names using List.reverseRecOn with
  | nil => exact ⟨pieces directory, by simp⟩
  | append_singleton names name ih =>
      obtain ⟨others, last⟩ := List.forall_mem_append.mp named
      obtain ⟨front, same⟩ := ih others
      have last := List.forall_mem_singleton.mp last
      obtain ⟨base, -, joined, split⟩ := pieces_join last.whole (under_ne_empty written names)
      rw [under_concat, joined]
      rcases split with split | split
      · exact ⟨front, by simp [← split, same]⟩
      · rcases List.eq_nil_or_concat' names with rfl | ⟨init, final, rfl⟩
        · exact ⟨base, rfl⟩
        · -- No name is empty, so the path ends in no slash.
          have ends : "" = final := by
            simpa [← List.append_assoc] using congrArg List.getLast? (split.symm.trans same)
          exact absurd ends.symm (others final (by simp)).written

theorem lastPieces_append (named : ∀ name ∈ names, isIdle name = false) (front : List String) :
    lastPieces names.length (front ++ names) = names := by
  have counted : names.countP (fun piece => !isIdle piece) = names.length :=
    List.countP_eq_length.mpr fun name member => by simp [named name member]
  induction front with
  | nil =>
      cases names with
      | nil => rfl
      | cons name names => simp [lastPieces, named name List.mem_cons_self, List.countP_le_length]
  | cons piece front ih =>
      rw [List.cons_append, lastPieces, if_neg, ih]
      simp only [Bool.and_eq_true, decide_eq_true_eq, not_and, List.countP_cons, List.countP_append, counted]
      intro idle
      rw [if_pos idle]
      omega

theorem isAbsolute_iff {path first : String} {rest : List String} (written : path ≠ "")
    (split : pieces path = first :: rest) : isAbsolute path ↔ first = "" := by
  obtain ⟨c, text, same⟩ := List.exists_cons_of_ne_nil (mt String.toList_eq_nil_iff.mp written)
  obtain ⟨piece, others, parted⟩ := List.exists_cons_of_ne_nil (Text.splitChars_ne_nil (· == '/') text)
  rw [pieces, Text.split, same, Text.splitChars, parted] at split
  by_cases slash : c = '/'
  · simp only [slash, beq_self_eq_true, if_true, List.map_cons, List.cons.injEq] at split
    simp [← split.1, isAbsolute, Text.startsWith, same, slash, List.isPrefixOf]
  · have other : (c == '/') = false := beq_eq_false_iff_ne.mpr slash
    simp only [other, Bool.false_eq_true, if_false, List.map_cons, List.cons.injEq] at split
    simp [← split.1, isAbsolute, Text.startsWith, same, List.isPrefixOf, Ne.symm slash]

theorem parts_ne_nil (written : directory ≠ "") : parts directory ≠ [] := by
  obtain ⟨first, rest, split⟩ := List.exists_cons_of_ne_nil (pieces_ne_nil directory)
  have absolute := isAbsolute_iff written split
  rw [parts, split]
  by_cases empty : first = "" <;> simp [absolute, empty]

/-- What is seen of a path from the directory that it is below. -/
theorem relativeTo_under (named : ∀ name ∈ names, IsName name) (some_ : names ≠ []) (written : directory ≠ "") :
    relativeTo directory (under directory names) = Text.join "/" names := by
  have parts_eq := parts_under named written
  obtain ⟨front, pieces_eq⟩ := exists_pieces_under named written
  generalize under directory names = path at parts_eq pieces_eq ⊢
  have isBelow : ((parts directory).isPrefixOf (parts path) && parts directory != parts path) = true := by
    simp [parts_eq, some_]
  have whole : ((pieces path).reverse.dropWhile isIdle).reverse = front ++ names := by
    obtain ⟨init, last, rfl⟩ := (List.eq_nil_or_concat' names).resolve_left some_
    simp [pieces_eq, (named last (by simp)).isIdle_eq]
  have count : (parts path).length - (parts directory).length = names.length := by
    rw [parts_eq, List.length_append, Nat.add_sub_cancel_left]
  obtain ⟨first, rest, above⟩ := List.exists_cons_of_ne_nil (parts_ne_nil written)
  rw [relativeTo, if_pos isBelow, below, whole, count,
    lastPieces_append fun name member => (named name member).isIdle_eq, above]

theorem parts_join_names (named : ∀ name ∈ names, IsName name) (some_ : names ≠ []) :
    parts (Text.join "/" names) = names := by
  have split : pieces (Text.join "/" names) = names :=
    Text.split_join some_ fun name member => (named name member).whole
  obtain ⟨first, rest, rfl⟩ := List.exists_cons_of_ne_nil some_
  obtain ⟨here, others⟩ := List.forall_mem_cons.mp named
  have written : Text.join "/" (first :: rest) ≠ "" := by
    intro empty
    have none_ : pieces "" = [""] := by decide
    rw [empty, none_] at split
    exact here.written (List.cons.inj split).1.symm
  have relative := isAbsolute_iff written split
  have kept : rest.filter (fun piece => !isIdle piece) = rest :=
    List.filter_eq_self.mpr fun name member => by simp [(others name member).isIdle_eq]
  simp [parts, split, relative, kept, here.written]

theorem partsLe_iff {a b : List String} : partsLe a b ↔ a ≤ b := by
  rw [← not_lt]
  induction a generalizing b with
  | nil => simp [partsLe]
  | cons p ps ih =>
      cases b with
      | nil => simp [partsLe]
      | cons q qs =>
          rw [partsLe, List.cons_lt_cons_iff]
          split_ifs with same
          · simp [same, ih]
          · simp [Ne.symm same, lt_iff_le_and_ne, same]

end Path

end ApiAtlas
