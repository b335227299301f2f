import ApiAtlas.Document.Operation
import ApiAtlas.Proofs.Naming.SnakeCase

/-! # Names of routes without a name

A route that is given no name is called by its method and the words of its path. Such a name is in snake case unless
the path has a placeholder without letters and digits: then nothing follows the underscore that introduces it.
-/

namespace ApiAtlas

namespace Naming

variable {c : Char} {name first second segment path : List Char} {words : List (List Char)}

/-- A word, or several of them in snake case. -/
structure IsWord (name : List Char) : Prop extends IsSnake name where
  some_ : name ≠ []

section Joining

/-- Words are joined by one underscore, and only words can be. -/
theorem isWord_append_iff : IsWord (first ++ '_' :: second) ↔ IsWord first ∧ IsWord second := by
  constructor
  · intro ⟨⟨plain, start, finish, single⟩, _⟩
    rw [List.isChain_append, List.isChain_cons] at single
    obtain ⟨single, ⟨after, single'⟩, around⟩ := single
    refine ⟨⟨⟨fun c member => plain c (by simp [member]), ?_, ?_, single⟩, ?_⟩,
      ⟨⟨fun c member => plain c (by simp [member]), ?_, ?_, single'⟩, ?_⟩⟩
    · cases first <;> simp_all
    · intro last
      simpa using around '_' last '_' rfl
    · rintro rfl
      exact start rfl
    · intro next
      simpa using after '_' next
    · cases second with
      | nil => simp
      | cons d rest => simpa using finish
    · rintro rfl
      simp at finish
  · intro ⟨⟨⟨plain, start, finish, single⟩, some_⟩, ⟨⟨plain', start', finish', single'⟩, some_'⟩⟩
    refine ⟨⟨fun c member => ?_, ?_, ?_, ?_⟩, by simp⟩
    · rcases List.mem_append.mp member with member | member
      · exact plain c member
      · rcases List.mem_cons.mp member with rfl | member
        · exact .inr rfl
        · exact plain' c member
    · cases first with
      | nil => exact absurd rfl some_
      | cons d rest => simpa using start
    · cases second with
      | nil => exact absurd rfl some_'
      | cons d rest => simpa using finish'
    · rw [List.isChain_append, List.isChain_cons]
      refine ⟨single, ⟨fun d next => .inr ?_, single'⟩, fun d last e next => .inl ?_⟩
      · rintro rfl
        exact start' next
      · rintro rfl
        exact finish last

theorem isWord_intercalate_iff :
    IsWord (List.intercalate ['_'] (name :: words)) ↔ ∀ word ∈ name :: words, IsWord word := by
  induction words generalizing name with
  | nil => simp
  | cons word words ih =>
      rw [List.intercalate_cons_cons, List.append_assoc, List.singleton_append, isWord_append_iff, ih]
      exact List.forall_mem_cons.symm

theorem isWord_of_forall (some_ : name ≠ []) (word : ∀ c ∈ name, isWordChar c) : IsWord name := by
  have whole : ∀ c ∈ name, c ≠ '_' := fun c member => ne_underscore (word c member)
  refine ⟨⟨fun c member => .inl (word c member), ?_, ?_, ?_⟩, some_⟩
  · exact fun first => whole '_' (List.mem_of_mem_head? first) rfl
  · exact fun last => whole '_' (List.mem_of_getLast? last) rfl
  · exact (List.pairwise_of_forall_mem_list fun c here _ _ => .inl (whole c here)).isChain

theorem head?_intercalate (some_ : name ≠ []) : (List.intercalate ['_'] (name :: words)).head? = name.head? := by
  obtain ⟨c, rest, rfl⟩ := List.exists_cons_of_ne_nil some_
  cases words <;> simp [List.intercalate_cons_cons]

theorem plain_intercalate (plain : ∀ word ∈ words, ∀ c ∈ word, isWordChar c ∨ c = '_')
    (member : c ∈ List.intercalate ['_'] words) : isWordChar c ∨ c = '_' := by
  induction words with
  | nil => simp at member
  | cons word words ih =>
      obtain ⟨here, plain⟩ := List.forall_mem_cons.mp plain
      cases words with
      | nil => exact here c (by simpa using member)
      | cons next words =>
          simp only [List.intercalate_cons_cons, List.mem_append, List.mem_singleton] at member
          rcases member with (member | rfl) | member
          · exact here c member
          · exact .inr rfl
          · exact ih plain member

end Joining

section Segments

theorem placeholder?_eq_some_iff : placeholder? segment = some name ↔ segment = '\x7b' :: name ++ ['\x7d'] := by
  constructor
  · intro found
    unfold placeholder? at found
    split at found
    · split at found
      · rename_i reversed
        cases found
        rw [List.reverse_eq_iff] at reversed
        simp [reversed]
      · cases found
    · cases found
  · rintro rfl
    simp [placeholder?]

/-- The snake case of a text is a word as soon as there is something to be written. -/
theorem isWord_snakeChars_iff (ascii : ∀ c ∈ name, Letter.isAscii c) :
    IsWord (snakeChars name) ↔ ∃ c ∈ name, c.isAlphanum := by
  have snake := isSnake_snakeChars ascii
  have kept := filter_snakeChars ascii
  constructor
  · intro ⟨_, some_⟩
    obtain ⟨c, start⟩ := Option.ne_none_iff_exists'.mp fun none => some_ (List.head?_eq_none_iff.mp none)
    have other : c ≠ '_' := by
      rintro rfl
      exact snake.first start
    have member : c ∈ (snakeChars name).filter (· ≠ '_') :=
      List.mem_filter.mpr ⟨List.mem_of_mem_head? start, by simpa using other⟩
    rw [kept] at member
    obtain ⟨d, there, _⟩ := List.mem_map.mp member
    obtain ⟨there, letter⟩ := List.mem_filter.mp there
    exact ⟨d, there, letter⟩
  · intro ⟨c, member, letter⟩
    refine ⟨snake, fun nothing => ?_⟩
    have written : c.toLower ∈ (snakeChars name).filter (· ≠ '_') := by
      rw [kept]
      exact List.mem_map_of_mem (List.mem_filter.mpr ⟨member, letter⟩)
    rw [nothing] at written
    simp at written

/-- What a segment contributes is no word only where a placeholder has no letters and digits. -/
theorem isWord_segmentWord_iff (ascii : ∀ c ∈ segment, Letter.isAscii c) (some_ : segmentWord segment ≠ []) :
    IsWord (segmentWord segment) ↔
      ∀ name, segment = '\x7b' :: name ++ ['\x7d'] → ∃ c ∈ name, c.isAlphanum := by
  cases found : placeholder? segment with
  | some name =>
      have braced := placeholder?_eq_some_iff.mp found
      have introduces : IsWord ['b', 'y'] := isWord_of_forall (by simp) (List.all_eq_true.mp (by decide))
      have word : segmentWord segment = ['b', 'y'] ++ '_' :: snakeChars name := by simp [segmentWord, found]
      have inside : ∀ c ∈ name, Letter.isAscii c := fun c member => ascii c (by simp [braced, member])
      rw [word, isWord_append_iff, isWord_snakeChars_iff inside]
      constructor
      · rintro ⟨_, letters⟩ name' braced'
        obtain rfl : name = name' := by simpa [braced] using braced'
        exact letters
      · exact fun each => ⟨introduces, each name braced⟩
  | none =>
      have word : segmentWord segment = snakeChars segment := by simp [segmentWord, found]
      rw [word] at some_ ⊢
      refine ⟨fun _ name braced => ?_, fun _ => ⟨isSnake_snakeChars ascii, some_⟩⟩
      rw [placeholder?_eq_some_iff.mpr braced] at found
      cases found

theorem plain_segmentWord (ascii : ∀ c ∈ segment, Letter.isAscii c) (member : c ∈ segmentWord segment) :
    isWordChar c ∨ c = '_' := by
  cases found : placeholder? segment with
  | some name =>
      have inside : ∀ c ∈ name, Letter.isAscii c := by
        intro c member
        exact ascii c (by simp [placeholder?_eq_some_iff.mp found, member])
      rw [segmentWord, found, List.mem_append] at member
      rcases member with member | member
      · have plain : ∀ c ∈ ['b', 'y', '_'], isWordChar c ∨ c = '_' := by simp [isWordChar]
        exact plain c member
      · exact (isSnake_snakeChars inside).plain c member
  | none =>
      rw [segmentWord, found] at member
      exact (isSnake_snakeChars ascii).plain c member

end Segments

section Routes

/-- The words of a path. -/
def pathWords (path : String) : List (List Char) :=
  (((Text.splitChars (· == '/') path.toList).filter (!·.isEmpty)).map segmentWord).filter (!·.isEmpty)

theorem mem_pathWords {word : List Char} {path : String} : word ∈ pathWords path ↔
    word ≠ [] ∧ ∃ segment ∈ Text.splitChars (· == '/') path.toList, segment ≠ [] ∧ segmentWord segment = word := by
  grind [pathWords]

theorem toList_routeName (method : Method) (path : String) : (routeName method path).toList =
    List.intercalate ['_'] ((Text.asciiLower method).toList :: pathWords path) := by
  rw [routeName, Text.join, String.toList_intercalate]
  simp [pathWords, Function.comp_def]

theorem isWord_method (key : OperationKey) : IsWord (Text.asciiLower key.method).toList := by
  cases key <;> exact isWord_of_forall (by decide) (List.all_eq_true.mp (by decide))

end Routes

/-- The name of a route is never empty; it consists of small letters, digits and underscores, and starts with a letter or
digit. It is in snake case exactly if every placeholder of the path has a letter or digit. -/
theorem isSnake_routeName_iff (key : OperationKey) (path : String) (ascii : ∀ c ∈ path.toList, Letter.isAscii c) :
    routeName key.method path ≠ "" ∧
    (∀ c ∈ (routeName key.method path).toList, isWordChar c ∨ c = '_') ∧
    (routeName key.method path).toList.head? ≠ some '_' ∧
    (IsSnake (routeName key.method path).toList ↔ ∀ segment ∈ Text.splitChars (· == '/') path.toList,
      ∀ name, segment = '\x7b' :: name ++ ['\x7d'] → ∃ c ∈ name, c.isAlphanum) := by
  have ascii' : ∀ segment ∈ Text.splitChars (· == '/') path.toList, ∀ c ∈ segment, Letter.isAscii c :=
    fun _ there c inside => ascii c (Text.mem_of_mem_splitChars there inside)
  have method := isWord_method key
  have start : (List.intercalate ['_'] ((Text.asciiLower key.method).toList :: pathWords path)).head? = _ :=
    head?_intercalate method.some_
  have some_ : List.intercalate ['_'] ((Text.asciiLower key.method).toList :: pathWords path) ≠ [] := by
    intro nothing
    rw [nothing] at start
    exact method.some_ (List.head?_eq_none_iff.mp start.symm)
  have whole : IsWord (List.intercalate ['_'] ((Text.asciiLower key.method).toList :: pathWords path)) ↔ _ :=
    isWord_intercalate_iff
  rw [ne_eq, ← String.toList_eq_nil_iff, toList_routeName]
  refine ⟨some_, fun c member => ?_, ?_, fun snake segment there name braced => ?_, fun letters => ?_⟩
  · refine plain_intercalate (List.forall_mem_cons.mpr ⟨method.plain, fun word there => ?_⟩) member
    obtain ⟨_, segment, inside, _, rfl⟩ := mem_pathWords.mp there
    exact fun c => plain_segmentWord (ascii' segment inside)
  · rw [start]
    exact method.first
  · have introduced : segmentWord segment ≠ [] := by
      simp [segmentWord, placeholder?_eq_some_iff.mpr braced]
    have listed : segmentWord segment ∈ pathWords path :=
      mem_pathWords.mpr ⟨introduced, segment, there, by simp [braced], rfl⟩
    have word := whole.mp ⟨snake, some_⟩ (segmentWord segment) (List.mem_cons_of_mem _ listed)
    exact (isWord_segmentWord_iff (ascii' segment there) introduced).mp word name braced
  · apply IsWord.toIsSnake
    rw [whole, List.forall_mem_cons]
    refine ⟨method, fun word there => ?_⟩
    obtain ⟨some_, segment, inside, _, rfl⟩ := mem_pathWords.mp there
    exact (isWord_segmentWord_iff (ascii' segment inside) some_).mpr (letters segment inside)

theorem isSnake_routeName_iff_server :
    (∀ c ∈ "/HTTPServer/\x7bserverID\x7d/-/log-files".toList, Letter.isAscii c) ∧
    routeName OperationKey.get.method "/HTTPServer/\x7bserverID\x7d/-/log-files" =
      "get_http_server_by_server_id_log_files" ∧
    IsSnake (routeName OperationKey.get.method "/HTTPServer/\x7bserverID\x7d/-/log-files").toList := by
  have ascii : ∀ c ∈ "/HTTPServer/\x7bserverID\x7d/-/log-files".toList, Letter.isAscii c :=
    List.all_eq_true.mp (by decide)
  have letters : ∀ segment ∈ Text.splitChars (· == '/') "/HTTPServer/\x7bserverID\x7d/-/log-files".toList,
      (placeholder? segment).all (·.any Char.isAlphanum) := by decide +kernel
  obtain ⟨_, _, _, snake⟩ := isSnake_routeName_iff .get _ ascii
  refine ⟨ascii, by decide +kernel, snake.mpr fun segment there name braced => ?_⟩
  have letters := letters segment there
  rw [placeholder?_eq_some_iff.mpr braced, Option.all_some, List.any_eq_true] at letters
  exact letters

/-- A placeholder without letters and digits leaves the underscore that introduces it at the end. -/
theorem routeName_ends_open : ¬ ∀ (key : OperationKey) (path : String), (∀ c ∈ path.toList, Letter.isAscii c) →
    routeName key.method path ≠ "" ∧ IsSnake (routeName key.method path).toList := by
  intro each
  have named : routeName OperationKey.get.method "/files/\x7b*\x7d" = "get_files_by_" := by decide +kernel
  have snake := (each .get "/files/\x7b*\x7d" (List.all_eq_true.mp (by decide))).2
  rw [named] at snake
  exact snake.last (by decide)

end Naming

end ApiAtlas
