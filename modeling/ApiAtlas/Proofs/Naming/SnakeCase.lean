import Mathlib.Data.List.Chain
import ApiAtlas.Naming
import ApiAtlas.Proofs.Text.Basic

/-! # Snake case

Snake case is a normal form of ASCII text: words of small letters and digits that single underscores join. Nothing but
letter case and separators is lost.
-/

namespace ApiAtlas

namespace Naming

/-- The characters of words. -/
def isWordChar (c : Char) : Bool := c.isLower || c.isDigit

/-- Snake case: no underscore stands at either end or beside another one. -/
structure IsSnake (name : List Char) : Prop where
  plain : ∀ c ∈ name, isWordChar c ∨ c = '_'
  first : name.head? ≠ some '_'
  last : name.getLast? ≠ some '_'
  single : name.IsChain fun c d => c ≠ '_' ∨ d ≠ '_'

/-- A beginning of snake case, in reverse. It may end in an underscore, which the next word is going to follow. -/
structure Begins (name : List Char) : Prop where
  plain : ∀ c ∈ name, isWordChar c ∨ c = '_'
  first : name.getLast? ≠ some '_'
  single : name.IsChain fun c d => c ≠ '_' ∨ d ≠ '_'

variable {c : Char} {name text rest : List Char} {before : Option Char}

theorem ne_underscore (word : isWordChar c) : c ≠ '_' := by
  rintro rfl
  exact absurd word (by decide)

theorem isAlphanum_eq (c : Char) : c.isAlphanum = (c.isUpper || (c.isLower || c.isDigit)) := Bool.or_assoc _ _ _

theorem isAscii_of_isWordChar (word : isWordChar c) : Letter.isAscii c := by
  have letter : c.isAlphanum := by rw [isAlphanum_eq, ← isWordChar, word, Bool.or_true]
  exact Letter.isAscii_of_isAlphanum letter

theorem isWordChar_toLower (ascii : Letter.isAscii c) (letter : c.isAlphanum) : isWordChar c.toLower := by
  revert letter
  exact Letter.forall_ascii (P := fun c => c.isAlphanum → isWordChar c.toLower) (by decide) ascii

theorem not_isUpper_of_isWordChar (word : isWordChar c) : c.isUpper = false := by
  have ascii := isAscii_of_isWordChar word
  revert word
  exact Letter.forall_ascii (P := fun c => isWordChar c → c.isUpper = false) (by decide) ascii

section Reading

/-- A letter or digit is appended in its small form, maybe after an underscore. Any other character separates. -/
theorem snakeFrom_cons (name : List Char) (before : Option Char) (rest : List Char) (ascii : Letter.isAscii c) :
    (c.isAlphanum ∧ ∃ start, (start = name ∨ start = separate name) ∧
      snakeFrom name before (c :: rest) = snakeFrom (c.toLower :: start) (some c) rest) ∨
    (c.isAlphanum = false ∧ snakeFrom name before (c :: rest) = snakeFrom (separate name) (some c) rest) := by
  have kept : c.isUpper = false → c.toLower = c :=
    Letter.forall_ascii (P := fun c => c.isUpper = false → c.toLower = c) (by decide) ascii
  rw [snakeFrom]
  simp only [Letter.isUpper, Letter.isLower, Letter.toLower, ascii, if_true]
  cases upper : c.isUpper with
  | true =>
      refine .inl ⟨by simp [isAlphanum_eq, upper], _, ?_, rfl⟩
      split <;> simp
  | false =>
      have letter : c.isAlphanum = (c.isLower || c.isDigit) := by rw [isAlphanum_eq, upper, Bool.false_or]
      cases word : c.isLower || c.isDigit with
      | true => exact .inl ⟨letter.trans word, name, .inl rfl, by simp [kept upper]⟩
      | false => exact .inr ⟨letter.trans word, by simp⟩

theorem Begins.nil : Begins [] := ⟨nofun, nofun, .nil⟩

theorem Begins.word (begins : Begins name) (word : isWordChar c) : Begins (c :: name) := by
  have other := ne_underscore word
  refine ⟨?_, ?_, ?_⟩
  · simpa [word] using begins.plain
  · cases name with
    | nil => simpa using other
    | cons d name => simpa using begins.first
  · exact List.isChain_cons.mpr ⟨fun _ _ => .inl other, begins.single⟩

theorem Begins.separate (begins : Begins name) : Begins (separate name) := by
  cases name with
  | nil => exact .nil
  | cons c name =>
      rw [Naming.separate]
      split
      · exact begins
      · rename_i other
        refine ⟨?_, by simpa using begins.first, ?_⟩
        · simpa using begins.plain
        · exact List.isChain_cons_cons.mpr ⟨.inr other, begins.single⟩

theorem begins_snakeFrom (ascii : ∀ c ∈ text, Letter.isAscii c) (begins : Begins name) :
    Begins (snakeFrom name before text) := by
  induction text generalizing name before with
  | nil => exact begins
  | cons c rest ih =>
      obtain ⟨here, ascii⟩ := List.forall_mem_cons.mp ascii
      rcases snakeFrom_cons name before rest here with ⟨letter, start, started, step⟩ | ⟨_, step⟩
      · rw [step]
        apply ih ascii
        apply Begins.word _ (isWordChar_toLower here letter)
        rcases started with rfl | rfl
        · exact begins
        · exact begins.separate
      · rw [step]
        exact ih ascii begins.separate

/-- Without the underscore that it may end in, a beginning is complete. -/
theorem Begins.isSnake (begins : Begins name) : IsSnake (name.dropWhile (· == '_')).reverse := by
  have ends : name.dropWhile (· == '_') <:+ name := List.dropWhile_suffix _
  refine ⟨fun c member => ?_, ?_, ?_, ?_⟩
  · exact begins.plain c (ends.subset (List.mem_reverse.mp member))
  · rw [List.head?_reverse]
    intro last
    obtain ⟨dropped, whole⟩ := ends
    apply begins.first
    rw [← whole, List.getLast?_append, last, Option.some_or]
  · rw [List.getLast?_reverse]
    exact Text.head?_dropWhile_ne '_' name
  · rw [List.isChain_reverse]
    exact (begins.single.suffix ends).imp fun _ _ => Or.symm

end Reading

theorem isSnake_snakeChars (ascii : ∀ c ∈ text, Letter.isAscii c) : IsSnake (snakeChars text) :=
  (begins_snakeFrom ascii .nil).isSnake

section Losing

theorem filter_separate : (separate name).filter (· ≠ '_') = name.filter (· ≠ '_') := by
  cases name with
  | nil => rfl
  | cons c name =>
      rw [separate]
      split <;> simp

theorem filter_dropWhile : (name.dropWhile (· == '_')).filter (· ≠ '_') = name.filter (· ≠ '_') := by
  induction name with
  | nil => rfl
  | cons c name ih => by_cases same : c = '_' <;> simp_all

theorem filter_snakeFrom (ascii : ∀ c ∈ text, Letter.isAscii c) : (snakeFrom name before text).filter (· ≠ '_') =
    ((text.filter Char.isAlphanum).map Char.toLower).reverse ++ name.filter (· ≠ '_') := by
  induction text generalizing name before with
  | nil => rfl
  | cons c rest ih =>
      obtain ⟨here, ascii⟩ := List.forall_mem_cons.mp ascii
      rcases snakeFrom_cons name before rest here with ⟨letter, start, started, step⟩ | ⟨other, step⟩
      · have small := ne_underscore (isWordChar_toLower here letter)
        have same : start.filter (· ≠ '_') = name.filter (· ≠ '_') := by
          rcases started with rfl | rfl
          · rfl
          · exact filter_separate
        rw [step, ih ascii, List.filter_cons_of_pos (by simpa using small), same]
        simp [letter]
      · rw [step, ih ascii, filter_separate]
        simp [other]

end Losing

/-- The letters and digits of a text stay, in their small form and in order. -/
theorem filter_snakeChars (ascii : ∀ c ∈ text, Letter.isAscii c) :
    (snakeChars text).filter (· ≠ '_') = (text.filter Char.isAlphanum).map Char.toLower := by
  rw [snakeChars, List.filter_reverse, filter_dropWhile, filter_snakeFrom ascii]
  simp

section Again

theorem snakeFrom_word (word : isWordChar c) :
    snakeFrom name before (c :: rest) = snakeFrom (c :: name) (some c) rest := by
  have small := not_isUpper_of_isWordChar word
  have ascii := isAscii_of_isWordChar word
  rw [isWordChar] at word
  rw [snakeFrom]
  simp [Letter.isUpper, Letter.isLower, ascii, small, word]

theorem snakeFrom_underscore :
    snakeFrom name before ('_' :: rest) = snakeFrom (separate name) (some '_') rest := by
  rw [snakeFrom]
  simp [Letter.isUpper, Letter.isLower, Letter.isAscii]

/-- Text that goes on a beginning as it is has nothing to be changed. -/
theorem snakeFrom_of_begins (begins : Begins (text.reverse ++ name)) :
    snakeFrom name before text = text.reverse ++ name := by
  induction text generalizing name before with
  | nil => rfl
  | cons c rest ih =>
      rw [List.reverse_cons, List.append_assoc, List.singleton_append] at begins ⊢
      rcases begins.plain c (by simp) with word | rfl
      · rw [snakeFrom_word word, ih begins]
      · have separated : separate name = '_' :: name := by
          cases name with
          | nil => exact absurd (by simp) begins.first
          | cons d name =>
              have apart := begins.single.right_of_append
              rw [List.isChain_cons_cons] at apart
              have other : d ≠ '_' := by simpa using apart.1
              rw [separate, if_neg other]
        rw [snakeFrom_underscore, separated, ih begins]

end Again

theorem IsSnake.begins (snake : IsSnake name) : Begins name.reverse := by
  refine ⟨fun c member => snake.plain c (List.mem_reverse.mp member), ?_, ?_⟩
  · rw [List.getLast?_reverse]
    exact snake.first
  · rw [List.isChain_reverse]
    exact snake.single.imp fun _ _ => Or.symm

/-- Snake case is its own snake case. -/
theorem IsSnake.snakeChars_eq (snake : IsSnake name) : snakeChars name = name := by
  have begins : Begins (name.reverse ++ []) := by simpa using snake.begins
  have ends : name.reverse.dropWhile (· == '_') = name.reverse := by
    cases whole : name.reverse with
    | nil => rfl
    | cons c rest =>
        have last : c ≠ '_' := by
          have last := snake.last
          rw [List.getLast?_eq_head?_reverse, whole] at last
          simpa using last
        simp [last]
  rw [snakeChars, snakeFrom_of_begins begins, List.append_nil, ends, List.reverse_reverse]

/-- Snake case is a normal form of ASCII text that keeps the letters and digits in order. -/
theorem snakeCase_normal (text : String) (ascii : ∀ c ∈ text.toList, Letter.isAscii c) :
    IsSnake (snakeCase text).toList ∧
    (snakeCase text).toList.filter (· ≠ '_') = (text.toList.filter Char.isAlphanum).map Char.toLower ∧
    snakeCase (snakeCase text) = snakeCase text := by
  have snake := isSnake_snakeChars ascii
  refine ⟨?_, ?_, ?_⟩
  · rwa [snakeCase, String.toList_ofList]
  · rw [snakeCase, String.toList_ofList]
    exact filter_snakeChars ascii
  · simp only [snakeCase, String.toList_ofList]
    rw [snake.snakeChars_eq]

theorem snakeCase_normal_acronyms :
    (∀ c ∈ "__getHTTPServer--v2APIKey_".toList, Letter.isAscii c) ∧
    snakeCase "__getHTTPServer--v2APIKey_" = "get_http_server_v2_api_key" ∧
    IsSnake (snakeCase "__getHTTPServer--v2APIKey_").toList ∧
    (snakeCase "__getHTTPServer--v2APIKey_").toList.filter (· ≠ '_') =
      ("__getHTTPServer--v2APIKey_".toList.filter Char.isAlphanum).map Char.toLower ∧
    snakeCase (snakeCase "__getHTTPServer--v2APIKey_") = snakeCase "__getHTTPServer--v2APIKey_" :=
  have ascii : ∀ c ∈ "__getHTTPServer--v2APIKey_".toList, Letter.isAscii c := List.all_eq_true.mp (by decide)
  ⟨ascii, by decide +kernel, snakeCase_normal _ ascii⟩

end Naming

end ApiAtlas
