import ApiAtlas.Text.Basic

/-! # Characters, starts and pieces of texts

What holds of all ASCII characters can be tried on each of them. What follows a start is found again, and a text
without the start has nothing after it. The pieces of a text make it up again, and pieces without the separator are
found again.
-/

namespace ApiAtlas

theorem Letter.forall_ascii {P : Char → Prop} (each : ∀ code < 0x80, P (Char.ofNat code)) {c : Char}
    (ascii : isAscii c) : P c := by
  have below : c.toNat < 0x80 := by simpa [isAscii] using ascii
  simpa using each c.toNat below

theorem Letter.isAscii_of_isAlphanum {c : Char} (letter : c.isAlphanum) : isAscii c := by
  change (decide (65 ≤ c.val ∧ c.val ≤ 90) || decide (97 ≤ c.val) && decide (c.val ≤ 122) ||
    decide (48 ≤ c.val) && decide (c.val ≤ 57)) = true at letter
  simp only [Bool.or_eq_true, Bool.and_eq_true, decide_eq_true_eq, UInt32.le_iff_toNat_le] at letter
  change ((65 ≤ c.toNat ∧ c.toNat ≤ 90) ∨ (97 ≤ c.toNat ∧ c.toNat ≤ 122)) ∨ (48 ≤ c.toNat ∧ c.toNat ≤ 57) at letter
  simp only [isAscii, decide_eq_true_eq]
  omega

namespace Text

/-- The text is in ASCII. -/
def IsAscii (text : String) : Prop := ∀ c ∈ text.toList, Letter.isAscii c

instance : DecidablePred IsAscii := fun text => List.decidableBAll (fun c => Letter.isAscii c) text.toList

theorem IsAscii.append {first second : String} (h : IsAscii first) (h' : IsAscii second) : IsAscii (first ++ second) := by
  intro c member
  rw [String.toList_append, List.mem_append] at member
  exact member.elim (h c) (h' c)

theorem afterStart?_append (start rest : String) : afterStart? start (start ++ rest) = some rest := by
  have here : start.toList.isPrefixOf (start ++ rest).toList := by
    rw [List.isPrefixOf_iff_prefix, String.toList_append]
    exact List.prefix_append _ _
  rw [afterStart?, if_pos here, String.toList_append, ← String.length_toList, List.drop_left,
    String.ofList_toList]

/-- A text is made up of its start and what comes after that. -/
theorem afterStart?_eq_some_iff {start text rest : String} :
    afterStart? start text = some rest ↔ text = start ++ rest := by
  constructor
  · intro found
    rw [afterStart?] at found
    split at found
    · rename_i here
      cases found
      obtain ⟨after, same⟩ := List.isPrefixOf_iff_prefix.mp here
      apply String.toList_injective
      rw [String.toList_append, String.toList_ofList, ← same, ← String.length_toList, List.drop_left]
    · cases found
  · rintro rfl
    exact afterStart?_append start rest

theorem splitChars_ne_nil (isSeparator : Char → Bool) (text : List Char) :
    splitChars isSeparator text ≠ [] := by
  cases text with
  | nil => exact List.cons_ne_nil _ _
  | cons c rest =>
      rw [splitChars]
      split
      · exact List.cons_ne_nil _ _
      · split <;> exact List.cons_ne_nil _ _

/-- Separators separate, and are in no piece. -/
theorem not_isSeparator_of_mem {isSeparator : Char → Bool} {text piece : List Char} {c : Char}
    (split : piece ∈ splitChars isSeparator text) (member : c ∈ piece) : isSeparator c = false := by
  induction text generalizing piece with
  | nil =>
      obtain rfl := List.mem_singleton.mp split
      cases member
  | cons d rest ih =>
      obtain ⟨first, pieces, same⟩ := List.exists_cons_of_ne_nil (splitChars_ne_nil isSeparator rest)
      rw [same] at ih
      simp only [splitChars, same] at split
      cases separates : isSeparator d with
      | true =>
          rw [separates, if_pos rfl, List.mem_cons] at split
          rcases split with rfl | split
          · cases member
          · exact ih split member
      | false =>
          rw [separates, if_neg Bool.false_ne_true, List.mem_cons] at split
          rcases split with rfl | split
          · rcases List.mem_cons.mp member with rfl | member
            · exact separates
            · exact ih List.mem_cons_self member
          · exact ih (List.mem_cons_of_mem _ split) member

theorem mem_of_mem_splitChars {isSeparator : Char → Bool} {text piece : List Char} {c : Char}
    (split : piece ∈ splitChars isSeparator text) (member : c ∈ piece) : c ∈ text := by
  induction text generalizing piece with
  | nil =>
      obtain rfl := List.mem_singleton.mp split
      exact member
  | cons d rest ih =>
      obtain ⟨first, pieces, same⟩ := List.exists_cons_of_ne_nil (splitChars_ne_nil isSeparator rest)
      rw [same] at ih
      simp only [splitChars, same] at split
      cases separates : isSeparator d <;> grind

section Pieces

variable {sep : Char} {text : List Char}

theorem splitChars_append (whole : sep ∉ text) (rest : List Char) :
    splitChars (· == sep) (text ++ sep :: rest) = text :: splitChars (· == sep) rest := by
  induction text with
  | nil =>
      obtain ⟨piece, pieces, same⟩ := List.exists_cons_of_ne_nil (splitChars_ne_nil (· == sep) rest)
      simp [splitChars, same]
  | cons c text ih =>
      simp only [List.mem_cons, not_or] at whole
      have other : (c == sep) = false := beq_eq_false_iff_ne.mpr (Ne.symm whole.1)
      rw [List.cons_append, splitChars, ih whole.2]
      simp [other]

theorem splitChars_whole (whole : sep ∉ text) : splitChars (· == sep) text = [text] := by
  induction text with
  | nil => rfl
  | cons c text ih =>
      simp only [List.mem_cons, not_or] at whole
      have other : (c == sep) = false := beq_eq_false_iff_ne.mpr (Ne.symm whole.1)
      rw [splitChars, ih whole.2]
      simp [other]

/-- Pieces that each follow a separator come after the text before the first one. -/
theorem splitChars_flatMap {pieces : List (List Char)} (whole : sep ∉ text) (each : ∀ piece ∈ pieces, sep ∉ piece) :
    splitChars (· == sep) (text ++ pieces.flatMap (sep :: ·)) = text :: pieces := by
  induction pieces generalizing text with
  | nil => simpa using splitChars_whole whole
  | cons piece pieces ih =>
      obtain ⟨first, rest⟩ := List.forall_mem_cons.mp each
      rw [List.flatMap_cons, List.cons_append, splitChars_append whole, ih first rest]

end Pieces

theorem splitChars_eq_splitOnP (isSeparator : Char → Bool) (text : List Char) :
    splitChars isSeparator text = text.splitOnP isSeparator := by
  induction text with
  | nil => rfl
  | cons c rest ih =>
      obtain ⟨piece, pieces, same⟩ := List.exists_cons_of_ne_nil (splitChars_ne_nil isSeparator rest)
      rw [splitChars, same, List.splitOnP_cons_eq_if_modifyHead, ← ih, same]
      rfl

theorem split_eq_splitOn (sep : Char) (s : String) : split sep s = (s.toList.splitOn sep).map String.ofList := by
  rw [split, splitChars_eq_splitOnP, List.splitOn]

theorem join_split (sep : Char) (s : String) : join (String.singleton sep) (split sep s) = s := by
  apply String.toList_injective
  rw [join, String.toList_intercalate, split_eq_splitOn, List.map_map, String.toList_singleton]
  simp [Function.comp_def, List.intercalate_splitOn]

theorem split_join {sep : Char} {pieces : List String} (some_ : pieces ≠ [])
    (whole : ∀ piece ∈ pieces, sep ∉ piece.toList) : split sep (join (String.singleton sep) pieces) = pieces := by
  rw [split_eq_splitOn, join, String.toList_intercalate, String.toList_singleton, List.splitOn_intercalate]
  · simp [Function.comp_def]
  · simpa using whole
  · simpa using some_

theorem not_mem_of_mem_split {sep : Char} {s piece : String} (member : piece ∈ split sep s) : sep ∉ piece.toList := by
  obtain ⟨chars, split, rfl⟩ := List.mem_map.mp member
  intro inside
  rw [String.toList_ofList] at inside
  exact absurd (not_isSeparator_of_mem split inside) (by simp)

theorem head?_dropWhile_ne (c : Char) (text : List Char) : (text.dropWhile (· == c)).head? ≠ some c := by
  intro first
  have other := List.head?_dropWhile_not (· == c) text
  rw [first] at other
  simp at other

theorem split_ne_nil (sep : Char) (s : String) : split sep s ≠ [] := by
  rw [split, ne_eq, List.map_eq_nil_iff]
  exact splitChars_ne_nil _ _

end Text

end ApiAtlas
