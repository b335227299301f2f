import ApiAtlas.Document.Operation
import ApiAtlas.Proofs.Text.Basic

/-! # Camel case

Camel case of ASCII text consists of ASCII letters and digits, of which identifiers are made. It may be empty, where
the text has neither.
-/

namespace ApiAtlas

namespace Naming

/-- The name consists of ASCII letters and digits. -/
def IsAlphanumeric (name : String) : Prop := ∀ c ∈ name.toList, c.isAlphanum

instance : DecidablePred IsAlphanumeric := fun name => List.decidableBAll (fun c : Char => c.isAlphanum) name.toList

/-- An identifier is a name of ASCII letters and digits that is not empty. -/
structure IsIdentifier (name : String) : Prop where
  nonempty : name ≠ ""
  alphanumeric : IsAlphanumeric name

namespace IsAlphanumeric

variable {first second name : String}

theorem append (h : IsAlphanumeric first) (h' : IsAlphanumeric second) : IsAlphanumeric (first ++ second) := by
  intro c member
  rw [String.toList_append, List.mem_append] at member
  exact member.elim (h c) (h' c)

theorem number (n : Nat) : IsAlphanumeric (toString n) := by
  intro c member
  have digit : c.isDigit := Nat.isDigit_of_mem_toDigits (by decide) (by decide) (Nat.toList_repr ▸ member)
  rw [Char.isAlphanum, digit, Bool.or_true]

theorem isAscii (h : IsAlphanumeric name) : Text.IsAscii name := fun c member => Letter.isAscii_of_isAlphanum (h c member)

theorem notMem (h : IsAlphanumeric name) {c : Char} (other : c.isAlphanum = false) : c ∉ name.toList := by
  intro member
  rw [h c member] at other
  cases other

end IsAlphanumeric

theorem IsIdentifier.append {first second : String} (h : IsIdentifier first) (h' : IsAlphanumeric second) :
    IsIdentifier (first ++ second) where
  nonempty empty := h.nonempty (String.append_eq_empty_iff.mp empty).1
  alphanumeric := h.alphanumeric.append h'

theorem isAlphanum_toUpper {c : Char} (letter : c.isAlphanum) : c.toUpper.isAlphanum := by
  have ascii := Letter.isAscii_of_isAlphanum letter
  revert letter
  exact Letter.forall_ascii (P := fun c => c.isAlphanum → c.toUpper.isAlphanum) (by decide) ascii

theorem isAlphanum_of_mem_capitalize {word : List Char} {c : Char} (letters : ∀ d ∈ word, d.isAlphanum)
    (member : c ∈ capitalize word) : c.isAlphanum := by
  cases word with
  | nil => cases member
  | cons d rest =>
      obtain ⟨here, letters⟩ := List.forall_mem_cons.mp letters
      rw [capitalize, Letter.toUpper, if_pos (Letter.isAscii_of_isAlphanum here), List.singleton_append, List.mem_cons] at member
      rcases member with rfl | member
      · exact isAlphanum_toUpper here
      · exact letters c member

theorem alphanumeric_camelCase {text : String} (ascii : Text.IsAscii text) : IsAlphanumeric (camelCase text) := by
  intro c member
  rw [camelCase, String.toList_ofList, camelChars, List.mem_flatMap] at member
  obtain ⟨word, split, member⟩ := member
  refine isAlphanum_of_mem_capitalize (fun d inside => ?_) member
  have letter := Text.not_isSeparator_of_mem split inside
  have within := ascii d (Text.mem_of_mem_splitChars split inside)
  rwa [Bool.not_eq_false', Letter.isAlphanumeric, if_pos within] at letter

/-- The stem of an operation consists of letters and digits, whether it comes from its id or from its path. -/
theorem alphanumeric_operationStem {op : Operation} (id : ∀ id, op.operationId? = some id → Text.IsAscii id)
    (path : Text.IsAscii op.path) : IsAlphanumeric (operationStem op.operationId? op.method op.path) := by
  rw [operationStem]
  split
  · rename_i stem found
    obtain ⟨text, written, rfl⟩ := Option.map_eq_some_iff.mp (Option.filter_eq_some_iff.mp found).1
    exact alphanumeric_camelCase (id text written)
  · have start : ∀ key : OperationKey, Text.IsAscii (Text.asciiLower key.method ++ " ") := by
      intro key
      cases key <;> decide
    exact alphanumeric_camelCase ((start op.key).append path)

end Naming

end ApiAtlas
