import ApiAtlas.Naming
import ApiAtlas.Proofs.Json.Pointer
import ApiAtlas.Proofs.Text.Basic

/-! # Names in pointers

Names in camel case consist of letters and digits, so that a pointer may hold them as they are.
-/

namespace ApiAtlas

namespace Letter

theorem eq_of_ofNat_eq {n : Nat} {c : Char} (h : Char.ofNat n = c) (positive : c.toNat ≠ 0) :
    n = c.toNat := by
  subst h
  by_cases valid : n.isValidChar
  · rw [Char.ofNat, dif_pos valid]
    rfl
  · rw [Char.ofNat, dif_neg valid] at positive
    exact absurd rfl positive

theorem tilde_notMem_expansion {c : Nat} {codes : List Nat} (h : capitalExpansions.lookup c = some codes) :
    '~' ∉ codes.map Char.ofNat := by
  have listed : ∀ entry ∈ capitalExpansions, 126 ∉ entry.2 := by decide
  obtain ⟨entry, member, rfl⟩ : ∃ entry ∈ capitalExpansions, entry.2 = codes := by
    obtain ⟨before, after, same, _⟩ := List.lookup_eq_some_iff.mp h
    exact ⟨(c, codes), same ▸ List.mem_append_right _ List.mem_cons_self, rfl⟩
  intro member'
  obtain ⟨code, inside, same⟩ := List.mem_map.mp member'
  obtain rfl := eq_of_ofNat_eq same (by decide)
  exact listed entry member inside

theorem tilde_ne_shift {c code : Nat} (h : shift? c capitalShifts = some code) : Char.ofNat code ≠ '~' := by
  have apart : ∀ entry ∈ capitalShifts,
      (entry.run.last : Int) + entry.shift < 126 ∨ 126 < (entry.run.first : Int) + entry.shift := by
    decide +kernel
  obtain ⟨entry, found, rfl⟩ := Option.map_eq_some_iff.mp h
  have inside := List.find?_some found
  simp only [Run.contains, Bool.and_eq_true, decide_eq_true_eq] at inside
  intro same
  have tilde : ((c : Int) + entry.shift).toNat = 126 := eq_of_ofNat_eq same (by decide)
  have position := apart entry (List.mem_of_find?_eq_some found)
  omega

/-- Capital forms have no tilde, unless of the tilde. -/
theorem tilde_notMem_toUpper {c : Char} (h : c ≠ '~') : '~' ∉ toUpper c := by
  rw [toUpper]
  split
  · rename_i ascii
    have below : ∀ code < 0x80, (Char.ofNat code).toUpper = '~' → Char.ofNat code = '~' := by decide
    have same := below c.toNat (by simpa [isAscii] using ascii)
    rw [Char.ofNat_toNat] at same
    exact fun member => h (same (List.mem_singleton.mp member).symm)
  · rw [mapBeyondAscii]
    split
    · exact tilde_notMem_expansion ‹_›
    · split
      · rename_i found
        exact fun member => tilde_ne_shift found (List.mem_singleton.mp member).symm
      · exact fun member => h (List.mem_singleton.mp member).symm

end Letter

namespace Naming

/-- A name that a pointer may hold as it is. -/
def Literal (name : String) : Prop := '~' ∉ name.toList

instance : DecidablePred Literal := fun name => inferInstanceAs (Decidable ('~' ∉ name.toList))

namespace Literal

variable {first second name : String}

theorem append (h : Literal first) (h' : Literal second) : Literal (first ++ second) := by
  rw [Literal, String.toList_append, List.mem_append]
  exact not_or.mpr ⟨h, h'⟩

theorem number (n : Nat) : Literal (toString n) := by
  intro member
  have digit : '~'.isDigit := Nat.isDigit_of_mem_toDigits (by decide) (by decide) (Nat.toList_repr ▸ member)
  exact absurd digit (by decide)

theorem unescape (h : Literal name) : Pointer.unescape name = name :=
  Pointer.unescape_of_notMem h

end Literal

theorem literal_camelCase (text : String) : Literal (camelCase text) := by
  rw [Literal, camelCase, String.toList_ofList, camelChars, List.mem_flatMap]
  rintro ⟨word, split, member⟩
  have letters : ∀ c ∈ word, c ≠ '~' := by
    rintro c inside rfl
    have separates := Text.not_isSeparator_of_mem split inside
    exact absurd separates (by decide)
  cases word with
  | nil => cases member
  | cons c rest =>
      rcases List.mem_append.mp member with member | member
      · exact Letter.tilde_notMem_toUpper (letters c List.mem_cons_self) member
      · exact letters '~' (List.mem_cons_of_mem _ member) rfl

theorem literal_operationStem (operationId : Option String) (method : Method) (path : String) :
    Literal (operationStem operationId method path) := by
  rw [operationStem]
  split
  · rename_i stem found
    obtain ⟨text, _, rfl⟩ := Option.map_eq_some_iff.mp (Option.filter_eq_some_iff.mp found).1
    exact literal_camelCase text
  · exact literal_camelCase _

end Naming

end ApiAtlas
