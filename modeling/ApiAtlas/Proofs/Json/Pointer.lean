import Mathlib.Data.List.Induction
import ApiAtlas.Json.Pointer
import ApiAtlas.Proofs.Text.Basic

/-! # Names in pointers

A name that is escaped as a part of a pointer is read back, and an escaped name is one part. So the names that
are written as a pointer are read back, and a position is named by its decimal digits only.
-/

namespace ApiAtlas

namespace Pointer

section ReplacePair

variable {a b c x : Char} {rest : List Char}

theorem replacePair_self : replacePair a b c (a :: b :: rest) = c :: replacePair a b c rest :=
  if_pos ⟨rfl, rfl⟩

theorem replacePair_of_first_ne (different : x ≠ a) :
    replacePair a b c (x :: rest) = x :: replacePair a b c rest := by
  cases rest with
  | nil => rfl
  | cons y rest => exact if_neg fun both => different both.1

theorem replacePair_of_second_ne (different : x ≠ b) (other : x ≠ a) :
    replacePair a b c (a :: x :: rest) = a :: x :: replacePair a b c rest := by
  have step : replacePair a b c (a :: x :: rest) = a :: replacePair a b c (x :: rest) :=
    if_neg fun both => different both.2
  rw [step, replacePair_of_first_ne other]

theorem replacePair_of_notMem (absent : a ∉ rest) : replacePair a b c rest = rest := by
  induction rest with
  | nil => rfl
  | cons x rest ih =>
      rw [List.mem_cons, not_or] at absent
      rw [replacePair_of_first_ne (Ne.symm absent.1), ih absent.2]

end ReplacePair

/-- A name in which tildes are escaped, but not slashes. -/
def escapeTildes (name : List Char) : List Char :=
  name.flatMap fun c => if c = '~' then ['~', '0'] else [c]

/-- A text in which slashes are escaped. -/
def escapeSlashes (text : List Char) : List Char :=
  text.flatMap fun c => if c = '/' then ['~', '1'] else [c]

/-- A name is escaped as if first every tilde were replaced and then every slash. -/
theorem escapeSlashes_escapeTildes (name : List Char) : escapeSlashes (escapeTildes name) = escapeChars name := by
  induction name with
  | nil => rfl
  | cons c name ih =>
      have head : escapeSlashes (if c = '~' then ['~', '0'] else [c]) =
          if c = '~' then ['~', '0'] else if c = '/' then ['~', '1'] else [c] := by
        split
        · rfl
        · exact List.flatMap_singleton _ _
      rw [escapeTildes, List.flatMap_cons, ← escapeTildes, escapeSlashes, List.flatMap_append]
      exact congrArg₂ (· ++ ·) head ih

theorem replacePair_escapeChars (name : List Char) :
    replacePair '~' '1' '/' (escapeChars name) = escapeTildes name := by
  induction name with
  | nil => rfl
  | cons c name ih =>
      rw [escapeChars, escapeTildes, List.flatMap_cons, List.flatMap_cons, ← escapeChars, ← escapeTildes]
      by_cases tilde : c = '~'
      · subst tilde
        rw [if_pos rfl, if_pos rfl]
        exact (replacePair_of_second_ne (by decide) (by decide)).trans (congrArg ('~' :: '0' :: ·) ih)
      · rw [if_neg tilde, if_neg tilde]
        by_cases slash : c = '/'
        · subst slash
          exact replacePair_self.trans (congrArg ('/' :: ·) ih)
        · rw [if_neg slash]
          exact (replacePair_of_first_ne tilde).trans (congrArg (c :: ·) ih)

theorem replacePair_escapeTildes (name : List Char) :
    replacePair '~' '0' '~' (escapeTildes name) = name := by
  induction name with
  | nil => rfl
  | cons c name ih =>
      rw [escapeTildes, List.flatMap_cons, ← escapeTildes]
      split
      · rename_i tilde
        subst tilde
        exact replacePair_self.trans (congrArg ('~' :: ·) ih)
      · rename_i tilde
        exact (replacePair_of_first_ne tilde).trans (congrArg (c :: ·) ih)

/-- An escaped name is read back. -/
theorem unescape_escape (name : String) : unescape (escape name) = name := by
  rw [unescape, escape, String.toList_ofList, unescapeChars, replacePair_escapeChars,
    replacePair_escapeTildes, String.ofList_toList]

theorem unescape_of_notMem {name : String} (literal : '~' ∉ name.toList) : unescape name = name := by
  rw [unescape, unescapeChars, replacePair_of_notMem literal, replacePair_of_notMem literal,
    String.ofList_toList]

theorem escape_of_notMem {name : String} (literal : '~' ∉ name.toList) (whole : '/' ∉ name.toList) :
    escape name = name := by
  have same : escapeChars name.toList = name.toList := by
    rw [escapeChars]
    generalize name.toList = list at literal whole
    induction list with
    | nil => rfl
    | cons c rest ih =>
        rw [List.mem_cons, not_or] at literal whole
        rw [List.flatMap_cons, ih literal.2 whole.2, if_neg (Ne.symm literal.1), if_neg (Ne.symm whole.1)]
        rfl
  rw [escape, same, String.ofList_toList]

theorem slash_notMem_escapeChars (name : List Char) : '/' ∉ escapeChars name := by
  intro member
  obtain ⟨c, _, here⟩ := List.mem_flatMap.mp member
  split at here
  · revert here
    decide
  · split at here
    · revert here
      decide
    · exact absurd (List.mem_singleton.mp here).symm ‹_›

theorem escape_eq_empty {name : String} (h : escape name = "") : name = "" := by
  rw [← unescape_escape name, h]
  rfl

theorem replacePair_eq_nil {a b c : Char} {text : List Char} (empty : replacePair a b c text = []) : text = [] := by
  cases text with
  | nil => rfl
  | cons x text =>
      cases text with
      | nil => cases empty
      | cons y rest =>
          rw [replacePair] at empty
          split at empty <;> cases empty

/-- Only the empty part stands for the empty name. -/
theorem unescape_eq_empty {part : String} (empty : unescape part = "") : part = "" := by
  have chars : unescapeChars part.toList = [] := String.ofList_eq_empty_iff.mp empty
  exact String.toList_eq_nil_iff.mp (replacePair_eq_nil (replacePair_eq_nil chars))

/-- The pointer of names. -/
def write (names : List String) : String := String.ofList (names.flatMap fun name => '/' :: escapeChars name.toList)

@[simp] theorem write_nil : write [] = "" := rfl

theorem write_append (names others : List String) : write (names ++ others) = write names ++ write others := by
  simp [write, String.ofList_append]

theorem write_singleton (name : String) : write [name] = "/" ++ escape name := by
  apply String.toList_injective
  simp [write, escape]

theorem write_cons (name : String) (names : List String) : write (name :: names) = "/" ++ escape name ++ write names := by
  rw [← write_singleton, ← write_append]
  rfl

/-- A pointer is made up of parts, which stand for its names. -/
theorem names?_parts {parts : List String} (whole : ∀ part ∈ parts, '/' ∉ part.toList) :
    names? (String.ofList (parts.flatMap fun part => '/' :: part.toList)) = some (parts.map unescape) := by
  cases parts with
  | nil => rfl
  | cons part parts =>
      obtain ⟨here, rest⟩ := List.forall_mem_cons.mp whole
      have apart : ∀ piece ∈ parts.map String.toList, '/' ∉ piece := by simpa using rest
      have pieces := Text.splitChars_flatMap here apart
      rw [List.flatMap_map] at pieces
      rw [names?, String.toList_ofList, List.flatMap_cons, List.cons_append]
      simp only [pieces, List.map_cons, List.map_map]
      rfl

/-- Names that are written as a pointer are read back. -/
theorem names?_write (names : List String) : names? (write names) = some names := by
  have whole : ∀ part ∈ names.map escape, '/' ∉ part.toList := by
    simp [escape, slash_notMem_escapeChars]
  have written : write names = String.ofList ((names.map escape).flatMap fun part => '/' :: part.toList) := by
    simp [write, escape, List.flatMap_map]
  have back : unescape ∘ escape = id := funext unescape_escape
  rw [written, names?_parts whole, List.map_map, back, List.map_id]

section Positions

/-- The digits of a number, without leading zeros. -/
structure IsNumeral (digits : List Char) : Prop where
  nonempty : digits ≠ []
  digit : ∀ c ∈ digits, c.isDigit
  leading : digits.head? = some '0' → digits = ['0']

theorem isNumeral_toDigits (n : Nat) : IsNumeral (Nat.toDigits 10 n) where
  nonempty := Nat.toDigits_ne_nil
  digit c member := Nat.isDigit_of_mem_toDigits (by decide) (by decide) member
  leading := by
    induction n using Nat.strongRecOn with
    | ind n ih =>
        rw [Nat.toDigits_eq_if (by decide)]
        split
        · intro zero
          simpa using zero
        · rename_i large
          intro zero
          rw [List.head?_append, Option.or_of_isSome (List.isSome_head?.mpr Nat.toDigits_ne_nil)] at zero
          have small : Nat.toDigits 10 (n / 10) = Nat.toDigits 10 0 := ih (n / 10) (by omega) zero
          have same := congrArg (Nat.ofDigitChars 10 · 0) small
          simp only [Nat.ofDigitChars_ten_toDigits] at same
          omega

theorem exists_digitChar {c : Char} (digit : c.isDigit) : ∃ d < 10, c = d.digitChar := by
  obtain ⟨low, high⟩ : 48 ≤ c.toNat ∧ c.toNat ≤ 57 := by simpa [Char.isDigit, UInt32.le_iff_toNat_le] using digit
  have small : c.toNat - 48 < 10 := by omega
  refine ⟨c.toNat - 48, small, ?_⟩
  apply Char.toNat_inj.mp
  rw [Nat.toNat_digitChar_of_lt_ten small]
  omega

theorem toDigits_ofDigitChars {digits : List Char} (numeral : IsNumeral digits) :
    Nat.toDigits 10 (Nat.ofDigitChars 10 digits 0) = digits := by
  induction digits using List.reverseRecOn with
  | nil => exact absurd rfl numeral.nonempty
  | append_singleton start c ih =>
      obtain ⟨d, small, rfl⟩ := exists_digitChar (numeral.digit c (by simp))
      rw [Nat.ofDigitChars_append, Nat.ofDigitChars_cons_digitChar_of_lt_ten small, Nat.ofDigitChars_nil]
      by_cases first : start = []
      · simp [first, Nat.toDigits_of_lt_base small]
      · have leading : start.head? ≠ some '0' := by
          intro zero
          have whole := numeral.leading (by simp [List.head?_append, zero])
          simp [List.append_eq_singleton_iff, first] at whole
        have numeral : IsNumeral start :=
          ⟨first, fun c member => numeral.digit c (List.mem_append_left _ member), (absurd · leading)⟩
        have positive : 0 < Nat.ofDigitChars 10 start 0 := by
          apply Nat.pos_of_ne_zero
          intro zero
          have digits := ih numeral
          rw [zero, Nat.toDigits_zero] at digits
          exact leading (by rw [← digits]; rfl)
        rw [← Nat.toDigits_append_toDigits (by decide) positive small, ih numeral, Nat.toDigits_of_lt_base small]

theorem position?_of_isNumeral {name : String} (numeral : IsNumeral name.toList) :
    position? name = some (Nat.ofDigitChars 10 name.toList 0) := by
  have all : name.toList.all Char.isDigit = true := List.all_eq_true.mpr numeral.digit
  unfold position?
  split
  · exact absurd ‹_› numeral.nonempty
  · rename_i same
    rw [same]
    rfl
  · rename_i rest several same
    rw [same] at numeral
    exact absurd (List.cons.inj (numeral.leading rfl)).2 (by simpa using several)
  · rw [if_pos all]
    simp only [Nat.ofDigitChars, Nat.mul_comm]

theorem isNumeral_of_position? {name : String} {n : Nat} (found : position? name = some n) :
    IsNumeral name.toList := by
  unfold position? at found
  split at found
  · cases found
  · rename_i same
    rw [same]
    exact isNumeral_toDigits 0
  · cases found
  · rename_i nonempty single leading
    split at found
    · rename_i all
      refine ⟨nonempty, List.all_eq_true.mp all, ?_⟩
      intro zero
      obtain ⟨rest, same⟩ := List.head?_eq_some_iff.mp zero
      exact absurd same (leading rest)
    · cases found

/-- A position is named by its decimal digits only. -/
theorem position?_eq_some_iff {name : String} {n : Nat} : position? name = some n ↔ name = toString n := by
  constructor
  · intro found
    have numeral := isNumeral_of_position? found
    rw [position?_of_isNumeral numeral, Option.some.injEq] at found
    apply String.toList_injective
    rw [← found, Nat.toString_eq_repr, Nat.toList_repr, toDigits_ofDigitChars numeral]
  · rintro rfl
    have digits : (toString n).toList = Nat.toDigits 10 n := by simp
    rw [position?_of_isNumeral (digits ▸ isNumeral_toDigits n), digits, Nat.ofDigitChars_ten_toDigits]

theorem escape_toString (n : Nat) : escape (toString n) = toString n := by
  have digits : (toString n).toList = Nat.toDigits 10 n := by simp
  have plain : ∀ c : Char, c.isDigit = false → c ∉ (toString n).toList := by
    intro c other member
    rw [digits] at member
    exact absurd ((isNumeral_toDigits n).digit c member) (by simp [other])
  exact escape_of_notMem (plain '~' (by decide)) (plain '/' (by decide))

end Positions

theorem step_of_get? {value inner : Json} {key : String} (found : value.get? key = some inner) :
    step value key = some inner := by
  cases value with
  | object fields => exact found
  | _ => cases found

theorem follow_append {value : Json} (names others : List String) :
    follow value (names ++ others) = (follow value names).bind (follow · others) := by
  induction names generalizing value with
  | nil => rfl
  | cons name names ih =>
      rw [List.cons_append, follow, follow]
      cases step value name with
      | none => rfl
      | some inside => exact ih

end Pointer

/-- A value that names lead to is what their pointer leads to. -/
theorem Json.pointer?_write (value : Json) (names : List String) :
    value.pointer? (Pointer.write names) = Pointer.follow value names := by
  rw [pointer?, Pointer.names?_write, Option.bind_some]

end ApiAtlas
