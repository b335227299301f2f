import Mathlib.Data.List.Forall2
import ApiAtlas.Http.Query
import ApiAtlas.Proofs.Text.Utf8

/-! # What a query string says

Pairs stand between ampersands, and an empty piece is no pair. A pair is a name, or a name and a value with an equals
sign between them. A plus sign writes a blank, an escape writes a byte, and any other byte writes itself. These
relations say so about any text, and each text is decoded in one way.
-/

namespace ApiAtlas

namespace Query

/-! ## Bytes that are written -/

/-- A byte that writes a digit to the base 16, in a small or in a capital letter. -/
def IsDigit (byte : UInt8) (value : Nat) : Prop :=
  value < 16 ∧ (byte.toNat = value.digitChar.toNat ∨ byte.toNat = value.digitChar.toUpper.toNat)

/-- Bytes that start with a percent sign and two digits. -/
def StartsEscape (bytes : List UInt8) : Prop :=
  ∃ high low one two, [percentSign, high, low] <+: bytes ∧ IsDigit high one ∧ IsDigit low two

/-- Bytes as they are written and as they are meant. -/
inductive Writes : List UInt8 → List UInt8 → Prop where
  | nil : Writes [] []
  | blank {rest bytes : List UInt8} : Writes rest bytes → Writes (plusSign :: rest) (blank :: bytes)
  | escape {high low : UInt8} {one two : Nat} {rest bytes : List UInt8} : IsDigit high one → IsDigit low two →
      Writes rest bytes → Writes (percentSign :: high :: low :: rest) (UInt8.ofNat (16 * one + two) :: bytes)
  | plain {byte : UInt8} {rest bytes : List UInt8} : byte ≠ plusSign → ¬ StartsEscape (byte :: rest) →
      Writes rest bytes → Writes (byte :: rest) (byte :: bytes)

instance (byte : UInt8) (value : Nat) : Decidable (IsDigit byte value) := inferInstanceAs (Decidable (_ ∧ _))

section Writing

variable {a high low value : UInt8} {one two : Nat} {rest bytes : List UInt8}

theorem digitValue?_of_isDigit (digit : IsDigit a one) : digitValue? a = some (UInt8.ofNat one) := by
  have table : ∀ byte : Fin 256, ∀ value : Fin 16, IsDigit (UInt8.ofNat byte) value →
      digitValue? (UInt8.ofNat byte) = some (UInt8.ofNat value) := by
    decide +kernel
  have found := table ⟨a.toNat, a.toNat_lt⟩ ⟨one, digit.1⟩
  rw [UInt8.ofNat_toNat] at found
  exact found digit

theorem isDigit_of_digitValue? (found : digitValue? a = some value) : IsDigit a value.toNat := by
  have table : ∀ byte : Fin 256, ∀ value ∈ digitValue? (UInt8.ofNat byte), IsDigit (UInt8.ofNat byte) value.toNat := by
    decide +kernel
  have digit := table ⟨a.toNat, a.toNat_lt⟩
  rw [UInt8.ofNat_toNat] at digit
  exact digit value found

theorem percentDecode_escape (first : IsDigit high one) (second : IsDigit low two) :
    percentDecode (percentSign :: high :: low :: rest) = UInt8.ofNat (16 * one + two) :: percentDecode rest := by
  rw [percentDecode, if_pos rfl, digitValue?_of_isDigit first, digitValue?_of_isDigit second]
  simp [UInt8.ofNat_add, UInt8.ofNat_mul, mul_comm]

theorem percentDecode_plain (plain : ¬ StartsEscape (a :: rest)) :
    percentDecode (a :: rest) = a :: percentDecode rest := by
  match rest with
  | [] => rfl
  | [b] => rfl
  | b :: c :: rest =>
      rw [percentDecode]
      split_ifs with percent
      · subst percent
        cases one : digitValue? b with
        | none => rfl
        | some first =>
            cases two : digitValue? c with
            | none => rfl
            | some second =>
                exact absurd ⟨b, c, _, _, ⟨rest, rfl⟩, isDigit_of_digitValue? one, isDigit_of_digitValue? two⟩ plain
      · rfl

/-- Bytes with blanks for plus signs. -/
def blanked (bytes : List UInt8) : List UInt8 := bytes.map fun byte => if byte = plusSign then blank else byte

@[simp] theorem blanked_cons : blanked (a :: rest) = (if a = plusSign then blank else a) :: blanked rest := rfl

theorem IsDigit.ne_of_digitValue? {byte : UInt8} (digit : IsDigit a one) (no : digitValue? byte = none) : a ≠ byte := by
  rintro rfl
  rw [digitValue?_of_isDigit digit] at no
  cases no

/-- A blank is no digit, and neither is a plus sign, so that plus signs may be replaced before escapes are. -/
theorem isDigit_blanked : IsDigit (if a = plusSign then blank else a) one ↔ IsDigit a one := by
  split_ifs with plus
  · have noBlank : digitValue? blank = none := rfl
    have noPlus : digitValue? plusSign = none := rfl
    exact iff_of_false (fun digit => digit.ne_of_digitValue? noBlank rfl) fun digit => digit.ne_of_digitValue? noPlus plus
  · rfl

theorem startsEscape_blanked : StartsEscape (blanked bytes) ↔ StartsEscape bytes := by
  have percent {a : UInt8} : (if a = plusSign then blank else a) = percentSign ↔ a = percentSign := by
    split_ifs with plus
    · exact iff_of_false (by decide) (plus ▸ by decide)
    · rfl
  match bytes with
  | [] | [a] | [a, b] => simp [StartsEscape, blanked]
  | a :: b :: c :: rest =>
      simp only [StartsEscape, blanked_cons, List.cons_prefix_cons, List.nil_prefix, and_true]
      constructor
      · rintro ⟨high, low, one, two, ⟨first, rfl, rfl⟩, digits⟩
        rw [isDigit_blanked, isDigit_blanked] at digits
        exact ⟨b, c, one, two, ⟨(percent.mp first.symm).symm, rfl, rfl⟩, digits⟩
      · rintro ⟨high, low, one, two, ⟨rfl, rfl, rfl⟩, digits⟩
        exact ⟨_, _, one, two, ⟨rfl, rfl, rfl⟩, isDigit_blanked.mpr digits.1, isDigit_blanked.mpr digits.2⟩

section Blanked

@[simp] theorem percentDecode_blanked_plusSign :
    percentDecode (blanked (plusSign :: rest)) = blank :: percentDecode (blanked rest) := by
  rw [blanked_cons, if_pos rfl]
  exact percentDecode_plain fun ⟨_, _, _, _, ⟨_, same⟩, _⟩ => absurd (List.head_eq_of_cons_eq same) (by decide)

theorem percentDecode_blanked_escape (first : IsDigit high one) (second : IsDigit low two) :
    percentDecode (blanked (percentSign :: high :: low :: rest)) =
      UInt8.ofNat (16 * one + two) :: percentDecode (blanked rest) := by
  rw [blanked_cons, blanked_cons, blanked_cons, if_neg (first.ne_of_digitValue? rfl),
    if_neg (second.ne_of_digitValue? rfl)]
  exact percentDecode_escape first second

theorem percentDecode_blanked_plain (plus : a ≠ plusSign) (plain : ¬ StartsEscape (a :: rest)) :
    percentDecode (blanked (a :: rest)) = a :: percentDecode (blanked rest) := by
  have kept := startsEscape_blanked.not.mpr plain
  rw [blanked_cons, if_neg plus] at kept ⊢
  exact percentDecode_plain kept

end Blanked

theorem writes_percentDecode (bytes : List UInt8) : Writes bytes (percentDecode (blanked bytes)) := by
  match bytes with
  | [] => exact .nil
  | a :: rest =>
      by_cases plus : a = plusSign
      · rw [plus, percentDecode_blanked_plusSign]
        exact .blank (writes_percentDecode rest)
      by_cases escaped : StartsEscape (a :: rest)
      · obtain ⟨high, low, one, two, ⟨tail, same⟩, first, second⟩ := escaped
        obtain ⟨rfl, rfl⟩ : a = percentSign ∧ rest = high :: low :: tail := by simpa using same.symm
        rw [percentDecode_blanked_escape first second]
        exact .escape first second (writes_percentDecode tail)
      · rw [percentDecode_blanked_plain plus escaped]
        exact .plain plus escaped (writes_percentDecode rest)
termination_by bytes.length

/-- The bytes that are meant are the decoded ones. -/
theorem writes_iff : Writes rest bytes ↔ bytes = percentDecode (blanked rest) := by
  constructor
  · intro writes
    induction writes with
    | nil => rfl
    | blank _ ih => rw [percentDecode_blanked_plusSign, ih]
    | escape first second _ ih => rw [percentDecode_blanked_escape first second, ih]
    | plain plus plain _ ih => rw [percentDecode_blanked_plain plus plain, ih]
  · rintro rfl
    exact writes_percentDecode rest

end Writing

/-! ## Pairs -/

/-- A name or a value as it is written, and the text that it is. Bytes that are no text are read leniently. -/
def IsPart (bytes : List UInt8) (text : String) : Prop := ∃ meant, Writes bytes meant ∧ Utf8.Reads meant text.toList

/-- A pair as it is written: a name, or a name and a value with an equals sign between them. -/
def IsPair (piece : List UInt8) (pair : String × String) : Prop :=
  ∃ name value, equalsSign ∉ name ∧ (piece = name ++ equalsSign :: value ∨ piece = name ∧ value = []) ∧
    IsPart name pair.1 ∧ IsPart value pair.2

/-- A query string and its pairs in order: they stand between ampersands, and an empty piece is none. -/
def Decodes (text : String) (pairs : List (String × String)) : Prop :=
  ∃ pieces, Utf8.encode text = [ampersand].intercalate pieces ∧ pieces ≠ [] ∧ (∀ piece ∈ pieces, ampersand ∉ piece) ∧
    List.Forall₂ IsPair (pieces.filter (!·.isEmpty)) pairs

section Pairs

variable {piece bytes : List UInt8} {text : String} {pair : String × String} {pairs : List (String × String)}

theorem isPart_iff : IsPart bytes text ↔ text = decodePart bytes := by
  simp only [IsPart, writes_iff, exists_eq_left, Utf8.reads_iff, String.toList_inj]
  rfl

theorem decodePair_append {name : List UInt8} (whole : equalsSign ∉ name) (value : List UInt8) :
    decodePair (name ++ equalsSign :: value) = (decodePart name, decodePart value) := by
  have inside : ∀ byte ∈ name, (byte != equalsSign) = true := fun byte member =>
    bne_iff_ne.mpr fun same => whole (same ▸ member)
  rw [decodePair, List.takeWhile_append_of_pos inside, List.dropWhile_append_of_pos inside]
  simp

theorem decodePair_whole (whole : equalsSign ∉ piece) : decodePair piece = (decodePart piece, decodePart []) := by
  have inside : ∀ byte ∈ piece, (byte != equalsSign) = true := fun byte member =>
    bne_iff_ne.mpr fun same => whole (same ▸ member)
  rw [← List.append_nil piece, decodePair, List.takeWhile_append_of_pos inside, List.dropWhile_append_of_pos inside]
  simp

theorem isPair_iff : IsPair piece pair ↔ pair = decodePair piece := by
  simp only [IsPair, isPart_iff]
  constructor
  · rintro ⟨name, value, whole, rfl | ⟨rfl, rfl⟩, first, second⟩
    · rw [decodePair_append whole, ← first, ← second]
    · rw [decodePair_whole whole, ← first, ← second]
  · rintro rfl
    by_cases whole : equalsSign ∉ piece
    · exact ⟨piece, [], whole, .inr ⟨rfl, rfl⟩, by simp [decodePair_whole whole]⟩
    · obtain ⟨name, value, rfl, before⟩ := List.eq_append_cons_of_mem (not_not.mp whole)
      exact ⟨name, value, before, .inl rfl, by simp [decodePair_append before]⟩

theorem splitBytes_eq_splitOn (separator : UInt8) (bytes : List UInt8) :
    splitBytes separator bytes = bytes.splitOn separator := by
  induction bytes with
  | nil => rfl
  | cons byte rest ih =>
      obtain ⟨piece, pieces, same⟩ := List.exists_cons_of_ne_nil (List.splitOn_ne_nil separator rest)
      rw [splitBytes, ih, List.splitOn_cons_eq_if_modifyHead, same]
      simp

theorem notMem_of_mem_splitOn {separator : UInt8} (split : piece ∈ bytes.splitOn separator) : separator ∉ piece := by
  induction bytes generalizing piece with
  | nil =>
      obtain rfl := List.mem_singleton.mp split
      exact List.not_mem_nil
  | cons byte rest ih =>
      obtain ⟨first, pieces, same⟩ := List.exists_cons_of_ne_nil (List.splitOn_ne_nil separator rest)
      rw [same] at ih
      rw [List.splitOn_cons_eq_if_modifyHead, same, List.modifyHead_cons] at split
      grind

/-- The pairs of a query string are those that its text says, and no others. -/
theorem decodes_iff : Decodes text pairs ↔ pairs = parse text := by
  have each (pieces : List (List UInt8)) : List.Forall₂ IsPair pieces pairs ↔ pieces.map decodePair = pairs := by
    have relation : IsPair = fun piece pair => decodePair piece = pair := by
      funext piece pair
      rw [isPair_iff, eq_comm (a := pair)]
    rw [relation, ← List.forall₂_map_left_iff (R := Eq), List.forall₂_eq_eq_eq]
  simp only [Decodes, each]
  constructor
  · rintro ⟨pieces, joined, some_, whole, rfl⟩
    rw [parse, joined, splitBytes_eq_splitOn, List.splitOn_intercalate ampersand whole some_]
  · rintro rfl
    rw [parse, splitBytes_eq_splitOn]
    exact ⟨_, (List.intercalate_splitOn ampersand).symm, List.splitOn_ne_nil ampersand _, fun _ => notMem_of_mem_splitOn,
      rfl⟩

end Pairs

end Query

end ApiAtlas
