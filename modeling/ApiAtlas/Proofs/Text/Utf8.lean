import Mathlib.Data.List.Basic
import Mathlib.Data.List.Infix
import Mathlib.Data.UInt
import ApiAtlas.Text.Utf8

/-! # What lenient UTF-8 reads

Where bytes write a character, it is read. Where they write none, the longest start of a character that they hold is
read as one replacement. This says of all bytes what they are read as, and a text that is written is read back.
-/

namespace ApiAtlas

namespace Utf8

/-! ## Code points in bytes -/

/-- The bytes that write a code point. -/
def units (code : Nat) : List Nat :=
  if code < 0x80 then [code]
  else if code < 0x800 then [0xC0 + code / 64, 0x80 + code % 64]
  else if code < 0x10000 then [0xE0 + code / 4096, 0x80 + code / 64 % 64, 0x80 + code % 64]
  else [0xF0 + code / 262144, 0x80 + code / 4096 % 64, 0x80 + code / 64 % 64, 0x80 + code % 64]

section Units

variable {a b code : Nat} {rest : List Nat}

theorem map_toNat_utf8EncodeChar (c : Char) : (String.utf8EncodeChar c).map UInt8.toNat = units c.toNat := by
  have valid := c.valid
  simp only [UInt32.isValidChar, Nat.isValidChar] at valid
  have code : c.toNat = c.val.toNat := rfl
  simp only [String.utf8EncodeChar, units, code]
  generalize c.val.toNat = code at valid
  split_ifs <;> simp <;> omega

/-- The first byte says how many follow, and a code point is found from all of them. -/
theorem eq_of_units_starting (valid : a < 0x110000) (start : units a <+: units b ++ rest) (other : b < 0x110000) :
    a = b := by
  obtain ⟨tail, whole⟩ := start
  unfold units at whole
  split_ifs at whole <;> simp at whole <;> omega

end Units

/-- What has been read of a character, and the state that it leads to. -/
inductive Begun : List Nat → Partial → Prop where
  | two {a : Nat} (first : 0xC2 ≤ a ∧ a ≤ 0xDF) : Begun [a] { left := 1, value := a - 0xC0 }
  | three {a least most : Nat} (first : 0xE0 ≤ a ∧ a ≤ 0xEF) (low : least = if a = 0xE0 then 0xA0 else 0x80)
    (high : most = if a = 0xED then 0x9F else 0xBF) : Begun [a] { left := 2, value := a - 0xE0, least, most }
  | three₂ {a b : Nat} (first : 0xE0 ≤ a ∧ a ≤ 0xEF) (low : (if a = 0xE0 then 0xA0 else 0x80) ≤ b)
    (high : b ≤ if a = 0xED then 0x9F else 0xBF) : Begun [a, b] { left := 1, value := (a - 0xE0) * 64 + (b - 0x80) }
  | four {a least most : Nat} (first : 0xF0 ≤ a ∧ a ≤ 0xF4) (low : least = if a = 0xF0 then 0x90 else 0x80)
    (high : most = if a = 0xF4 then 0x8F else 0xBF) : Begun [a] { left := 3, value := a - 0xF0, least, most }
  | four₂ {a b : Nat} (first : 0xF0 ≤ a ∧ a ≤ 0xF4) (low : (if a = 0xF0 then 0x90 else 0x80) ≤ b)
    (high : b ≤ if a = 0xF4 then 0x8F else 0xBF) : Begun [a, b] { left := 2, value := (a - 0xF0) * 64 + (b - 0x80) }
  | four₃ {a b c : Nat} (first : 0xF0 ≤ a ∧ a ≤ 0xF4) (low : (if a = 0xF0 then 0x90 else 0x80) ≤ b)
    (high : b ≤ if a = 0xF4 then 0x8F else 0xBF) (next : 0x80 ≤ c ∧ c ≤ 0xBF) :
    Begun [a, b, c] { left := 1, value := ((a - 0xF0) * 64 + (b - 0x80)) * 64 + (c - 0x80) }

section Bytes

variable {front : List Nat} {begun : Partial} {byte code : Nat} {c : Char}

theorem begun_start (starts : start byte = .inr begun) : Begun [byte] begun := by
  unfold start at starts
  simp only [Bool.and_eq_true, decide_eq_true_eq] at starts
  split_ifs at starts <;> cases starts
  · exact .two ‹_›
  · subst byte; exact .three (by omega) rfl rfl
  · subst byte; exact .three (by omega) rfl rfl
  · exact .three (by omega) (by rw [if_neg ‹_›]) (by rw [if_neg ‹_›])
  · subst byte; exact .four (by omega) rfl rfl
  · exact .four (by omega) (by rw [if_neg ‹_›]) (by rw [if_neg (by omega)])
  · subst byte; exact .four (by omega) rfl rfl

/-- A byte that starts no longer character is one by itself, or starts none. -/
theorem start_whole (whole : start byte = .inl c) :
    byte < 0x80 ∧ c = Char.ofNat byte ∨ c = replacement ∧ ∀ code < 0x110000, ¬ [byte] <+: units code := by
  unfold start at whole
  simp only [Bool.and_eq_true, decide_eq_true_eq] at whole
  split_ifs at whole with ascii <;> cases whole
  · exact .inl ⟨ascii, rfl⟩
  · refine .inr ⟨rfl, fun code valid ⟨tail, starts⟩ => ?_⟩
    unfold units at starts
    split_ifs at starts <;> simp at starts <;> omega

/-- Inside a character that is not complete with it, a byte in the range leads on. -/
theorem Begun.next (here : Begun front begun) (more : 1 < begun.left) (range : begun.least ≤ byte ∧ byte ≤ begun.most) :
    Begun (front ++ [byte]) { left := begun.left - 1, value := begun.value * 64 + (byte - 0x80) } := by
  cases here with
  | two | three₂ | four₃ => exact absurd more (lt_irrefl 1)
  | three first low high => exact .three₂ first (low ▸ range.1) (high ▸ range.2)
  | four first low high => exact .four₂ first (low ▸ range.1) (high ▸ range.2)
  | four₂ first low high => exact .four₃ first low high range

/-- With the last byte, a character is complete. -/
theorem Begun.complete (here : Begun front begun) (last : begun.left ≤ 1)
    (range : begun.least ≤ byte ∧ byte ≤ begun.most) : (begun.value * 64 + (byte - 0x80)).isValidChar ∧
      units (begun.value * 64 + (byte - 0x80)) = front ++ [byte] := by
  cases here with
  | three | four | four₂ => simp at last
  | two first =>
      dsimp only at range ⊢
      refine ⟨.inl (by omega), ?_⟩
      rw [units, if_neg (by omega), if_pos (by omega), List.singleton_append]
      exact congrArg₂ (fun a b => [a, b]) (by omega) (by omega)
  | three₂ first low high =>
      dsimp only at range ⊢
      refine ⟨?_, ?_⟩
      · unfold Nat.isValidChar
        split_ifs at low high <;> omega
      · unfold units
        split_ifs at low high ⊢ <;> simp <;> omega
  | four₃ first low high next =>
      dsimp only at range ⊢
      refine ⟨?_, ?_⟩
      · unfold Nat.isValidChar
        split_ifs at low high <;> omega
      · unfold units
        split_ifs at low high ⊢ <;> simp <;> omega

/-- A byte that leads on to a character is in the range. -/
theorem Begun.follow (here : Begun front begun) (valid : code.isValidChar) (leads : front ++ [byte] <+: units code) :
    begun.least ≤ byte ∧ byte ≤ begun.most := by
  obtain ⟨tail, whole⟩ := leads
  unfold units at whole
  unfold Nat.isValidChar at valid
  cases here with
  | two | three₂ | four₂ | four₃ => split_ifs at whole <;> simp at whole ⊢ <;> omega
  | three first low high | four first low high =>
      subst low high
      split_ifs at whole <;> simp at whole ⊢ <;> split_ifs <;> omega

theorem Begun.least_le (here : Begun front begun) : begun.least ≤ begun.most := by
  cases here with
  | two | three₂ | four₂ | four₃ => simp
  | three first low high | four first low high =>
      subst low high
      dsimp only
      split_ifs <;> omega

/-- What has been read is the start of a character that it does not complete. -/
theorem Begun.starts {begun : Partial} {front : List Nat} (here : Begun front begun) :
    ∃ code, code.isValidChar ∧ ∃ more, more ≠ [] ∧ units code = front ++ more := by
  have least : begun.least ≤ begun.least ∧ begun.least ≤ begun.most := ⟨le_refl _, here.least_le⟩
  by_cases last : begun.left ≤ 1
  · obtain ⟨valid, whole⟩ := here.complete last least
    exact ⟨_, valid, [begun.least], List.cons_ne_nil _ _, whole⟩
  · obtain ⟨code, valid, more, -, whole⟩ := (here.next (Nat.lt_of_not_le last) least).starts
    exact ⟨code, valid, begun.least :: more, List.cons_ne_nil _ _, by simpa using whole⟩
termination_by begun.left

/-- No character is complete within what has been read. -/
theorem Begun.incomplete (here : Begun front begun) (valid : code < 0x110000) : ¬ units code <+: front := by
  intro inside
  obtain ⟨other, otherValid, more, nonempty, whole⟩ := here.starts
  have below : other < 0x110000 := by
    unfold Nat.isValidChar at otherValid
    omega
  have longer : units code <+: units other := whole ▸ inside.trans (List.prefix_append ..)
  have starts : units code <+: units other ++ [] := (List.append_nil _).symm ▸ longer
  obtain rfl : code = other := eq_of_units_starting valid starts below
  have short := inside.length_le
  rw [whole, List.length_append] at short
  exact nonempty (List.length_eq_zero_iff.mp (by omega))

end Bytes

/-! ## Reading -/

/-- Bytes with which a character starts, or the whole of one. -/
def Starts (bytes : List UInt8) : Prop := ∃ c, bytes <+: String.utf8EncodeChar c

/-- Bytes in front of others that are read as one replacement: no character is written there, and they are the longest
start of one, or a byte that starts none. -/
structure Broken (front rest : List UInt8) : Prop where
  nonempty : front ≠ []
  unwritten : ∀ c, ¬ String.utf8EncodeChar c <+: front ++ rest
  starts : Starts front ∨ front.length = 1
  longest : ∀ more, more ≠ [] → more <+: rest → ¬ Starts (front ++ more)

/-- Bytes and the characters that they are read as. -/
inductive Reads : List UInt8 → List Char → Prop where
  | nil : Reads [] []
  | char (c : Char) {rest : List UInt8} {text : List Char} :
      Reads rest text → Reads (String.utf8EncodeChar c ++ rest) (c :: text)
  | broken {front rest : List UInt8} {text : List Char} :
      Broken front rest → Reads rest text → Reads (front ++ rest) (replacement :: text)

section Reading

variable {front rest bytes : List UInt8} {byte : UInt8} {begun : Partial} {c : Char} {text others : List Char}

theorem toNat_lt_of_char (c : Char) : c.toNat < 0x110000 := by
  have valid := c.valid
  simp only [UInt32.isValidChar, Nat.isValidChar] at valid
  have code : c.toNat = c.val.toNat := rfl
  omega

theorem prefix_units : bytes.map UInt8.toNat <+: units c.toNat ↔ bytes <+: String.utf8EncodeChar c := by
  rw [← map_toNat_utf8EncodeChar, List.prefix_map_iff_of_injective fun _ _ => UInt8.toNat_inj.mp]

theorem toNat_ofNat {code : Nat} (valid : code.isValidChar) : (Char.ofNat code).toNat = code := by
  rw [Char.ofNat, dif_pos valid]
  rfl

theorem utf8EncodeChar_of_units {code : Nat} (valid : code.isValidChar) (whole : units code = bytes.map UInt8.toNat) :
    String.utf8EncodeChar (Char.ofNat code) = bytes := by
  apply List.map_injective_iff.mpr fun _ _ => UInt8.toNat_inj.mp
  rw [map_toNat_utf8EncodeChar, toNat_ofNat valid, whole]

theorem starts_of_units {code : Nat} {more : List Nat} (valid : code.isValidChar)
    (whole : units code = bytes.map UInt8.toNat ++ more) : Starts bytes :=
  ⟨Char.ofNat code, prefix_units.mp ⟨more, by rw [toNat_ofNat valid, whole]⟩⟩

theorem Begun.broken (here : Begun (front.map UInt8.toNat) begun)
    (stuck : ∀ byte ∈ rest.head?, ¬ (begun.least ≤ byte.toNat ∧ byte.toNat ≤ begun.most)) : Broken front rest := by
  have longest (more : List UInt8) (nonempty : more ≠ []) (inside : more <+: rest) : ¬ Starts (front ++ more) := by
    rintro ⟨c, starts⟩
    cases more with
    | nil => exact nonempty rfl
    | cons byte more =>
        obtain ⟨tail, rfl⟩ := inside
        refine stuck byte rfl (here.follow c.valid (.trans ?_ (prefix_units.mpr starts)))
        exact ⟨more.map UInt8.toNat, by simp⟩
  have incomplete (c : Char) : ¬ String.utf8EncodeChar c <+: front := fun inside =>
    here.incomplete (toNat_lt_of_char c) (map_toNat_utf8EncodeChar c ▸ inside.map UInt8.toNat)
  obtain ⟨code, valid, more, -, whole⟩ := here.starts
  refine ⟨?_, fun c written => ?_, .inl (starts_of_units valid whole), longest⟩
  · rintro rfl
    cases here
  · rcases List.prefix_or_prefix_of_prefix written (List.prefix_append front rest) with inside | ⟨more, same⟩
    · exact incomplete c inside
    · refine longest more ?_ ((List.prefix_append_right_inj front).mp (same ▸ written)) ⟨c, same ▸ List.prefix_refl _⟩
      rintro rfl
      exact incomplete c (by rw [← same, List.append_nil])

theorem broken_single (none : ∀ code < 0x110000, ¬ [byte.toNat] <+: units code) : Broken [byte] rest := by
  have unstarted (more : List UInt8) : ¬ Starts (byte :: more) := fun ⟨c, starts⟩ =>
    none c.toNat (toNat_lt_of_char c) (.trans ⟨more.map UInt8.toNat, rfl⟩ (prefix_units.mpr starts))
  refine ⟨List.cons_ne_nil byte [], fun c written => ?_, .inr rfl, fun more _ _ => unstarted more⟩
  cases whole : String.utf8EncodeChar c with
  | nil => exact absurd whole (by simp [String.utf8EncodeChar_ne_nil])
  | cons first more =>
      obtain ⟨tail, same⟩ := whole ▸ written
      obtain rfl : first = byte := List.head_eq_of_cons_eq same
      exact unstarted more ⟨c, whole ▸ List.prefix_refl _⟩

theorem decodeFrom_stuck (stuck : ∀ byte ∈ bytes.head?, ¬ (begun.least ≤ byte.toNat ∧ byte.toNat ≤ begun.most)) :
    decodeFrom (some begun) bytes = replacement :: decodeFrom none bytes := by
  cases bytes with
  | nil => rfl
  | cons byte rest =>
      have out := stuck byte rfl
      rw [decodeFrom, decodeFrom]
      simp only [Bool.and_eq_true, decide_eq_true_eq, if_neg out]
      cases start byte.toNat <;> rfl

/-- What a decoder finds in bytes, and what it finds in them after the start of a character. -/
theorem reads_decodeFrom (bytes : List UInt8) : Reads bytes (decodeFrom none bytes) ∧
    ∀ front begun, Begun (front.map UInt8.toNat) begun → Reads (front ++ bytes) (decodeFrom (some begun) bytes) := by
  have stops {bytes front begun} (fresh : Reads bytes (decodeFrom none bytes))
      (here : Begun (List.map UInt8.toNat front) begun)
      (stuck : ∀ byte ∈ bytes.head?, ¬ (begun.least ≤ byte.toNat ∧ byte.toNat ≤ begun.most)) :
      Reads (front ++ bytes) (decodeFrom (some begun) bytes) := by
    rw [decodeFrom_stuck stuck]
    exact .broken (here.broken stuck) fresh
  induction bytes with
  | nil => exact ⟨.nil, fun front begun here => stops .nil here (by simp)⟩
  | cons byte rest ih =>
      obtain ⟨fresh, inside⟩ := ih
      have first : Reads (byte :: rest) (decodeFrom none (byte :: rest)) := by
        rw [decodeFrom]
        cases found : start byte.toNat with
        | inr begun => exact inside [byte] begun (begun_start found)
        | inl c =>
            rcases start_whole found with ⟨ascii, rfl⟩ | ⟨rfl, none⟩
            · have single : String.utf8EncodeChar (Char.ofNat byte.toNat) = [byte] :=
                utf8EncodeChar_of_units (.inl (by omega)) (by rw [units, if_pos ascii]; rfl)
              have reads := Reads.char (Char.ofNat byte.toNat) fresh
              rwa [single] at reads
            · exact .broken (broken_single none) fresh
      refine ⟨first, fun front begun here => ?_⟩
      by_cases range : begun.least ≤ byte.toNat ∧ byte.toNat ≤ begun.most
      swap
      · exact stops first here (by simpa using range)
      rw [decodeFrom]
      simp only [Bool.and_eq_true, decide_eq_true_eq, if_pos range]
      by_cases last : begun.left ≤ 1
      · rw [if_pos last]
        obtain ⟨valid, whole⟩ := here.complete last range
        have read : (front ++ [byte]).map UInt8.toNat = front.map UInt8.toNat ++ [byte.toNat] := by simp
        rw [List.append_cons, ← utf8EncodeChar_of_units valid (whole.trans read.symm)]
        exact .char _ fresh
      · rw [if_neg last, List.append_cons]
        exact inside _ _ (by simpa using here.next (Nat.lt_of_not_le last) range)

theorem reads_decode (bytes : List UInt8) : Reads bytes (decode bytes).toList := by
  rw [decode, String.toList_ofList]
  exact (reads_decodeFrom bytes).1

/-! ## Bytes are read in one way -/

theorem utf8EncodeChar_append_inj {d : Char} (same : String.utf8EncodeChar c ++ rest = String.utf8EncodeChar d ++ bytes) :
    c = d ∧ rest = bytes := by
  have start : units c.toNat <+: units d.toNat ++ bytes.map UInt8.toNat := by
    rw [← map_toNat_utf8EncodeChar, ← map_toNat_utf8EncodeChar, ← List.map_append, ← same, List.map_append]
    exact List.prefix_append ..
  obtain rfl : c = d := Char.toNat_inj.mp (eq_of_units_starting (toNat_lt_of_char c) start (toNat_lt_of_char d))
  exact ⟨rfl, List.append_cancel_left same⟩

theorem Broken.eq_of_prefix {other : List UInt8} (here : Broken front rest) (there : Broken other bytes)
    (same : front ++ rest = other ++ bytes) (shorter : front <+: other) : front = other := by
  obtain ⟨more, rfl⟩ := shorter
  by_cases nothing : more = []
  · rw [nothing, List.append_nil]
  have inside : more <+: rest := ⟨bytes, List.append_cancel_left (by rw [same, List.append_assoc])⟩
  rcases there.starts with starts | single
  · exact absurd starts (here.longest more nothing inside)
  · have one := List.length_pos_iff.mpr here.nonempty
    have two := List.length_pos_iff.mpr nothing
    rw [List.length_append] at single
    omega

theorem Broken.unique {other : List UInt8} (here : Broken front rest) (there : Broken other bytes)
    (same : front ++ rest = other ++ bytes) : front = other ∧ rest = bytes := by
  obtain rfl : front = other := by
    rcases List.prefix_or_prefix_of_prefix (List.prefix_append front rest) (same ▸ List.prefix_append other bytes) with
      shorter | shorter
    · exact here.eq_of_prefix there same shorter
    · exact (there.eq_of_prefix here same.symm shorter).symm
  exact ⟨rfl, List.append_cancel_left same⟩

theorem Reads.unique (one : Reads bytes text) (two : Reads bytes others) : text = others := by
  induction one generalizing others with
  | nil =>
      generalize same : [] = bytes at two
      cases two with
      | nil => rfl
      | char c => exact absurd (List.append_eq_nil_iff.mp same.symm).1 String.utf8EncodeChar_ne_nil
      | broken here => exact absurd (List.append_eq_nil_iff.mp same.symm).1 here.nonempty
  | char c reads ih =>
      generalize same : String.utf8EncodeChar c ++ _ = bytes at two
      cases two with
      | nil => exact absurd (List.append_eq_nil_iff.mp same).1 String.utf8EncodeChar_ne_nil
      | char d two =>
          obtain ⟨rfl, rfl⟩ := utf8EncodeChar_append_inj same
          rw [ih two]
      | broken there => exact absurd ⟨_, same⟩ (there.unwritten c)
  | @broken front rest text here reads ih =>
      generalize same : front ++ rest = bytes at two
      cases two with
      | nil => exact absurd (List.append_eq_nil_iff.mp same).1 here.nonempty
      | char d two => exact absurd ⟨_, same.symm⟩ (here.unwritten d)
      | broken there two =>
          obtain ⟨-, rfl⟩ := here.unique there same
          rw [ih two]

/-- The only text that bytes are read as is the decoded one. -/
theorem reads_iff : Reads bytes text ↔ text = (decode bytes).toList :=
  ⟨fun reads => reads.unique (reads_decode bytes), fun same => same ▸ reads_decode bytes⟩

theorem reads_flatMap (text : List Char) : Reads (text.flatMap String.utf8EncodeChar) text := by
  induction text with
  | nil => exact .nil
  | cons c text ih => exact .char c ih

/-- What is written is read back. -/
theorem decode_encode (text : String) : decode (encode text) = text :=
  String.toList_injective (reads_iff.mp (reads_flatMap text.toList)).symm

end Reading

end Utf8

end ApiAtlas
