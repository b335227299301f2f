import ApiAtlas.Http.Query
import ApiAtlas.Proofs.Json.Pointer
import ApiAtlas.Proofs.Text.Utf8

/-! # References within a document

A reference is a number sign and a pointer, of which any byte may be written as a percent sign and two digits. A
pointer in ASCII without percent signs is written as it is.
-/

namespace ApiAtlas

namespace Utf8

variable {text : List Char}

theorem flatMap_utf8EncodeChar (ascii : ∀ c ∈ text, Letter.isAscii c) :
    text.flatMap String.utf8EncodeChar = text.map fun c => UInt8.ofNat c.toNat := by
  induction text with
  | nil => rfl
  | cons c text ih =>
      obtain ⟨here, ascii⟩ := List.forall_mem_cons.mp ascii
      have single : String.utf8EncodeChar c = [UInt8.ofNat c.toNat] :=
        Letter.forall_ascii (P := fun c => String.utf8EncodeChar c = [UInt8.ofNat c.toNat]) (by decide) here
      rw [List.flatMap_cons, single, ih ascii]
      rfl

end Utf8

namespace Query

theorem percentDecode_of_notMem {bytes : List UInt8} (plain : percentSign ∉ bytes) : percentDecode bytes = bytes := by
  induction bytes with
  | nil => rfl
  | cons a bytes ih =>
      rw [List.mem_cons, not_or] at plain
      match bytes with
      | [] => rfl
      | [b] => rfl
      | b :: c :: rest => rw [percentDecode, if_neg (Ne.symm plain.1), ih plain.2]

end Query

namespace Pointer

/-- The names in a reference within a document: its percent signs are decoded, then it is read as a pointer. -/
def namesOfReference? (reference : String) : Option (List String) :=
  (Text.afterStart? "#" reference).bind fun fragment =>
    names? (Utf8.decode (Query.percentDecode (Utf8.encode fragment)))

/-- ASCII text without percent signs is read as it stands. -/
theorem decode_percentDecode {fragment : String} (ascii : Text.IsAscii fragment) (plain : '%' ∉ fragment.toList) :
    Utf8.decode (Query.percentDecode (Utf8.encode fragment)) = fragment := by
  have bytes : Query.percentSign ∉ Utf8.encode fragment := by
    rw [Utf8.encode, Utf8.flatMap_utf8EncodeChar ascii]
    intro member
    obtain ⟨c, inside, same⟩ := List.mem_map.mp member
    have percent : c = '%' := Letter.forall_ascii
      (P := fun c => UInt8.ofNat c.toNat = Query.percentSign → c = '%') (by decide) (ascii c inside) same
    exact plain (percent ▸ inside)
  rw [Query.percentDecode_of_notMem bytes, Utf8.decode_encode]

/-- A reference that is a written pointer has the names of that pointer. -/
theorem namesOfReference?_write {names : List String} (ascii : Text.IsAscii (write names))
    (plain : '%' ∉ (write names).toList) : namesOfReference? ("#" ++ write names) = some names := by
  rw [namesOfReference?, Text.afterStart?_append, Option.bind_some, decode_percentDecode ascii plain, names?_write]

end Pointer

end ApiAtlas
