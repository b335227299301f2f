/-! # Lenient UTF-8

Reads bytes as UTF-8. Where the bytes are not well formed, the longest start of a character that they hold
is replaced by one replacement character.
-/

namespace ApiAtlas

namespace Utf8

def encode (text : String) : List UInt8 := text.toList.flatMap String.utf8EncodeChar

/-- The character that stands for bytes that are none. -/
def replacement : Char := '\ufffd'

/-- A character being read: how many bytes are still to come, the value of those read, and the range of
the next one. -/
structure Partial where
  left : Nat
  value : Nat
  least : Nat := 0x80
  most : Nat := 0xBF
deriving DecidableEq, Repr

/-- What a first byte is: a character, the start of one, or neither. -/
def start (byte : Nat) : Char ⊕ Partial :=
  if byte < 0x80 then .inl (Char.ofNat byte)
  else if 0xC2 ≤ byte && byte ≤ 0xDF then .inr { left := 1, value := byte - 0xC0 }
  else if byte = 0xE0 then .inr { left := 2, value := 0, least := 0xA0 }
  else if byte = 0xED then .inr { left := 2, value := 0xD, most := 0x9F }
  else if 0xE1 ≤ byte && byte ≤ 0xEF then .inr { left := 2, value := byte - 0xE0 }
  else if byte = 0xF0 then .inr { left := 3, value := 0, least := 0x90 }
  else if 0xF1 ≤ byte && byte ≤ 0xF3 then .inr { left := 3, value := byte - 0xF0 }
  else if byte = 0xF4 then .inr { left := 3, value := 4, most := 0x8F }
  else .inl replacement

/-- Reads bytes after the start of a character, if one is being read. -/
def decodeFrom : Option Partial → List UInt8 → List Char
  | none, [] => []
  | some _, [] => [replacement]
  | none, byte :: rest =>
    match start byte.toNat with
    | .inl c => c :: decodeFrom none rest
    | .inr begun => decodeFrom (some begun) rest
  | some begun, byte :: rest =>
    let n := byte.toNat
    if begun.least ≤ n && n ≤ begun.most then
      let value := begun.value * 64 + (n - 0x80)
      if begun.left ≤ 1 then Char.ofNat value :: decodeFrom none rest
      else decodeFrom (some { left := begun.left - 1, value }) rest
    else
      match start n with
      | .inl c => replacement :: c :: decodeFrom none rest
      | .inr next => replacement :: decodeFrom (some next) rest

def decode (bytes : List UInt8) : String := String.ofList (decodeFrom none bytes)

end Utf8

end ApiAtlas
