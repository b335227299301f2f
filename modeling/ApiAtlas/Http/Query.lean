import ApiAtlas.Text.Utf8

/-! # Query strings

A query string is a list of pairs in form encoding: pairs are separated by `&`, a name ends at the first
`=`, a plus sign is a blank, and any byte can be written as a percent sign and two digits.
-/

namespace ApiAtlas

namespace Query

/-- The byte `&`, which separates pairs. -/
def ampersand : UInt8 := 38

/-- The byte `=`, which ends a name. -/
def equalsSign : UInt8 := 61

/-- The byte `+`, which stands for a blank. -/
def plusSign : UInt8 := 43

/-- The byte `%`, before two hexadecimal digits. -/
def percentSign : UInt8 := 37

def blank : UInt8 := 32

def splitBytes (separator : UInt8) : List UInt8 → List (List UInt8)
  | [] => [[]]
  | byte :: rest =>
    match splitBytes separator rest with
    | [] => [[byte]]
    | piece :: pieces =>
      if byte = separator then [] :: piece :: pieces else (byte :: piece) :: pieces

def digitValue? (byte : UInt8) : Option UInt8 :=
  if 48 ≤ byte && byte ≤ 57 then some (byte - 48)
  else if 65 ≤ byte && byte ≤ 70 then some (byte - 55)
  else if 97 ≤ byte && byte ≤ 102 then some (byte - 87)
  else none

/-- Replaces each percent sign and the two digits after it by the byte that they write. A percent sign
without digits stays. -/
def percentDecode : List UInt8 → List UInt8
  | [] => []
  | [a] => [a]
  | [a, b] => [a, b]
  | a :: b :: c :: rest =>
    if a = percentSign then
      match digitValue? b, digitValue? c with
      | some high, some low => (high * 16 + low) :: percentDecode rest
      | _, _ => a :: percentDecode (b :: c :: rest)
    else a :: percentDecode (b :: c :: rest)

def decodePart (bytes : List UInt8) : String :=
  Utf8.decode (percentDecode (bytes.map fun byte => if byte = plusSign then blank else byte))

/-- Reads a pair; a name alone has an empty value. -/
def decodePair (bytes : List UInt8) : String × String :=
  (decodePart (bytes.takeWhile (· != equalsSign)),
    decodePart ((bytes.dropWhile (· != equalsSign)).drop 1))

/-- The pairs of a query string; empty pieces are dropped. -/
def parse (text : String) : List (String × String) :=
  ((splitBytes ampersand (Utf8.encode text)).filter (!·.isEmpty)).map decodePair

end Query

end ApiAtlas
