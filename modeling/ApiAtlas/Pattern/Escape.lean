/-! # Codes of characters

A character may be given by its code in hexadecimal: in a fixed number of digits, or in braces.
-/

namespace ApiAtlas

namespace Pattern

def hexValue? (c : Char) : Option Nat :=
  if c.isDigit then some (c.toNat - '0'.toNat)
  else if 'a' ≤ c ∧ c ≤ 'f' then some (c.toNat - 'a'.toNat + 10)
  else if 'A' ≤ c ∧ c ≤ 'F' then some (c.toNat - 'A'.toNat + 10)
  else none

def hexChar? (digits : List Char) : Option Char := do
  let code ← digits.foldlM (fun n c => do return n * 16 + (← hexValue? c)) 0
  if !digits.isEmpty && code.isValidChar then some (Char.ofNat code) else none

/-- The number of digits after the letter of an escape that gives a code. -/
def codeLength? : Char → Option Nat
  | 'x' => some 2
  | 'u' => some 4
  | 'U' => some 8
  | _ => none

/-- Reads a code of `count` digits, or of any number of digits in braces. -/
def readCode? (count : Nat) : List Char → Option (Char × List Char)
  | '\x7b' :: rest => do
    let digits := rest.takeWhile (· != '\x7d')
    match rest.drop digits.length with
    | _ :: rest => return (← hexChar? digits, rest)
    | [] => none
  | rest =>
    if rest.length < count then none
    else do return (← hexChar? (rest.take count), rest.drop count)

/-- The character that a letter after a backslash stands for. -/
def controlOf? : Char → Option Char
  | 'a' => some '\x07'
  | 'f' => some '\x0c'
  | 't' => some '\t'
  | 'n' => some '\n'
  | 'r' => some '\r'
  | 'v' => some '\x0b'
  | _ => none

def readNumber? (text : List Char) : Option (Nat × List Char) :=
  let digits := text.takeWhile Char.isDigit
  if digits.isEmpty then none
  else some (digits.foldl (fun n c => n * 10 + (c.toNat - '0'.toNat)) 0, text.drop digits.length)

end Pattern

end ApiAtlas
