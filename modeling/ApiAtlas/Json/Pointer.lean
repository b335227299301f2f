import ApiAtlas.Json.Basic
import ApiAtlas.Text.Basic

/-! # JSON pointers

A pointer is empty or starts with a slash; its parts name object keys or array positions. In a part
`~1` stands for a slash and `~0` for a tilde.
-/

namespace ApiAtlas

namespace Pointer

/-- Replaces every occurrence of the two characters `a b` by `c`, from left to right. -/
def replacePair (a b c : Char) : List Char → List Char
  | [] => []
  | [x] => [x]
  | x :: y :: rest =>
    if x = a ∧ y = b then c :: replacePair a b c rest else x :: replacePair a b c (y :: rest)

/-- The name that a part stands for. -/
def unescapeChars (part : List Char) : List Char :=
  replacePair '~' '0' '~' (replacePair '~' '1' '/' part)

/-- How a name is written as a part. -/
def escapeChars (name : List Char) : List Char :=
  name.flatMap fun c => if c = '~' then ['~', '0'] else if c = '/' then ['~', '1'] else [c]

def unescape (part : String) : String := String.ofList (unescapeChars part.toList)

def escape (name : String) : String := String.ofList (escapeChars name.toList)

/-- The names of a pointer; `none` if the text is no pointer. -/
def names? (pointer : String) : Option (List String) :=
  match pointer.toList with
  | [] => some []
  | '/' :: rest => some ((Text.splitChars (· == '/') rest).map fun part => String.ofList (unescapeChars part))
  | _ => none

/-- The array position that a name stands for: a decimal number without sign or leading zeros. -/
def position? (name : String) : Option Nat :=
  match name.toList with
  | [] => none
  | ['0'] => some 0
  | '0' :: _ => none
  | digits =>
    if digits.all Char.isDigit then
      some (digits.foldl (fun n c => n * 10 + (c.toNat - '0'.toNat)) 0)
    else none

def step (value : Json) (name : String) : Option Json :=
  match value with
  | .object fields => Table.get? name fields
  | .array items => (position? name).bind (items[·]?)
  | _ => none

/-- Follows the names from the value inwards. -/
def follow (value : Json) : List String → Option Json
  | [] => some value
  | name :: rest => (step value name).bind (follow · rest)

end Pointer

def Json.pointer? (value : Json) (pointer : String) : Option Json :=
  (Pointer.names? pointer).bind (Pointer.follow value)

end ApiAtlas
