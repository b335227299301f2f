import ApiAtlas.Json.Decimal

/-! # JSON text

Two layouts: compact, without blanks, and indented by two blanks a level. Strings are written as
they are, except for quotes, backslashes and control characters.
-/

namespace ApiAtlas

namespace Json

def hexDigit (n : Nat) : Char := Nat.digitChar (n % 16)

def escapeChar (c : Char) : List Char :=
  if c = '"' then ['\\', '"']
  else if c = '\\' then ['\\', '\\']
  else if c = '\x08' then ['\\', 'b']
  else if c = '\x0c' then ['\\', 'f']
  else if c = '\n' then ['\\', 'n']
  else if c = '\r' then ['\\', 'r']
  else if c = '\t' then ['\\', 't']
  else if c.toNat < 0x20 then ['\\', 'u', '0', '0', hexDigit (c.toNat / 16), hexDigit c.toNat]
  else [c]

def quote (s : String) : String :=
  "\"" ++ String.ofList (s.toList.flatMap escapeChar) ++ "\""

mutual
/-- The value without blanks. -/
def compact : Json → String
  | .null => "null"
  | .bool b => if b then "true" else "false"
  | .number n => n.toText
  | .string s => quote s
  | .array [] => "[]"
  | .array (item :: rest) => "[" ++ compact item ++ compactItems rest ++ "]"
  | .object [] => "\x7b\x7d"
  | .object ((key, item) :: rest) =>
    "\x7b" ++ quote key ++ ":" ++ compact item ++ compactFields rest ++ "\x7d"

/-- The items after the first one, each with the comma before it. -/
def compactItems : List Json → String
  | [] => ""
  | item :: rest => "," ++ compact item ++ compactItems rest

/-- The fields after the first one, each with the comma before it. -/
def compactFields : List (String × Json) → String
  | [] => ""
  | (key, item) :: rest => "," ++ quote key ++ ":" ++ compact item ++ compactFields rest
end

/-- The start of a line at a level. -/
def margin (level : Nat) : String := "\n" ++ String.ofList (List.replicate (2 * level) ' ')

mutual
/-- The value with one item a line, the items of a level indented below it. -/
def indented (level : Nat) : Json → String
  | .null => "null"
  | .bool b => if b then "true" else "false"
  | .number n => n.toText
  | .string s => quote s
  | .array [] => "[]"
  | .array (item :: rest) =>
    "[" ++ margin (level + 1) ++ indented (level + 1) item ++ indentedItems (level + 1) rest
      ++ margin level ++ "]"
  | .object [] => "\x7b\x7d"
  | .object ((key, item) :: rest) =>
    "\x7b" ++ margin (level + 1) ++ quote key ++ ": " ++ indented (level + 1) item
      ++ indentedFields (level + 1) rest ++ margin level ++ "\x7d"

/-- The items after the first one. -/
def indentedItems (level : Nat) : List Json → String
  | [] => ""
  | item :: rest => "," ++ margin level ++ indented level item ++ indentedItems level rest

/-- The fields after the first one. -/
def indentedFields (level : Nat) : List (String × Json) → String
  | [] => ""
  | (key, item) :: rest =>
    "," ++ margin level ++ quote key ++ ": " ++ indented level item ++ indentedFields level rest
end

def pretty (value : Json) : String := indented 0 value

end Json

end ApiAtlas
