import ApiAtlas.Json.Basic

/-! # Reading JSON text

The grammar is that of RFC 8259, with at most 127 nested arrays and objects. A repeated key keeps
its first position and its last value. `Json.parse?` is the only entry; the other definitions read
one construct from the front of the text and return what follows it.
-/

namespace ApiAtlas

namespace Json.Parser

def skipBlanks (text : List Char) : List Char :=
  text.dropWhile fun c => c = ' ' || c = '\n' || c = '\r' || c = '\t'

def digitValue (c : Char) : Nat := c.toNat - '0'.toNat

def hexValue? (c : Char) : Option Nat :=
  if c.isDigit then some (digitValue c)
  else if 'a' ≤ c ∧ c ≤ 'f' then some (c.toNat - 'a'.toNat + 10)
  else if 'A' ≤ c ∧ c ≤ 'F' then some (c.toNat - 'A'.toNat + 10)
  else none

def hexFour? (a b c d : Char) : Option Nat := do
  return ((((← hexValue? a) * 16 + (← hexValue? b)) * 16 + (← hexValue? c)) * 16 + (← hexValue? d))

/-- The character that a backslash and a letter stand for. -/
def shortEscape? : Char → Option Char
  | '"' => some '"'
  | '\\' => some '\\'
  | '/' => some '/'
  | 'b' => some '\x08'
  | 'f' => some '\x0c'
  | 'n' => some '\n'
  | 'r' => some '\r'
  | 't' => some '\t'
  | _ => none

/-- Whether a code unit is the first half of a surrogate pair. -/
def isLeading (u : Nat) : Bool := 0xD800 ≤ u && u ≤ 0xDBFF

/-- Whether a code unit is the second half of a surrogate pair. -/
def isTrailing (u : Nat) : Bool := 0xDC00 ≤ u && u ≤ 0xDFFF

/-- Reads up to the closing quote. `done` holds the characters read so far, the last one first. -/
def stringBody (done : List Char) : List Char → Option (String × List Char)
  | [] => none
  | '"' :: rest => some (String.ofList done.reverse, rest)
  | '\\' :: 'u' :: a :: b :: c :: d :: rest =>
    match hexFour? a b c d with
    | none => none
    | some u =>
      if isLeading u then
        match rest with
        | '\\' :: 'u' :: e :: f :: g :: h :: rest' =>
          match hexFour? e f g h with
          | some w =>
            if isTrailing w then
              stringBody (Char.ofNat (0x10000 + (u - 0xD800) * 0x400 + (w - 0xDC00)) :: done) rest'
            else none
          | none => none
        | _ => none
      else if isTrailing u then none
      else stringBody (Char.ofNat u :: done) rest
  | '\\' :: c :: rest =>
    match shortEscape? c with
    | some e => stringBody (e :: done) rest
    | none => none
  | c :: rest => if c.toNat < 0x20 then none else stringBody (c :: done) rest

/-- The largest significand that is collected exactly. -/
def greatestSignificand : Nat := Nat.pow 2 64 - 1

/-- A decimal literal while it is read: `significand * 10 ^ exponent`, and whether every digit so
far is in the significand. -/
structure Literal where
  significand : Nat
  exponent : Int
  exact : Bool

/-- Takes in a digit before the point. A digit that does not fit any more only counts. -/
def Literal.whole (l : Literal) (c : Char) : Literal :=
  let next := l.significand * 10 + digitValue c
  if l.exact && next ≤ greatestSignificand then { l with significand := next }
  else { l with exponent := l.exponent + 1, exact := false }

/-- Takes in the digits after the point, up to the first one that does not fit. -/
def Literal.fractional (l : Literal) : List Char → Literal
  | [] => l
  | c :: rest =>
    let next := l.significand * 10 + digitValue c
    if next ≤ greatestSignificand then
      Literal.fractional { l with significand := next, exponent := l.exponent - 1 } rest
    else l

/-- The number of a literal without point and exponent. An integer outside 64 bits is a double, and
so is `-0`. -/
def Literal.integer (l : Literal) (negative : Bool) : Option Number :=
  if !l.exact then do
    let x ← Binary64.ofScientific l.significand l.exponent
    return .double (if negative then x.neg else x)
  else if !negative then some (.int l.significand)
  else if l.significand = 0 || Nat.pow 2 63 < l.significand then do
    return .double (← Binary64.ofNat l.significand).neg
  else some (.int (-l.significand))

/-- The number of a literal with a point or an exponent. -/
def Literal.real (l : Literal) (negative : Bool) (shift : Int) : Option Number := do
  let x ← Binary64.ofScientific l.significand (l.exponent + shift)
  return .double (if negative then x.neg else x)

/-- Reads an optional exponent; `none` inside stands for no exponent. -/
def exponentPart : List Char → Option (Option Int × List Char)
  | c :: rest =>
    if c = 'e' ∨ c = 'E' then
      let (negative, rest) := match rest with
        | '+' :: r => (false, r)
        | '-' :: r => (true, r)
        | r => (false, r)
      let digits := rest.takeWhile Char.isDigit
      if digits.isEmpty then none
      else
        let n : Int := digits.foldl (fun n c => n * 10 + digitValue c) 0
        some (some (if negative then -n else n), rest.dropWhile Char.isDigit)
    else some (none, c :: rest)
  | [] => some (none, [])

/-- Reads a number without its sign. -/
def unsigned (negative : Bool) (text : List Char) : Option (Number × List Char) := do
  let digits := text.takeWhile Char.isDigit
  let rest := text.dropWhile Char.isDigit
  match digits with
  | [] => none
  | '0' :: _ :: _ => none
  | _ =>
    let literal := digits.foldl Literal.whole ⟨0, 0, true⟩
    match rest with
    | '.' :: rest =>
      let digits := rest.takeWhile Char.isDigit
      if digits.isEmpty then none
      else
        let (shift, after) ← exponentPart (rest.dropWhile Char.isDigit)
        return (← (literal.fractional digits).real negative (shift.getD 0), after)
    | _ =>
      match ← exponentPart rest with
      | (some shift, after) => return (← literal.real negative shift, after)
      | (none, after) => return (← literal.integer negative, after)

/-- Drops a keyword from the front of the text. -/
def keyword (word : List Char) (value : Json) (text : List Char) : Option (Json × List Char) :=
  if word.isPrefixOf text then some (value, text.drop word.length) else none

mutual
/-- Reads a value. `room` is the number of levels that may still be opened. -/
def value : (fuel room : Nat) → List Char → Option (Json × List Char)
  | 0, _, _ => none
  | fuel + 1, room, text =>
    match skipBlanks text with
    | [] => none
    | '"' :: rest => (stringBody [] rest).map fun (s, after) => (.string s, after)
    | '[' :: rest =>
      match room with
      | 0 => none
      | room + 1 =>
        match skipBlanks rest with
        | ']' :: after => some (.array [], after)
        | rest => (items fuel room rest).map fun (xs, after) => (.array xs, after)
    | '\x7b' :: rest =>
      match room with
      | 0 => none
      | room + 1 =>
        match skipBlanks rest with
        | '\x7d' :: after => some (.object [], after)
        | rest => (fields fuel room rest).map fun (xs, after) => (.object (Table.ofEntries xs), after)
    | '-' :: rest => (unsigned true rest).map fun (n, after) => (.number n, after)
    | 't' :: rest => keyword ['r', 'u', 'e'] (.bool true) rest
    | 'f' :: rest => keyword ['a', 'l', 's', 'e'] (.bool false) rest
    | 'n' :: rest => keyword ['u', 'l', 'l'] .null rest
    | c :: rest =>
      if c.isDigit then (unsigned false (c :: rest)).map fun (n, after) => (.number n, after)
      else none

/-- Reads the items of an array up to its closing bracket. -/
def items : (fuel room : Nat) → List Char → Option (List Json × List Char)
  | 0, _, _ => none
  | fuel + 1, room, text =>
    match value fuel room text with
    | none => none
    | some (item, rest) =>
      match skipBlanks rest with
      | ',' :: rest => (items fuel room rest).map fun (xs, after) => (item :: xs, after)
      | ']' :: after => some ([item], after)
      | _ => none

/-- Reads the fields of an object up to its closing brace. -/
def fields : (fuel room : Nat) → List Char → Option (List (String × Json) × List Char)
  | 0, _, _ => none
  | fuel + 1, room, text =>
    match skipBlanks text with
    | '"' :: rest =>
      match stringBody [] rest with
      | none => none
      | some (key, rest) =>
        match skipBlanks rest with
        | ':' :: rest =>
          match value fuel room rest with
          | none => none
          | some (item, rest) =>
            match skipBlanks rest with
            | ',' :: rest =>
              (fields fuel room rest).map fun (xs, after) => ((key, item) :: xs, after)
            | '\x7d' :: after => some ([(key, item)], after)
            | _ => none
        | _ => none
    | _ => none
end

def greatestDepth : Nat := 127

end Json.Parser

/-- The value of a JSON text, which may hold nothing else but blanks. -/
def Json.parse? (text : String) : Option Json :=
  let chars := text.toList
  match Parser.value (2 * chars.length + 2) Parser.greatestDepth chars with
  | some (value, rest) => if (Parser.skipBlanks rest).isEmpty then some value else none
  | none => none

end ApiAtlas
