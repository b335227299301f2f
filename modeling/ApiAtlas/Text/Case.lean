import ApiAtlas.Text.Casing

/-! # Character classes and letter case

The classes and mappings on all characters: ASCII by rule, the rest by table.
-/

namespace ApiAtlas

namespace Letter

def isAscii (c : Char) : Bool := c.toNat < 0x80

def inRuns (runs : List Run) (c : Char) : Bool := runs.any fun r => r.contains c.toNat

def isAlphanumeric (c : Char) : Bool :=
  if isAscii c then c.isAlphanum else inRuns alphanumericRuns c

def isUpper (c : Char) : Bool := if isAscii c then c.isUpper else inRuns uppercaseRuns c

def isLower (c : Char) : Bool := if isAscii c then c.isLower else inRuns lowercaseRuns c

/-- Blanks: the blank, the control characters from tab to carriage return, and the blank characters
beyond ASCII. -/
def isBlank (c : Char) : Bool :=
  if isAscii c then c = ' ' || (9 ≤ c.toNat && c.toNat ≤ 13) else inRuns blankRuns c

/-- The image of a character beyond ASCII: its expansion, its shifted code point, or itself. -/
def mapBeyondAscii (expansions : List (Nat × List Nat)) (shifts : List Shift) (c : Char) :
    List Char :=
  match expansions.lookup c.toNat with
  | some codes => codes.map Char.ofNat
  | none =>
    match shift? c.toNat shifts with
    | some code => [Char.ofNat code]
    | none => [c]

def toUpper (c : Char) : List Char :=
  if isAscii c then [c.toUpper] else mapBeyondAscii capitalExpansions capitalShifts c

def toLower (c : Char) : List Char :=
  if isAscii c then [c.toLower] else mapBeyondAscii smallExpansions smallShifts c

end Letter

end ApiAtlas
