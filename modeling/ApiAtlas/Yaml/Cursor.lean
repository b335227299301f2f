/-! # Positions in YAML text

A cursor is the rest of a text with the line and the column at which it starts. Columns decide what is
nested in what, so every step keeps them.
-/

namespace ApiAtlas

namespace Yaml

def isBreak (c : Char) : Bool := c == '\n' || c == '\u2028' || c == '\u2029'

def isSpace (c : Char) : Bool := c == ' ' || c == '\t'

/-- Whether a text starts with a blank, with the end of a line, or is at its end. -/
def endsWord : List Char → Bool
  | [] => true
  | c :: _ => isSpace c || isBreak c

/-- Whether a line that starts with this text separates documents. -/
def isMarker (mark : Char) : List Char → Bool
  | a :: b :: c :: rest => a == mark && b == mark && c == mark && endsWord rest
  | _ => false

/-- Whether a text at the start of a line starts or ends a document. -/
def isBoundary (text : List Char) : Bool := isMarker '-' text || isMarker '.' text

/-- Whether a character may stand in a name: letters and digits of ASCII, hyphens and low lines. -/
def isNameChar (c : Char) : Bool := c.isAlphanum || c == '_' || c == '-'

/-- The rest of a text and where it stands. -/
structure Cursor where
  rest : List Char
  line : Nat := 0
  column : Nat := 0
  /-- Whether a key or an entry of a block may start here. -/
  fresh : Bool := true
deriving Repr, Inhabited

namespace Cursor

/-- The position after `count` characters of the same line, where no key may start. -/
def past (at' : Cursor) (count : Nat) : Cursor :=
  { at' with rest := at'.rest.drop count, column := at'.column + count, fresh := false }

/-- The position before a rest of the same line. -/
def upTo (at' : Cursor) (rest : List Char) : Cursor := at'.past (at'.rest.length - rest.length)

/-- Skips blanks, comments and ends of lines from a position given by its parts. Tabs may not indent, so
in block context they are only skipped where nothing may start. -/
def skipFrom (inFlow fresh inComment : Bool) (line column : Nat) : List Char → Cursor
  | [] => ⟨[], line, column, fresh⟩
  | c :: rest =>
    if isBreak c then skipFrom inFlow (fresh || !inFlow) false (line + 1) 0 rest
    else if inComment then skipFrom inFlow fresh true line (column + 1) rest
    else if c = ' ' || (c = '\t' && (inFlow || !fresh)) then
      skipFrom inFlow fresh false line (column + 1) rest
    else if c = '#' then skipFrom inFlow fresh true line (column + 1) rest
    else ⟨c :: rest, line, column, fresh⟩

/-- The position of what follows the blanks, comments and ends of lines. -/
def skip (inFlow : Bool) (at' : Cursor) : Cursor :=
  skipFrom inFlow at'.fresh false at'.line at'.column at'.rest

/-- The position after blanks and a comment, at the start of the next line; `none` if something else
stands on this one. -/
def lineEnd? (at' : Cursor) : Option Cursor :=
  let rest := at'.rest.dropWhile isSpace
  let rest := if rest.head? = some '#' then rest.dropWhile (!isBreak ·) else rest
  match rest with
  | [] => some (at'.upTo [])
  | c :: rest => if isBreak c then some ⟨rest, at'.line + 1, 0, true⟩ else none

end Cursor

end Yaml

end ApiAtlas
