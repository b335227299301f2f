import ApiAtlas.Yaml.Cursor

/-! # YAML scalars

Plain scalars, and scalars in single or double quotes. A scalar may go on over lines: a single end of a
line is a blank, of several the first one is dropped.
-/

namespace ApiAtlas

namespace Yaml

/-- What stands between two words of a scalar. -/
inductive Gap where
  | blanks (chars : List Char)
  /-- Ends of lines: the first one, unless it was escaped, and those after it. -/
  | lines (first : Option Char) (others : List Char)
deriving Repr

namespace Gap

def none : Gap := .blanks []

def isNone : Gap → Bool
  | .blanks [] => true
  | _ => false

/-- Whether the gap goes over the end of a line. -/
def isLines : Gap → Bool
  | .lines .. => true
  | .blanks _ => false

/-- Adds a blank; blanks around ends of lines are dropped. -/
def addBlank (c : Char) : Gap → Gap
  | .blanks chars => .blanks (chars ++ [c])
  | .lines first others => .lines first others

def addBreak (c : Char) : Gap → Gap
  | .blanks _ => .lines (some c) []
  | .lines first others => .lines first (others ++ [c])

def add (c : Char) (gap : Gap) : Gap := if isBreak c then gap.addBreak c else gap.addBlank c

/-- What the gap contributes to the scalar. -/
def text : Gap → List Char
  | .blanks chars => chars
  | .lines (some '\n') [] => [' ']
  | .lines (some '\n') others => others
  | .lines (some c) others => c :: others
  | .lines Option.none others => others

end Gap

/-- The line and column after a character. -/
def stepOver (c : Char) (line column : Nat) : Nat × Nat :=
  if isBreak c then (line + 1, 0) else (line, column + 1)

/-- Whether a character starts or separates flow collections. -/
def isFlowMark (c : Char) : Bool := [',', '[', ']', '\x7b', '\x7d'].contains c

/-! ## Plain scalars -/

/-- Whether a plain scalar ends before this text, which starts with a word. -/
def endsPlain (inFlow : Bool) : List Char → Bool
  | [] => true
  | c :: rest => (c == ':' && endsWord rest) || (inFlow && isFlowMark c)

/-- Whether a colon stands here that a plain scalar in a flow collection may not contain. -/
def isStrayColon : List Char → Bool
  | ':' :: c :: _ => isFlowMark c || c == '?'
  | _ => false

def startsPlain (inFlow : Bool) : List Char → Bool
  | [] => false
  | '-' :: rest => !endsWord rest
  | '?' :: rest => !inFlow && !endsWord rest
  | ':' :: rest => !inFlow && !endsWord rest
  | c :: _ =>
    !(isSpace c || isBreak c || isFlowMark c
      || ['#', '&', '*', '!', '|', '>', '\'', '"', '%', '@', '\x60'].contains c)

/-- Reads the rest of a plain scalar, of which `done` is read in reverse and `gap` follows. In block
context its lines are at least at column `low`. -/
def plainFrom (inFlow : Bool) (low : Nat) (done : List Char) (gap : Gap) (line column : Nat) :
    List Char → Option (String × Cursor)
  | [] => some (String.ofList done.reverse, ⟨[], line, column, gap.isLines⟩)
  | c :: rest =>
    let next := stepOver c line column
    if isSpace c || isBreak c then
      if c = '\t' && gap.isLines && column < low then none
      else plainFrom inFlow low done (gap.add c) next.1 next.2 rest
    else
      let text := c :: rest
      let outside := !gap.isNone &&
        (c == '#' || (column == 0 && isBoundary text)
          || (!inFlow && gap.isLines && decide (column < low)))
      if outside then some (String.ofList done.reverse, ⟨text, line, column, gap.isLines⟩)
      else if inFlow && isStrayColon text then none
      else if endsPlain inFlow text then
        some (String.ofList done.reverse, ⟨text, line, column, gap.isLines⟩)
      else plainFrom inFlow low (c :: (gap.text.reverse ++ done)) .none next.1 next.2 rest

/-! ## Quoted scalars -/

/-- Reads the rest of a scalar in single quotes, in which a quote is written twice. -/
def singleFrom (done : List Char) (gap : Gap) (line column : Nat) :
    List Char → Option (String × Cursor)
  | [] => none
  | '\'' :: '\'' :: rest =>
    singleFrom ('\'' :: (gap.text.reverse ++ done)) .none line (column + 2) rest
  | c :: rest =>
    let next := stepOver c line column
    if c = '\'' then
      some (String.ofList (gap.text.reverse ++ done).reverse, ⟨rest, line, column + 1, false⟩)
    else if isSpace c || isBreak c then singleFrom done (gap.add c) next.1 next.2 rest
    else if column = 0 && isBoundary (c :: rest) then none
    else singleFrom (c :: (gap.text.reverse ++ done)) .none next.1 next.2 rest

/-- What is being read in double quotes. -/
inductive QuoteState where
  | text
  /-- After a backslash. -/
  | escape
  /-- Inside the code of a character, of which `left` digits are to come. -/
  | code (left value : Nat)
deriving Repr

def escaped? : Char → Option Char
  | '0' => some '\x00'
  | 'a' => some '\x07'
  | 'b' => some '\x08'
  | 't' => some '\t'
  | '\t' => some '\t'
  | 'n' => some '\n'
  | 'v' => some '\x0b'
  | 'f' => some '\x0c'
  | 'r' => some '\r'
  | 'e' => some '\x1b'
  | ' ' => some ' '
  | '"' => some '"'
  | '/' => some '/'
  | '\\' => some '\\'
  | 'N' => some '\u0085'
  | '_' => some '\u00a0'
  | 'L' => some '\u2028'
  | 'P' => some '\u2029'
  | _ => none

/-- The number of digits after the letter of an escape that gives a code. -/
def codeLength? : Char → Option Nat
  | 'x' => some 2
  | 'u' => some 4
  | 'U' => some 8
  | _ => none

def hexValue? (c : Char) : Option Nat :=
  if '0' ≤ c ∧ c ≤ '9' then some (c.toNat - '0'.toNat)
  else if 'a' ≤ c ∧ c ≤ 'f' then some (c.toNat - 'a'.toNat + 10)
  else if 'A' ≤ c ∧ c ≤ 'F' then some (c.toNat - 'A'.toNat + 10)
  else none

/-- The character with a code, unless the code is none of a character. -/
def charOfCode? (code : Nat) : Option Char :=
  if code.isValidChar then some (Char.ofNat code) else none

/-- Reads the rest of a scalar in double quotes. -/
def doubleFrom (state : QuoteState) (done : List Char) (gap : Gap) (line column : Nat) :
    List Char → Option (String × Cursor)
  | [] => none
  | c :: rest =>
    let next := stepOver c line column
    match state with
    | .code left value =>
      match hexValue? c with
      | none => none
      | some digit =>
        match left with
        | 0 => none
        | 1 =>
          match charOfCode? (value * 16 + digit) with
          | none => none
          | some char => doubleFrom .text (char :: done) gap next.1 next.2 rest
        | more + 1 => doubleFrom (.code more (value * 16 + digit)) done gap next.1 next.2 rest
    | .escape =>
      if isBreak c then doubleFrom .text done (.lines none []) next.1 next.2 rest
      else
        match escaped? c, codeLength? c with
        | some char, _ => doubleFrom .text (char :: done) gap next.1 next.2 rest
        | none, some length => doubleFrom (.code length 0) done gap next.1 next.2 rest
        | none, none => none
    | .text =>
      if c = '"' then
        some (String.ofList (gap.text.reverse ++ done).reverse, ⟨rest, line, column + 1, false⟩)
      else if isSpace c || isBreak c then doubleFrom .text done (gap.add c) next.1 next.2 rest
      else if column = 0 && isBoundary (c :: rest) then none
      else if c = '\\' then
        doubleFrom .escape (gap.text.reverse ++ done) .none next.1 next.2 rest
      else doubleFrom .text (c :: (gap.text.reverse ++ done)) .none next.1 next.2 rest

inductive Style where
  | plain
  | quoted
  /-- A block whose lines stay. -/
  | literal
  /-- A block whose lines are joined. -/
  | folded
deriving DecidableEq, Repr, Inhabited

structure Scalar where
  text : String
  style : Style
deriving DecidableEq, Repr, Inhabited

def quoted? (at' : Cursor) : Option (Scalar × Cursor) :=
  let found :=
    match at'.rest with
    | '\'' :: rest => singleFrom [] .none at'.line (at'.column + 1) rest
    | '"' :: rest => doubleFrom .text [] .none at'.line (at'.column + 1) rest
    | _ => none
  found.map fun (text, next) => (⟨text, .quoted⟩, next)

/-- Reads a plain scalar that starts here; in block context its lines are at least at column `low`. -/
def plain? (inFlow : Bool) (low : Nat) (at' : Cursor) : Option (Scalar × Cursor) :=
  if startsPlain inFlow at'.rest then
    (plainFrom inFlow low [] .none at'.line at'.column at'.rest).map fun (text, next) =>
      (⟨text, .plain⟩, next)
  else none

end Yaml

end ApiAtlas
