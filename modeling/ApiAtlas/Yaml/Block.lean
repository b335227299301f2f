import ApiAtlas.Yaml.Scalar

/-! # Block scalars

A block scalar is a header, `|` or `>` with indicators, and the lines after it that are indented. Literal
blocks keep the ends of lines. In folded ones a single end of a line between two lines that start with no
blank is a blank, and of several the first one is dropped.
-/

namespace ApiAtlas

namespace Yaml

/-- What becomes of the ends of lines at the end of a block. -/
inductive Chomping where
  | strip
  /-- One of them stays. -/
  | clip
  | keep
deriving DecidableEq, Repr, Inhabited

structure BlockHeader where
  chomping : Chomping := .clip
  /-- By how much the lines are indented, if this is given. -/
  indent : Option Nat := none
deriving DecidableEq, Repr, Inhabited

namespace BlockHeader

/-- The rule for the last ends of lines that a sign gives. -/
def chomping? : Char → Option Chomping
  | '+' => some .keep
  | '-' => some .strip
  | _ => none

/-- The indentation that a digit gives, which is not zero. -/
def indent? (c : Char) : Option Nat :=
  if '1' ≤ c && c ≤ '9' then some (c.toNat - '0'.toNat) else none

/-- Reads the indicators of a header, in either order. -/
def read (text : List Char) : BlockHeader × List Char :=
  match text with
  | [] => ({}, [])
  | [c] =>
    match chomping? c, indent? c with
    | some chomping, _ => ({ chomping }, [])
    | none, some indent => ({ indent := some indent }, [])
    | none, none => ({}, [c])
  | c :: d :: rest =>
    match chomping? c, indent? c with
    | some chomping, _ =>
      match indent? d with
      | some indent => ({ chomping, indent := some indent }, rest)
      | none => ({ chomping }, d :: rest)
    | none, some indent =>
      match chomping? d with
      | some chomping => ({ chomping, indent := some indent }, rest)
      | none => ({ indent := some indent }, d :: rest)
    | none, none => ({}, c :: d :: rest)

end BlockHeader

/-- The ends of lines before a line of a block, and where that line starts. `widest` is the greatest
column reached by blanks alone. -/
structure LineStart where
  breaks : List Char
  widest : Nat
  rest : List Char
  line : Nat
  column : Nat
deriving Repr

/-- Skips empty lines and the indentation of the line after them. The indentation is `indent` blanks, or
all there are if it is not known. A tab may not stand in it. -/
def lineStart? (indent : Option Nat) (breaks : List Char) (widest line column : Nat) :
    List Char → Option LineStart
  | [] => some ⟨breaks, max widest column, [], line, column⟩
  | c :: rest =>
    let isIndenting := indent.all (column < ·)
    if c = ' ' && isIndenting then lineStart? indent breaks widest line (column + 1) rest
    else if c = '\t' && isIndenting then none
    else if isBreak c then
      lineStart? indent (breaks ++ [c]) (max widest column) (line + 1) 0 rest
    else some ⟨breaks, max widest column, c :: rest, line, column⟩

/-- What precedes a line of a block: the end of the line before it, `first`, and the ends of empty lines.
`isFolded` says that the two lines are to be joined if they can. -/
def joint (isFolded : Bool) (first breaks : List Char) : List Char :=
  if isFolded && first == ['\n'] then (if breaks.isEmpty then [' '] else breaks) else first ++ breaks

/-- Reads the lines of a block that start at column `indent`, of which `done` is read. `first` and `breaks`
are the ends of lines before this one, and `afterBlank` says whether the line before starts with a blank.
With the text come the ends of lines that are left over. -/
def blockLines (folds : Bool) (indent : Nat) : (fuel : Nat) → (done first : List Char) →
    (afterBlank : Bool) → LineStart → Option (List Char × List Char × LineStart)
  | 0, _, _, _, _ => none
  | fuel + 1, done, first, afterBlank, start =>
    match start.rest with
    | [] => some (done, first, start)
    | c :: _ =>
      if start.column ≠ indent then some (done, first, start)
      else
        let startsBlank := isSpace c
        let before := joint (folds && !afterBlank && !startsBlank) first start.breaks
        let content := start.rest.takeWhile (!isBreak ·)
        let done := done ++ before ++ content
        let column := start.column + content.length
        match start.rest.drop content.length with
        | [] => blockLines folds indent fuel done [] startsBlank ⟨[], 0, [], start.line, column⟩
        | d :: rest =>
          match lineStart? (some indent) [] 0 (start.line + 1) 0 rest with
          | none => none
          | some next => blockLines folds indent fuel done [d] startsBlank next

/-- Reads a block scalar that starts here, in a block whose lines are at least at column `low`. -/
def block? (low : Nat) (at' : Cursor) : Option (Scalar × Cursor) := do
  let style := if at'.rest.head? = some '|' then Style.literal else .folded
  let (header, rest) := BlockHeader.read (at'.rest.drop 1)
  let next ← (at'.upTo rest).lineEnd?
  let given := header.indent.map fun indent => if low = 0 then indent else low - 1 + indent
  let start ← lineStart? given [] 0 next.line next.column next.rest
  let indent := given.getD (max (max start.widest low) 1)
  let (text, first, last) ←
    blockLines (style == .folded) indent (start.rest.length + 1) [] [] false start
  let tail :=
    match header.chomping with
    | .strip => []
    | .clip => first
    | .keep => first ++ last.breaks
  return (⟨String.ofList (text ++ tail), style⟩, ⟨last.rest, last.line, last.column, true⟩)

end Yaml

end ApiAtlas
