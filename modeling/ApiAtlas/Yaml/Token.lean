import ApiAtlas.Yaml.Block
import ApiAtlas.Yaml.Tag

/-! # YAML tokens

A text is a list of tokens. Most are written, but where a block collection starts or ends shows only in the
columns, and that a scalar is a key shows only at the colon after it. So the tokens before a colon get their
mark when the colon is read, which has to be on the same line.
-/

namespace ApiAtlas

namespace Yaml

inductive Token where
  /-- The version that a directive gives. -/
  | version (major minor : Nat)
  /-- The meaning that a directive gives to a handle of tags. -/
  | handle (handle meaning : String)
  | documentStart
  | documentEnd
  | blockSequence
  | blockMapping
  | blockEnd
  | flowSequence
  | flowSequenceEnd
  | flowMapping
  | flowMappingEnd
  /-- The dash before an entry of a block sequence. -/
  | entry
  /-- The comma in a flow collection. -/
  | comma
  | key
  | value
  | alias (name : String)
  | anchor (name : String)
  | tag (tag : Tag)
  | scalar (scalar : Scalar)
deriving DecidableEq, Repr, Inhabited

/-- A place where a key may have started. -/
structure KeyStart where
  /-- The number of tokens before it. -/
  number : Nat
  line : Nat
  column : Nat
  /-- Whether nothing but a key may stand there. -/
  required : Bool
deriving Repr, Inhabited

structure Progress where
  at' : Cursor
  /-- The tokens so far, in reverse. -/
  done : List Token := []
  /-- The columns of the open block collections, the innermost first. -/
  columns : List Nat := []
  /-- Where a key may have started, for each flow collection that is open and for the block around them,
  the innermost first. -/
  starts : List (Option KeyStart) := [none]
deriving Repr, Inhabited

namespace Progress

def inFlow (p : Progress) : Bool := 1 < p.starts.length

/-- The least column of what belongs to the innermost block collection and is not one of its entries. -/
def low (p : Progress) : Nat :=
  match p.columns with
  | [] => 0
  | column :: _ => column + 1

/-- Adds a token. -/
def add (p : Progress) (token : Token) : Progress := { p with done := token :: p.done }

def addAt (p : Progress) (token : Token) (at' : Cursor) : Progress :=
  { p with done := token :: p.done, at' }

/-- Puts a token after the first `number` ones. -/
def insert (p : Progress) (number : Nat) (token : Token) : Progress :=
  let later := p.done.length - number
  { p with done := p.done.take later ++ token :: p.done.drop later }

def withFresh (p : Progress) (fresh : Bool) : Progress := { p with at' := { p.at' with fresh } }

/-! ## Keys -/

/-- A key ends on the line of its start, and less than so many characters on. -/
def keyLimit : Nat := 1024

/-- Forgets the starts of keys that are too far back. A required key has to be one. -/
def dropStale? (p : Progress) : Option Progress := do
  let starts ← p.starts.mapM fun
    | none => some none
    | some start =>
      if start.line < p.at'.line || start.column + keyLimit < p.at'.column then
        if start.required then none else some none
      else some (some start)
  return { p with starts }

/-- Forgets the innermost start of a key, which may not be required. -/
def dropStart? (p : Progress) : Option Progress :=
  match p.starts with
  | some start :: rest =>
    if start.required then none else some { p with starts := none :: rest }
  | _ => some p

/-- Notes that a key may start here. In a block it has to, if the column is that of the keys. -/
def noteStart? (p : Progress) : Option Progress :=
  if !p.at'.fresh then some p
  else do
    let p ← p.dropStart?
    let start : KeyStart :=
      { number := p.done.length, line := p.at'.line, column := p.at'.column
        required := !p.inFlow && p.columns.head? == some p.at'.column }
    return { p with starts := some start :: p.starts.drop 1 }

/-! ## Columns -/

/-- Ends the block collections that lie farther right than a column. -/
def endBlocks (column : Nat) (done : List Token) : List Nat → List Token × List Nat
  | [] => (done, [])
  | c :: rest => if column < c then endBlocks column (.blockEnd :: done) rest else (done, c :: rest)

/-- Ends the block collections that the column of the cursor is left of. -/
def endBlocksHere (p : Progress) : Progress :=
  if p.inFlow then p
  else
    let (done, columns) := endBlocks p.at'.column p.done p.columns
    { p with done, columns }

def endAllBlocks (p : Progress) : Progress :=
  if p.inFlow then p
  else { p with done := p.columns.map (fun _ => Token.blockEnd) ++ p.done, columns := [] }

/-- Starts a block collection at a column, after the first `number` tokens, if one may start there. -/
def startBlock (p : Progress) (column number : Nat) (token : Token) : Progress :=
  if p.inFlow || column < p.low then p
  else { p.insert number token with columns := column :: p.columns }

def startBlockHere (p : Progress) (token : Token) : Progress :=
  p.startBlock p.at'.column p.done.length token

/-! ## Directives -/

/-- The tokens of a directive after its percent sign. -/
def directive? (at' : Cursor) : Option (Token × Cursor) := do
  let name := at'.rest.takeWhile isNameChar
  let rest := at'.rest.drop name.length
  if !endsWord rest then none
  else if name = "YAML".toList then
    let text := rest.dropWhile isSpace
    let (major, rest) ← number? text
    match rest with
    | '.' :: rest =>
      let (minor, rest) ← number? rest
      return (.version major minor, ← (at'.upTo rest).lineEnd?)
    | _ => none
  else if name = "TAG".toList then
    let (handle, rest) ← Tag.handle? (rest.dropWhile isSpace)
    if handle.getLast? != some '!' || !rest.head?.any isSpace then none
    else
      let (found, rest) := Tag.chars true (rest.dropWhile isSpace)
      if found.isEmpty || !endsWord rest then none
      else
        return (.handle (String.ofList handle) (← Tag.unescape? found), ← (at'.upTo rest).lineEnd?)
  else none
where
  /-- A number of at most nine digits. -/
  number? (text : List Char) : Option (Nat × List Char) :=
    let digits := text.takeWhile Char.isDigit
    if digits.isEmpty || 9 < digits.length then none
    else
      some (digits.foldl (fun n c => n * 10 + (c.toNat - '0'.toNat)) 0, text.drop digits.length)

/-! ## Tokens -/

/-- Reads a mark between documents, or a directive: what comes before it is complete. -/
def boundary? (p : Progress) (token : Token) (at' : Cursor) : Option Progress := do
  let p ← p.endAllBlocks.dropStart?
  return (p.addAt token at').withFresh false

def openFlow? (p : Progress) (token : Token) : Option Progress := do
  let p ← p.noteStart?
  return ({ p with starts := none :: p.starts }.addAt token (p.at'.past 1)).withFresh true

def closeFlow? (p : Progress) (token : Token) : Option Progress := do
  let p ← p.dropStart?
  let starts := if p.inFlow then p.starts.drop 1 else p.starts
  return { p with starts }.addAt token (p.at'.past 1)

def comma? (p : Progress) : Option Progress := do
  let p ← p.dropStart?
  return (p.addAt .comma (p.at'.past 1)).withFresh true

def entry? (p : Progress) : Option Progress := do
  if !p.inFlow && !p.at'.fresh then none
  else
    let p ← (p.startBlockHere .blockSequence).dropStart?
    return (p.addAt .entry (p.at'.past 1)).withFresh true

def key? (p : Progress) : Option Progress := do
  if !p.inFlow && !p.at'.fresh then none
  else
    let p ← (p.startBlockHere .blockMapping).dropStart?
    return (p.addAt .key (p.at'.past 1)).withFresh (!p.inFlow)

/-- Reads the colon of a value. If a key may have started on this line, it did. -/
def value? (p : Progress) : Option Progress :=
  match p.starts with
  | some start :: rest =>
    let p := (p.insert start.number .key).startBlock start.column start.number .blockMapping
    some ({ p with starts := none :: rest }.addAt .value (p.at'.past 1))
  | _ =>
    if !p.inFlow && !p.at'.fresh then none
    else
      let p := p.startBlockHere .blockMapping
      some ((p.addAt .value (p.at'.past 1)).withFresh (!p.inFlow))

def name? (p : Progress) (token : String → Token) : Option Progress := do
  let p ← p.noteStart?
  let text := p.at'.rest.drop 1
  let name := text.takeWhile isNameChar
  let rest := text.drop name.length
  let ends :=
    endsWord rest || rest.head?.any ['?', ':', ',', ']', '\x7d', '%', '@', '\x60'].contains
  if name.isEmpty || !ends then none
  else return p.addAt (token (String.ofList name)) (p.at'.upTo rest)

def tag? (p : Progress) : Option Progress := do
  let p ← p.noteStart?
  let (tag, rest) ← Tag.read? p.at'.rest
  if endsWord rest || (p.inFlow && rest.head? = some ',') then
    return p.addAt (.tag tag) (p.at'.upTo rest)
  else none

def scalar? (p : Progress) (read : Cursor → Option (Scalar × Cursor)) : Option Progress := do
  let p ← p.noteStart?
  let (scalar, next) ← read p.at'
  return p.addAt (.scalar scalar) next

def block? (p : Progress) : Option Progress := do
  let p ← p.dropStart?
  let (scalar, next) ← Yaml.block? p.low p.at'
  return p.addAt (.scalar scalar) next

def token? (p : Progress) : Option Progress :=
  let text := p.at'.rest
  let atStart := p.at'.column = 0
  if atStart && text.head? = some '%' then do
    let (token, next) ← directive? (p.at'.past 1)
    p.boundary? token next
  else if atStart && isMarker '-' text then p.boundary? .documentStart (p.at'.past 3)
  else if atStart && isMarker '.' text then p.boundary? .documentEnd (p.at'.past 3)
  else
    match text with
    | [] => none
    | c :: rest =>
      let alone := endsWord rest
      if c = '[' then p.openFlow? .flowSequence
      else if c = '\x7b' then p.openFlow? .flowMapping
      else if c = ']' then p.closeFlow? .flowSequenceEnd
      else if c = '\x7d' then p.closeFlow? .flowMappingEnd
      else if c = ',' then p.comma?
      else if c = '-' && alone then p.entry?
      else if c = '?' && (p.inFlow || alone) then p.key?
      else if c = ':' && (p.inFlow || alone) then p.value?
      else if c = '*' then p.name? .alias
      else if c = '&' then p.name? .anchor
      else if c = '!' then p.tag?
      else if (c = '|' || c = '>') && !p.inFlow then p.block?
      else if c = '\'' || c = '"' then p.scalar? quoted?
      else p.scalar? (plain? p.inFlow p.low)

def tokens? : (fuel : Nat) → Progress → Option (List Token)
  | 0, _ => none
  | fuel + 1, p => do
    let p ← ({ p with at' := p.at'.skip p.inFlow }).dropStale?
    let p := p.endBlocksHere
    if p.at'.rest.isEmpty then
      let p ← p.endAllBlocks.dropStart?
      return p.done.reverse
    else tokens? fuel (← p.token?)

end Progress

/-- Whether a character may stand in a text. -/
def isAllowed (c : Char) : Bool :=
  c == '\t' || c == '\n' || c == '\r' || (' ' ≤ c && c ≤ '~') || c == '\u0085'
    || ('\u00a0' ≤ c && c ≤ '\ufffd') || 0x10000 ≤ c.toNat

/-- The text with every end of a line as a line feed; line and paragraph separators stay. -/
def withLineFeeds : List Char → List Char
  | [] => []
  | '\r' :: '\n' :: rest => '\n' :: withLineFeeds rest
  | c :: rest => (if c = '\r' || c = '\u0085' then '\n' else c) :: withLineFeeds rest

/-- The start of a text. A byte order mark is skipped but takes a column. -/
def startOf (text : List Char) : Cursor :=
  match text with
  | '\ufeff' :: rest => { rest, column := 1 }
  | text => { rest := text }

def tokens? (text : String) : Option (List Token) :=
  if !text.toList.all isAllowed then none
  else
    let chars := withLineFeeds text.toList
    Progress.tokens? (chars.length + 1) { at' := startOf chars }

end Yaml

end ApiAtlas
