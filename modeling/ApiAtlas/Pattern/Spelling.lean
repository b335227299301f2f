import ApiAtlas.Pattern.Bracket
import ApiAtlas.Pattern.Escape

/-! # Spelling out

In the patterns of schemas `\d`, `\w` and `\s` mean fewer characters than a matcher for all scripts takes
them for. So they are spelled out as classes before a pattern is matched, and `\c` with a letter as the
control character. For this the pattern has to be of the plain syntax. One that looks around, or asks for
the match of a group, is taken as it stands from there on.
-/

namespace ApiAtlas

namespace Pattern

/-! ## Plain syntax -/

/-- A place in a pattern of the plain syntax. -/
structure Place where
  /-- What has been read, control characters spelled out. -/
  done : List Char := []
  /-- What has been read, spelled out in full. -/
  full : List Char := []
  /-- Whether blanks were dropped around each of the groups that are open. -/
  outer : List Bool := []
  /-- Whether blanks are dropped. -/
  spaced : Bool := false
  /-- Whether something precedes that can be repeated. -/
  repeatable : Bool := false
  names : List String := []
  /-- Whether the sign for a bell stands outside of classes, which the patterns of schemas do not have. -/
  rings : Bool := false
deriving Repr, Inhabited

/-- Classes in place of the letters that name sets. -/
def shorthandText? : Char → Option String
  | 'd' => some "[0-9]"
  | 'D' => some "[^0-9]"
  | 'w' => some "[A-Za-z0-9_]"
  | 'W' => some "[^A-Za-z0-9_]"
  | 's' => some "[ \t\n\r\x0b\x0c\u00a0\ufeff\u2003\u2029]"
  | 'S' => some "[^ \t\n\r\x0b\x0c\u00a0\ufeff\u2003\u2029]"
  | _ => none

def controlChar (letter : Char) : Char := Char.ofNat (letter.toNat % 32)

/-- A stretch of a pattern with its control characters, and if `full` its sets, spelled out. -/
def spellStretch (full : Bool) : List Char → List Char
  | [] => []
  | '\\' :: 'c' :: letter :: rest => controlChar letter :: spellStretch full rest
  | '\\' :: c :: rest =>
    match if full then shorthandText? c else none with
    | some text => text.toList ++ spellStretch full rest
    | none => '\\' :: c :: spellStretch full rest
  | c :: rest => c :: spellStretch full rest

/-- Goes on from `text` to `rest`, with what is between spelled out. -/
def Place.past (at' : Place) (text rest : List Char) : Place :=
  let stretch := text.take (text.length - rest.length)
  { at' with
    done := at'.done ++ spellStretch false stretch
    full := at'.full ++ spellStretch true stretch }

/-- Goes on from `text` to `rest`, with what is between as it stands. -/
def Place.over (at' : Place) (text rest : List Char) : Place :=
  let stretch := text.take (text.length - rest.length)
  { at' with done := at'.done ++ stretch, full := at'.full ++ stretch }

/-- What an escape stands for: a character or a set, or a condition on the place. -/
inductive Escaped where
  | item (item : ClassItem)
  | condition
deriving Repr

/-- Reads the name of a property after `\p`. Whether there is such a property is not asked here. -/
def skipProperty (spaced : Bool) (text : List Char) : Except Stop (List Char) :=
  match if spaced then dropBlanks text else text with
  | [] => .error .fault
  | '\x7b' :: rest =>
    match rest.dropWhile (· != '\x7d') with
    | [] => .error .fault
    | _ :: rest => .ok rest
  | '\\' :: _ => .error .fault
  | _ :: rest => .ok rest

/-- Reads what follows `\b`: the name of a condition in braces, or nothing. -/
def skipWordEdge (text : List Char) : Except Stop (List Char) :=
  match text with
  | '\x7b' :: rest =>
    if rest.head?.any fun c => c.isAlpha || c = '-' then
      let name := rest.takeWhile fun c => c.isAlpha || c = '-'
      match rest.drop name.length with
      | '\x7d' :: rest =>
        if ["start", "end", "start-half", "end-half"].contains (String.ofList name) then .ok rest
        else .error .fault
      | _ => .error .fault
    else if rest.isEmpty then .error .fault
    else .ok text
  | text => .ok text

/-- Reads an escape after its backslash. -/
def plainEscape (spaced : Bool) (text : List Char) : Except Stop (Escaped × List Char) :=
  match text with
  | [] => .error .fault
  | c :: rest =>
    if c.isDigit then .error .beyond
    else if (CharSet.ofShorthand? c).isSome then return (.item (.inr .empty), rest)
    else if c = 'p' || c = 'P' then return (.item (.inr .empty), ← skipProperty spaced rest)
    else if c = 'b' then return (.condition, ← skipWordEdge rest)
    else if ['B', 'A', 'z', '<', '>'].contains c then return (.condition, rest)
    else
      match codeLength? c, controlOf? c, rest with
      | some count, _, rest =>
        match readCode? count (if spaced then dropBlanks rest else rest) with
        | some (c, rest) => return (.item (.inl c), rest)
        | none => .error .fault
      | none, some c, rest => return (.item (.inl c), rest)
      | none, none, letter :: rest =>
        if c = 'c' && letter.isAlpha then return (.item (.inl (controlChar letter)), rest)
        else if Letter.isAscii c && !c.isAlpha then return (.item (.inl c), letter :: rest)
        else .error .fault
      | none, none, [] =>
        if Letter.isAscii c && !c.isAlpha then return (.item (.inl c), []) else .error .fault

/-- Reads an escape in a class. -/
def plainClassEscape (spaced : Bool) (text : List Char) : Except Stop (ClassItem × List Char) := do
  match ← plainEscape spaced text with
  | (.item item, rest) => return (item, rest)
  | (.condition, _) => .error .fault

/-- Reads a number in a count. -/
def countNumber (text : List Char) : Except Stop (Option Nat × List Char) :=
  let text := text.dropWhile Letter.isBlank
  match readNumber? text with
  | none => .ok (none, text)
  | some (number, rest) =>
    if Nat.pow 2 32 ≤ number then .error .fault
    else .ok (some number, rest.dropWhile Letter.isBlank)

/-- Reads a count after its opening brace. -/
def skipCount (text : List Char) : Except Stop (List Char) := do
  match ← countNumber text with
  | (none, _) => .error .fault
  | (some least, rest) =>
    match rest with
    | '\x7d' :: rest => return rest
    | ',' :: '\x7d' :: rest => return rest
    | ',' :: rest =>
      match ← countNumber rest with
      | (some most, '\x7d' :: rest) => if least ≤ most then return rest else .error .fault
      | _ => .error .fault
    | _ => .error .fault

/-- Drops the mark of a repetition that is rather seldom than often. -/
def dropReluctant : List Char → List Char
  | '?' :: rest => rest
  | rest => rest

/-- Reads a name of a group up to its closing bracket. -/
def groupName (text : List Char) : Except Stop (String × List Char) :=
  let name := text.takeWhile (· != '>')
  let isFirst (c : Char) := c = '_' || Letter.isAlphabetic c
  let isNext (c : Char) := ['_', '.', '[', ']'].contains c || Letter.isAlphanumeric c
  match text.drop name.length with
  | [] => .error .fault
  | _ :: rest =>
    if name.head?.any isFirst && (name.drop 1).all isNext then .ok (String.ofList name, rest)
    else .error .fault

/-- Reads the flags of a group up to the colon or the closing parenthesis. With the rest comes whether
blanks are to be dropped, if the flags say so; `seen` are those read so far. -/
def plainFlags (negated : Bool) (seen : List Char) (spaced : Option Bool) :
    List Char → Except Stop (Option Bool × List Char)
  | [] => .error .fault
  | c :: rest =>
    if c = ':' || c = ')' then
      if seen.head? = some '-' || (c = ')' && seen.isEmpty) then .error .fault
      else .ok (spaced, c :: rest)
    else if seen.contains c then .error .fault
    else if c = '-' then plainFlags true (c :: seen) spaced rest
    else if ['i', 'm', 's', 'U', 'u', 'R'].contains c then plainFlags negated (c :: seen) spaced rest
    else if c = 'x' then plainFlags negated (c :: seen) (some !negated) rest
    else .error .fault

def looksAround : List Char → Bool
  | '?' :: '=' :: _ => true
  | '?' :: '!' :: _ => true
  | '?' :: '<' :: '=' :: _ => true
  | '?' :: '<' :: '!' :: _ => true
  | _ => false

def Place.enter (at' : Place) (spaced : Bool) : Place :=
  { at' with outer := at'.spaced :: at'.outer, spaced, repeatable := false }

def Place.enterNamed (at' : Place) (text : List Char) : Except Stop (Place × List Char) := do
  let (name, rest) ← groupName text
  if at'.names.contains name then .error .fault
  else return ({ at'.enter at'.spaced with names := name :: at'.names }, rest)

/-- Reads the start of a group after its parenthesis. -/
def Place.openGroup (at' : Place) (text : List Char) : Except Stop (Place × List Char) :=
  let text := if at'.spaced then dropBlanks text else text
  if looksAround text then .error .beyond
  else
    match text with
    | '?' :: 'P' :: '<' :: rest => at'.enterNamed rest
    | '?' :: '<' :: rest => at'.enterNamed rest
    | '?' :: rest => do
      match ← plainFlags false [] none rest with
      | (spaced, ':' :: rest) => return (at'.enter (spaced.getD at'.spaced), rest)
      | (spaced, rest) =>
        return ({ at' with spaced := spaced.getD at'.spaced, repeatable := false }, rest.drop 1)
    | text => .ok (at'.enter at'.spaced, text)

def Place.closeGroup (at' : Place) : Except Stop Place :=
  match at'.outer with
  | [] => .error .fault
  | spaced :: outer => .ok { at' with outer, spaced, repeatable := true }

/-- Reads a repetition after its sign. -/
def Place.afterRepetition (at' : Place) (rest : List Char) : Except Stop (Place × List Char) :=
  if at'.repeatable then .ok (at', dropReluctant rest) else .error .fault

/-- Reads the next piece of a pattern, `c :: rest`: where it leads, and what is left. -/
def Place.next (at' : Place) (c : Char) (rest : List Char) : Except Stop (Place × List Char) :=
  let solid := { at' with repeatable := true }
  match c with
  | '(' => at'.openGroup rest
  | ')' => do return (← at'.closeGroup, rest)
  | '|' => .ok ({ at' with repeatable := false }, rest)
  | '[' => do
    let rules : ClassRules := { escape := plainClassEscape at'.spaced, spaced := at'.spaced }
    let (_, rest) ← rules.read rest
    return (solid, rest)
  | '?' => at'.afterRepetition rest
  | '*' => at'.afterRepetition rest
  | '+' => at'.afterRepetition rest
  | '\x7b' => do
    if at'.repeatable then at'.afterRepetition (← skipCount rest) else .error .fault
  | '\\' => do
    let (escaped, left) ← plainEscape at'.spaced rest
    match escaped with
    | .item _ => return ({ solid with rings := at'.rings || rest.head? = some 'a' }, left)
    | .condition => return (solid, left)
  | _ => .ok (solid, rest)

def spellFrom : (fuel : Nat) → Place → List Char → Option String
  | 0, _, _ => none
  | _ + 1, at', [] =>
    if at'.outer.isEmpty && !at'.rings then some (String.ofList at'.full) else none
  | fuel + 1, at', c :: rest =>
    let text := c :: rest
    if at'.spaced && (Letter.isBlank c || c = '#') then
      let left := dropBlanks text
      spellFrom fuel (at'.over text left) left
    else
      match at'.next c rest with
      | .ok (next, left) => spellFrom fuel (next.past text left) left
      | .error .beyond => some (String.ofList (at'.done ++ text))
      | .error .fault => none

/-- The text of a pattern spelled out, if it is a pattern. -/
def spell? (text : String) : Option String := spellFrom (text.length + 1) {} text.toList

end Pattern

end ApiAtlas
