import ApiAtlas.Pattern.Basic
import ApiAtlas.Pattern.Bracket
import ApiAtlas.Pattern.Escape
import ApiAtlas.Pattern.Property
import ApiAtlas.Pattern.Spelling

/-! # Reading regular expressions

The syntax: characters, classes in brackets, groups, alternatives, repetitions (each possibly reluctant or
possessive), anchors, looking around, asking for the match of a group, choices, flags, comments and
escapes. A brace that starts no count is a character. Flags set on their own hold up to the end of the
innermost group without a number that starts with `?:` or with flags, or up to the end of the pattern.
-/

namespace ApiAtlas

namespace Pattern.Parser

structure Flags where
  ignoresCase : Bool := false
  /-- Whether `^` and `$` stand for the start and the end of lines. -/
  byLine : Bool := false
  dotAll : Bool := false
  /-- Whether repetitions are reluctant unless marked. -/
  reluctant : Bool := false
  spaced : Bool := false
deriving Repr, Inhabited

/-- The rest of a pattern, and what was seen before it. -/
structure Source where
  rest : List Char
  flags : Flags := {}
  /-- The number of groups so far. -/
  groups : Nat := 0
  names : List (String × Nat) := []
  /-- The groups that are asked for again. -/
  asked : List Nat := []
  /-- Whether some group is asked for by its number. -/
  byNumber : Bool := false
deriving Repr, Inhabited

namespace Source

/-- The source with another rest. -/
def at' (source : Source) (rest : List Char) : Source := { source with rest }

/-- Drops a comment after its start, up to a closing parenthesis; a backslash guards one. -/
def dropNote : List Char → Option (List Char)
  | [] => none
  | ')' :: rest => some rest
  | '\\' :: _ :: rest => dropNote rest
  | _ :: rest => dropNote rest

/-- Drops blanks and comments, where they do not count, and comments in parentheses. -/
def skipFrom (spaced : Bool) : (fuel : Nat) → List Char → Option (List Char)
  | 0, _ => none
  | fuel + 1, text =>
    match text with
    | '(' :: '?' :: '#' :: rest => do skipFrom spaced fuel (← dropNote rest)
    | '#' :: rest =>
      if spaced then skipFrom spaced fuel ((rest.dropWhile (· != '\n')).drop 1) else some text
    | c :: rest =>
      if spaced && [' ', '\r', '\n', '\t'].contains c then skipFrom spaced fuel rest else some text
    | [] => some []

/-- The source after blanks and comments. -/
def skip (source : Source) : Option Source :=
  (skipFrom source.flags.spaced (source.rest.length + 1) source.rest).map source.at'

/-- The source after a closing parenthesis. -/
def close? (source : Source) : Option Source :=
  match source.rest with
  | ')' :: rest => some (source.at' rest)
  | _ => none

end Source

/-! ## Escapes -/

/-- The character that a character after a backslash stands for. -/
def literalEscape? (c : Char) : Option Char :=
  if c = 'e' then some '\x1b'
  else (controlOf? c).or (if c.isAlpha then none else some c)

/-- A code of a character: digits, or at most eight of them in braces. -/
def code? (count : Nat) (text : List Char) : Option (Char × List Char) :=
  match text with
  | '\x7b' :: rest => if (rest.takeWhile (· != '\x7d')).length ≤ 8 then readCode? count text else none
  | text => readCode? count text

/-- Reads the name of a property after `\p`. -/
def property? (text : List Char) : Option (CharSet × List Char) :=
  match text with
  | '\x7b' :: rest =>
    let name := rest.takeWhile (· != '\x7d')
    match rest.drop name.length with
    | _ :: rest => (CharProperty.ofText? name).map (·, rest)
    | [] => none
  | c :: rest =>
    (CharProperty.ofCategory? (CharProperty.plainName (String.ofList [c]))).map (·, rest)
  | [] => none

/-- Reads an escape after its backslash that stands for a character or a set. -/
def itemEscape? (ignoresCase : Bool) (text : List Char) : Option (ClassItem × List Char) :=
  match text with
  | [] => none
  | c :: rest =>
    match CharSet.ofShorthand? c, codeLength? c with
    | some set, _ => some (.inr set, rest)
    | none, some count => (code? count rest).map fun (c, rest) => (.inl c, rest)
    | none, none =>
      if c = 'h' then some (.inr .hexDigit, rest)
      else if c = 'H' then some (.inr (.complement .hexDigit), rest)
      else if c = 'p' then
        (property? rest).map fun (set, rest) => (.inr (set.withCase ignoresCase), rest)
      else if c = 'P' then
        (property? rest).map fun (set, rest) =>
          (.inr (.complement (set.withCase ignoresCase)), rest)
      else (literalEscape? c).map fun c => (.inl c, rest)

/-- Reads an escape in a class, where no group can be asked for. -/
def classEscape (ignoresCase : Bool) (text : List Char) : Except Stop (ClassItem × List Char) :=
  match text with
  | 'b' :: rest => .ok (.inl '\x08', rest)
  | text =>
    if text.head?.any Char.isDigit then .error .fault
    else
      match itemEscape? ignoresCase text with
      | some found => .ok found
      | none => .error .fault

/-- The condition on the place that an escape stands for. -/
def condition? (text : List Char) : Option (Pattern × List Char) :=
  match text with
  | 'A' :: rest => some (.start, rest)
  | 'G' :: rest => some (.start, rest)
  | 'z' :: rest => some (.finish, rest)
  | 'Z' :: rest =>
    some (.look true true (.seq (.times (.char (.single '\n')) 0 none true) .finish), rest)
  | 'B' :: rest => if rest.head? = some '\x7b' then none else some (.word .interior, rest)
  | '<' :: rest => some (.word .start, rest)
  | '>' :: rest => some (.word .finish, rest)
  | 'b' :: '\x7b' :: rest =>
    let name := rest.takeWhile (· != '\x7d')
    (edge? (String.ofList name)).map fun edge => (.word edge, rest.drop (name.length + 1))
  | 'b' :: rest => some (.word .boundary, rest)
  | _ => none
where
  /-- The condition of a name in braces. -/
  edge? : String → Option WordEdge
    | "start" => some .start
    | "end" => some .finish
    | "start-half" => some .startHalf
    | "end-half" => some .finishHalf
    | _ => none

/-- Whether a character may stand in the name of a group. -/
def isNameChar (c : Char) : Bool := Letter.isAlphanumeric c || c = '_'

def name? (first last : Char) (text : List Char) : Option (String × List Char) :=
  match text with
  | c :: rest =>
    let name := rest.takeWhile isNameChar
    match rest.drop name.length with
    | d :: rest => if c = first && d = last && !name.isEmpty then some (String.ofList name, rest) else none
    | [] => none
  | [] => none

/-- The match of a group once more. -/
def again (source : Source) (number : Nat) (rest : List Char) : Pattern × Source :=
  (.again number source.flags.ignoresCase,
    { source with rest, asked := number :: source.asked })

def groupNamed? (source : Source) (name : String) : Option Nat :=
  match source.names.lookup name, readNumber? name.toList with
  | some number, _ => some number
  | none, some (number, []) => some number
  | none, _ => none

/-- The number of the group that is so many groups back, or ahead, from here. -/
def groupAt? (source : Source) (sign : Char) (distance : Nat) : Option Nat :=
  if sign = '+' then some (source.groups + distance)
  else if distance ≤ source.groups + 1 then some (source.groups + 1 - distance)
  else none

/-- Reads which group is asked for, by its name, its number or its distance from here. -/
def groupAsked? (source : Source) (text : List Char) : Option (Nat × List Char) :=
  match text with
  | [] => none
  | sign :: rest =>
    if sign = '+' || sign = '-' then do
      let (distance, rest) ← readNumber? rest
      return (← groupAt? source sign distance, rest)
    else
      let name := text.takeWhile isNameChar
      (groupNamed? source (String.ofList name)).map fun number => (number, text.drop name.length)

def groupBetween? (source : Source) (first last : Char) (text : List Char) :
    Option (Nat × List Char) :=
  match text with
  | c :: rest => do
    let (number, rest) ← groupAsked? source rest
    if c = first && rest.head? = some last then return (number, rest.drop 1) else none
  | [] => none

/-- Reads an escape after its backslash. -/
def escape? (source : Source) (text : List Char) : Option (Pattern × Source) :=
  match readNumber? text, text with
  | some (number, rest), _ =>
    some (again { source with byNumber := true } number rest)
  | none, 'k' :: '\'' :: rest =>
    (groupBetween? source '\'' '\'' ('\'' :: rest)).map fun (number, rest) => again source number rest
  | none, 'k' :: rest =>
    (groupBetween? source '<' '>' rest).map fun (number, rest) => again source number rest
  | none, 'K' :: rest => some (.empty, source.at' rest)
  | none, text =>
    match condition? text with
    | some (pattern, rest) => some (pattern, source.at' rest)
    | none =>
      (itemEscape? source.flags.ignoresCase text).map fun (item, rest) =>
        match item with
        | .inl c => (.char ((CharSet.single c).withCase source.flags.ignoresCase), source.at' rest)
        | .inr set => (.char set, source.at' rest)

/-! ## Classes -/

/-- The text of a class after its opening bracket, up to the closing bracket that belongs to it. `depth`
counts the open brackets inside. -/
def classText (depth : Nat) : List Char → Option (List Char)
  | [] => none
  | '\\' :: c :: rest => (classText depth rest).map fun text => '\\' :: c :: text
  | '[' :: rest => (classText (depth + 1) rest).map ('[' :: ·)
  | ']' :: rest =>
    match depth with
    | 0 => some [']']
    | depth + 1 => (classText depth rest).map (']' :: ·)
  | c :: rest => (classText depth rest).map (c :: ·)

/-- The text of a class, in which a closing bracket that comes first stands for itself. -/
def wholeClassText : List Char → Option (List Char)
  | '^' :: ']' :: rest => (classText 0 rest).map ('^' :: ']' :: ·)
  | ']' :: rest => (classText 0 rest).map (']' :: ·)
  | text => classText 0 text

/-- Reads a class after its opening bracket. -/
def class? (source : Source) (rest : List Char) : Option (Pattern × Source) := do
  let text ← wholeClassText rest
  let ignoresCase := source.flags.ignoresCase
  let rules : ClassRules := { escape := classEscape ignoresCase, ignoresCase }
  match rules.read text with
  | .ok (set, []) => return (.char set, source.at' (rest.drop text.length))
  | _ => none

/-! ## Repetitions -/

/-- Reads a count after its opening brace. -/
def count? (source : Source) : Option (Nat × Option Nat × Source) := do
  let source ← source.skip
  let (least, source) ←
    match readNumber? source.rest with
    | some (least, rest) => some (least, source.at' rest)
    | none => if source.rest.head? = some ',' then some (0, source) else none
  let source ← source.skip
  match source.rest with
  | '\x7d' :: rest => return (least, some least, source.at' rest)
  | ',' :: rest =>
    let source ← (source.at' rest).skip
    let (most, source) :=
      match readNumber? source.rest with
      | some (most, rest) => (some most, source.at' rest)
      | none => (none, source)
    let source ← source.skip
    match source.rest with
    | '\x7d' :: rest => return (least, most, source.at' rest)
    | _ => none
  | _ => none

/-- Reads the sign of a repetition: how often, and what is left. -/
def repetition? (source : Source) : Option (Nat × Option Nat × Source) :=
  match source.rest with
  | '?' :: rest => some (0, some 1, source.at' rest)
  | '*' :: rest => some (0, none, source.at' rest)
  | '+' :: rest => some (1, none, source.at' rest)
  | '\x7b' :: rest => count? (source.at' rest)
  | _ => none

/-- Whether a pattern can be repeated: nothing, conditions on the place and looking around cannot. -/
def isRepeatable : Pattern → Bool
  | .empty => false
  | .start => false
  | .finish => false
  | .lineStart => false
  | .lineFinish => false
  | .word _ => false
  | .look .. => false
  | _ => true

/-- Repeats a pattern as a sign says that was read, with the marks after the sign: a question mark for a
reluctant repetition, and then a plus sign for a possessive one. -/
def repeated (pattern : Pattern) (least : Nat) (most : Option Nat) (source : Source) :
    Option (Pattern × Source) := do
  if !isRepeatable pattern || most.any (· < least) then none
  else
    let source ← source.skip
    let marked := source.rest.head? = some '?'
    let rest := dropReluctant source.rest
    let pattern := .times pattern least most (marked == source.flags.reluctant)
    match rest with
    | '+' :: rest => return (.atomic pattern, source.at' rest)
    | rest => return (pattern, source.at' rest)

/-! ## Groups and sequences -/

/-- The pieces one after another. They are paired from the left, so that what a few of them lead to is
found once for all that follow. -/
def sequence : List Pattern → Pattern
  | [] => .empty
  | piece :: rest => rest.foldl .seq piece

def isNothing : Pattern → Bool
  | .empty => true
  | _ => false

def setFlag? (flags : Flags) (value : Bool) : Char → Option Flags
  | 'i' => some { flags with ignoresCase := value }
  | 'm' => some { flags with byLine := value }
  | 's' => some { flags with dotAll := value }
  | 'U' => some { flags with reluctant := value }
  | 'x' => some { flags with spaced := value }
  | 'u' => if value then some flags else none
  | _ => none

/-- Reads flags up to the colon or the closing parenthesis. -/
def flags? (value : Bool) (source : Source) : (fuel : Nat) → Option Source
  | 0 => none
  | fuel + 1 => do
    let source ← source.skip
    match source.rest with
    | [] => none
    | ':' :: _ => return source
    | ')' :: _ => return source
    | '-' :: rest => if value then flags? false (source.at' rest) fuel else none
    | c :: rest =>
      let flags ← setFlag? source.flags value c
      flags? value { source with flags, rest } fuel

/-- The greatest number of groups inside one another. -/
def depthLimit : Nat := 63

mutual
/-- Reads alternatives up to a closing parenthesis or the end. -/
def alternatives : (fuel : Nat) → (depth : Nat) → Source → Option (Pattern × Source)
  | 0, _, _ => none
  | fuel + 1, depth, source => do
    let (first, source) ← branch fuel depth [] source
    let source ← source.skip
    if source.rest.head? = some '|' then moreAlternatives fuel depth first source
    else if source.byNumber && !source.names.isEmpty then none
    else return (first, source)

/-- Reads the alternatives after those read already. -/
def moreAlternatives : (fuel : Nat) → (depth : Nat) → Pattern → Source → Option (Pattern × Source)
  | 0, _, _, _ => none
  | fuel + 1, depth, first, source =>
    match source.rest with
    | '|' :: rest => do
      let (second, source) ← branch fuel depth [] (source.at' rest)
      moreAlternatives fuel depth (.either first second) (← source.skip)
    | _ => some (first, source)

/-- Reads pieces one after another, those read already being given in reverse. -/
def branch : (fuel : Nat) → (depth : Nat) → List Pattern → Source → Option (Pattern × Source)
  | 0, _, _, _ => none
  | fuel + 1, depth, pieces, source => do
    let (piece, next) ← piece fuel depth source
    if next.rest.length = source.rest.length then return (sequence pieces.reverse, source)
    else if isNothing piece then branch fuel depth pieces next
    else branch fuel depth (piece :: pieces) next

def piece : (fuel : Nat) → (depth : Nat) → Source → Option (Pattern × Source)
  | 0, _, _ => none
  | fuel + 1, depth, source => do
    let (pattern, source) ← atom fuel depth source
    let source ← source.skip
    match repetition? source with
    | some (least, most, source) => repeated pattern least most source
    | none => return (pattern, source)

/-- Reads one atom; where none starts, nothing. -/
def atom : (fuel : Nat) → (depth : Nat) → Source → Option (Pattern × Source)
  | 0, _, _ => none
  | fuel + 1, depth, source => do
    let source ← source.skip
    let flags := source.flags
    match source.rest with
    | [] => return (.empty, source)
    | '.' :: rest =>
      return (.char (if flags.dotAll then .all else .withinLine), source.at' rest)
    | '^' :: rest => return (if flags.byLine then .lineStart else .start, source.at' rest)
    | '$' :: rest => return (if flags.byLine then .lineFinish else .finish, source.at' rest)
    | '(' :: rest => group fuel (depth + 1) (source.at' rest)
    | '\\' :: rest => escape? source rest
    | '[' :: rest => class? source rest
    | c :: rest =>
      if ['+', '*', '?', '|', ')'].contains c then return (.empty, source)
      else return (.char ((CharSet.single c).withCase flags.ignoresCase), source.at' rest)

/-- Reads a group after its opening parenthesis. -/
def group : (fuel : Nat) → (depth : Nat) → Source → Option (Pattern × Source)
  | 0, _, _ => none
  | fuel + 1, depth, source => do
    let source ← source.skip
    let number := source.groups + 1
    let numbered := { source with groups := number }
    if depthLimit < depth then none
    else
      match source.rest with
      | '?' :: '=' :: rest => inside fuel depth (.look true true) (source.at' rest)
      | '?' :: '!' :: rest => inside fuel depth (.look true false) (source.at' rest)
      | '?' :: '<' :: '=' :: rest => inside fuel depth (.look false true) (source.at' rest)
      | '?' :: '<' :: '!' :: rest => inside fuel depth (.look false false) (source.at' rest)
      | '?' :: '>' :: rest => inside fuel depth .atomic (source.at' rest)
      | '?' :: '<' :: rest =>
        let (name, rest) ← name? '<' '>' ('<' :: rest)
        inside fuel depth (.group number) { numbered with rest, names := (name, number) :: source.names }
      | '?' :: '\'' :: rest =>
        let (name, rest) ← name? '\'' '\'' ('\'' :: rest)
        inside fuel depth (.group number) { numbered with rest, names := (name, number) :: source.names }
      | '?' :: 'P' :: '<' :: rest =>
        let (name, rest) ← name? '<' '>' ('<' :: rest)
        inside fuel depth (.group number) { numbered with rest, names := (name, number) :: source.names }
      | '?' :: 'P' :: '=' :: rest =>
        let (name, rest) ← name? '=' ')' ('=' :: rest)
        return again source (← groupNamed? source name) rest
      | '?' :: '(' :: rest => choice fuel depth (source.at' rest)
      | '?' :: rest =>
        let flagged ← flags? true (source.at' rest) (rest.length + 1)
        let written := rest.take (rest.length - flagged.rest.length)
        match flagged.rest with
        | ':' :: rest =>
          if written = ['-'] then none
          else
            inside fuel depth id { flagged with rest } |>.map fun (pattern, next) =>
              (pattern, { next with flags := source.flags })
        | _ :: after =>
          if written.isEmpty || written = ['-'] then none else return (.empty, flagged.at' after)
        | [] => none
      | rest => inside fuel depth (.group number) (numbered.at' rest)

/-- Reads a choice after its two opening parentheses: a condition, and what to match if it holds and if
not. That a group is asked for is the condition that it has been entered, and may stand alone. -/
def choice : (fuel : Nat) → (depth : Nat) → Source → Option (Pattern × Source)
  | 0, _, _ => none
  | fuel + 1, depth, source => do
    let asked? :=
      match source.rest with
      | [] => none
      | c :: _ =>
        if c = '\'' then some (groupBetween? source '\'' '\'' source.rest)
        else if c = '<' then some (groupBetween? source '<' '>' source.rest)
        else if c.isDigit || c = '+' || c = '-' then some (groupAsked? source source.rest)
        else none
    let (condition, source) ←
      match asked? with
      | some found =>
        found.map fun (number, rest) =>
          (Pattern.entered number, { source with rest, asked := number :: source.asked })
      | none => alternatives fuel depth source
    let source ← (← source.skip).close?
    let (holds, next) ← branch fuel depth [] source
    let next ← next.skip
    if next.rest.head? = some '|' then
      let (fails, next) ← alternatives fuel depth (next.at' (next.rest.drop 1))
      return (.choice condition holds fails, ← (← next.skip).close?)
    else if next.rest.length = source.rest.length then
      if asked?.isNone then none else return (condition, ← next.close?)
    else return (.choice condition holds .empty, ← next.close?)

/-- Reads what is inside a group, and its closing parenthesis. The flags set inside stay. -/
def inside : (fuel : Nat) → (depth : Nat) → (Pattern → Pattern) → Source → Option (Pattern × Source)
  | 0, _, _, _ => none
  | fuel + 1, depth, wrap, source => do
    let (pattern, next) ← alternatives fuel depth source
    return (wrap pattern, ← (← next.skip).close?)
end

/-- Reads a whole pattern. The groups that are asked for again have to exist. -/
def whole? (text : List Char) : Option Pattern := do
  let (pattern, source) ← alternatives (6 * text.length + 8) 0 { rest := text }
  if source.rest.isEmpty && source.asked.all (fun number => 0 < number && number ≤ source.groups) then
    return keepGroups source.asked pattern
  else none

end Pattern.Parser

namespace Pattern

/-- The pattern that a text writes, if it is not too large. -/
def parse? (text : String) : Option Pattern :=
  (Parser.whole? text.toList).filter fun pattern => pattern.size ≤ sizeLimit

/-- The pattern of a text without any blank of the scripts of schemas, which are more than those that are
spelled out for `\S`. -/
def unbroken : Pattern :=
  let blank := CharSet.union (.difference .blank (.single '\u0085')) (.single '\ufeff')
  .seq .start (.seq (.times (.char (.complement blank)) 0 none true) .finish)

/-- The pattern that a text in a schema writes, with the text that messages give for it. -/
def read? (text : String) : Option (String × Pattern) :=
  if text = "^\\S*$" then some (text, unbroken)
  else do
    let spelled ← spell? text
    return (spelled, ← parse? spelled)

end Pattern

end ApiAtlas
