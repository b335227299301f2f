import ApiAtlas.Pattern.CharSet

/-! # Classes in brackets

A class lists characters, ranges, named sets and other classes; with `^` in front it is the complement.
`&&`, `--` and `~~` between lists take the intersection, the difference and what is in just one of them,
from left to right. The escapes that may stand in a class are given from outside.
-/

namespace ApiAtlas

namespace Pattern

inductive Stop where
  /-- This is no pattern. -/
  | fault
  /-- What comes here (looking around, or the match of a group once more) is not of the plain syntax. -/
  | beyond
deriving DecidableEq, Repr

/-- What stands in a class: a character, or a set of them. -/
abbrev ClassItem : Type := Char ⊕ CharSet

/-- How a class is read: its escapes, after the backslash; whether letter case counts; and whether blanks
and comments are dropped. -/
structure ClassRules where
  escape : List Char → Except Stop (ClassItem × List Char)
  ignoresCase : Bool := false
  spaced : Bool := false

/-- Drops blanks and comments, which go to the end of the line. -/
def dropBlanks : List Char → List Char
  | [] => []
  | c :: rest =>
    if Letter.isBlank c then dropBlanks rest
    else if c = '#' then dropComment rest
    else c :: rest
where
  /-- Drops the rest of a comment, and what follows it like blanks. -/
  dropComment : List Char → List Char
    | [] => []
    | c :: rest => if c = '\n' then dropBlanks rest else dropComment rest

namespace ClassRules

/-- Drops blanks and comments where these do not count. -/
def skip (rules : ClassRules) (text : List Char) : List Char :=
  if rules.spaced then dropBlanks text else text

/-- Reads a set with a name between colons, after the opening bracket. -/
def asciiClass? (rules : ClassRules) (text : List Char) : Option (CharSet × List Char) :=
  match text with
  | ':' :: '^' :: rest => named true rest
  | ':' :: rest => named false rest
  | _ => none
where
  /-- The set whose name comes first, or its complement. -/
  named (negated : Bool) (text : List Char) : Option (CharSet × List Char) :=
    let name := text.takeWhile (· != ':')
    match text.drop name.length with
    | ':' :: ']' :: rest =>
      (CharSet.ofAsciiName? (String.ofList name)).map fun set =>
        let set := set.withCase rules.ignoresCase
        (if negated then .complement set else set, rest)
    | _ => none

def item (rules : ClassRules) (text : List Char) : Except Stop (ClassItem × List Char) :=
  match text with
  | [] => .error .fault
  | '\\' :: rest => rules.escape rest
  | c :: rest => .ok (.inl c, rest)

/-- Reads an item, or a range if a hyphen and another item follow. -/
def itemOrRange (rules : ClassRules) (text : List Char) : Except Stop (CharSet × List Char) := do
  let (first, rest) ← rules.item text
  let alone := match first with
    | .inl c => CharSet.single c
    | .inr set => set
  match rules.skip rest with
  | [] => .error .fault
  | '-' :: after =>
    let after := rules.skip after
    if after.head? = some ']' || after.head? = some '-' then return (alone, rules.skip rest)
    else
      let (last, rest) ← rules.item after
      match first, last with
      | .inl first, .inl last =>
        if first ≤ last then return (.range first last, rest) else .error .fault
      | _, _ => .error .fault
  | rest => return (alone, rest)

/-- An operation on the lists before and after it, within which letter case is seen to first. -/
def combine (rules : ClassRules) (operation : CharSet → CharSet → CharSet) (a b : CharSet) : CharSet :=
  operation (a.withCase rules.ignoresCase) (b.withCase rules.ignoresCase)

mutual
/-- Reads the rest of a class. `before` completes what was read before the last operation with the list
after it, of which `seen` has been read. -/
def body (rules : ClassRules) : (fuel : Nat) → (before : CharSet → CharSet) → (seen : CharSet) →
    List Char → Except Stop (CharSet × List Char)
  | 0, _, _, _ => .error .fault
  | fuel + 1, before, seen, text =>
    match rules.skip text with
    | [] => .error .fault
    | ']' :: rest => return (before seen, rest)
    | '[' :: rest =>
      match rules.asciiClass? rest with
      | some (set, rest) => body rules fuel before (.union seen set) rest
      | none => do
        let (set, rest) ← bracket rules fuel rest
        body rules fuel before (.union seen set) rest
    | '&' :: '&' :: rest =>
      body rules fuel (rules.combine .intersection (before seen)) .empty rest
    | '-' :: '-' :: rest => body rules fuel (rules.combine .difference (before seen)) .empty rest
    | '~' :: '~' :: rest => body rules fuel (rules.combine .distinction (before seen)) .empty rest
    | text => do
      let (set, rest) ← rules.itemOrRange text
      body rules fuel before (.union seen set) rest

/-- Reads a class after its opening bracket. Hyphens that come first stand for themselves, and so does a
closing bracket. -/
def bracket (rules : ClassRules) : (fuel : Nat) → List Char → Except Stop (CharSet × List Char)
  | 0, _ => .error .fault
  | fuel + 1, text => do
    let text := rules.skip text
    let negated := text.head? = some '^'
    let text := if negated then rules.skip (text.drop 1) else text
    let hyphens := text.takeWhile (· == '-')
    let rest := rules.skip (text.drop hyphens.length)
    let (seen, rest) :=
      match hyphens, rest with
      | [], ']' :: rest => (CharSet.single ']', rest)
      | [], rest => (.empty, rest)
      | _, rest => (CharSet.single '-', rest)
    let (set, rest) ← body rules fuel id seen rest
    let set := set.withCase rules.ignoresCase
    return (if negated then .complement set else set, rest)
end

/-- Reads a class after its opening bracket. -/
def read (rules : ClassRules) (text : List Char) : Except Stop (CharSet × List Char) :=
  bracket rules (2 * text.length + 2) text

end ClassRules

end Pattern

end ApiAtlas
