import ApiAtlas.Pattern.CharSet
import ApiAtlas.Pattern.Found

/-! # Regular expressions

From a position of a text a pattern leads to the positions at which a match may end, in order of
preference. A text matches if this list has a member for some position. What a group has matched may be
asked for again, so where groups match belongs to how far a match has come.
-/

namespace ApiAtlas

/-- What a place among the characters of words is asked to be. -/
inductive WordEdge where
  /-- A word starts or ends here. -/
  | boundary
  /-- No word starts or ends here. -/
  | interior
  | start
  | finish
  /-- No word goes on from before this place. -/
  | startHalf
  /-- No word goes on after this place. -/
  | finishHalf
deriving DecidableEq, Repr, Inhabited

/-- Whether a place is as asked, given whether a character of a word is before it and after it. -/
def WordEdge.admits (edge : WordEdge) (before after : Bool) : Bool :=
  match edge with
  | .boundary => before != after
  | .interior => before == after
  | .start => !before && after
  | .finish => before && !after
  | .startHalf => !before
  | .finishHalf => !after

inductive Pattern where
  | empty
  | char (set : CharSet)
  | seq (first second : Pattern)
  | either (first second : Pattern)
  /-- At least `least` and, if given, at most `most` times, rather more often if `eager`. -/
  | times (body : Pattern) (least : Nat) (most : Option Nat) (eager : Bool)
  | group (number : Nat) (body : Pattern)
  /-- What a group has matched, once more. -/
  | again (number : Nat) (ignoresCase : Bool)
  /-- Whether a group has been entered. -/
  | entered (number : Nat)
  /-- The preferred match and no other. -/
  | atomic (body : Pattern)
  | start
  | finish
  | lineStart
  | lineFinish
  | word (edge : WordEdge)
  /-- What follows, or what precedes, matches or does not. -/
  | look (ahead present : Bool) (body : Pattern)
  /-- The second pattern after the preferred match of the first, or else the third. -/
  | choice (condition holds fails : Pattern)
deriving Repr, Inhabited

namespace Pattern

/-- Where a group was entered last, and where it was left last. -/
structure Span where
  number : Nat
  first : Nat
  last : Option Nat := none
deriving DecidableEq, Hashable, Repr, Inhabited

/-- How far a match has come: the position, and the spans of the groups. -/
structure Progress where
  position : Nat
  spans : List Span := []
deriving DecidableEq, Hashable, Repr, Inhabited

namespace Progress

def span? (p : Progress) (number : Nat) : Option Span := p.spans.find? (·.number == number)

def setSpan (p : Progress) (span : Span) : Progress :=
  { p with spans := span :: p.spans.filter (·.number != span.number) }

/-- Enters a group: its match starts here, and where it ended before is kept until it is left. -/
def enter (p : Progress) (number : Nat) : Progress :=
  p.setSpan ⟨number, p.position, (p.span? number).bind (·.last)⟩

def leave (p : Progress) (number : Nat) : Progress :=
  match p.span? number with
  | some span => p.setSpan { span with last := some p.position }
  | none => p

/-- Where one more step leads from the members of a list. -/
def stepAll (step : Progress → List Progress) (found : List Progress) : List Progress :=
  match found with
  | [p] => step p
  | found => (found.foldl (fun acc p => acc.addAll (step p)) Found.nothing).toList

/-- Where exactly `count` steps lead. Once a step leads nowhere, or back to where it came from, so do
the others. -/
def exactly (step : Progress → List Progress) : (count : Nat) → List Progress → List Progress
  | 0, found => found
  | count + 1, found =>
    let next := stepAll step found
    if next.isEmpty || next == found then next else exactly step count next

/-- Adds where any number of steps lead, in order of preference: after what is farther if `eager`, and
before it if not. A step has to get on, so no more than `room` are made from a position that far from the
end. -/
def extend (step : Progress → List Progress) (eager : Bool) :
    (room : Nat) → Found Progress → Progress → Found Progress
  | 0, found, _ => found
  | room + 1, found, p =>
    if found.contains p then found
    else
      let next := (step p).filter (p.position < ·.position)
      let further := extend step eager room
      if eager then (next.foldl further found).add p else next.foldl further (found.add p)

/-- Adds where at most `left` steps lead, like `extend`, with the number of steps that are left there. A
step may stay where it is. -/
def extendUpTo (step : Progress → List Progress) (eager : Bool) :
    (left : Nat) → Found (Nat × Progress) → Progress → Found (Nat × Progress)
  | 0, found, p => found.add (0, p)
  | left + 1, found, p =>
    if found.contains (left + 1, p) then found
    else
      let further := extendUpTo step eager left
      if eager then ((step p).foldl further found).add (left + 1, p)
      else (step p).foldl further (found.add (left + 1, p))

end Progress

/-- Whether the characters of a text from a position on are those of a list. -/
def isAt (text : Array Char) (ignoresCase : Bool) : List Char → Nat → Bool
  | [], _ => true
  | c :: rest, i =>
    (text[i]?).any (fun d => c == d || (ignoresCase && Letter.sameIgnoringCase c d))
      && isAt text ignoresCase rest (i + 1)

/-- Where what a group has matched leads if it comes once more. Where letter case is ignored, it still has
to be as long in bytes. -/
def ofAgain (text : Array Char) (ignoresCase : Bool) (span : Span) (p : Progress) : List Progress :=
  match span.last with
  | none => []
  | some last =>
    let matched := (text.extract span.first last).toList
    let more := (text.extract p.position (p.position + matched.length)).toList
    if last < span.first || !isAt text ignoresCase matched p.position then []
    else if (String.ofList matched).utf8ByteSize ≠ (String.ofList more).utf8ByteSize then []
    else [{ p with position := p.position + matched.length }]

/-- The number of groups in a pattern. -/
def groupCount : Pattern → Nat
  | .seq first second => groupCount first + groupCount second
  | .either first second => groupCount first + groupCount second
  | .times body _ _ _ => groupCount body
  | .group _ body => groupCount body + 1
  | .atomic body => groupCount body
  | .look _ _ body => groupCount body
  | .choice condition holds fails => groupCount condition + groupCount holds + groupCount fails
  | _ => 0

/-- A number of repetitions that is as good as any greater one in a text of this length: a repetition
gets on, or enters or leaves a group elsewhere than before, or changes nothing. -/
def enoughSteps (body : Pattern) (length : Nat) : Nat := (length + 1) * (2 * groupCount body + 1)

/-- Where a match that has come this far may lead. -/
def ends (text : Array Char) : Pattern → Progress → List Progress
  | .empty, p => [p]
  | .char set, p =>
    match text[p.position]? with
    | some c => if set.contains c then [{ p with position := p.position + 1 }] else []
    | none => []
  | .seq first second, p => Progress.stepAll (ends text second) (ends text first p)
  | .either first second, p => Found.distinct (ends text first p ++ ends text second p)
  | .times body least most eager, p =>
    let step := ends text body
    let must := Progress.exactly step least [p]
    match most with
    | none => (must.foldl (Progress.extend step eager (text.size + 1)) Found.nothing).toList
    | some most =>
      let left := min (most - least) (enoughSteps body text.size)
      let found := must.foldl (Progress.extendUpTo step eager left) Found.nothing
      Found.distinct (found.toList.map (·.2))
  | .group number body, p =>
    Found.distinct ((ends text body (p.enter number)).map (·.leave number))
  | .again number ignoresCase, p =>
    match p.span? number with
    | some span => ofAgain text ignoresCase span p
    | none => []
  | .entered number, p => if (p.span? number).isSome then [p] else []
  | .atomic body, p => (ends text body p).take 1
  | .start, p => if p.position = 0 then [p] else []
  | .finish, p => if p.position = text.size then [p] else []
  | .lineStart, p => if p.position = 0 || text[p.position - 1]? = some '\n' then [p] else []
  | .lineFinish, p => if p.position = text.size || text[p.position]? = some '\n' then [p] else []
  | .word edge, p =>
    let before := p.position != 0 && (text[p.position - 1]?).any Letter.isWordChar
    let after := (text[p.position]?).any Letter.isWordChar
    if edge.admits before after then [p] else []
  | .look true present body, p =>
    match ends text body p with
    | [] => if present then [] else [p]
    | q :: _ => if present then [{ q with position := p.position }] else []
  | .look false present body, p =>
    let found := (List.range (p.position + 1)).findSome? fun first =>
      (ends text body { p with position := first }).find? fun q => q.position == p.position
    match found with
    | some q => if present then [q] else []
    | none => if present then [] else [p]
  | .choice condition holds fails, p =>
    match ends text condition p with
    | [] => ends text fails p
    | q :: _ => ends text holds q

def search (pattern : Pattern) (text : String) : Bool :=
  let chars := text.toList.toArray
  (List.range (chars.size + 1)).any fun i => !(ends chars pattern { position := i }).isEmpty

/-- The pattern that a text is, character by character. -/
def spelled : List Char → Pattern
  | [] => .empty
  | c :: rest => .seq (.char (.single c)) (spelled rest)

/-- The pattern with those groups only that are asked for again. -/
def keepGroups (numbers : List Nat) : Pattern → Pattern
  | .seq first second => .seq (keepGroups numbers first) (keepGroups numbers second)
  | .either first second => .either (keepGroups numbers first) (keepGroups numbers second)
  | .times body least most eager => .times (keepGroups numbers body) least most eager
  | .group number body =>
    let kept := keepGroups numbers body
    if numbers.contains number then .group number kept else kept
  | .atomic body => .atomic (keepGroups numbers body)
  | .look ahead present body => .look ahead present (keepGroups numbers body)
  | .choice condition holds fails =>
    .choice (keepGroups numbers condition) (keepGroups numbers holds) (keepGroups numbers fails)
  | pattern => pattern

/-! ## Size

A count stands for so many copies of what it counts, and the copies have to fit in memory. The sizes are
those of a machine that has a state of 32 bytes for each step from one byte of the text to the next.
-/

/-- The number of runs of ASCII characters in a set. -/
def asciiRuns (set : CharSet) : Nat :=
  ((List.range 128).foldl
    (fun (count, before) code =>
      let inside := set.contains (Char.ofNat code)
      (if inside && !before then count + 1 else count, inside))
    (0, false)).1

/-- Whether a set is written with ASCII characters only. -/
def isWithinAscii : CharSet → Bool
  | .empty => true
  | .range _ last => Letter.isAscii last
  | .having _ => false
  | .union a b => isWithinAscii a && isWithinAscii b
  | .intersection a b => isWithinAscii a || isWithinAscii b
  | .difference a _ => isWithinAscii a
  | .distinction a b => isWithinAscii a && isWithinAscii b
  | .complement _ => false
  | .anyCase set => isWithinAscii set

/-- Whether a set is written with a property, which has hundreds of runs. -/
def isManifold : CharSet → Bool
  | .having _ => true
  | .union a b => isManifold a || isManifold b
  | .intersection a b => isManifold a || isManifold b
  | .difference a b => isManifold a || isManifold b
  | .distinction a b => isManifold a || isManifold b
  | .complement set => isManifold set
  | .anyCase set => isManifold set
  | _ => false

def setSize : CharSet → Nat
  | .range first last =>
    if first = last then 32 * first.utf8Size else if Letter.isAscii last then 72 else 424
  | set =>
    if isWithinAscii set then 64 + 8 * asciiRuns set
    else if isManifold set then 15000 else 424 + 8 * asciiRuns set

def size : Pattern → Nat
  | .char set => setSize set
  | .seq first second => size first + size second
  | .either first second => size first + size second + 80
  | .times body least most _ =>
    match most with
    | some most => size body * most + 40 * (most - least)
    | none => size body * max 1 least + 80
  | .group _ body => size body + 64
  | .atomic body => size body
  | .look _ _ body => size body
  | .choice condition holds fails => size condition + size holds + size fails
  | _ => 32

def sizeLimit : Nat := 10 * Nat.pow 2 20

end Pattern

end ApiAtlas
