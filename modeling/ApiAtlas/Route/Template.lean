import ApiAtlas.Pattern.Basic
import ApiAtlas.Text.Basic

/-! # Path templates

A template is a list of segments, each of which is a text or a parameter that stands for any nonempty text
without a slash. Empty segments of a template are dropped. A template can be written as a regular expression, and one
for which that grows too large is refused.
-/

namespace ApiAtlas

namespace Route

inductive Segment where
  | literal (text : String)
  | parameter (name : String)
deriving DecidableEq, Repr, Inhabited

namespace Segment

/-- The text without the braces around it. -/
def unbraced (text : String) : String :=
  String.ofList
    ((text.toList.dropWhile (· == '\x7b')).reverse.dropWhile (· == '\x7d')).reverse

/-- Reads a segment, which is a parameter if it is in braces. -/
def ofText (text : String) : Segment :=
  if text.toList.head? = some '\x7b' && text.toList.getLast? = some '\x7d' then
    .parameter (unbraced text)
  else .literal text

end Segment

inductive Template where
  /-- The path that is a single slash. -/
  | root
  | segments (list : List Segment)
deriving DecidableEq, Repr, Inhabited

namespace Template

def ofPath (path : String) : Template :=
  if path = "/" then .root
  else .segments (((Text.split '/' path).filter (· != "")).map Segment.ofText)

/-- Matches pieces of a path with segments, one by one, and collects the parameters. -/
def matchPieces : List Segment → List String → Option (List (String × String))
  | [], [] => some []
  | .literal text :: rest, piece :: pieces =>
    if piece = text then matchPieces rest pieces else none
  | .parameter name :: rest, piece :: pieces =>
    if piece = "" then none
    else (matchPieces rest pieces).map ((name, piece) :: ·)
  | _, _ => none

/-- The parameters of a path that the template matches. A path is a slash before each piece; a template
without segments matches the empty path. -/
def capture? (template : Template) (path : String) : Option (List (String × String)) :=
  match template with
  | .root => if path = "/" then some [] else none
  | .segments list =>
    match Text.split '/' path with
    | "" :: pieces => matchPieces list pieces
    | _ => none

def accepts (template : Template) (path : String) : Bool := (template.capture? path).isSome

end Template

/-- All characters but the slash. -/
def notSlash : CharSet := .complement (.single '/')

/-- The expression of segments whose parameters are groups from this number on. -/
def expressionOf : (number : Nat) → List Segment → Pattern
  | _, [] => .finish
  | number, .literal text :: rest => .seq (.spelled ('/' :: text.toList)) (expressionOf number rest)
  | number, .parameter _ :: rest =>
    .seq (.spelled ['/'])
      (.seq (.group number (.times (.char notSlash) 1 none true)) (expressionOf (number + 1) rest))

def Template.expression : Template → Pattern
  | .root => .seq .start (.seq (.spelled ['/']) .finish)
  | .segments list => .seq .start (expressionOf 1 list)

/-- The template of a path, unless its expression is too large. -/
def Template.read? (path : String) : Option Template :=
  let template := ofPath path
  if template.expression.size ≤ Pattern.sizeLimit then some template else none

end Route

end ApiAtlas
