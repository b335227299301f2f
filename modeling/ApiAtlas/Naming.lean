import ApiAtlas.Text.Basic

/-! # Names derived from documents

Model names are in camel case, route names in snake case. Both are built from whatever text a
document offers: titles, property names, operation ids and paths.
-/

namespace ApiAtlas

/-- The name of an HTTP method, such as `GET`. Case matters. -/
abbrev Method := String

namespace Naming

/-- A word with its first character in capital form. -/
def capitalize : List Char → List Char
  | [] => []
  | c :: rest => Letter.toUpper c ++ rest

/-- The words of a text, each capitalized, without what separates them. -/
def camelChars (text : List Char) : List Char :=
  (Text.splitChars (fun c => !Letter.isAlphanumeric c) text).flatMap capitalize

/-- Camel case: words of letters and digits, each capitalized and joined. -/
def camelCase (text : String) : String := String.ofList (camelChars text.toList)

/-- Adds an underscore at the end of a name (given in reverse), unless it is empty or ends in one. -/
def separate : List Char → List Char
  | [] => []
  | c :: rest => if c = '_' then c :: rest else '_' :: c :: rest

/-- Whether a new word starts at a capital letter, given its neighbours: after a small letter or a
digit it does; in a run of capitals only the last one before a small letter does. -/
def startsWord (before after : Option Char) : Bool :=
  match before with
  | none => false
  | some p =>
    if Letter.isLower p || p.isDigit then true
    else if Letter.isUpper p then after.any Letter.isLower
    else false

/-- Appends the snake case of the remaining text to a name given in reverse. `before` is the
character that precedes the remaining text. -/
def snakeFrom (name : List Char) (before : Option Char) : List Char → List Char
  | [] => name
  | c :: rest =>
    if Letter.isUpper c then
      let name := if startsWord before rest.head? then separate name else name
      snakeFrom ((Letter.toLower c).reverse ++ name) (some c) rest
    else if Letter.isLower c || c.isDigit then snakeFrom (c :: name) (some c) rest
    else snakeFrom (separate name) (some c) rest

def snakeChars (text : List Char) : List Char :=
  ((snakeFrom [] none text).dropWhile (· == '_')).reverse

/-- Snake case: small letters and digits, words joined by single underscores. -/
def snakeCase (text : String) : String := String.ofList (snakeChars text.toList)

/-- The parameter name of a segment in braces. -/
def placeholder? (segment : List Char) : Option (List Char) :=
  match segment with
  | '\x7b' :: rest =>
    match rest.reverse with
    | '\x7d' :: name => some name.reverse
    | _ => none
  | _ => none

/-- The part of a route name that a path segment contributes. -/
def segmentWord (segment : List Char) : List Char :=
  match placeholder? segment with
  | some name => ['b', 'y', '_'] ++ snakeChars name
  | none => snakeChars segment

/-- The name of a route that was given none: its method and the words of its path. -/
def routeName (method : Method) (path : String) : String :=
  let segments := (Text.splitChars (· == '/') path.toList).filter (!·.isEmpty)
  let words := (segments.map segmentWord).filter (!·.isEmpty)
  Text.join "_" (Text.asciiLower method :: words.map String.ofList)

/-- The stem of an operation's model names: its id in camel case, or else its method and path. -/
def operationStem (operationId : Option String) (method : Method) (path : String) : String :=
  match (operationId.map camelCase).filter (· != "") with
  | some stem => stem
  | none => camelCase (Text.asciiLower method ++ " " ++ path)

end Naming

end ApiAtlas
