import ApiAtlas.Text.Case

/-! # Text operations

Splitting, trimming and comparing text. Every operation works on the list of characters, so that it
can be reasoned about by induction.
-/

namespace ApiAtlas

namespace Text

/-- The text in ASCII small letters; other characters stay. -/
def asciiLower (s : String) : String := String.ofList (s.toList.map Char.toLower)

/-- The text in ASCII capital letters; other characters stay. -/
def asciiUpper (s : String) : String := String.ofList (s.toList.map Char.toUpper)

/-- Equality that does not see ASCII letter case. -/
def sameIgnoringAsciiCase (a b : String) : Bool := asciiLower a == asciiLower b

/-- The text with each character in its small form. -/
def lower (s : String) : String := String.ofList (s.toList.flatMap Letter.toLower)

/-- The text without blanks at either end. -/
def trim (s : String) : String :=
  String.ofList ((s.toList.dropWhile Letter.isBlank).reverse.dropWhile Letter.isBlank).reverse

def isBlank (s : String) : Bool := s.toList.all Letter.isBlank

def splitChars (isSeparator : Char → Bool) : List Char → List (List Char)
  | [] => [[]]
  | c :: rest =>
    match splitChars isSeparator rest with
    | [] => [[c]]
    | piece :: pieces =>
      if isSeparator c then [] :: piece :: pieces else (c :: piece) :: pieces

def split (sep : Char) (s : String) : List String :=
  (splitChars (· == sep) s.toList).map String.ofList

/-- The rest of the text after a given start. -/
def afterStart? (start s : String) : Option String :=
  if start.toList.isPrefixOf s.toList then some (String.ofList (s.toList.drop start.length))
  else none

/-- Whether the text starts with a given text. -/
def startsWith (start s : String) : Bool := start.toList.isPrefixOf s.toList

def join (sep : String) (pieces : List String) : String := String.intercalate sep pieces

/-- The parts before and after the first occurrence of a character. -/
def cutAt? (sep : Char) (s : List Char) : Option (List Char × List Char) :=
  match s.dropWhile (· != sep) with
  | [] => none
  | _ :: rest => some (s.takeWhile (· != sep), rest)

end Text

end ApiAtlas
