import ApiAtlas.Text.Utf8
import ApiAtlas.Yaml.Scalar

/-! # Tags

A tag is a handle and a suffix. The handles `!` and `!!` stand for themselves and for the types of YAML; a
directive may give a meaning to others.
-/

namespace ApiAtlas

namespace Yaml

/-- A tag as written: a handle, which is empty where the suffix is the whole tag, and a suffix. -/
structure Tag where
  handle : String
  suffix : String
deriving DecidableEq, Repr, Inhabited

namespace Tag

/-- The meaning of `!!`. -/
def standard : String := "tag:yaml.org,2002:"

/-- Whether a character may stand in a tag. Commas and brackets may where nothing else can be meant. -/
def isTagChar (whole : Bool) (c : Char) : Bool :=
  isNameChar c
    || [';', '/', '?', ':', '@', '&', '=', '+', '$', '.', '%', '!', '~', '*', '\'', '(', ')'].contains c
    || (whole && [',', '[', ']'].contains c)

/-- The bytes that a text with escapes writes: `%` and two hexadecimal digits are a byte. -/
def bytes? : List Char → Option (List UInt8)
  | [] => some []
  | '%' :: a :: b :: rest => do
    let high ← hexValue? a
    let low ← hexValue? b
    return UInt8.ofNat (high * 16 + low) :: (← bytes? rest)
  | '%' :: _ => none
  | c :: rest => do return String.utf8EncodeChar c ++ (← bytes? rest)

def unescape? (text : List Char) : Option String := do
  let bytes ← bytes? text
  let decoded := Utf8.decode bytes
  if Utf8.encode decoded == bytes then return decoded else none

/-- Reads a handle, which starts with `!` and may end with one. With the rest comes the handle. -/
def handle? (text : List Char) : Option (List Char × List Char) :=
  match text with
  | '!' :: rest =>
    let name := rest.takeWhile isNameChar
    match rest.drop name.length with
    | '!' :: rest => some ('!' :: name ++ ['!'], rest)
    | rest => some ('!' :: name, rest)
  | _ => none

/-- The characters of a tag that come first, and what follows them. -/
def chars (whole : Bool) (text : List Char) : List Char × List Char :=
  let found := text.takeWhile (isTagChar whole)
  (found, text.drop found.length)

/-- Reads a tag: `!<…>` is the tag itself, a handle with a second `!` is followed by a suffix, and any
other text after `!` is a suffix of its own. -/
def read? (text : List Char) : Option (Tag × List Char) :=
  match text with
  | '!' :: '<' :: rest => do
    let (found, rest) := chars true rest
    match rest with
    | '>' :: rest => if found.isEmpty then none else return (⟨"", ← unescape? found⟩, rest)
    | _ => none
  | text => do
    let (handle, rest) ← handle? text
    if 1 < handle.length && handle.getLast? = some '!' then
      let (found, rest) := chars false rest
      if found.isEmpty then none
      else return (⟨String.ofList handle, ← unescape? found⟩, rest)
    else
      let (found, rest) := chars false rest
      let whole ← unescape? (handle.drop 1 ++ found)
      return (if whole = "" then ⟨"", "!"⟩ else ⟨"!", whole⟩, rest)

/-- The meanings of the handles that no directive gives one. -/
def standardHandles : List (String × String) := [("!", "!"), ("!!", standard)]

/-- The tag in full, given the meanings of handles. -/
def resolve? (handles : List (String × String)) (tag : Tag) : Option String :=
  if tag.handle = "" then some tag.suffix
  else ((handles ++ standardHandles).lookup tag.handle).map (· ++ tag.suffix)

end Tag

end Yaml

end ApiAtlas
