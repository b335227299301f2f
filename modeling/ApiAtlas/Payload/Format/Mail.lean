import ApiAtlas.Payload.Format.Host

/-! # Mail addresses

A local part and a domain with an at sign between, or a name before such an address in angle brackets.
-/

namespace ApiAtlas

namespace Payload.Format

/-- The characters whose code has two bytes that would encode a character of its own: these are admitted
in texts of addresses beside ASCII. -/
def isPairCoded (c : Char) : Bool :=
  0xC2 ≤ c.toNat / 256 && c.toNat / 256 ≤ 0xDF && 0x80 ≤ c.toNat % 256 && c.toNat % 256 ≤ 0xBF

def isAtomChar (c : Char) : Bool :=
  Letter.isAlphanumeric c || "!#$%&'*+-/=?^_\x60\x7b|\x7d~".toList.contains c || isPairCoded c

def isAtom (text : List Char) : Bool := !text.isEmpty && text.all isAtomChar

/-- What stands between the quotes of a quoted local part: after a backslash any visible character of
ASCII, and elsewhere blanks and all of those but the quote and the backslash. -/
def isQuotable : List Char → Bool
  | [] => true
  | '\\' :: c :: rest => '!' ≤ c && c ≤ '~' && isQuotable rest
  | c :: rest =>
    (c = ' ' || c = '\t' || ('!' ≤ c && c ≤ '~' && c != '"' && c != '\\') || isPairCoded c)
      && isQuotable rest

def byteLength (text : List Char) : Nat := (String.ofList text).utf8ByteSize

/-- The local part of a mail address: words with dots between, or a quoted text. -/
def isLocalPart (text : List Char) : Bool :=
  byteLength text ≤ 64 &&
    (if text.head? == some '"' && text.getLast? == some '"' then
      2 < text.length && isQuotable (text.drop 1).dropLast
    else (Text.splitChars (· == '.') text).all isAtom)

def isMailLabel (label : List Char) : Bool :=
  isAtom label && byteLength label ≤ 63 && label.head? != some '-' && label.getLast? != some '-'

def isDomainLiteral (text : List Char) : Bool :=
  text.all (fun c => ('!' ≤ c && c ≤ 'Z') || ('^' ≤ c && c ≤ '~') || isPairCoded c) &&
    match text with
    | 'I' :: 'P' :: 'v' :: '6' :: ':' :: rest => isIpv6 rest
    | text => isIpv4 text

/-- The domain of a mail address: a host name, or an address in brackets. -/
def isMailDomain (text : List Char) : Bool :=
  byteLength text ≤ 254 &&
    (if text.head? == some '[' && text.getLast? == some ']' then
      isDomainLiteral (text.drop 1).dropLast
    else (Text.splitChars (· == '.') text).all isMailLabel && isHostName text)

/-- The address in angle brackets after a name, or the text itself. -/
def bareAddress? (text : List Char) : Option (List Char) :=
  match cutAtBracket? text.reverse with
  | none => some text
  | some bracketed =>
    match (Text.trim (String.ofList bracketed)).toList.reverse with
    | '>' :: address => some address.reverse
    | _ => none
where
  /-- What follows the last blank with an opening bracket, in a text given in reverse. -/
  cutAtBracket? : List Char → Option (List Char)
    | [] => none
    | '<' :: ' ' :: _ => some []
    | c :: rest => (cutAtBracket? rest).map fun after => after ++ [c]

def isEmail (text : List Char) : Bool :=
  match (bareAddress? text).bind fun address => Text.cutAt? '@' address.reverse with
  | some (domain, localPart) => isLocalPart localPart.reverse && isMailDomain domain.reverse
  | none => false

end Payload.Format

end ApiAtlas
