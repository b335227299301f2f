import ApiAtlas.Text.Basic
import ApiAtlas.Text.Category
import ApiAtlas.Text.Script

/-! # Hosts

Host names, and addresses of hosts in four numbers or in eight groups of hexadecimal digits. A label of
a host name that starts with `xn--` encodes a label with characters beyond ASCII, and those have rules
of their own.
-/

namespace ApiAtlas

namespace Payload.Format

def isHex (c : Char) : Bool := c.isDigit || ('a' ≤ c && c ≤ 'f') || ('A' ≤ c && c ≤ 'F')

/-! ## Addresses -/

/-- One of the four numbers of an address: below 256, and with no zero in front. -/
def isOctet (text : List Char) : Bool :=
  !text.isEmpty && text.all Char.isDigit && text.length ≤ 3
    && (text.length = 1 || text.head? != some '0')
    && text.foldl (fun n c => n * 10 + (c.toNat - '0'.toNat)) 0 ≤ 255

def isIpv4 (text : List Char) : Bool :=
  let parts := Text.splitChars (· == '.') text
  parts.length = 4 && parts.all isOctet

/-- The number of groups of a part of an address of groups. The last two groups may be written as an
address of four numbers, where that is allowed. -/
def groupCount? (allowsNumbers : Bool) : List (List Char) → Option Nat
  | [] => some 0
  | [group] =>
    if allowsNumbers && isIpv4 group then some 2
    else if !group.isEmpty && group.length ≤ 4 && group.all isHex then some 1
    else none
  | group :: rest =>
    if !group.isEmpty && group.length ≤ 4 && group.all isHex then
      (groupCount? allowsNumbers rest).map (· + 1)
    else none

/-- The pieces of a part of an address between its colons; an empty part has none. -/
def groupsOf (text : List Char) : List (List Char) :=
  if text.isEmpty then [] else Text.splitChars (· == ':') text

/-- The parts before and after the first two colons in a row. -/
def cutAtColons? : List Char → Option (List Char × List Char)
  | [] => none
  | ':' :: ':' :: rest => some ([], rest)
  | c :: rest => (cutAtColons? rest).map fun (before, after) => (c :: before, after)

/-- An address of eight groups with colons between; two colons in a row stand for one or more groups of
zero. -/
def isIpv6 (text : List Char) : Bool :=
  match cutAtColons? text with
  | none => groupCount? true (groupsOf text) == some 8
  | some (before, after) =>
    match groupCount? false (groupsOf before), groupCount? true (groupsOf after) with
    | some front, some back => front + back ≤ 7
    | _, _ => false

/-! ## Encoded labels -/

/-- The value of a digit of an encoded label: letters, then figures. -/
def labelDigit? (c : Char) : Option Nat :=
  if 'a' ≤ c && c ≤ 'z' then some (c.toNat - 'a'.toNat)
  else if 'A' ≤ c && c ≤ 'Z' then some (c.toNat - 'A'.toNat)
  else if c.isDigit then some (c.toNat - '0'.toNat + 26)
  else none

/-- Divides by 35 until at most 455 is left, and counts the divisions in steps of 36. -/
def damp (delta : Nat) : Nat × Nat :=
  if 455 < delta then
    let (steps, left) := damp (delta / 35)
    (steps + 36, left)
  else (0, delta)
termination_by delta

/-- The bias for the next number, after a number and with so many characters in place. -/
def bias (delta count : Nat) (isFirst : Bool) : Nat :=
  let halved := if isFirst then delta / 700 else delta / 2
  let (steps, left) := damp (halved + halved / count)
  steps + 36 * left / (left + 38)

/-- Decodes the digits of a label. `place` is the threshold base of the digit to come, `weight` its
weight and `number` the number so far; `start` is what the number began from, and `code` and `done` are
the code point reached and the characters in place. -/
def decodeDigits (code start bias' number weight place : Nat) (done : List Char) :
    List Char → Option (List Char)
  | [] => if place = 36 then some done else none
  | c :: rest =>
    match labelDigit? c with
    | none => none
    | some digit =>
      let total := number + digit * weight
      let threshold := if place ≤ bias' then 1 else min 26 (place - bias')
      if Nat.pow 2 32 ≤ total then none
      else if threshold ≤ digit then
        decodeDigits code start bias' total (weight * (36 - threshold)) (place + 36) done rest
      else
        let count := done.length + 1
        let next := code + total / count
        let at' := total % count
        if next.isValidChar then
          decodeDigits next (at' + 1) (bias (total - start) count (start = 0)) (at' + 1) 1 36
            (done.take at' ++ Char.ofNat next :: done.drop at') rest
        else none

/-- The label that a text after `xn--` encodes: the ASCII characters up to the last hyphen, with the
others put in as the digits after it say. -/
def decodeLabel? (text : List Char) : Option (List Char) :=
  match Text.cutAt? '-' text.reverse with
  | some (digits, ascii) =>
    if ascii.isEmpty then decodeDigits 128 0 72 0 1 36 [] text
    else decodeDigits 128 0 72 0 1 36 ascii.reverse digits.reverse
  | none => decodeDigits 128 0 72 0 1 36 [] text

/-- The signs that end a syllable of an Indic script and may precede a joiner. -/
def viramas : List Nat :=
  [0x94D, 0x9CD, 0xA4D, 0xACD, 0xB4D, 0xBCD, 0xC4D, 0xCCD, 0xD3B, 0xD3C, 0xD4D, 0xDCA, 0xE3A, 0xEBA,
   0xF84, 0x1039, 0x103A, 0x1714, 0x1715, 0x1734, 0x17D2, 0x1A60, 0x1B44, 0x1BAA, 0x1BAB, 0x1BF2,
   0x1BF3, 0x2D7F, 0xA806, 0xA82C, 0xA8C4, 0xA953, 0xA9C0, 0xAAF6, 0xABED, 0x10A3F, 0x11046, 0x11070,
   0x1107F, 0x110B9, 0x11133, 0x11134, 0x111C0, 0x11235, 0x112EA, 0x1134D, 0x11442, 0x114C2, 0x115BF,
   0x1163F, 0x116B6, 0x1172B, 0x11839, 0x1193D, 0x1193E, 0x119E0, 0x11A34, 0x11A47, 0x11A99, 0x11C3F,
   0x11D44, 0x11D45, 0x11D97]

/-- Characters that no label may hold. -/
def isBarred (c : Char) : Bool :=
  [0x640, 0x7FA, 0x302E, 0x302F, 0x3031, 0x3032, 0x3033, 0x3034, 0x3035, 0x303B].contains c.toNat

/-- Whether a character may stand in a label between the two beside it. -/
def fitsBetween (label : List Char) (before : Option Char) (c : Char) (after : Option Char) : Bool :=
  if isBarred c then false
  else if c = '\u00b7' then before == some 'l' && after == some 'l'
  else if c = '\u0375' then after.any fun d => Letter.script d == "Grek"
  else if c = '\u05f3' || c = '\u05f4' then before.any fun d => Letter.script d == "Hebr"
  else if c = '\u30fb' then label.any fun d => ["Hira", "Kana", "Hani"].contains (Letter.script d)
  else if '\u0660' ≤ c && c ≤ '\u0669' then !label.any fun d => '\u06f0' ≤ d && d ≤ '\u06f9'
  else if c = '\u200d' then before.any fun d => viramas.contains d.toNat
  else if c = '\u200c' then
    before.any fun d => viramas.contains d.toNat || ["Arab", "Syrc", "Mand"].contains (Letter.script d)
  else true

/-- Whether all characters of the rest of a label fit in their places. -/
def allFit (label : List Char) (before : Option Char) : List Char → Bool
  | [] => true
  | c :: rest => fitsBetween label before c rest.head? && allFit label (some c) rest

/-- Whether a decoded label is one: it does not start with a mark, and all characters fit. -/
def isDecodedLabel (label : List Char) : Bool :=
  !label.head?.any Letter.isMark && allFit label none label

/-! ## Host names -/

/-- A label of a host name: letters, digits and inner hyphens. Hyphens in the third and the fourth place
mark an encoded label. -/
def isLabel (label : List Char) : Bool :=
  !label.isEmpty && label.length ≤ 63 && label.all (fun c => c.isAlphanum || c = '-')
    && label.head? != some '-' && label.getLast? != some '-'
    && match label with
      | 'x' :: 'n' :: '-' :: '-' :: rest => (decodeLabel? rest).any isDecodedLabel
      | _ :: _ :: '-' :: '-' :: _ => false
      | _ => true

/-- A host name: labels with dots between. -/
def isHostName (text : List Char) : Bool :=
  text.length ≤ 253 && (Text.splitChars (· == '.') text).all isLabel

end Payload.Format

end ApiAtlas
