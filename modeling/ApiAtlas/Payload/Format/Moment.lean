/-! # Dates and points in time

A field of a date or a time is written in digits. Six signs that stand before the digits in ASCII, from
the asterisk to the slash, are digits of a field as well and count on from ten: `1/` is twenty-five.
-/

namespace ApiAtlas

namespace Payload.Format

def fieldDigit? (c : Char) : Option Nat :=
  if c.isDigit then some (c.toNat - '0'.toNat)
  else if '*' ≤ c && c ≤ '/' then some (10 + (c.toNat - '*'.toNat))
  else none

def field? (digits : List Char) : Option Nat :=
  digits.foldl (fun total c => do return (← total) * 10 + (← fieldDigit? c)) (some 0)

/-- Whether a year of the Gregorian calendar has a 29th of February. -/
def isLeap (year : Nat) : Bool := year % 4 = 0 && (year % 100 != 0 || year % 400 = 0)

/-- The number of days of a month from 1 to 12. -/
def daysOf (year month : Nat) : Nat :=
  if month = 2 then (if isLeap year then 29 else 28)
  else if [4, 6, 9, 11].contains month then 30
  else 31

/-- A calendar date: fields of four digits, two and two, with hyphens between. -/
def isDate : List Char → Bool
  | [a, b, c, d, '-', e, f, '-', g, h] =>
    match field? [a, b, c, d], field? [e, f], field? [g, h] with
    | some year, some month, some day =>
      1 ≤ month && month ≤ 12 && 1 ≤ day && day ≤ daysOf year month
    | _, _, _ => false
  | _ => false

/-- The minutes by which local time is ahead of universal time, within a day. -/
def offset? : List Char → Option Nat
  | ['Z'] => some 0
  | ['z'] => some 0
  | [sign, a, b, ':', c, d] =>
    match field? [a, b], field? [c, d] with
    | some hour, some minute =>
      if 23 < hour || 59 < minute then none
      else if sign = '+' then some (hour * 60 + minute)
      else if sign = '-' then some (1440 - (hour * 60 + minute))
      else none
    | _, _ => none
  | _ => none

/-- Drops a fraction of a second, which has at least one digit. -/
def dropFraction : List Char → Option (List Char)
  | '.' :: rest =>
    if (rest.takeWhile Char.isDigit).isEmpty then none else some (rest.dropWhile Char.isDigit)
  | rest => some rest

/-- A time of day with its offset. A leap second stands only at the end of a universal day. -/
def isTime : List Char → Bool
  | a :: b :: ':' :: c :: d :: ':' :: e :: f :: rest =>
    match field? [a, b], field? [c, d], field? [e, f], (dropFraction rest).bind offset? with
    | some hour, some minute, some second, some offset =>
      hour ≤ 23 && minute ≤ 59 &&
        (second ≤ 59 || (second = 60 && (hour * 60 + minute + 1440 - offset) % 1440 = 1439))
    | _, _, _, _ => false
  | _ => false

/-- A point in time: a date and a time of day with the letter T between. -/
def isDateTime (text : List Char) : Bool :=
  let date := text.takeWhile fun c => c != 'T' && c != 't'
  match text.drop date.length with
  | _ :: time => isDate date && isTime time
  | [] => false

end Payload.Format

end ApiAtlas
