import ApiAtlas.Payload.Format.Mail
import ApiAtlas.Payload.Format.Moment

/-! # String formats

The formats that are checked in strict mode: calendar dates, points in time, mail addresses, UUIDs and
IPv4 addresses. Any other format admits every string.
-/

namespace ApiAtlas

namespace Payload.Format

/-- A UUID: groups of 8, 4, 4, 4 and 12 hexadecimal digits with hyphens between. -/
def isUuid (text : List Char) : Bool :=
  let groups := Text.splitChars (· == '-') text
  groups.map List.length == [8, 4, 4, 4, 12] && groups.all fun group => group.all isHex

def admits (format text : String) : Bool :=
  let chars := text.toList
  if format = "date" then isDate chars
  else if format = "date-time" then isDateTime chars
  else if format = "email" then isEmail chars
  else if format = "uuid" then isUuid chars
  else if format = "ipv4" then isIpv4 chars
  else true

end Payload.Format

end ApiAtlas
