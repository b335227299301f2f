import ApiAtlas.Table
import ApiAtlas.Json.Binary64

/-! # JSON values

Objects keep the order in which their keys were written. Integers and doubles are told apart: `1`
and `1.0` have the same numeric value, yet are different values for `Json.same`.
-/

namespace ApiAtlas

/-- A JSON number: an integer literal that fits in 64 bits, or a finite double. -/
inductive Json.Number where
  | int (n : Int)
  | double (x : Binary64)
deriving DecidableEq, Repr, Inhabited

inductive Json where
  | null
  | bool (b : Bool)
  | number (n : Json.Number)
  | string (s : String)
  | array (items : List Json)
  | object (fields : List (String × Json))
deriving Repr, Inhabited

namespace Json

namespace Number

def value : Number → Rat
  | .int n => n
  | .double x => x.value

/-- Equality of like numbers: an integer never equals a double, and the two zeros are equal. -/
def same : Number → Number → Bool
  | .int m, .int n => m == n
  | .double x, .double y => x == y || (x.isZero && y.isZero)
  | _, _ => false

/-- The integer that the number is, whether written as one or not. -/
def integer? (n : Number) : Option Int := if n.value.den = 1 then some n.value.num else none

def nearestDouble? : Number → Option Binary64
  | .double x => some x
  | .int n => Binary64.round (n < 0) n.natAbs 1

def isNegativeZero : Number → Bool
  | .int _ => false
  | .double x => x.isZero && x.negative

end Number

/-- The natural number `n`. -/
def ofNat (n : Nat) : Json := .number (.int n)

def strings (items : List String) : Json := .array (items.map .string)

/-- The value of a key of an object; `none` for other values. -/
def get? (key : String) : Json → Option Json
  | .object fields => Table.get? key fields
  | _ => none

def text? : Json → Option String
  | .string s => some s
  | _ => none

def bool? : Json → Option Bool
  | .bool b => some b
  | _ => none

def items? : Json → Option (List Json)
  | .array items => some items
  | _ => none

def fields? : Json → Option (Table Json)
  | .object fields => some fields
  | _ => none

def textAt? (key : String) (value : Json) : Option String := (value.get? key).bind text?

def boolAt? (key : String) (value : Json) : Option Bool := (value.get? key).bind bool?

def itemsAt? (key : String) (value : Json) : Option (List Json) := (value.get? key).bind items?

def isObject : Json → Bool
  | .object _ => true
  | _ => false

def isNull : Json → Bool
  | .null => true
  | _ => false

/-- A string, or null when absent. -/
def ofText? : Option String → Json
  | some s => .string s
  | none => .null

mutual
/-- Equality that does not see the order of object keys. -/
def same : Json → Json → Bool
  | .null, .null => true
  | .bool a, .bool b => a == b
  | .number a, .number b => a.same b
  | .string a, .string b => a == b
  | .array as, .array bs => sameItems as bs
  | .object as, .object bs => as.length == bs.length && sameFields as bs
  | _, _ => false

def sameItems : List Json → List Json → Bool
  | [], [] => true
  | a :: as, b :: bs => same a b && sameItems as bs
  | _, _ => false

/-- Whether each entry of the first table is found in the second with an equal value. -/
def sameFields : List (String × Json) → List (String × Json) → Bool
  | [], _ => true
  | (key, a) :: as, bs =>
    (match Table.get? key bs with
      | some b => same a b
      | none => false) && sameFields as bs
end

mutual
/-- Equality by numeric value, as payload checks use it: `1` equals `1.0`, and the order of object
keys is not seen. -/
def equal : Json → Json → Bool
  | .null, .null => true
  | .bool a, .bool b => a == b
  | .number a, .number b => a.value == b.value
  | .string a, .string b => a == b
  | .array as, .array bs => equalItems as bs
  | .object as, .object bs => as.length == bs.length && equalFields as bs
  | _, _ => false

def equalItems : List Json → List Json → Bool
  | [], [] => true
  | a :: as, b :: bs => equal a b && equalItems as bs
  | _, _ => false

/-- Whether each entry of the first table is found in the second with an equal value. -/
def equalFields : List (String × Json) → List (String × Json) → Bool
  | [], _ => true
  | (key, a) :: as, bs =>
    (match Table.get? key bs with
      | some b => equal a b
      | none => false) && equalFields as bs
end

mutual
/-- Equality by numeric value that tells the two zeros apart. -/
def identical : Json → Json → Bool
  | .null, .null => true
  | .bool a, .bool b => a == b
  | .number a, .number b => a.value == b.value && a.isNegativeZero == b.isNegativeZero
  | .string a, .string b => a == b
  | .array as, .array bs => identicalItems as bs
  | .object as, .object bs => as.length == bs.length && identicalFields as bs
  | _, _ => false

def identicalItems : List Json → List Json → Bool
  | [], [] => true
  | a :: as, b :: bs => identical a b && identicalItems as bs
  | _, _ => false

/-- Whether each entry of the first table is found in the second with an identical value. -/
def identicalFields : List (String × Json) → List (String × Json) → Bool
  | [], _ => true
  | (key, a) :: as, bs =>
    (match Table.get? key bs with
      | some b => identical a b
      | none => false) && identicalFields as bs
end

end Json

end ApiAtlas
