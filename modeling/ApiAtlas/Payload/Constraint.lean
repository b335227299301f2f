import ApiAtlas.Json.Multiple
import ApiAtlas.Pattern.Parser
import ApiAtlas.Payload.Problem

/-! # Constraint keywords

The keywords that bound a value without looking into schemas. Each one concerns values of one type
only, and an argument of the wrong type constrains nothing.
-/

namespace ApiAtlas

namespace Payload

open Json (Number)

def greatestCount : Nat := Nat.pow 2 64 - 1

/-- The count that a keyword argument gives; the largest count stands for any number beyond it. -/
def count? (argument : Json) : Option Nat :=
  match argument with
  | .number n => n.integer?.bind fun i => if 0 ≤ i then some (min i.toNat greatestCount) else none
  | _ => none

/-- The greatest number of items that are compared with one another; more are told apart by their
digits, and then the two zeros differ. -/
def pairwiseLimit : Nat := 15

/-- Whether no two items of a list are related. -/
def areDistinctUnder (related : Json → Json → Bool) : List Json → Bool
  | [] => true
  | item :: rest => !rest.any (related item) && areDistinctUnder related rest

/-- Whether no two items are equal. -/
def areDistinct (items : List Json) : Bool :=
  if items.length ≤ pairwiseLimit then areDistinctUnder Json.equal items
  else areDistinctUnder Json.identical items

/-- What a bound on numbers finds. -/
def numberProblem (fails : Number → Number → Bool) (problem : Json → Json → Problem)
    (argument value : Json) : Option Problem :=
  match argument, value with
  | .number bound, .number n => if fails n bound then some (problem value argument) else none
  | _, _ => none

/-- What the keyword `multipleOf` finds. -/
def multipleProblem (argument value : Json) : Option Problem :=
  match argument, value with
  | .number unit, .number n => if n.isMultipleOf unit then none else some (.notMultiple value unit)
  | _, _ => none

/-- What a bound on a size finds. -/
def sizeProblem (size : Json → Option Nat) (fails : Nat → Nat → Bool) (problem : Json → Nat → Problem)
    (argument value : Json) : Option Problem :=
  match count? argument, size value with
  | some bound, some n => if fails n bound then some (problem value bound) else none
  | _, _ => none

def lengthOf : Json → Option Nat
  | .string s => some s.length
  | _ => none

def itemCount : Json → Option Nat
  | .array items => some items.length
  | _ => none

def propertyCount : Json → Option Nat
  | .object fields => some fields.length
  | _ => none

/-- What the keyword `pattern` finds. -/
def patternProblem (argument value : Json) : Option Problem :=
  match argument, value with
  | .string text, .string s =>
    match Pattern.read? text with
    | some (shown, pattern) => if pattern.search s then none else some (.mismatch value shown)
    | none => none
  | _, _ => none

/-- What the keyword `uniqueItems` finds. -/
def uniqueProblem (argument value : Json) : Option Problem :=
  match argument, value with
  | .bool true, .array items => if areDistinct items then none else some (.repeated value)
  | _, _ => none

/-- What a constraint keyword finds wrong with a value. -/
def constraintProblem (keyword : String) (argument value : Json) : Option Problem :=
  if keyword = "minimum" then numberProblem (fun n b => n.value < b.value) .below argument value
  else if keyword = "maximum" then numberProblem (fun n b => b.value < n.value) .above argument value
  else if keyword = "exclusiveMinimum" then
    numberProblem (fun n b => n.value ≤ b.value) .notAbove argument value
  else if keyword = "exclusiveMaximum" then
    numberProblem (fun n b => b.value ≤ n.value) .notBelow argument value
  else if keyword = "multipleOf" then multipleProblem argument value
  else if keyword = "minLength" then sizeProblem lengthOf (· < ·) .shorter argument value
  else if keyword = "maxLength" then sizeProblem lengthOf (· > ·) .longer argument value
  else if keyword = "pattern" then patternProblem argument value
  else if keyword = "minItems" then sizeProblem itemCount (· < ·) .fewerItems argument value
  else if keyword = "maxItems" then sizeProblem itemCount (· > ·) .moreItems argument value
  else if keyword = "uniqueItems" then uniqueProblem argument value
  else if keyword = "minProperties" then
    sizeProblem propertyCount (· < ·) .fewerProperties argument value
  else if keyword = "maxProperties" then
    sizeProblem propertyCount (· > ·) .moreProperties argument value
  else if keyword = "const" then if argument.equal value then none else some (.notConstant argument)
  else none

/-- What a list of admitted values finds wrong with a value. -/
def choiceProblem (choices : List Json) (value : Json) : Option Problem :=
  if choices.any (·.equal value) then none else some (.notAmong value choices)

/-- Whether a value has a type, given by its name in schemas. -/
def hasType (type : String) (value : Json) : Bool :=
  match value with
  | .null => type == "null"
  | .bool _ => type == "boolean"
  | .string _ => type == "string"
  | .array _ => type == "array"
  | .object _ => type == "object"
  | .number n => type == "number" || (type == "integer" && n.integer?.isSome)

end Payload

end ApiAtlas
