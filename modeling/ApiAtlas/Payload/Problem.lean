import ApiAtlas.Json.Printer
import ApiAtlas.Schema.Node
import ApiAtlas.Text.Basic

/-! # Problems of a payload

What a keyword of a schema finds wrong with a value, and the sentence that says so.
-/

namespace ApiAtlas

namespace Payload

open Schema (UnionMode)

inductive Problem where
  | wrongType (value : Json) (type : String)
  | missing (name : String)
  | unexpected (names : List String)
  | notAmong (value : Json) (choices : List Json)
  | notConstant (constant : Json)
  | noVariant (value : Json) (mode : UnionMode)
  | severalVariants (value : Json)
  | below (value bound : Json)
  | above (value bound : Json)
  | notAbove (value bound : Json)
  | notBelow (value bound : Json)
  | notMultiple (value : Json) (unit : Json.Number)
  | shorter (value : Json) (count : Nat)
  | longer (value : Json) (count : Nat)
  | mismatch (value : Json) (pattern : String)
  | fewerItems (value : Json) (count : Nat)
  | moreItems (value : Json) (count : Nat)
  | repeated (value : Json)
  | fewerProperties (value : Json) (count : Nat)
  | moreProperties (value : Json) (count : Nat)
  | wrongFormat (value : Json) (format : String)
  | excluded (value : Json)
deriving Repr

namespace Problem

/-- A count with its noun, in the plural unless the count is one. -/
def counted (count : Nat) (one many : String) : String :=
  toString count ++ " " ++ (if count = 1 then one else many)

/-- A list of choices in words; of more than three, two are named and the others counted. -/
def choicesText : List Json → String
  | [] => ""
  | [a] => a.compact
  | [a, b] => a.compact ++ " or " ++ b.compact
  | [a, b, c] => a.compact ++ ", " ++ b.compact ++ " or " ++ c.compact
  | a :: b :: others =>
    a.compact ++ ", " ++ b.compact ++ " or " ++ toString others.length ++ " other candidates"

def quoted (names : List String) : String :=
  Text.join ", " (names.map fun name => "'" ++ name ++ "'")

def message : Problem → String
  | .wrongType value type => value.compact ++ " is not of type \"" ++ type ++ "\""
  | .missing name => Json.quote name ++ " is a required property"
  | .unexpected names =>
    "Additional properties are not allowed (" ++ quoted names
      ++ (if names.length = 1 then " was unexpected)" else " were unexpected)")
  | .notAmong value choices => value.compact ++ " is not one of " ++ choicesText choices
  | .notConstant constant => constant.compact ++ " was expected"
  | .noVariant value mode =>
    value.compact ++ " is not valid under any of the schemas listed in the '" ++ mode.keyword
      ++ "' keyword"
  | .severalVariants value =>
    value.compact ++ " is valid under more than one of the schemas listed in the 'oneOf' keyword"
  | .below value bound => value.compact ++ " is less than the minimum of " ++ bound.compact
  | .above value bound => value.compact ++ " is greater than the maximum of " ++ bound.compact
  | .notAbove value bound =>
    value.compact ++ " is less than or equal to the minimum of " ++ bound.compact
  | .notBelow value bound =>
    value.compact ++ " is greater than or equal to the maximum of " ++ bound.compact
  | .notMultiple value unit => value.compact ++ " is not a multiple of " ++ unit.toPositionalText
  | .shorter value count =>
    value.compact ++ " is shorter than " ++ counted count "character" "characters"
  | .longer value count =>
    value.compact ++ " is longer than " ++ counted count "character" "characters"
  | .mismatch value pattern => value.compact ++ " does not match \"" ++ pattern ++ "\""
  | .fewerItems value count => value.compact ++ " has less than " ++ counted count "item" "items"
  | .moreItems value count => value.compact ++ " has more than " ++ counted count "item" "items"
  | .repeated value => value.compact ++ " has non-unique elements"
  | .fewerProperties value count =>
    value.compact ++ " has less than " ++ counted count "property" "properties"
  | .moreProperties value count =>
    value.compact ++ " has more than " ++ counted count "property" "properties"
  | .wrongFormat value format => value.compact ++ " is not a \"" ++ format ++ "\""
  | .excluded value => "False schema does not allow " ++ value.compact

end Problem

end Payload

end ApiAtlas
