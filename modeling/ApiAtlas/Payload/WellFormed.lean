import ApiAtlas.Payload.Check

/-! # Well-formed schemas

A payload check can only be built for a schema whose keyword arguments are of the right type and
range, whose patterns are regular expressions and whose references are ASCII. Arguments are looked at
first, in the whole schema: definitions before applied schemas before the other keywords, and within
each group in the order in which the schema is written. Then patterns and references are, in the order in
which a reader meets them who follows every reference.
-/

namespace ApiAtlas

namespace Payload

def notANumber? (argument : Json) : Option Problem :=
  if hasType "number" argument then none else some (.wrongType argument "number")

def notACount? (argument : Json) : Option Problem :=
  if hasType "integer" argument then
    constraintProblem "minimum" (Json.ofNat 0) argument
  else some (.wrongType argument "integer")

/-- A fault of an argument that has to be a positive number. -/
def notAUnit? (argument : Json) : Option Problem :=
  (notANumber? argument).or (constraintProblem "exclusiveMinimum" (Json.ofNat 0) argument)

def notAText? (argument : Json) : Option Problem :=
  if hasType "string" argument then none else some (.wrongType argument "string")

/-- A fault of an argument that has to be a truth value. -/
def notATruthValue? (argument : Json) : Option Problem :=
  if hasType "boolean" argument then none else some (.wrongType argument "boolean")

/-- The keywords that apply schemas. -/
def applicators : List String :=
  ["items", "additionalProperties", "properties", "allOf", "anyOf", "oneOf"]

/-- A fault of the argument of a keyword that applies no schema. -/
def argumentFault? (keyword : String) (argument : Json) : Option Problem :=
  if keyword = "multipleOf" then notAUnit? argument
  else if ["minimum", "maximum", "exclusiveMinimum", "exclusiveMaximum"].contains keyword then
    notANumber? argument
  else if ["minLength", "maxLength", "minItems", "maxItems", "minProperties", "maxProperties"].contains
      keyword then notACount? argument
  else if keyword = "pattern" then notAText? argument
  else if keyword = "uniqueItems" then notATruthValue? argument
  else none

mutual
/-- The first fault of an argument in a schema. -/
def fault? : (schema : Json) → Option Problem
  | .object fields =>
    let found := faults fields
    let first? (belongs : String → Bool) :=
      (found.find? fun entry => belongs entry.1).map (·.2)
    ((first? (· == "$defs")).or (first? applicators.contains)).or (first? fun _ => true)
  | _ => none

def faults : List (String × Json) → Table Problem
  | [] => []
  | (keyword, argument) :: rest =>
    let found :=
      if keyword = "items" || keyword = "additionalProperties" then fault? argument
      else if keyword = "$defs" || keyword = "properties" then
        match argument with
        | .object entries => firstFieldFault? entries
        | _ => none
      else if keyword = "allOf" || keyword = "anyOf" || keyword = "oneOf" then
        match argument with
        | .array items => firstItemFault? items
        | _ => none
      else argumentFault? keyword argument
    match found with
    | some problem => (keyword, problem) :: faults rest
    | none => faults rest

/-- The first fault of the schemas under names. -/
def firstFieldFault? : List (String × Json) → Option Problem
  | [] => none
  | (_, schema) :: rest => (fault? schema).or (firstFieldFault? rest)

/-- The first fault of the schemas of a list. -/
def firstItemFault? : List Json → Option Problem
  | [] => none
  | schema :: rest => (fault? schema).or (firstItemFault? rest)
end

/-- The number of bytes before the first character beyond ASCII. -/
def asciiLength? (text : String) : Option Nat :=
  let ascii := text.toList.takeWhile Letter.isAscii
  if ascii.length < text.length then some ascii.length else none

/-- What is wrong with a reference that is no URI reference. -/
def referenceFault? (reference : String) : Option String :=
  (asciiLength? reference).map fun index =>
    "Invalid URI reference '" ++ reference ++ "': unexpected character at index " ++ toString index

/-- What is wrong with a pattern that is no regular expression. -/
def patternFault? (pattern : String) : Option String :=
  if (Pattern.read? pattern).isSome then none
  else some (Problem.wrongFormat (.string pattern) "regex").message

mutual
/-- The first fault among the patterns and references of a schema, given how to go on behind a
reference. -/
def firstTextFault? (follow : String → Option String) : (schema : Json) → Option String
  | .object fields => fieldTextFault? follow fields
  | _ => none

/-- The first fault among the patterns and references under the keywords of a schema. -/
def fieldTextFault? (follow : String → Option String) : List (String × Json) → Option String
  | [] => none
  | (keyword, argument) :: rest =>
    (if keyword = "$ref" then
        match argument with
        | .string reference => (referenceFault? reference).or (follow reference)
        | _ => none
      else if keyword = "pattern" then
        match argument with
        | .string pattern => patternFault? pattern
        | _ => none
      else if keyword = "items" || keyword = "additionalProperties" then
        firstTextFault? follow argument
      else if keyword = "properties" then
        match argument with
        | .object entries => namedTextFault? follow entries
        | _ => none
      else if keyword = "allOf" || keyword = "anyOf" || keyword = "oneOf" then
        match argument with
        | .array items => listTextFault? follow items
        | _ => none
      else none).or (fieldTextFault? follow rest)

/-- The first fault among the patterns and references of schemas under names. -/
def namedTextFault? (follow : String → Option String) : List (String × Json) → Option String
  | [] => none
  | (_, schema) :: rest => (firstTextFault? follow schema).or (namedTextFault? follow rest)

/-- The first fault among the patterns and references of the schemas of a list. -/
def listTextFault? (follow : String → Option String) : List Json → Option String
  | [] => none
  | schema :: rest => (firstTextFault? follow schema).or (listTextFault? follow rest)
end

/-- The first fault behind each definition, at most so many references on. -/
def textFaults (definitions : Table Json) : (hops : Nat) → Table (Option String)
  | 0 => []
  | hops + 1 =>
    let nearer := textFaults definitions hops
    definitions.map fun (name, schema) => (name, firstTextFault? (faultBehind? nearer) schema)
where
  /-- The fault found behind the definition that a reference names. -/
  faultBehind? (faults : Table (Option String)) (reference : String) : Option String :=
    ((definitionName? reference).bind (Table.get? · faults)).join

/-- Why no payload check can be built for a root schema. -/
def defect? (schema : Json) : Option String :=
  let definitions := definitionsOf schema
  ((fault? schema).map Problem.message).or
    (firstTextFault? (textFaults.faultBehind? (textFaults definitions definitions.length)) schema)

end Payload

end ApiAtlas
