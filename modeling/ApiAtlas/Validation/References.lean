import ApiAtlas.Document.Basic
import ApiAtlas.Schema.Resolution
import ApiAtlas.Sorted
import ApiAtlas.Violation

/-! # References of a document

Visits a document in document order and checks that every reference stays in the document and leads
somewhere. Sample values are data: what stands under `example`, `default`, `enum` or `const` is not
visited, unless these are names in a table of named things.
-/

namespace ApiAtlas

mutual
/-- The number of values in a value, itself included. -/
def Json.weight : Json → Nat
  | .array items => 1 + weightOfItems items
  | .object fields => 1 + weightOfFields fields
  | .null => 1
  | .bool _ => 1
  | .number _ => 1
  | .string _ => 1

/-- The number of values in a list of values. -/
def Json.weightOfItems : List Json → Nat
  | [] => 0
  | item :: rest => item.weight + weightOfItems rest

def Json.weightOfFields : List (String × Json) → Nat
  | [] => 0
  | (_, value) :: rest => value.weight + weightOfFields rest
end

namespace References

/-- The keywords whose values are data. -/
def valueKeywords : List String := ["example", "default", "enum", "const"]

/-- The keys whose objects are tables of named things, so that their keys are no keywords. -/
def nameTables : List String :=
  ["properties", "patternProperties", "responses", "schemas", "definitions", "$defs", "headers",
   "content", "examples"]

/-- A value to visit: where it stands, the key it stands under, and the value. -/
structure Spot where
  pointer : String
  key : Option String
  value : Json
deriving Repr, Inhabited

namespace Spot

/-- Whether the keys of the value are names. -/
def isNameTable (spot : Spot) : Bool := spot.key.any nameTables.contains

/-- The spots of the fields that are visited. -/
def ofFields (pointer : String) (named : Bool) : List (String × Json) → List Spot
  | [] => []
  | (key, value) :: rest =>
    if !named && valueKeywords.contains key then ofFields pointer named rest
    else ⟨pointer ++ "/" ++ Pointer.escape key, some key, value⟩ :: ofFields pointer named rest

/-- The spots of the items of an array, the first of which is at position `index`. -/
def ofItems (pointer : String) (index : Nat) : List Json → List Spot
  | [] => []
  | value :: rest =>
    ⟨pointer ++ "/" ++ toString index, none, value⟩ :: ofItems pointer (index + 1) rest

/-- The spots directly inside a spot, in document order. -/
def inner (spot : Spot) : List Spot :=
  match spot.value with
  | .object fields => ofFields spot.pointer spot.isNameTable fields
  | .array items => ofItems spot.pointer 0 items
  | _ => []

/-- How a violation names the spot. -/
def location (spot : Spot) : String := "#" ++ spot.pointer

def weight : List Spot → Nat
  | [] => 0
  | spot :: rest => spot.value.weight + weight rest

theorem weight_ofFields (pointer : String) (named : Bool) (fields : List (String × Json)) :
    weight (ofFields pointer named fields) ≤ Json.weightOfFields fields := by
  induction fields with
  | nil => simp [ofFields, weight, Json.weightOfFields]
  | cons field rest ih =>
    simp only [ofFields, Json.weightOfFields]
    split
    · omega
    · simp only [weight]
      omega

theorem weight_ofItems (pointer : String) (index : Nat) (items : List Json) :
    weight (ofItems pointer index items) = Json.weightOfItems items := by
  induction items generalizing index with
  | nil => simp [ofItems, weight, Json.weightOfItems]
  | cons item rest ih =>
    have h := ih (index + 1)
    simp only [weight, ofItems, Json.weightOfItems]
    omega

theorem weight_inner (spot : Spot) : weight spot.inner < spot.value.weight := by
  unfold inner
  cases h : spot.value with
  | object fields =>
    have := weight_ofFields spot.pointer spot.isNameTable fields
    simp only [Json.weight]
    omega
  | array items =>
    have := weight_ofItems spot.pointer 0 items
    simp only [Json.weight]
    omega
  | _ => simp [weight, Json.weight]

theorem weight_append (a b : List Spot) : weight (a ++ b) = weight a + weight b := by
  induction a with
  | nil => simp [weight]
  | cons spot rest ih =>
    simp only [List.cons_append, weight]
    omega

end Spot

/-- The component that the value of a spot refers to, if it refers to one. A reference has to start
with a number sign and to lead somewhere. -/
def inspect (doc : Document) (spot : Spot) : Except Violation (Option String) :=
  match spot.value.textAt? "$ref" with
  | none => .ok none
  | some reference =>
    if (doc.resolveLocal? reference).isSome then .ok (Schema.componentName? reference)
    else .error (.ofSchema spot.location (.unresolved reference))

/-- Visits the pending spots and what is inside them, and collects the components referred to. -/
def visit (doc : Document) (pending : List Spot) (found : SortedSet String) :
    Except Violation (SortedSet String) :=
  match pending with
  | [] => .ok found
  | spot :: rest =>
    match inspect doc spot with
    | .error violation => .error violation
    | .ok name => visit doc (spot.inner ++ rest) (SortedSet.insertAll name.toList found)
termination_by Spot.weight pending
decreasing_by
  have := spot.weight_inner
  simp only [Spot.weight_append, Spot.weight]
  omega

/-- The components that the document refers to; a violation if some reference is broken. -/
def check (doc : Document) : Except Violation (SortedSet String) :=
  visit doc [⟨"", none, doc.root⟩] []

end References

end ApiAtlas
