import ApiAtlas.Table
import ApiAtlas.Yaml.Node

/-! # Records in YAML

Reads values of a wanted type. A text takes any scalar as it is written, so `~` and `5` are texts. A flag
and a count have to be plain, or a literal block with the tag of their type. A record refuses unknown and
repeated keys.
-/

namespace ApiAtlas

namespace Yaml

/-- The tag and the scalar, if the value is one. -/
def scalar? (value : Yaml) : Option (Option String × Scalar) :=
  match value.content with
  | .scalar tag scalar => some (tag, scalar)
  | _ => none

def text? (value : Yaml) : Option String := value.scalar?.map (·.2.text)

/-- The text of a scalar that may be a value of a type, given by the tag of the type. -/
def wordOf? (type : String) (value : Yaml) : Option String :=
  match value.scalar? with
  | some (tag, scalar) =>
    if scalar.style == .plain || (scalar.style == .literal && tag == some (Tag.standard ++ type)) then
      some scalar.text
    else none
  | none => none

def isAbsent (value : Yaml) : Bool := (value.scalar?.map (·.2)) == some ⟨"", .plain⟩

def flag? (value : Yaml) : Option Bool :=
  match value.wordOf? "bool" with
  | none => none
  | some text =>
    if ["true", "True", "TRUE"].contains text then some true
    else if ["false", "False", "FALSE"].contains text then some false
    else none

def digits? (base : Nat) (digits : List Char) : Option Nat :=
  if digits.isEmpty then none
  else
    digits.foldl
      (fun total c => do
        let digit ← hexValue? c
        if digit < base then return (← total) * base + digit else none)
      (some 0)

/-- The number that the digits of a numeral stand for. A letter after a zero names a base, and a decimal
numeral of several digits does not start with a zero. -/
def numeral? : List Char → Option Nat
  | '0' :: 'x' :: rest => digits? 16 rest
  | '0' :: 'o' :: rest => digits? 8 rest
  | '0' :: 'b' :: rest => digits? 2 rest
  | '0' :: _ :: _ => none
  | rest => digits? 10 rest

def countLimit : Nat := Nat.pow 2 64 - 1

/-- A count, before which a plus sign may stand. -/
def count? (value : Yaml) : Option Nat :=
  match (value.wordOf? "int").map String.toList with
  | none => none
  | some ('+' :: rest) => (numeral? rest).filter (· ≤ countLimit)
  | some rest => (numeral? rest).filter (· ≤ countLimit)

/-- A list; where nothing is written it is empty. -/
def list? {α : Type} (item? : Yaml → Option α) (value : Yaml) : Option (List α) :=
  match value.content with
  | .sequence items => (items.map value.beside).mapM item?
  | _ => if value.isAbsent then some [] else none

/-- Whether a value that may be missing is given; `none` if it is tagged as missing and is not. -/
def isGiven? (value : Yaml) : Option Bool :=
  match value.scalar? with
  | none => some true
  | some (tag, scalar) =>
    let isNull := ["~", "null", "Null", "NULL"].contains scalar.text
    if scalar.style != .plain then some true
    else
      match tag with
      | none => some (scalar.text != "" && !isNull)
      | some tag =>
        if tag = Tag.standard ++ "null" then (if isNull then some false else none) else some true

/-- A value that may be missing. -/
def optional? {α : Type} (inner? : Yaml → Option α) (value : Yaml) : Option (Option α) := do
  if ← value.isGiven? then (inner? value).map some else return none

/-- The fields of a record whose keys are all known and distinct. -/
def record? (known : List String) (value : Yaml) : Option (Table Yaml) :=
  match value.content with
  | .mapping nodes => do
    let fields ← nodes.mapM fun (key, node) => do
      return (← (value.beside key).text?, value.beside node)
    let keys := Table.keys fields
    if keys.all known.contains && keys.eraseDups.length = keys.length then return fields else none
  | _ => if value.isAbsent then some [] else none

/-- A field of a record, or a default. -/
def field? {α : Type} (fields : Table Yaml) (key : String) (inner? : Yaml → Option α) (default : α) :
    Option α :=
  match Table.get? key fields with
  | none => some default
  | some value => inner? value

end Yaml

end ApiAtlas
