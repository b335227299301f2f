import ApiAtlas.Json.Pointer
import ApiAtlas.Schema.Error
import ApiAtlas.Schema.Node

/-! # Reading one schema

What a schema object without `$ref` says depends on the nodes of the schemas inside it. Reading it is
therefore an inquiry: it asks for these nodes one after another and ends in a node or an error. How
an inner schema is resolved is not known here.
-/

namespace ApiAtlas

namespace Schema

/-- Why a schema is rejected for what it says itself. -/
inductive Objection where
  | composition (keyword : String) (fault : CompositionFault)
  | malformed (reason : Malformation)

def Objection.error : Objection → Error
  | .composition keyword fault => .composition keyword fault
  | .malformed reason => .malformed reason

/-- A reading that may ask for the nodes of inner schemas. -/
inductive Inquiry (α : Type) where
  /-- The reading is over. -/
  | done (value : α)
  /-- The schema is rejected. -/
  | fail (objection : Objection)
  /-- The reading goes on once the node of a schema is known. -/
  | ask (schema : Json) (next : Node → Inquiry α)

namespace Inquiry

variable {α β : Type}

/-- One reading after another. -/
def bind : Inquiry α → (α → Inquiry β) → Inquiry β
  | .done value, next => next value
  | .fail objection, _ => .fail objection
  | .ask schema rest, next => .ask schema fun node => (rest node).bind next

instance : Monad Inquiry where
  pure := .done
  bind := bind

@[simp] theorem pure_def (value : α) : (pure value : Inquiry α) = .done value := rfl

@[simp] theorem done_bind (value : α) (next : α → Inquiry β) : (done value >>= next) = next value :=
  rfl

@[simp] theorem fail_bind (objection : Objection) (next : α → Inquiry β) :
    (fail objection >>= next) = fail objection := rfl

@[simp] theorem ask_bind (schema : Json) (rest : Node → Inquiry α) (next : α → Inquiry β) :
    (ask schema rest >>= next) = ask schema fun node => rest node >>= next := rfl

theorem bind_done (reading : Inquiry α) : reading >>= done = reading := by
  induction reading with
  | done | fail => rfl
  | ask schema rest ih => exact congrArg (ask schema) (funext ih)

theorem bind_bind {γ : Type} (reading : Inquiry α) (first : α → Inquiry β) (second : β → Inquiry γ) :
    reading >>= first >>= second = reading >>= fun value => first value >>= second := by
  induction reading with
  | done | fail => rfl
  | ask schema rest ih => exact congrArg (ask schema) (funext ih)

instance : LawfulMonad Inquiry :=
  LawfulMonad.mk' Inquiry (fun reading => bind_done reading) (fun _ _ => rfl) bind_bind

def nodeOf (schema : Json) : Inquiry Node := .ask schema .done

def reject (reason : Malformation) : Inquiry α := .fail (.malformed reason)

/-- The branches of a composition: a list that is not empty. -/
def branches (keyword : String) (value : Json) : Inquiry (List Json) :=
  match value with
  | .array [] => .fail (.composition keyword .noBranches)
  | .array list => pure list
  | _ => .fail (.composition keyword .notAList)

/-- The declared properties, in order. -/
def properties (schema : Table Json) : Inquiry (List (String × Node)) :=
  match Table.get? "properties" schema with
  | none => pure []
  | some (.object entries) => entries.mapM fun entry => do return (entry.1, ← nodeOf entry.2)
  | some _ => reject .propertiesNotObject

def requiredNames (schema : Table Json) : SortedSet String :=
  match Table.get? "required" schema with
  | some (.array names) => SortedSet.ofList (names.filterMap Json.text?)
  | _ => []

def additional (schema : Table Json) : Inquiry (Additional Node) :=
  match Table.get? "additionalProperties" schema with
  | none => pure .unspecified
  | some (.bool true) => pure .unspecified
  | some (.bool false) => pure .forbidden
  | some value => do return .typed (← nodeOf value)

def shape (schema : Table Json) : Inquiry (Shape Node) := do
  let properties ← properties schema
  let additional ← additional schema
  return { properties, required := requiredNames schema, additional }

/-- The items of an array schema; without `items` they may be anything. -/
def items (schema : Table Json) : Inquiry Node :=
  match Table.get? "items" schema with
  | none => pure Node.any
  | some (.array _) => reject .itemsList
  | some value => nodeOf value

def typed (schema : Table Json) (type : String) (facets : Facets) : Inquiry Node :=
  if type = "object" then do return ⟨.object (← shape schema), facets⟩
  else if type = "array" then do return ⟨.array (← items schema), facets⟩
  else
    match Primitive.ofName? type with
    | some primitive => pure ⟨.primitive primitive, facets⟩
    | none => reject (.unknownType type)

/-- The text of an entry in a list of types. -/
def typeName (entry : Json) : Inquiry String :=
  match entry with
  | .string name => pure name
  | found => reject (.typeEntryNotText found)

/-- A schema with a list of types: a union, unless there is at most one. -/
def typeList (schema : Table Json) (types : List Json) (facets : Facets) : Inquiry Node := do
  match ← types.mapM typeName with
  | [] => return ⟨.any, facets⟩
  | [name] => typed schema name facets
  | names => return ⟨.union .anyOf (← names.mapM fun name => typed schema name {}), facets⟩

def union (mode : UnionMode) (value : Json) (facets : Facets) : Inquiry Node := do
  let list ← branches mode.keyword value
  return ⟨.union mode (← list.mapM nodeOf), facets⟩

/-- The shapes of object schemas, the first of which is at position `index`. -/
def shapesFrom (index : Nat) : List Node → Inquiry (List (Shape Node))
  | [] => pure []
  | ⟨.object shape, _⟩ :: rest => do return shape :: (← shapesFrom (index + 1) rest)
  | _ :: _ => .fail (.composition "allOf" (.branchNotObject index))

/-- Merges the branches that say something, already followed through references. A single branch
that is no object keeps its kind; otherwise all of them have to be objects. -/
def merged (parts : List Node) (facets : Facets) : Inquiry Node := do
  match parts with
  | [] => return ⟨.any, facets⟩
  | [⟨.object shape, _⟩] => return ⟨.object (Shape.merge {} shape), facets⟩
  | [single] => return ⟨single.kind, facets.fillFrom single.facets⟩
  | parts =>
    let shapes ← shapesFrom 0 parts
    return ⟨.object (shapes.foldl Shape.merge {}), facets⟩

/-- What stands beside an `allOf`: the keywords `properties` and `required` make one more branch. -/
def beside (schema : Table Json) : Inquiry (List Node) :=
  if Table.has "properties" schema || Table.has "required" schema then
    do return [⟨.object (← shape schema), {}⟩]
  else pure []

/-- An `allOf`. -/
def allOf (schema : Table Json) (value : Json) (facets : Facets) : Inquiry Node := do
  let list ← branches "allOf" value
  let written ← list.mapM nodeOf
  let beside ← beside schema
  merged (((written ++ beside).map Node.target).filter fun node => !node.isAny) facets

/-- A schema object without `$ref`: a composition if it has one, else by its type, else by the
keywords that only one type has. -/
def plain (schema : Table Json) (facets : Facets) : Inquiry Node :=
  match Table.get? "allOf" schema with
  | some value => allOf schema value facets
  | none =>
  match Table.get? "anyOf" schema with
  | some value => union .anyOf value facets
  | none =>
  match Table.get? "oneOf" schema with
  | some value => union .oneOf value facets
  | none =>
  match Table.get? "type" schema with
  | some (.string type) => typed schema type facets
  | some (.array types) => typeList schema types facets
  | some found => reject (.typeNotText found)
  | none =>
    if Table.has "properties" schema || Table.has "additionalProperties" schema then
      do return ⟨.object (← shape schema), facets⟩
    else if Table.has "items" schema then do return ⟨.array (← items schema), facets⟩
    else pure ⟨.any, facets⟩

end Inquiry

end Schema

end ApiAtlas
