import ApiAtlas.Schema.Inquiry

/-! # Resolving schemas

Turns a schema as written into a resolved tree. References may name component schemas of the same
document only; each component is resolved once and remembered. Two things bound the recursion: the
names of the components being resolved, where a repetition is a cycle, and the number of schemas
that are open inside one another.
-/

namespace ApiAtlas

namespace Schema

/-- How a reference to a component schema starts. -/
def componentPrefix : String := "#/components/schemas/"

def componentName? (reference : String) : Option String :=
  match Text.afterStart? componentPrefix reference with
  | none => none
  | some part =>
    if part == "" || part.toList.contains '/' then none else some (Pointer.unescape part)

def componentReference (name : String) : String := componentPrefix ++ Pointer.escape name

/-- The components resolved so far. -/
abbrev Memo := Table Node

structure Session where
  memo : Memo := []
  /-- The components being resolved, the outermost first. -/
  stack : List String := []
  /-- The number of schemas being resolved inside one another, references included. -/
  depth : Nat := 0
deriving Inhabited

/-- A resolving step: it may fail, and the session goes on in either case. -/
abbrev Resolving (α : Type) := ExceptT Error (StateM Session) α

/-- The result of a step and the session after it. -/
def Resolving.outcome {α : Type} (step : Resolving α) (session : Session) :
    Except Error α × Session := step.run.run session

/-- Carries an inquiry out, given how inner schemas are resolved. -/
def Inquiry.run {α : Type} (descend : Json → Resolving Node) : Inquiry α → Resolving α
  | .done value => pure value
  | .fail objection => throw objection.error
  | .ask schema next => do (next (← descend schema)).run descend

namespace Resolving

/-- Runs a step one level further inside. -/
def nested {α : Type} (step : Resolving α) : Resolving α := fun session =>
  let (result, after) := step.outcome { session with depth := session.depth + 1 }
  (result, { after with depth := after.depth - 1 })

/-- Runs a step while a component is being resolved. -/
def during {α : Type} (name : String) (step : Resolving α) : Resolving α := fun session =>
  let (result, after) := step.outcome { session with stack := session.stack ++ [name] }
  (result, { after with stack := after.stack.dropLast })

/-- The node of a component that is not being resolved. -/
def component (components : Table Json) (descend : Json → Resolving Node) (text name : String) :
    Resolving Node := do
  match Table.get? name (← get).memo with
  | some resolved => return resolved
  | none =>
    match Table.get? name components with
    | none => throw (.unresolved text)
    | some schema =>
      let resolved := (← during name (descend schema)).titled name
      modify fun session => { session with memo := Table.put name resolved session.memo }
      return resolved

def reference (components : Table Json) (descend : Json → Resolving Node) (text : String)
    (facets : Facets) : Resolving Node := do
  match componentName? text with
  | none => throw (.unresolved text)
  | some name =>
    let stack := (← get).stack
    if name ∈ stack then throw (.circular (stack.dropWhile (· != name) ++ [name]))
    else return ⟨.reference name (← component components descend text name), facets⟩

/-- One schema, given how to resolve those inside it and behind references. -/
def node (components : Table Json) (descend : Json → Resolving Node) (schema : Json) :
    Resolving Node :=
  match schema with
  | .object fields =>
    match Table.get? "$ref" fields with
    | some (.string text) => reference components descend text (Facets.ofFields fields)
    | some _ => throw (.malformed .referenceNotText)
    | none => (Inquiry.plain fields (Facets.ofFields fields)).run descend
  | .bool true => pure Node.any
  | found => throw (.malformed (.notAnObject found))

/-- One level of resolving: the schemas inside are one level deeper. -/
def level (components : Table Json) (descend : Json → Resolving Node) (schema : Json) :
    Resolving Node := do
  if greatestNesting ≤ (← get).depth then throw (.malformed .tooDeep)
  else nested (node components descend schema)

/-- The recursion unrolled over a number of levels; `beyond` stands for what lies deeper. -/
def unrolled (components : Table Json) (beyond : Json → Resolving Node) :
    (levels : Nat) → Json → Resolving Node
  | 0 => beyond
  | levels + 1 => level components (unrolled components beyond levels)

end Resolving

namespace Session

/-- A number of levels that no resolving exceeds. -/
def levels : Nat := greatestNesting + 1

/-- Resolves a schema. Nothing lies beyond these levels, since the depth grows with each of them. -/
def resolve (components : Table Json) (schema : Json) : Resolving Node :=
  Resolving.unrolled components (fun _ => throw (.malformed .tooDeep)) levels schema

def resolveComponent (components : Table Json) (name : String) : Resolving Node := do
  let node ← Resolving.reference components (resolve components) (componentReference name) {}
  match node with
  | ⟨.reference _ resolved, _⟩ => return resolved
  | node => return node

end Session

/-- A resolving step of a document: nothing is open before it, and what it remembers stays. -/
abbrev Resolution (α : Type) := ExceptT Error (StateM Memo) α

/-- Runs a step in a session where nothing is open. -/
def Resolving.alone {α : Type} (step : Resolving α) : Resolution α := fun memo =>
  let (result, session) := step.outcome { memo }
  (result, session.memo)

/-- Resolves a schema of a document with these components. -/
def resolve (components : Table Json) (schema : Json) : Resolution Node :=
  (Session.resolve components schema).alone

def resolveComponent (components : Table Json) (name : String) : Resolution Node :=
  (Session.resolveComponent components name).alone

end Schema

end ApiAtlas
