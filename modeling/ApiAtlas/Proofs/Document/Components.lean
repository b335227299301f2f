import ApiAtlas.Document.Basic
import ApiAtlas.Proofs.Schema.Calls

/-! # Components of a document

A reference to a component is read in two ways, as the name of a component and as a pointer from the root. Both
lead to the same schema. A name that is escaped stands for itself, so that a component which is asked for by its
name is the one that is looked up.
-/

namespace ApiAtlas

namespace Schema

variable {components : Table Json} {session : Session} {name : String}

/-- What looking a component up by its name comes to, with nothing else open. -/
inductive LooksUp (components : Table Json) (name : String) (session : Session) :
    Except Error Node × Session → Prop where
  | known {node : Node} : Table.get? name session.memo = some node → IsComponent components name node →
    LooksUp components name session (.ok node, session)
  | absent : Table.get? name components = none →
    LooksUp components name session (.error (.unresolved (componentReference name)), session)
  | resolved {schema : Json} {node : Node} {after : Session} : Table.get? name session.memo = none →
    Table.get? name components = some schema →
    (Session.resolve components schema).outcome (Resolving.entered name session) = (.ok node, after) →
    LooksUp components name session
      (.ok (node.titled name), Resolving.remembered name (node.titled name) (Resolving.left after))
  | failed {schema : Json} {error : Error} {after : Session} : Table.get? name session.memo = none →
    Table.get? name components = some schema →
    (Session.resolve components schema).outcome (Resolving.entered name session) = (.error error, after) →
    LooksUp components name session (.error error, Resolving.left after)

/-- Resolving a component by its name looks up the component of that name. -/
theorem Session.Idle.looksUp (idle : session.Idle components) (named : name ≠ "") :
    LooksUp components name session ((Session.resolveComponent components name).outcome session) := by
  obtain ⟨result, follows⟩ := Resolving.exists_follows components session (Session.resolve components)
    (componentReference name) {}
  have reads {found : String} (same : componentName? (componentReference name) = some found) : found = name :=
    eq_of_componentReference same
  rw [outcome_resolveComponent, Resolving.outcome_reference follows]
  cases follows with
  | unnamed unnamed =>
      rw [componentName?_componentReference, if_neg named] at unnamed
      cases unnamed
  | «open» _ member =>
      rw [idle.stack] at member
      cases member
  | known same _ known =>
      obtain rfl := reads same
      exact .known known (idle.valid.component known)
  | absent same _ _ absent =>
      obtain rfl := reads same
      exact .absent absent
  | resolved same _ unknown present inside =>
      obtain rfl := reads same
      exact .resolved unknown present inside
  | failed same _ unknown present inside =>
      obtain rfl := reads same
      exact .failed unknown present inside

theorem componentName?_escaped (named : name ≠ "") : componentName?
    (componentPrefix ++ String.ofList (Pointer.escapeSlashes (Pointer.escapeTildes name.toList))) = some name := by
  have written : componentPrefix ++ String.ofList (Pointer.escapeSlashes (Pointer.escapeTildes name.toList)) =
      componentReference name := by
    rw [Pointer.escapeSlashes_escapeTildes]
    rfl
  rw [written, componentName?_componentReference, if_neg named]

end Schema

namespace Document

open Schema (Call LooksUp Session componentName? componentPrefix)

variable {doc : Document} {table : Table Json} {reference name : String}

theorem schemas?_eq_some_iff : doc.schemas? = some table ↔ ∃ section_, doc.root.get? "components" = some section_ ∧
    section_.get? "schemas" = some (.object table) := by
  have fields (value : Json) : value.fields? = some table ↔ value = .object table := by
    cases value <;> simp [Json.fields?]
  simp [schemas?, Option.bind_eq_some_iff, fields]

/-- A reference that names a component leads to the schema of that name. -/
theorem resolveLocal?_of_componentName? (schemas : doc.schemas? = some table)
    (named : componentName? reference = some name) : doc.resolveLocal? reference = Table.get? name table := by
  obtain ⟨part, rfl, _, whole, rfl⟩ := Schema.componentName?_eq_some_iff.mp named
  obtain ⟨components, here, inside⟩ := schemas?_eq_some_iff.mp schemas
  have written : componentPrefix ++ part =
      "#" ++ String.ofList (["components", "schemas", part].flatMap fun part => '/' :: part.toList) := by
    apply String.toList_injective
    simp [componentPrefix]
  have apart : ∀ piece ∈ ["components", "schemas", part], '/' ∉ piece.toList := by simp [whole]
  have plain : Pointer.unescape "components" = "components" ∧ Pointer.unescape "schemas" = "schemas" := by
    decide +kernel
  rw [resolveLocal?, written, Text.afterStart?_append, Option.bind_some, Json.pointer?, Pointer.names?_parts apart,
    Option.bind_some, List.map_cons, List.map_cons, plain.1, plain.2, Pointer.follow, Pointer.step_of_get? here,
    Option.bind_some, Pointer.follow, Pointer.step_of_get? inside, Option.bind_some]
  exact Option.bind_fun_some _

/-- A reference that names a component leads to the schema of that name. A name that is escaped is named by what it
becomes, so that resolving a component by its name, after any calls, looks up the component of that name. -/
theorem componentName?_names (doc : Document) :
    (∀ table reference name, doc.schemas? = some table → componentName? reference = some name →
      doc.resolveLocal? reference = Table.get? name table) ∧
    ∀ name, name ≠ "" →
      componentName? (componentPrefix ++ String.ofList (Pointer.escapeSlashes (Pointer.escapeTildes name.toList))) =
        some name ∧
      ∀ calls : List Call, LooksUp doc.schemas name (Session.after doc.schemas calls)
        ((Session.resolveComponent doc.schemas name).outcome (Session.after doc.schemas calls)) :=
  ⟨fun _ _ _ => resolveLocal?_of_componentName?, fun _ named =>
    ⟨Schema.componentName?_escaped named, fun calls => (Session.idle_after calls).looksUp named⟩⟩

/-- A component with a slash and a tilde in its name, and one whose name looks like an escape. -/
def awkwardComponents : Table Json :=
  [("a/b~c", .object [("type", .string "string")]), ("~1", .object [("type", .string "integer")])]

/-- The document with these components. -/
def awkwardDocument : Document where
  path := "a.json"
  relativePath := "a.json"
  fields := [("components", .object [("schemas", .object awkwardComponents)])]

theorem componentName?_names_awkward :
    awkwardDocument.schemas? = some awkwardComponents ∧
    componentName? "#/components/schemas/a~1b~0c" = some "a/b~c" ∧
    awkwardDocument.resolveLocal? "#/components/schemas/a~1b~0c" = Table.get? "a/b~c" awkwardComponents ∧
    (Table.get? "a/b~c" awkwardComponents).isSome ∧
    "~1" ≠ "" ∧
    componentName? (componentPrefix ++ String.ofList (Pointer.escapeSlashes (Pointer.escapeTildes "~1".toList))) =
      some "~1" ∧
    LooksUp awkwardDocument.schemas "~1" (Session.after awkwardDocument.schemas [.component "a/b~c"])
      ((Session.resolveComponent awkwardDocument.schemas "~1").outcome
        (Session.after awkwardDocument.schemas [.component "a/b~c"])) := by
  obtain ⟨agree, escapes⟩ := componentName?_names awkwardDocument
  have schemas : awkwardDocument.schemas? = some awkwardComponents := rfl
  have named : componentName? "#/components/schemas/a~1b~0c" = some "a/b~c" := by decide +kernel
  obtain ⟨back, looksUp⟩ := escapes "~1" (by decide)
  exact ⟨schemas, named, agree _ _ _ schemas named, rfl, by decide, back, looksUp _⟩

end Document

end ApiAtlas
