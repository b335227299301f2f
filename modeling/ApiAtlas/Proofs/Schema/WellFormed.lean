import ApiAtlas.Proofs.Schema.Answerable
import ApiAtlas.Proofs.Schema.Regular

/-! # Well-formed trees

What a schema resolves to is well formed at every position, however the resolver was used before: merging copies
pieces of other trees, and what is remembered stands in several of them.
-/

namespace ApiAtlas

namespace Schema

variable {components : Table Json} {name target : String} {node resolved : Node}

/-- A fresh resolver agrees on what a component resolves to, unless it gives up at the greatest nesting. -/
theorem IsComponent.outcome_fresh (h : IsComponent components name node) (named : name ≠ "")
    (shallow : ((Session.resolveComponent components name).outcome {}).1 ≠ .error (.malformed .tooDeep)) :
    ((Session.resolveComponent components name).outcome {}).1 = .ok node := by
  have idle : Session.Idle components {} := .fresh
  cases answer : ((Session.resolveComponent components name).outcome {}).1 with
  | error error =>
      have answerable : Call.Answerable components (.component name) := ⟨named, node, h⟩
      have deep : error = tooDeep := idle.eq_tooDeep answerable answer
      rw [answer, deep] at shallow
      exact absurd rfl shallow
  | ok found => rw [((idle.resolveComponent name).right answer).unique h]

/-- The structure of a node in a tree as it should be. -/
structure Kind.WellFormed (components : Table Json) (kind : Kind Node) : Prop where
  /-- The properties of an object schema have different names. -/
  distinct (shape : Shape Node) : kind = .object shape → (Table.keys shape.properties).Nodup
  /-- A union has a variant. -/
  inhabited (mode : UnionMode) (variants : List Node) : kind = .union mode variants → variants ≠ []
  /-- A reference names a component of the document. -/
  present (target : String) (resolved : Node) : kind = .reference target resolved → Table.has target components
  /-- What a reference carries has a title. -/
  titled (target : String) (resolved : Node) : kind = .reference target resolved → resolved.facets.title.isSome
  /-- A reference carries what a fresh resolver answers about its component, unless that gives up at the greatest
  nesting. -/
  fresh (target : String) (resolved : Node) : kind = .reference target resolved →
    ((Session.resolveComponent components target).outcome {}).1 ≠ .error (.malformed .tooDeep) →
    ((Session.resolveComponent components target).outcome {}).1 = .ok resolved

theorem Kind.WellFormed.reference {text : String} (named : componentName? text = some target)
    (component : IsComponent components target resolved) : Kind.WellFormed components (.reference target resolved) where
  distinct := nofun
  inhabited := nofun
  present _ _ same := by
    cases same
    obtain ⟨schema, _, present, _⟩ := component
    exact Table.has_of_get? present
  titled _ _ same := by
    cases same
    exact component.isSome_title
  fresh _ _ same shallow := by
    cases same
    exact component.outcome_fresh (ne_empty_of_componentName? named) shallow

theorem lasting_wellFormed :
    Lasting (Kind.WellFormed components) (fun _ => True) (fun fields => (Json.object fields).Keyed) where
  any := ⟨nofun, nofun, nofun, nofun, nofun⟩
  primitive _ := ⟨nofun, nofun, nofun, nofun, nofun⟩
  array _ := ⟨nofun, nofun, nofun, nofun, nofun⟩
  union _ _ some_ := ⟨nofun, fun _ _ same => by cases same; exact some_, nofun, nofun, nofun⟩
  object keyed shown := ⟨fun _ same => by cases same; exact distinct_of_shape keyed shown, nofun, nofun, nofun, nofun⟩
  bare := ⟨fun _ same => by cases same; exact .nil, nofun, nofun, nofun, nofun⟩
  merge first _ := ⟨fun _ same => by cases same; exact Table.nodup_keys_foldl_put (first.distinct _ rfl),
    nofun, nofun, nofun, nofun⟩
  none := trivial
  read _ := trivial
  fill _ _ := trivial

theorem Resolves.wellFormed {schema : Json}
    (known : ∀ {name schema}, Table.get? name components = some schema → schema.Keyed)
    (h : Resolves components schema node) (keyed : schema.Keyed) :
    node.Everywhere fun part => part.kind.WellFormed components := by
  have whole := h.everywhere lasting_wellFormed (fun _ _ => trivial)
    (fun named component => .reference named component) (hereditary_keyed known) keyed
  exact whole.mono fun _ both => both.1

/-- A schema that a resolver resolves, after any calls, is well formed at every position of its tree. -/
theorem resolve_wellFormed {schema : Json} (calls : List Call) (keyed : (Json.object components).Keyed)
    (keyed' : schema.Keyed)
    (resolved : ((Session.resolve components schema).outcome (Session.after components calls)).1 = .ok node) :
    node.Everywhere fun part => part.kind.WellFormed components :=
  (((Session.idle_after calls).resolve schema).right resolved).wellFormed keyed.get keyed'

/-- A component that refers to another one. -/
def ownedComponents : Table Json :=
  [("Owner", .object [("type", .string "string"), ("title", .string "Keeper")]),
   ("Pet", .object [("properties", .object
     [("name", .object []), ("owner", .object [("$ref", .string "#/components/schemas/Owner")])])])]

/-- A pet with another name, or the name alone. -/
def petOrName : Json :=
  .object [("oneOf", .array
    [.object [("allOf", .array
       [.object [("$ref", .string "#/components/schemas/Pet")],
        .object [("properties", .object [("name", .object [("type", .array [.string "string", .string "null"])])])]])],
     .object [("$ref", .string "#/components/schemas/Owner")]])]

def keeper : Node := ⟨.primitive .string, { title := some "Keeper" }⟩

/-- What that schema is resolved to: one of an object, whose later property replaces the earlier one, and a reference. -/
def petOrNameNode : Node :=
  let name : Node := ⟨.union .anyOf [⟨.primitive .string, {}⟩, ⟨.primitive .null, {}⟩], {}⟩
  ⟨.union .oneOf [⟨.object { properties := [("name", name), ("owner", ⟨.reference "Owner" keeper, {}⟩)] }, {}⟩,
    ⟨.reference "Owner" keeper, {}⟩], {}⟩

theorem resolve_wellFormed_pet : (Json.object ownedComponents).Keyed ∧ petOrName.Keyed ∧
    ((Session.resolve ownedComponents petOrName).outcome (Session.after ownedComponents [.component "Pet"])).1 =
      .ok petOrNameNode ∧
    (petOrNameNode.Everywhere fun part => part.kind.WellFormed ownedComponents) ∧ Table.has "Owner" ownedComponents ∧
    ((Session.resolveComponent ownedComponents "Owner").outcome {}).1 = .ok keeper := by
  have keyed : (Json.object ownedComponents).Keyed := by simp [ownedComponents, Table.keys]
  have keyed' : petOrName.Keyed := by simp [petOrName, Table.keys]
  have resolved : ((Session.resolve ownedComponents petOrName).outcome
      (Session.after ownedComponents [.component "Pet"])).1 = .ok petOrNameNode := by
    rfl
  have wellFormed := resolve_wellFormed [.component "Pet"] keyed keyed' resolved
  have reference : Kind.WellFormed ownedComponents (.reference "Owner" keeper) :=
    (wellFormed.inside (List.mem_cons_of_mem _ (List.mem_singleton_self _))).here
  have answers : ((Session.resolveComponent ownedComponents "Owner").outcome {}).1.isOk = true := by decide +kernel
  refine ⟨keyed, keyed', resolved, wellFormed, reference.present _ _ rfl, reference.fresh _ _ rfl fun tooDeep => ?_⟩
  rw [tooDeep] at answers
  cases answers

end Schema

end ApiAtlas
