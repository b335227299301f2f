import Mathlib.Logic.Relation
import ApiAtlas.Proofs.Schema.Inner
import ApiAtlas.Schema.Resolution

/-! # What a schema resolves to

The node of a schema as the rules alone give it: without a memo, a stack or a limit on nesting. A
derivation is finite, so a schema on a cycle of references has none. `Refers` and `Leads` are the
graph of references that a resolver follows.
-/

namespace ApiAtlas

namespace Schema

open Relation (ReflTransGen TransGen)

/-- The node of a schema in a document with these components. -/
inductive Resolves (components : Table Json) : Json → Node → Prop where
  | truth : Resolves components (.bool true) Node.any
  /-- A reference carries the node of its component, under its own title or else the key. -/
  | reference {fields : Table Json} {text name : String} {schema : Json} {node : Node} :
    Table.get? "$ref" fields = some (.string text) → componentName? text = some name →
    Table.get? name components = some schema → Resolves components schema node →
    Resolves components (.object fields) ⟨.reference name (node.titled name), Facets.ofFields fields⟩
  | plain {fields : Table Json} {answers : List (Json × Node)} {node : Node} :
    Table.get? "$ref" fields = none →
    (Inquiry.plain fields (Facets.ofFields fields)).Transcript answers node →
    (∀ answer ∈ answers, Resolves components answer.1 answer.2) →
    Resolves components (.object fields) node

/-- The node that a resolver remembers for a component. -/
def IsComponent (components : Table Json) (name : String) (node : Node) : Prop :=
  ∃ schema inside, Table.get? name components = some schema ∧ Resolves components schema inside ∧
    node = inside.titled name

/-- A schema refers to a component, itself or by a schema inside it. -/
inductive Refers : Json → String → Prop where
  | here {fields : Table Json} {text name : String} :
    Table.get? "$ref" fields = some (.string text) → componentName? text = some name →
    Refers (.object fields) name
  | inside {fields : Table Json} {schema : Json} {name : String} :
    Table.get? "$ref" fields = none → schema ∈ inner fields → Refers schema name →
    Refers (.object fields) name

/-- The schema of the first component refers to the second one. -/
def Leads (components : Table Json) (first second : String) : Prop :=
  ∃ schema, Table.get? first components = some schema ∧ Refers schema second

/-- A component is met when the references of a schema are followed, any number of times. -/
def Reaches (components : Table Json) (schema : Json) (name : String) : Prop :=
  ∃ first, Refers schema first ∧ ReflTransGen (Leads components) first name

variable {components : Table Json}

theorem IsComponent.isSome_title {name : String} {node : Node} (h : IsComponent components name node) :
    node.facets.title.isSome := by
  obtain ⟨_, inside, _, _, rfl⟩ := h
  rfl

theorem Refers.of_reference {fields : Table Json} {text name found : String}
    (written : Table.get? "$ref" fields = some (.string text))
    (named : componentName? text = some name) (refers : Refers (.object fields) found) :
    found = name := by
  cases refers with
  | here other target =>
      rw [written] at other
      cases other
      exact Option.some.inj (target.symm.trans named)
  | inside absent =>
      rw [written] at absent
      cases absent

theorem Refers.of_plain {fields : Table Json} {found : String}
    (absent : Table.get? "$ref" fields = none) (refers : Refers (.object fields) found) :
    ∃ schema ∈ inner fields, Refers schema found := by
  cases refers with
  | here written =>
      rw [absent] at written
      cases written
  | inside _ member refers => exact ⟨_, member, refers⟩

theorem Leads.of_component {name found : String} {schema : Json}
    (present : Table.get? name components = some schema) :
    Leads components name found ↔ Refers schema found := by
  constructor
  · rintro ⟨other, same, refers⟩
    rw [present] at same
    cases same
    exact refers
  · intro refers
    exact ⟨schema, present, refers⟩

namespace Reaches

theorem of_refers {schema : Json} {name : String} (refers : Refers schema name) :
    Reaches components schema name := ⟨name, refers, .refl⟩

/-- What the schema of a component reaches is reached by whatever refers to the component. -/
theorem trans {schema target : Json} {first name : String} (refers : Refers schema first)
    (present : Table.get? first components = some target) (h : Reaches components target name) :
    Reaches components schema name := by
  obtain ⟨second, onwards, path⟩ := h
  exact ⟨first, refers, .head ⟨target, present, onwards⟩ path⟩

theorem inside {fields : Table Json} {schema : Json} {name : String}
    (absent : Table.get? "$ref" fields = none) (member : schema ∈ inner fields)
    (h : Reaches components schema name) : Reaches components (.object fields) name := by
  obtain ⟨first, refers, path⟩ := h
  exact ⟨first, .inside absent member refers, path⟩

end Reaches

namespace Resolves

/-- A reference that resolves carries the node of the component that it names. -/
theorem exists_target {schema : Json} {node : Node} {reference : String} (h : Resolves components schema node)
    (written : schema.textAt? "$ref" = some reference) : ∃ name target inside,
      componentName? reference = some name ∧ Table.get? name components = some target ∧
      Resolves components target inside ∧ node.kind = .reference name (inside.titled name) := by
  obtain ⟨value, found, text⟩ := Option.bind_eq_some_iff.mp written
  cases h with
  | truth => cases found
  | reference written' named present inside =>
      cases Option.some.inj (found.symm.trans written')
      cases text
      exact ⟨_, _, _, named, present, inside, rfl⟩
  | plain absent =>
      rw [Json.get?, absent] at found
      cases found

/-- A schema resolves to at most one node. -/
theorem unique {schema : Json} {first second : Node} (h : Resolves components schema first)
    (h' : Resolves components schema second) : first = second := by
  induction h generalizing second with
  | truth =>
      cases h'
      rfl
  | @reference fields text name schema node written named present _ ih =>
      cases h' with
      | reference written' named' present' inside' =>
          rw [written] at written'
          cases written'
          obtain rfl := Option.some.inj (named.symm.trans named')
          obtain rfl := Option.some.inj (present.symm.trans present')
          rw [ih inside']
      | plain absent =>
          rw [written] at absent
          cases absent
  | @plain fields answers node absent shown _ ih =>
      cases h' with
      | reference written =>
          rw [absent] at written
          cases written
      | plain _ shown' answered =>
          exact shown.value_unique ih shown' answered

/-- Every reference of a schema that resolves leads to a component that does. -/
theorem component_of_refers {schema : Json} {node : Node} {name : String}
    (h : Resolves components schema node) (refers : Refers schema name) :
    ∃ found, IsComponent components name found := by
  induction h with
  | truth => cases refers
  | reference written named present inside =>
      obtain rfl := refers.of_reference written named
      exact ⟨_, _, _, present, inside, rfl⟩
  | plain absent shown _ ih =>
      obtain ⟨schema, member, refers⟩ := refers.of_plain absent
      obtain ⟨answer, asked, rfl⟩ := shown.exists_of_inner member
      exact ih answer asked refers

/-- From a schema that resolves no infinite path of references starts. -/
theorem acc_of_refers {schema : Json} {node : Node} {name : String}
    (h : Resolves components schema node) (refers : Refers schema name) :
    Acc (fun second first => Leads components first second) name := by
  induction h generalizing name with
  | truth => cases refers
  | reference written named present _ ih =>
      obtain rfl := refers.of_reference written named
      exact .intro _ fun second leads => ih ((Leads.of_component present).mp leads)
  | plain absent shown _ ih =>
      obtain ⟨schema, member, refers⟩ := refers.of_plain absent
      obtain ⟨answer, asked, rfl⟩ := shown.exists_of_inner member
      exact ih answer asked refers

end Resolves

end Schema

end ApiAtlas
