import ApiAtlas.Proofs.Schema.Transcript

/-! # The schemas inside a schema

Reading a schema object resolves the schemas at fixed positions inside it, in a fixed order. They
depend on the keywords of the object alone, not on what the inner schemas turn out to be.
-/

namespace ApiAtlas

namespace Schema

/-- The schemas of the declared properties, then the one for undeclared keys. -/
def innerOfShape (schema : Table Json) : List Json :=
  (match Table.get? "properties" schema with
    | some (.object entries) => entries.map (·.2)
    | _ => []) ++
  (match Table.get? "additionalProperties" schema with
    | none => []
    | some (.bool _) => []
    | some value => [value])

/-- The schema of the items. -/
def innerOfItems (schema : Table Json) : List Json :=
  match Table.get? "items" schema with
  | none => []
  | some (.array _) => []
  | some value => [value]

theorem mem_innerOfShape_property {schema : Table Json} {entries : List (String × Json)}
    {entry : String × Json} (found : Table.get? "properties" schema = some (.object entries))
    (member : entry ∈ entries) : entry.2 ∈ innerOfShape schema := by
  unfold innerOfShape
  rw [found]
  exact List.mem_append_left _ (List.mem_map_of_mem member)

theorem mem_innerOfShape_additional {schema : Table Json} {value : Json}
    (found : Table.get? "additionalProperties" schema = some value) (notBool : ∀ b, value ≠ .bool b) :
    value ∈ innerOfShape schema := by
  unfold innerOfShape
  rw [found]
  refine List.mem_append_right _ ?_
  cases value with
  | bool b => exact absurd rfl (notBool b)
  | _ => exact List.mem_singleton_self _

theorem mem_innerOfItems {schema : Table Json} {value : Json}
    (found : Table.get? "items" schema = some value) (notList : ∀ list, value ≠ .array list) :
    value ∈ innerOfItems schema := by
  unfold innerOfItems
  rw [found]
  cases value with
  | array list => exact absurd rfl (notList list)
  | _ => exact List.mem_singleton_self _

/-- The schemas that matter for a value of a type. -/
def innerOfType (schema : Table Json) (type : String) : List Json :=
  if type = "object" then innerOfShape schema
  else if type = "array" then innerOfItems schema
  else []

/-- The branches of a composition. -/
def innerOfBranches (value : Json) : List Json := value.items?.getD []

/-- The schemas beside an `allOf`. -/
def innerBeside (schema : Table Json) : List Json :=
  if Table.has "properties" schema || Table.has "required" schema then innerOfShape schema else []

/-- The schemas directly inside a schema object without `$ref`, in the order of resolving. -/
def inner (schema : Table Json) : List Json :=
  match Table.get? "allOf" schema with
  | some value => innerOfBranches value ++ innerBeside schema
  | none =>
  match Table.get? "anyOf" schema with
  | some value => innerOfBranches value
  | none =>
  match Table.get? "oneOf" schema with
  | some value => innerOfBranches value
  | none =>
  match Table.get? "type" schema with
  | some (.string type) => innerOfType schema type
  | some (.array types) => (types.filterMap Json.text?).flatMap (innerOfType schema)
  | some _ => []
  | none =>
    if Table.has "properties" schema || Table.has "additionalProperties" schema then
      innerOfShape schema
    else if Table.has "items" schema then innerOfItems schema
    else []

/-- Where a schema can stand inside a schema object: under a keyword, among the properties, or in a composition. -/
inductive StandsIn (fields : Table Json) : Json → Prop where
  | keyword {key : String} {schema : Json} :
    key ∈ ["additionalProperties", "items"] → Table.get? key fields = some schema → StandsIn fields schema
  | property {entries : List (String × Json)} {entry : String × Json} :
    Table.get? "properties" fields = some (.object entries) → entry ∈ entries → StandsIn fields entry.2
  | branch {key : String} {items : List Json} {schema : Json} :
    key ∈ ["allOf", "anyOf", "oneOf"] → Table.get? key fields = some (.array items) → schema ∈ items →
    StandsIn fields schema

section Places

variable {fields : Table Json} {schema : Json}

theorem standsIn_of_mem_innerOfShape (member : schema ∈ innerOfShape fields) : StandsIn fields schema := by
  rcases List.mem_append.mp member with member | member
  · split at member
    · rename_i entries found
      obtain ⟨entry, listed, rfl⟩ := List.mem_map.mp member
      exact .property found listed
    · cases member
  · split at member
    · cases member
    · cases member
    · rename_i found
      obtain rfl := List.mem_singleton.mp member
      exact .keyword (by decide) found

theorem standsIn_of_mem_innerOfItems (member : schema ∈ innerOfItems fields) : StandsIn fields schema := by
  unfold innerOfItems at member
  split at member
  · cases member
  · cases member
  · rename_i found
    obtain rfl := List.mem_singleton.mp member
    exact .keyword (by decide) found

theorem standsIn_of_mem_innerOfType {type : String} (member : schema ∈ innerOfType fields type) :
    StandsIn fields schema := by
  unfold innerOfType at member
  split at member
  · exact standsIn_of_mem_innerOfShape member
  · split at member
    · exact standsIn_of_mem_innerOfItems member
    · cases member

theorem standsIn_of_mem_innerOfBranches {key : String} {value : Json} (found : Table.get? key fields = some value)
    (known : key ∈ ["allOf", "anyOf", "oneOf"]) (member : schema ∈ innerOfBranches value) : StandsIn fields schema := by
  cases value with
  | array items => exact .branch known found member
  | _ => cases member

theorem standsIn_of_mem_inner (member : schema ∈ inner fields) : StandsIn fields schema := by
  unfold inner at member
  split at member
  · rename_i found
    rcases List.mem_append.mp member with member | member
    · exact standsIn_of_mem_innerOfBranches found (by decide) member
    · unfold innerBeside at member
      split at member
      · exact standsIn_of_mem_innerOfShape member
      · cases member
  split at member
  · rename_i found
    exact standsIn_of_mem_innerOfBranches found (by decide) member
  split at member
  · rename_i found
    exact standsIn_of_mem_innerOfBranches found (by decide) member
  split at member
  · exact standsIn_of_mem_innerOfType member
  · obtain ⟨type, _, member⟩ := List.mem_flatMap.mp member
    exact standsIn_of_mem_innerOfType member
  · cases member
  · split at member
    · exact standsIn_of_mem_innerOfShape member
    · split at member
      · exact standsIn_of_mem_innerOfItems member
      · cases member

end Places

namespace Inquiry

variable {schema : Table Json} {value : Json} {facets : Facets} {answers : List (Json × Node)}

/-- The forms that a schema object without `$ref` can have, with the schemas inside it. -/
inductive Form (schema : Table Json) (facets : Facets) : Inquiry Node → List Json → Prop where
  | allOf (value : Json) :
    Form schema facets (allOf schema value facets) (innerOfBranches value ++ innerBeside schema)
  | union (mode : UnionMode) (value : Json) :
    Form schema facets (union mode value facets) (innerOfBranches value)
  | typed (type : String) : Form schema facets (typed schema type facets) (innerOfType schema type)
  | typeList (types : List Json) :
    Form schema facets (typeList schema types facets)
      ((types.filterMap Json.text?).flatMap (innerOfType schema))
  | reject (reason : Malformation) : Form schema facets (reject reason) []
  | any : Form schema facets (pure ⟨.any, facets⟩) []

/-- Every schema object has one of the forms. An object with `properties` or `items` is read as if its
type were written. -/
theorem form_plain : Form schema facets (plain schema facets) (inner schema) := by
  unfold plain inner
  cases Table.get? "allOf" schema with
  | some value => exact .allOf value
  | none =>
  cases Table.get? "anyOf" schema with
  | some value => exact .union .anyOf value
  | none =>
  cases Table.get? "oneOf" schema with
  | some value => exact .union .oneOf value
  | none =>
  cases Table.get? "type" schema with
  | some type =>
      cases type with
      | string type => exact .typed type
      | array types => exact .typeList types
      | null | bool | number | object => exact .reject _
  | none =>
      dsimp only
      split
      case isTrue => exact .typed "object"
      case isFalse =>
          split
          case isTrue => exact .typed "array"
          case isFalse => exact .any

theorem branches_cases (keyword : String) (value : Json) :
    (∃ objection, branches keyword value = .fail objection) ∨
      ∃ list, value = .array list ∧ branches keyword value = .done list := by
  cases value with
  | array list =>
      cases list with
      | nil => exact .inl ⟨_, rfl⟩
      | cons branch rest => exact .inr ⟨_, rfl, rfl⟩
  | _ => exact .inl ⟨_, rfl⟩

theorem mapM_typeName_cases (types : List Json) :
    (∃ objection, types.mapM typeName = .fail objection) ∨
      types.mapM typeName = .done (types.filterMap Json.text?) := by
  induction types with
  | nil => exact .inr rfl
  | cons type types ih =>
      rw [List.mapM_cons]
      cases type with
      | string name =>
          rcases ih with ⟨objection, same⟩ | same
          · rw [same]
            exact .inl ⟨objection, rfl⟩
          · rw [same]
            exact .inr rfl
      | _ => exact .inl ⟨_, rfl⟩

namespace Transcript

theorem branches_iff {keyword : String} {list : List Json} :
    Transcript (branches keyword value) answers list ↔
      answers = [] ∧ value = .array list ∧ list ≠ [] := by
  unfold branches
  split
  case h_1 => simp
  case h_2 items nonempty =>
      rw [pure_iff]
      constructor
      · rintro ⟨rfl, rfl⟩
        exact ⟨rfl, rfl, fun empty => nonempty (by rw [empty])⟩
      · rintro ⟨rfl, h, _⟩
        cases h
        exact ⟨rfl, rfl⟩
  case h_3 notList =>
      constructor
      · intro h
        exact absurd h fail_iff
      · rintro ⟨_, h, _⟩
        exact absurd h (notList list)

theorem mapM_named_iff {entries : List (String × Json)} {declared : List (String × Node)} :
    Transcript (entries.mapM fun entry => do return (entry.1, ← nodeOf entry.2)) answers declared ↔
      answers.map (·.1) = entries.map (·.2) ∧
        declared = (entries.map (·.1)).zip (answers.map (·.2)) := by
  induction entries generalizing declared answers with
  | nil =>
      rw [mapM_nil_iff, List.map_nil, List.map_eq_nil_iff, List.map_nil, List.zip_nil_left]
  | cons entry entries ih =>
      rw [mapM_cons_iff]
      constructor
      · rintro ⟨_, second, _, rest, rfl, rfl, h, h'⟩
        obtain ⟨node, asked, rfl⟩ := bind_pure_iff.mp h
        obtain rfl := nodeOf_iff.mp asked
        obtain ⟨remaining, rfl⟩ := ih.mp h'
        exact ⟨congrArg (entry.2 :: ·) remaining, rfl⟩
      · rintro ⟨h, rfl⟩
        obtain ⟨⟨_, node⟩, rest, rfl, rfl, remaining⟩ := List.map_eq_cons_iff.mp h
        refine ⟨[(entry.2, node)], rest, (entry.1, node), _, rfl, rfl, ?_, ih.mpr ⟨remaining, rfl⟩⟩
        exact bind_pure_iff.mpr ⟨node, nodeOf_iff.mpr rfl, rfl⟩

/-- The transcript of the properties of an object schema. -/
theorem properties_iff {declared : List (String × Node)} :
    Transcript (properties schema) answers declared ↔
      (Table.get? "properties" schema = none ∧ answers = [] ∧ declared = []) ∨
      ∃ entries, Table.get? "properties" schema = some (.object entries) ∧
        answers.map (·.1) = entries.map (·.2) ∧
        declared = (entries.map (·.1)).zip (answers.map (·.2)) := by
  unfold properties
  split
  case h_1 absent => simp [absent]
  case h_2 entries found =>
      rw [mapM_named_iff, found]
      simp
  case h_3 value notObject found =>
      constructor
      · intro h
        exact absurd h reject_iff
      · rintro (⟨absent, _⟩ | ⟨entries, present, _⟩)
        · rw [found] at absent
          cases absent
        · rw [found] at present
          exact absurd (Option.some.inj present) (notObject entries)

theorem asked_properties {declared : List (String × Node)}
    (h : Transcript (properties schema) answers declared) :
    answers.map (·.1) =
      match Table.get? "properties" schema with
      | some (.object entries) => entries.map (·.2)
      | _ => [] := by
  rcases properties_iff.mp h with ⟨absent, rfl, _⟩ | ⟨entries, present, asked, _⟩
  · rw [absent]
    rfl
  · rw [present, asked]

/-- The transcript of what is said about undeclared keys. -/
theorem additional_iff {said : Additional Node} :
    Transcript (additional schema) answers said ↔
      (answers = [] ∧ said = .unspecified ∧ (Table.get? "additionalProperties" schema = none ∨
        Table.get? "additionalProperties" schema = some (.bool true))) ∨
      (answers = [] ∧ said = .forbidden ∧
        Table.get? "additionalProperties" schema = some (.bool false)) ∨
      ∃ value node, Table.get? "additionalProperties" schema = some value ∧ (∀ b, value ≠ .bool b) ∧
        answers = [(value, node)] ∧ said = .typed node := by
  unfold additional
  split
  case h_1 absent => simp [absent]
  case h_2 found => simp [found]
  case h_3 found => simp [found]
  case h_4 value notTrue notFalse found =>
      have notBool : ∀ b, value ≠ .bool b := by
        rintro (_ | _)
        · exact notFalse
        · exact notTrue
      rw [bind_pure_iff]
      constructor
      · rintro ⟨node, asked, rfl⟩
        exact .inr (.inr ⟨value, node, found, notBool, nodeOf_iff.mp asked, rfl⟩)
      · rintro (⟨_, _, h⟩ | ⟨_, _, h⟩ | ⟨other, node, same, _, rfl, rfl⟩)
        · rcases h with h | h
          · rw [found] at h
            cases h
          · rw [found] at h
            exact absurd (Option.some.inj h) (notBool _)
        · rw [found] at h
          exact absurd (Option.some.inj h) (notBool _)
        · rw [found] at same
          cases same
          exact ⟨node, nodeOf_iff.mpr rfl, rfl⟩

theorem asked_additional {said : Additional Node}
    (h : Transcript (additional schema) answers said) :
    answers.map (·.1) =
      match Table.get? "additionalProperties" schema with
      | none => []
      | some (.bool _) => []
      | some value => [value] := by
  rcases additional_iff.mp h with ⟨rfl, _, absent | found⟩ | ⟨rfl, _, found⟩ |
    ⟨value, node, found, notBool, rfl, _⟩
  · rw [absent]
    rfl
  · rw [found]
    rfl
  · rw [found]
    rfl
  · rw [found]
    cases value with
    | bool b => exact absurd rfl (notBool b)
    | _ => rfl

/-- The transcript of an object schema: that of its properties, then that of its undeclared keys. -/
theorem shape_iff {found : Shape Node} :
    Transcript (shape schema) answers found ↔
      ∃ first second, answers = first ++ second ∧ Transcript (properties schema) first found.properties ∧
        Transcript (additional schema) second found.additional ∧
        found.required = requiredNames schema := by
  unfold shape
  rw [bind_iff]
  constructor
  · rintro ⟨first, second, declared, rfl, h, h'⟩
    obtain ⟨said, rest, rfl⟩ := bind_pure_iff.mp h'
    exact ⟨first, second, rfl, h, rest, rfl⟩
  · rintro ⟨first, second, rfl, h, h', same⟩
    exact ⟨first, second, _, rfl, h, bind_pure_iff.mpr ⟨_, h', by rw [← same]⟩⟩

theorem asked_shape {found : Shape Node} (h : Transcript (shape schema) answers found) :
    answers.map (·.1) = innerOfShape schema := by
  obtain ⟨first, second, rfl, h, h', _⟩ := shape_iff.mp h
  rw [List.map_append, asked_properties h, asked_additional h']
  rfl

theorem items_iff {node : Node} :
    Transcript (items schema) answers node ↔
      (Table.get? "items" schema = none ∧ answers = [] ∧ node = Node.any) ∨
      ∃ value, Table.get? "items" schema = some value ∧ (∀ list, value ≠ .array list) ∧
        answers = [(value, node)] := by
  unfold items
  split
  case h_1 absent => simp [absent]
  case h_2 list found => simp [found]
  case h_3 value notList found => simpa [found] using fun _ => notList

theorem asked_items {node : Node} (h : Transcript (items schema) answers node) :
    answers.map (·.1) = innerOfItems schema := by
  unfold innerOfItems
  rcases items_iff.mp h with ⟨absent, rfl, _⟩ | ⟨value, found, notList, rfl⟩
  · rw [absent]
    rfl
  · rw [found]
    cases value with
    | array list => exact absurd rfl (notList list)
    | _ => rfl

/-- The transcript of a schema of one type. -/
theorem typed_iff {type : String} {node : Node} :
    Transcript (typed schema type facets) answers node ↔
      (type = "object" ∧ ∃ found, Transcript (shape schema) answers found ∧
        node = ⟨.object found, facets⟩) ∨
      (type = "array" ∧ ∃ found, Transcript (items schema) answers found ∧
        node = ⟨.array found, facets⟩) ∨
      (type ≠ "object" ∧ type ≠ "array" ∧ answers = [] ∧ ∃ primitive,
        Primitive.ofName? type = some primitive ∧ node = ⟨.primitive primitive, facets⟩) := by
  unfold typed
  split
  case isTrue same =>
      rw [bind_pure_iff]
      simp [same]
  case isFalse notObject =>
      split
      case isTrue same =>
          rw [bind_pure_iff]
          simp [same]
      case isFalse notArray =>
          cases found : Primitive.ofName? type with
          | none => simp [notObject, notArray]
          | some primitive => simp [notObject, notArray]

theorem asked_typed {type : String} {node : Node}
    (h : Transcript (typed schema type facets) answers node) :
    answers.map (·.1) = innerOfType schema type := by
  unfold innerOfType
  rcases typed_iff.mp h with ⟨rfl, found, h, _⟩ | ⟨rfl, found, h, _⟩ | ⟨notObject, notArray, rfl, _⟩
  · rw [if_pos rfl, asked_shape h]
  · rw [if_neg (by decide), if_pos rfl, asked_items h]
  · rw [if_neg notObject, if_neg notArray, List.map_nil]

theorem typeName_iff {entry : Json} {name : String} :
    Transcript (typeName entry) answers name ↔ answers = [] ∧ entry = .string name := by
  cases entry <;> simp [typeName, eq_comm]

theorem mapM_typeName_iff {types : List Json} {names : List String} :
    Transcript (types.mapM typeName) answers names ↔ answers = [] ∧ types = names.map .string := by
  induction types generalizing names answers with
  | nil => rw [mapM_nil_iff, eq_comm (b := names.map _), List.map_eq_nil_iff]
  | cons type types ih =>
      simp only [mapM_cons_iff, typeName_iff, ih]
      constructor
      · rintro ⟨_, _, name, rest, rfl, rfl, ⟨rfl, rfl⟩, rfl, rfl⟩
        exact ⟨rfl, rfl⟩
      · rintro ⟨rfl, h⟩
        obtain ⟨name, rest, rfl, rfl, rfl⟩ := List.map_eq_cons_iff.mp h.symm
        exact ⟨[], [], name, rest, rfl, rfl, ⟨rfl, rfl⟩, rfl, rfl⟩

/-- The transcript of a schema with a list of types. -/
theorem typeList_iff {types : List Json} {node : Node} :
    Transcript (typeList schema types facets) answers node ↔
      ∃ names : List String, types = names.map .string ∧
        ((names = [] ∧ answers = [] ∧ node = ⟨.any, facets⟩) ∨
          (∃ name, names = [name] ∧ Transcript (typed schema name facets) answers node) ∨
          (2 ≤ names.length ∧ ∃ variants,
            Transcript (names.mapM fun name => typed schema name {}) answers variants ∧
              node = ⟨.union .anyOf variants, facets⟩)) := by
  unfold typeList
  rw [bind_iff]
  constructor
  · rintro ⟨_, second, names, rfl, h, h'⟩
    obtain ⟨rfl, rfl⟩ := mapM_typeName_iff.mp h
    refine ⟨names, rfl, ?_⟩
    match names, h' with
    | [], h' => exact .inl ⟨rfl, by simpa using h'⟩
    | [name], h' => exact .inr (.inl ⟨name, rfl, h'⟩)
    | _ :: _ :: _, h' => exact .inr (.inr ⟨by simp, bind_pure_iff.mp h'⟩)
  · rintro ⟨names, rfl, h⟩
    refine ⟨[], answers, names, rfl, mapM_typeName_iff.mpr ⟨rfl, rfl⟩, ?_⟩
    match names, h with
    | [], h => simpa using h
    | [name], h => simpa using h
    | _ :: _ :: _, h =>
        simp only [reduceCtorEq, false_and, List.cons.injEq, and_false, exists_false, false_or] at h
        exact bind_pure_iff.mpr h.2

theorem asked_typeList {types : List Json} {node : Node}
    (h : Transcript (typeList schema types facets) answers node) :
    answers.map (·.1) = (types.filterMap Json.text?).flatMap (innerOfType schema) := by
  obtain ⟨names, rfl, found⟩ := typeList_iff.mp h
  have texts : (names.map Json.string).filterMap Json.text? = names := by
    rw [List.filterMap_map]
    exact List.filterMap_some
  rw [texts]
  rcases found with ⟨rfl, rfl, _⟩ | ⟨name, rfl, found⟩ | ⟨_, variants, found, _⟩
  · rfl
  · rw [asked_typed found, List.flatMap_singleton]
  · exact asked_of_mapM (fun name _ answers node h => asked_typed h) found

/-- The transcript of a union. -/
theorem union_iff {mode : UnionMode} {node : Node} :
    Transcript (union mode value facets) answers node ↔
      value = .array (answers.map (·.1)) ∧ answers ≠ [] ∧
        node = ⟨.union mode (answers.map (·.2)), facets⟩ := by
  unfold union
  rw [bind_iff]
  constructor
  · rintro ⟨_, second, list, rfl, h, h'⟩
    obtain ⟨rfl, rfl, nonempty⟩ := branches_iff.mp h
    obtain ⟨nodes, asked, rfl⟩ := bind_pure_iff.mp h'
    obtain ⟨rfl, rfl⟩ := mapM_nodeOf_iff.mp asked
    exact ⟨rfl, fun empty => nonempty (by simpa using empty), rfl⟩
  · rintro ⟨rfl, nonempty, rfl⟩
    have listed : answers.map (·.1) ≠ [] := fun empty => nonempty (List.map_eq_nil_iff.mp empty)
    exact ⟨[], answers, _, rfl, branches_iff.mpr ⟨rfl, rfl, listed⟩,
      bind_pure_iff.mpr ⟨_, mapM_nodeOf_iff.mpr ⟨rfl, rfl⟩, rfl⟩⟩

theorem beside_iff {nodes : List Node} :
    Transcript (beside schema) answers nodes ↔
      if Table.has "properties" schema || Table.has "required" schema then
        ∃ found, Transcript (shape schema) answers found ∧ nodes = [⟨.object found, {}⟩]
      else answers = [] ∧ nodes = [] := by
  unfold beside
  split
  case isTrue => exact bind_pure_iff
  case isFalse => exact pure_iff

theorem asked_beside {nodes : List Node} (h : Transcript (beside schema) answers nodes) :
    answers.map (·.1) = innerBeside schema := by
  rw [beside_iff] at h
  unfold innerBeside
  split at h
  case isTrue stands =>
      obtain ⟨found, shown, _⟩ := h
      rw [if_pos stands, asked_shape shown]
  case isFalse absent =>
      rw [if_neg absent, h.1]
      rfl

theorem shapesFrom_iff {index : Nat} {parts : List Node} {shapes : List (Shape Node)} :
    Transcript (shapesFrom index parts) answers shapes ↔
      answers = [] ∧ parts.map Node.kind = shapes.map .object := by
  induction parts generalizing index shapes answers with
  | nil => rw [shapesFrom, pure_iff, List.map_nil, eq_comm (b := shapes.map _), List.map_eq_nil_iff]
  | cons part parts ih =>
      obtain ⟨kind, facets⟩ := part
      cases kind with
      | object shape =>
          rw [shapesFrom, bind_pure_iff]
          constructor
          · rintro ⟨rest, h, rfl⟩
            obtain ⟨rfl, same⟩ := ih.mp h
            exact ⟨rfl, congrArg (Kind.object shape :: ·) same⟩
          · rintro ⟨rfl, same⟩
            obtain ⟨first, rest, rfl, head, tail⟩ := List.map_eq_cons_iff.mp same.symm
            cases head
            exact ⟨rest, ih.mpr ⟨rfl, tail.symm⟩, rfl⟩
      | array | primitive | union | reference | any =>
          rw [shapesFrom]
          · constructor
            · intro h
              exact absurd h fail_iff
            · rintro ⟨_, same⟩
              obtain ⟨_, _, _, head, _⟩ := List.map_eq_cons_iff.mp same.symm
              cases head
          · intro _ _ same
            cases same

/-- The node that branches are merged into. -/
theorem merged_iff {parts : List Node} {node : Node} :
    Transcript (merged parts facets) answers node ↔ answers = [] ∧
      ((parts = [] ∧ node = ⟨.any, facets⟩) ∨
        (∃ single, parts = [single] ∧ (∀ shape, single.kind ≠ .object shape) ∧
          node = ⟨single.kind, facets.fillFrom single.facets⟩) ∨
        (parts ≠ [] ∧ ∃ shapes : List (Shape Node), parts.map Node.kind = shapes.map .object ∧
          node = ⟨.object (shapes.foldl Shape.merge {}), facets⟩)) := by
  unfold merged
  split
  case h_1 => simp
  case h_2 shape other =>
      rw [pure_iff]
      constructor
      · rintro ⟨rfl, rfl⟩
        exact ⟨rfl, .inr (.inr ⟨by simp, [shape], rfl, rfl⟩)⟩
      · rintro ⟨rfl, ⟨empty, _⟩ | ⟨single, same, notObject, _⟩ | ⟨_, shapes, same, rfl⟩⟩
        · cases empty
        · cases same
          exact absurd rfl (notObject shape)
        · obtain ⟨_, rest, rfl, head, tail⟩ := List.map_eq_cons_iff.mp same.symm
          cases head
          obtain rfl := List.map_eq_nil_iff.mp tail
          exact ⟨rfl, rfl⟩
  case h_3 single notObject =>
      have plain : ∀ shape, single.kind ≠ .object shape := by
        obtain ⟨kind, inside⟩ := single
        rintro shape rfl
        exact notObject shape inside rfl
      rw [pure_iff]
      constructor
      · rintro ⟨rfl, rfl⟩
        exact ⟨rfl, .inr (.inl ⟨single, rfl, plain, rfl⟩)⟩
      · rintro ⟨rfl, ⟨empty, _⟩ | ⟨_, same, _, rfl⟩ | ⟨_, shapes, same, _⟩⟩
        · cases empty
        · cases same
          exact ⟨rfl, rfl⟩
        · obtain ⟨shape, _, _, head, _⟩ := List.map_eq_cons_iff.mp same.symm
          exact absurd head.symm (plain shape)
  case h_4 nonempty _ several =>
      rw [bind_pure_iff]
      constructor
      · rintro ⟨shapes, h, rfl⟩
        obtain ⟨rfl, same⟩ := shapesFrom_iff.mp h
        exact ⟨rfl, .inr (.inr ⟨nonempty, shapes, same, rfl⟩)⟩
      · rintro ⟨rfl, ⟨empty, _⟩ | ⟨single, same, _⟩ | ⟨_, shapes, same, rfl⟩⟩
        · exact absurd empty nonempty
        · exact absurd same (several single)
        · exact ⟨shapes, shapesFrom_iff.mpr ⟨rfl, same⟩, rfl⟩

/-- The transcript of an `allOf`: that of the branches, then that of what stands beside them. -/
theorem allOf_iff {node : Node} :
    Transcript (allOf schema value facets) answers node ↔
      ∃ first second nodes, answers = first ++ second ∧ value = .array (first.map (·.1)) ∧
        first ≠ [] ∧ Transcript (beside schema) second nodes ∧
        Transcript (merged (((first.map (·.2) ++ nodes).map Node.target).filter (!·.isAny)) facets)
          [] node := by
  unfold allOf
  rw [bind_iff]
  constructor
  · rintro ⟨_, _, list, rfl, h, h'⟩
    obtain ⟨rfl, rfl, nonempty⟩ := branches_iff.mp h
    obtain ⟨first, _, written, rfl, asked, rest⟩ := bind_iff.mp h'
    obtain ⟨rfl, rfl⟩ := mapM_nodeOf_iff.mp asked
    obtain ⟨second, last, nodes, rfl, besides, result⟩ := bind_iff.mp rest
    obtain ⟨rfl, _⟩ := merged_iff.mp result
    refine ⟨first, second, nodes, ?_, rfl, fun empty => nonempty (by simpa using empty), besides, result⟩
    rw [List.append_nil, List.nil_append]
  · rintro ⟨first, second, nodes, rfl, rfl, nonempty, besides, result⟩
    have listed : first.map (·.1) ≠ [] := fun empty => nonempty (List.map_eq_nil_iff.mp empty)
    refine ⟨[], _, _, rfl, branches_iff.mpr ⟨rfl, rfl, listed⟩, bind_iff.mpr ?_⟩
    refine ⟨first, second, _, rfl, mapM_nodeOf_iff.mpr ⟨rfl, rfl⟩, bind_iff.mpr ?_⟩
    exact ⟨second, [], nodes, (List.append_nil _).symm, besides, result⟩

theorem asked_allOf {node : Node} (h : Transcript (allOf schema value facets) answers node) :
    answers.map (·.1) = innerOfBranches value ++ innerBeside schema := by
  obtain ⟨first, second, nodes, rfl, rfl, _, besides, _⟩ := allOf_iff.mp h
  rw [List.map_append, asked_beside besides]
  rfl

/-- A schema object that has a node was asked for exactly the schemas inside it, in order. -/
theorem asked_plain {node : Node} (h : Transcript (plain schema facets) answers node) :
    answers.map (·.1) = inner schema := by
  have form : Form schema facets (plain schema facets) (inner schema) := form_plain
  generalize plain schema facets = reading at h form
  generalize inner schema = asked at form ⊢
  cases form with
  | allOf value => exact asked_allOf h
  | union mode value =>
      obtain ⟨rfl, _⟩ := union_iff.mp h
      rfl
  | typed type => exact asked_typed h
  | typeList types => exact asked_typeList h
  | reject reason => exact absurd h reject_iff
  | any =>
      rw [(pure_iff.mp h).1]
      rfl

/-- A schema object that has a node was answered about every schema inside it. -/
theorem exists_of_inner {node : Node} {inside : Json}
    (h : Transcript (plain schema facets) answers node) (member : inside ∈ inner schema) :
    ∃ answer ∈ answers, answer.1 = inside := by
  rw [← asked_plain h] at member
  exact List.mem_map.mp member

end Transcript

namespace AsksOnly

theorem shape : AsksOnly (· ∈ innerOfShape schema) (shape schema) := by
  have declared : AsksOnly (· ∈ innerOfShape schema) (properties schema) := by
    unfold properties
    split
    case h_1 => exact .done []
    case h_2 entries found =>
        refine mapM fun entry member => bind (nodeOf ?_) fun node => .done (entry.1, node)
        exact mem_innerOfShape_property found member
    case h_3 => exact .fail _
  have undeclared : AsksOnly (· ∈ innerOfShape schema) (additional schema) := by
    unfold additional
    split
    case h_1 => exact .done _
    case h_2 => exact .done _
    case h_3 => exact .done _
    case h_4 value notTrue notFalse found =>
        refine bind (nodeOf (mem_innerOfShape_additional found ?_)) fun node => .done (Additional.typed node)
        rintro (_ | _)
        · exact notFalse
        · exact notTrue
  exact declared.bind fun _ => undeclared.bind fun _ => .done _

theorem items : AsksOnly (· ∈ innerOfItems schema) (items schema) := by
  unfold Inquiry.items
  split
  case h_1 => exact .done _
  case h_2 => exact .fail _
  case h_3 value notList found => exact nodeOf (mem_innerOfItems found notList)

theorem typed {type : String} : AsksOnly (· ∈ innerOfType schema type) (typed schema type facets) := by
  unfold Inquiry.typed innerOfType
  split
  case isTrue => exact shape.bind fun _ => .done _
  case isFalse =>
      split
      case isTrue => exact items.bind fun _ => .done _
      case isFalse =>
          split
          case h_1 => exact .done _
          case h_2 => exact .fail _

theorem typeList {types : List Json} :
    AsksOnly (· ∈ (types.filterMap Json.text?).flatMap (innerOfType schema))
      (typeList schema types facets) := by
  have ofName : ∀ name ∈ types.filterMap Json.text?, ∀ facets, AsksOnly
      (· ∈ (types.filterMap Json.text?).flatMap (innerOfType schema)) (Inquiry.typed schema name facets) :=
    fun name member facets => typed.mono fun inside here => List.mem_flatMap.mpr ⟨name, member, here⟩
  unfold Inquiry.typeList
  rcases mapM_typeName_cases types with ⟨objection, same⟩ | same
  · rw [same]
    exact .fail objection
  · rw [same, done_bind]
    generalize types.filterMap Json.text? = names at ofName ⊢
    match names, ofName with
    | [], _ => exact .done _
    | [name], ofName => exact ofName name (List.mem_singleton_self _) facets
    | _ :: _ :: _, ofName => exact (mapM fun name member => ofName name member {}).bind fun _ => .done _

theorem beside : AsksOnly (· ∈ innerBeside schema) (beside schema) := by
  unfold Inquiry.beside innerBeside
  split
  case isTrue => exact shape.bind fun _ => .done _
  case isFalse => exact .done _

theorem shapesFrom {index : Nat} {parts : List Node} {P : Json → Prop} :
    AsksOnly P (shapesFrom index parts) := by
  induction parts generalizing index with
  | nil => exact .done []
  | cons part parts ih =>
      obtain ⟨kind, facets⟩ := part
      cases kind with
      | object shape => exact ih.bind fun shapes => .done (shape :: shapes)
      | array | primitive | union | reference | any => exact .fail _

theorem merged {parts : List Node} {P : Json → Prop} : AsksOnly P (merged parts facets) := by
  unfold Inquiry.merged
  split
  case h_1 => exact .done _
  case h_2 => exact .done _
  case h_3 => exact .done _
  case h_4 => exact shapesFrom.bind fun _ => .done _

/-- Whatever comes of it, reading a schema object asks about the schemas inside it only. -/
theorem plain : AsksOnly (· ∈ inner schema) (plain schema facets) := by
  have form : Form schema facets (Inquiry.plain schema facets) (inner schema) := form_plain
  generalize Inquiry.plain schema facets = reading at form ⊢
  generalize inner schema = asked at form ⊢
  cases form with
  | allOf value =>
      rcases branches_cases "allOf" value with ⟨objection, same⟩ | ⟨list, rfl, same⟩
      · rw [allOf, same]
        exact .fail objection
      · rw [allOf, same, done_bind]
        have written : AsksOnly (· ∈ innerOfBranches (.array list) ++ innerBeside schema)
            (list.mapM Inquiry.nodeOf) :=
          mapM fun branch member => nodeOf (List.mem_append_left _ member)
        have besides : AsksOnly (· ∈ innerOfBranches (.array list) ++ innerBeside schema)
            (Inquiry.beside schema) :=
          beside.mono fun _ here => List.mem_append_right _ here
        exact written.bind fun _ => besides.bind fun _ => merged
  | union mode value =>
      rcases branches_cases mode.keyword value with ⟨objection, same⟩ | ⟨list, rfl, same⟩
      · rw [union, same]
        exact .fail objection
      · rw [union, same, done_bind]
        exact (mapM fun branch member => nodeOf member).bind fun _ => .done _
  | typed type => exact typed
  | typeList types => exact typeList
  | reject reason => exact .fail _
  | any => exact .done _

end AsksOnly

end Inquiry

end Schema

end ApiAtlas
