import ApiAtlas.Proofs.Schema.Merge

/-! # Required names of an `allOf`

What an `allOf` itself requires, and what its inline branches require, is required of the object that they are merged
into, as long as a branch says by some keyword that its values are objects. A branch that only lists required names
has no type, and is dropped with them.
-/

namespace ApiAtlas

namespace Schema

open Inquiry (Transcript)

/-- The name is listed under `required`. -/
def Requires (fields : Table Json) (name : String) : Prop :=
  ∃ names, Table.get? "required" fields = some (.array names) ∧ .string name ∈ names

/-- A schema object that is neither a reference nor a composition. -/
structure Inline (fields : Table Json) : Prop where
  direct : Table.get? "$ref" fields = none
  single : ∀ keyword ∈ ["allOf", "anyOf", "oneOf"], Table.get? keyword fields = none

/-- No keyword of an inline schema tells the type of its values. -/
def Untyped (fields : Table Json) : Prop :=
  match Table.get? "type" fields with
  | some type => type = .array []
  | none => ∀ keyword ∈ ["properties", "additionalProperties", "items"], Table.has keyword fields = false

/-- The node of a schema with a type: no reference, and if it is an object, what the schema lists is required. -/
structure TypedBy (fields : Table Json) (node : Node) : Prop where
  target : node.target = node
  some_ : node.isAny = false
  required {shape : Shape Node} : node.kind = .object shape → shape.required = Inquiry.requiredNames fields

variable {components fields inline : Table Json} {branches : List Json} {answers : List (Json × Node)} {name : String}
  {facets : Facets} {node : Node} {shape : Shape Node} {session after : Session}

theorem mem_requiredNames : name ∈ Inquiry.requiredNames fields ↔ Requires fields name := by
  unfold Inquiry.requiredNames Requires
  split
  · rename_i names found
    have listed : ∀ entry, Json.text? entry = some name ↔ entry = .string name := by
      intro entry
      cases entry <;> simp [Json.text?]
    simp [SortedSet.mem_ofList, found, listed]
  · rename_i notList
    constructor
    · intro member
      simp at member
    · rintro ⟨names, found, _⟩
      exact absurd found (notList names)

theorem typedBy_of_shape (shown : Transcript (Inquiry.shape fields) answers shape) :
    TypedBy fields ⟨.object shape, facets⟩ := by
  obtain ⟨_, _, _, _, _, required⟩ := Transcript.shape_iff.mp shown
  refine ⟨rfl, rfl, ?_⟩
  rintro _ ⟨⟩
  exact required

theorem typedBy_of_typed {type : String} (shown : Transcript (Inquiry.typed fields type facets) answers node) :
    TypedBy fields node := by
  rcases Transcript.typed_iff.mp shown with ⟨_, shape, declared, rfl⟩ | ⟨_, found, _, rfl⟩ | ⟨_, _, _, primitive, _, rfl⟩
  · exact typedBy_of_shape declared
  · exact ⟨rfl, rfl, nofun⟩
  · exact ⟨rfl, rfl, nofun⟩

theorem typedBy_of_typeList {types : List Json} (some_ : types ≠ [])
    (shown : Transcript (Inquiry.typeList fields types facets) answers node) : TypedBy fields node := by
  obtain ⟨names, rfl, ⟨rfl, _⟩ | ⟨name, rfl, shown⟩ | ⟨_, variants, _, rfl⟩⟩ := Transcript.typeList_iff.mp shown
  · simp at some_
  · exact typedBy_of_typed shown
  · exact ⟨rfl, rfl, nofun⟩

/-- An inline schema is read by its type. -/
theorem typedBy_of_inline (here : Inline inline) (typed : ¬ Untyped inline)
    (shown : Transcript (Inquiry.plain inline facets) answers node) : TypedBy inline node := by
  have allOf := here.single "allOf" (by simp)
  have anyOf := here.single "anyOf" (by simp)
  have oneOf := here.single "oneOf" (by simp)
  simp only [Inquiry.plain, allOf, anyOf, oneOf] at shown
  unfold Untyped at typed
  cases found : Table.get? "type" inline with
  | some type =>
      simp only [found] at shown typed
      cases type with
      | string type => exact typedBy_of_typed shown
      | array types =>
          apply typedBy_of_typeList _ shown
          rintro rfl
          exact typed rfl
      | null | bool | number | object => exact absurd shown Transcript.reject_iff
  | none =>
      simp only [found] at shown typed
      split at shown
      · have objects : Transcript (Inquiry.typed inline "object" facets) answers node := shown
        exact typedBy_of_typed objects
      · rename_i noObject
        split at shown
        · have arrays : Transcript (Inquiry.typed inline "array" facets) answers node := shown
          exact typedBy_of_typed arrays
        · rename_i noArray
          simp at noObject noArray typed
          simp [noObject, noArray] at typed

/-- If required names stand beside an `allOf`, they make an object that requires them. -/
theorem typedBy_of_beside {nodes : List Node} (shown : Transcript (Inquiry.beside fields) answers nodes)
    (listed : Requires fields name) : ∃ part ∈ nodes, TypedBy fields part := by
  obtain ⟨names, found, _⟩ := listed
  have stands : (Table.has "properties" fields || Table.has "required" fields) = true := by
    simp [Table.has_of_get? found]
  rw [Transcript.beside_iff, if_pos stands] at shown
  obtain ⟨own, declared, rfl⟩ := shown
  exact ⟨⟨.object own, {}⟩, List.mem_singleton_self _, typedBy_of_shape declared⟩

/-- What a part with a type lists is required of the object that the parts are merged into. -/
theorem TypedBy.mem_required {part : Node} {nodes : List Node} (typed : TypedBy inline part) (member : part ∈ nodes)
    (shown : Transcript (Inquiry.merged (meaningful nodes) facets) [] node) (object : node.kind = .object shape)
    (listed : Requires inline name) : name ∈ shape.required := by
  obtain ⟨_, ⟨_, rfl⟩ | ⟨single, _, other, rfl⟩ | ⟨_, shapes, objects, rfl⟩⟩ := Transcript.merged_iff.mp shown
  · cases object
  · exact absurd object (other shape)
  · cases object
    -- All parts are objects, since they were merged into one.
    have kind : part.kind ∈ shapes.map Kind.object := by
      rw [← objects]
      exact List.mem_map_of_mem (mem_meaningful member typed.target typed.some_)
    obtain ⟨own, there, kind⟩ := List.mem_map.mp kind
    apply ((Shape.merges_foldl shapes).required name).mpr
    refine ⟨own, there, ?_⟩
    rw [typed.required kind.symm]
    exact mem_requiredNames.mpr listed

section Running

variable {descend : Json → Resolving Node}

/-- What an inquiry was answered on the way to its value. -/
theorem exists_transcript {α : Type} {reading : Inquiry α} {value : α}
    (h : (reading.run descend).outcome session = (.ok value, after)) : ∃ answers, Transcript reading answers value ∧
      ∀ answer ∈ answers, ∃ before between, (descend answer.1).outcome before = (.ok answer.2, between) := by
  induction reading generalizing session with
  | done found =>
      cases h
      exact ⟨[], .done value, by simp⟩
  | fail objection => cases h
  | ask schema next ih =>
      obtain ⟨node, between, here, rest⟩ := Resolving.outcome_bind_eq_ok_iff.mp h
      obtain ⟨answers, shown, answered⟩ := ih node rest
      refine ⟨(schema, node) :: answers, .ask shown, ?_⟩
      intro answer member
      rcases List.mem_cons.mp member with rfl | member
      · exact ⟨session, between, here⟩
      · exact answered answer member

theorem exists_transcript_of_resolve (direct : Table.get? "$ref" fields = none)
    (h : (Session.resolve components (.object fields)).outcome session = (.ok node, after)) :
    ∃ answers, Transcript (Inquiry.plain fields (Facets.ofFields fields)) answers node ∧ ∀ answer ∈ answers,
      ∃ before between, (Session.resolve components answer.1).outcome before = (.ok answer.2, between) := by
  rw [outcome_resolve_direct direct (depth_lt_of_resolve h)] at h
  rcases step : ((Inquiry.plain fields (Facets.ofFields fields)).run (Session.resolve components)).outcome
    (Resolving.deeper session) with ⟨result, between⟩
  rw [step] at h
  obtain rfl : result = .ok node := congrArg Prod.fst h
  exact exists_transcript step

end Running

/-- An `allOf` that is merged into an object keeps the names that it requires itself, and those that an inline branch
requires which says of what type it is. -/
theorem required_of_allOf (isAllOf : IsAllOf fields branches)
    (resolved : (Session.resolve components (.object fields)).outcome session = (.ok node, after))
    (object : node.kind = .object shape) :
    (∀ name, Requires fields name → name ∈ shape.required) ∧
    ∀ inline, .object inline ∈ branches → Inline inline → ¬ Untyped inline →
      ∀ name, Requires inline name → name ∈ shape.required := by
  obtain ⟨answers, shown, answered⟩ := exists_transcript_of_resolve isAllOf.direct resolved
  obtain ⟨written, rest, nodes, rfl, rfl, beside, merged⟩ := isAllOf.transcript shown
  constructor
  · intro name listed
    obtain ⟨part, member, typed⟩ := typedBy_of_beside beside listed
    exact typed.mem_required (List.mem_append_right _ member) merged object listed
  · intro inline member here typed name listed
    obtain ⟨⟨_, branch⟩, asked, rfl⟩ := List.mem_map.mp member
    obtain ⟨_, _, given⟩ := answered _ (List.mem_append_left _ asked)
    obtain ⟨_, inside, _⟩ := exists_transcript_of_resolve here.direct given
    have part : branch ∈ written.map (·.2) ++ nodes := List.mem_append_left _ (List.mem_map_of_mem asked)
    exact (typedBy_of_inline here typed inside).mem_required part merged object listed

/-- An inline branch that requires a name of the next one, and a name that is required beside the branches. -/
def ownerBranches : List Json :=
  [.object [("type", .string "object"), ("required", .array [.string "name"])],
   .object [("properties", .object [("name", .object []), ("born", .object [])])]]

def ownerFields : Table Json := [("allOf", .array ownerBranches), ("required", .array [.string "born"])]

def ownerShape : Shape Node where
  properties := [("name", .any), ("born", .any)]
  required := ["born", "name"]

theorem required_of_allOf_owner : ∃ node after shape,
    (Session.resolve [] (.object ownerFields)).outcome {} = (.ok node, after) ∧ node.kind = .object shape ∧
      "born" ∈ shape.required ∧ "name" ∈ shape.required := by
  obtain ⟨after, resolved⟩ : ∃ after, (Session.resolve [] (.object ownerFields)).outcome {} =
      (.ok ⟨.object ownerShape, {}⟩, after) := ⟨_, rfl⟩
  have isAllOf : IsAllOf ownerFields ownerBranches := ⟨rfl, rfl⟩
  obtain ⟨own, inline⟩ := required_of_allOf isAllOf resolved rfl
  refine ⟨_, after, ownerShape, resolved, rfl, ?_, ?_⟩
  · exact own "born" ⟨_, rfl, by simp⟩
  · apply inline [("type", .string "object"), ("required", .array [.string "name"])] (by simp [ownerBranches])
    · exact ⟨rfl, by simp [Table.get?_cons]⟩
    · simp [Untyped, Table.get?_cons]
    · exact ⟨_, rfl, by simp⟩

/-- A branch that declares a name, and one that only requires it. -/
def untypedBranches : List Json :=
  [.object [("properties", .object [("name", .object [])])], .object [("required", .array [.string "name"])]]

def untypedShape : Shape Node where
  properties := [("name", .any)]

/-- A branch that only lists required names is dropped, and the names are not required. -/
theorem required_of_allOf_dropped : ¬ ∀ (components fields : Table Json) (branches : List Json)
    (session after : Session) (node : Node) (shape : Shape Node), IsAllOf fields branches →
    (Session.resolve components (.object fields)).outcome session = (.ok node, after) → node.kind = .object shape →
    (∀ name, Requires fields name → name ∈ shape.required) ∧
    ∀ inline, .object inline ∈ branches → Inline inline → ∀ name, Requires inline name → name ∈ shape.required := by
  intro law
  obtain ⟨after, resolved⟩ : ∃ after, (Session.resolve [] (.object [("allOf", .array untypedBranches)])).outcome {} =
      (.ok ⟨.object untypedShape, {}⟩, after) := ⟨_, rfl⟩
  obtain ⟨_, inline⟩ := law [] _ untypedBranches {} after _ untypedShape ⟨rfl, rfl⟩ resolved rfl
  have required : "name" ∈ untypedShape.required := by
    apply inline [("required", .array [.string "name"])] (by simp [untypedBranches])
    · exact ⟨rfl, by simp [Table.get?_cons]⟩
    · exact ⟨_, rfl, by simp⟩
  simp [untypedShape] at required

end Schema

end ApiAtlas
