import ApiAtlas.Proofs.Schema.Calls
import ApiAtlas.Proofs.Schema.Merge

/-! # Beside an `allOf`

Properties and required names beside an `allOf` act as one more branch, the last one: writing them as that branch
makes no difference to the structure of the node. What is said about undeclared keys is only looked at together with
them.
-/

namespace ApiAtlas

namespace Schema

open Inquiry (Transcript)

/-- A session in which a resolver may meet a schema: what it remembers is right, and the open components lead to the
schema. -/
structure Session.Meets (components : Table Json) (schema : Json) (session : Session) : Prop where
  valid : session.memo.Valid components
  path : OpenPath components session.stack schema

/-- The keywords from which the shape of an object schema is read. -/
def shapeKeywords : List String := ["properties", "required", "additionalProperties"]

/-- The branch that says what stands beside an `allOf`. -/
def siblingBranch (fields : Table Json) : Table Json :=
  ("type", .string "object") :: fields.filter fun entry => shapeKeywords.contains entry.1

/-- The `allOf` with what stands beside it as one more branch. -/
def withBranch (fields : Table Json) (branches : List Json) : Table Json :=
  (fields.filter fun entry => !("allOf" :: shapeKeywords).contains entry.1) ++
    [("allOf", .array (branches ++ [.object (siblingBranch fields)]))]

variable {components fields others : Table Json} {branches : List Json} {schema : Json} {node node' : Node}
  {session session' after after' : Session} {facets : Facets}

theorem Session.meets_after (calls : List Call) : (Session.after components calls).Meets components schema where
  valid := (Session.idle_after calls).valid
  path := by
    rw [(Session.idle_after calls).stack]
    exact .nil

theorem Session.Meets.resolves (meets : session.Meets components schema)
    (resolved : (Session.resolve components schema).outcome session = (.ok node, after)) :
    Resolves components schema node :=
  (Sound.resolve meets.valid meets.path).right (congrArg Prod.fst resolved)

section Rewriting

theorem get?_siblingBranch {keyword : String} (other : "type" ≠ keyword) : Table.get? keyword (siblingBranch fields) =
    if shapeKeywords.contains keyword then Table.get? keyword fields else none := by
  rw [siblingBranch, Table.get?_cons_ne other, Table.get?_filter shapeKeywords.contains]

theorem get?_withBranch {keyword : String} : Table.get? keyword (withBranch fields branches) =
    if keyword = "allOf" then some (.array (branches ++ [.object (siblingBranch fields)]))
    else if shapeKeywords.contains keyword then none else Table.get? keyword fields := by
  let keep (keyword : String) : Bool := !("allOf" :: shapeKeywords).contains keyword
  have kept : Table.get? keyword (fields.filter fun entry => keep entry.1) =
    if keep keyword then Table.get? keyword fields else none := Table.get?_filter keep
  rw [withBranch, Table.get?_append_or, kept]
  by_cases same : keyword = "allOf"
  · simp [keep, same]
  · by_cases member : keyword ∈ shapeKeywords <;> simp [keep, same, member, Table.get?_cons, Ne.symm same]

theorem isAllOf_withBranch (isAllOf : IsAllOf fields branches) :
    IsAllOf (withBranch fields branches) (branches ++ [.object (siblingBranch fields)]) := by
  constructor
  · rw [get?_withBranch, if_neg (by decide), if_neg (by decide)]
    exact isAllOf.direct
  · rw [get?_withBranch, if_pos rfl]

theorem not_has_withBranch {keyword : String} (member : keyword ∈ shapeKeywords) :
    Table.has keyword (withBranch fields branches) = false := by
  have other : keyword ≠ "allOf" := by
    rintro rfl
    simp [shapeKeywords] at member
  rw [Table.not_has_iff, get?_withBranch, if_neg other, if_pos (by simpa using member)]

/-- A shape is read from three keywords. -/
theorem shape_congr (same : ∀ keyword ∈ shapeKeywords, Table.get? keyword fields = Table.get? keyword others) :
    Inquiry.shape fields = Inquiry.shape others := by
  have properties := same "properties" (by simp [shapeKeywords])
  have required := same "required" (by simp [shapeKeywords])
  have additional := same "additionalProperties" (by simp [shapeKeywords])
  simp only [Inquiry.shape, Inquiry.properties, Inquiry.additional, Inquiry.requiredNames, properties, required,
    additional]

theorem shape_siblingBranch : Inquiry.shape (siblingBranch fields) = Inquiry.shape fields := by
  apply shape_congr
  intro keyword member
  have other : "type" ≠ keyword := by
    rintro rfl
    simp [shapeKeywords] at member
  rw [get?_siblingBranch other, if_pos (by simpa using member)]

end Rewriting

section Nodes

variable {shape shape' : Shape Node} {kind kind' : Kind Node} {nodes : List Node}

/-- The shape that the keywords of an object schema declare. -/
def Shaped (components fields : Table Json) (shape : Shape Node) : Prop :=
  ∃ answers, Transcript (Inquiry.shape fields) answers shape ∧ ∀ answer ∈ answers, Resolves components answer.1 answer.2

/-- The kind that branches make when an object of this shape is the last one. -/
def MergedWith (components : Table Json) (branches : List Json) (shape : Shape Node) (kind : Kind Node) : Prop :=
  ∃ nodes shapes, List.Forall₂ (Resolves components) branches nodes ∧
    (meaningful nodes).map Node.kind = shapes.map .object ∧ kind = .object ((shapes ++ [shape]).foldl Shape.merge {})

theorem Shaped.unique (shaped : Shaped components fields shape) (shaped' : Shaped components fields shape') :
    shape = shape' := by
  obtain ⟨answers, shown, answered⟩ := shaped
  obtain ⟨answers', shown', answered'⟩ := shaped'
  exact shown.value_unique (fun answer member _ other => (answered answer member).unique other) shown' answered'

theorem MergedWith.unique (merged : MergedWith components branches shape kind)
    (merged' : MergedWith components branches shape kind') : kind = kind' := by
  obtain ⟨nodes, shapes, resolved, objects, rfl⟩ := merged
  obtain ⟨nodes', shapes', resolved', objects', rfl⟩ := merged'
  have same : nodes = nodes' :=
    List.right_unique_forall₂' (fun _ _ _ first second => first.unique second) resolved resolved'
  subst same
  have injective : Function.Injective (Kind.object : Shape Node → Kind Node) := by
    rintro first second ⟨⟩
    rfl
  rw [List.map_injective_iff.mpr injective (objects.symm.trans objects')]

theorem Resolves.transcript (resolves : Resolves components (.object fields) node)
    (direct : Table.get? "$ref" fields = none) :
    ∃ answers, Transcript (Inquiry.plain fields (Facets.ofFields fields)) answers node ∧
      ∀ answer ∈ answers, Resolves components answer.1 answer.2 := by
  cases resolves with
  | reference written =>
      rw [direct] at written
      cases written
  | plain _ shown answered => exact ⟨_, shown, answered⟩

/-- What a transcript says of the branches is what they resolve to. -/
theorem forall₂_resolves {answers : List (Json × Node)}
    (answered : ∀ answer ∈ answers, Resolves components answer.1 answer.2) :
    List.Forall₂ (Resolves components) (answers.map (·.1)) (answers.map (·.2)) := by
  rw [List.forall₂_map_left_iff, List.forall₂_map_right_iff, List.forall₂_same]
  exact answered

/-- Parts of which the last one is an object are merged into an object, whatever the facets. -/
theorem mergedWith_of_merged {own : Facets} (resolved : List.Forall₂ (Resolves components) branches nodes)
    (shown : Transcript (Inquiry.merged (meaningful (nodes ++ [⟨.object shape, own⟩])) facets) [] node) :
    MergedWith components branches shape node.kind := by
  have parts : meaningful (nodes ++ [⟨.object shape, own⟩]) = meaningful nodes ++ [⟨.object shape, own⟩] := by
    rw [meaningful, List.map_append, List.filter_append]
    rfl
  rw [parts] at shown
  obtain ⟨_, ⟨empty, _⟩ | ⟨single, same, other, _⟩ | ⟨_, shapes, objects, rfl⟩⟩ := Transcript.merged_iff.mp shown
  · simp at empty
  · have last : ⟨.object shape, own⟩ ∈ [single] := same ▸ List.mem_append_right _ (List.mem_singleton_self _)
    obtain rfl := List.mem_singleton.mp last
    exact absurd rfl (other shape)
  · rw [List.map_append] at objects
    obtain ⟨front, last, rfl, front_, last_⟩ := List.map_eq_append_iff.mp objects.symm
    obtain ⟨whole, rfl, same⟩ := List.map_eq_singleton_iff.mp last_
    cases same
    exact ⟨nodes, front, resolved, front_.symm, rfl⟩

/-- The keywords beside an `allOf` are the last part of what it is merged into. -/
theorem Resolves.mergedWith_beside (resolves : Resolves components (.object fields) node)
    (isAllOf : IsAllOf fields branches)
    (stands : (Table.has "properties" fields || Table.has "required" fields) = true) :
    ∃ shape, Shaped components fields shape ∧ MergedWith components branches shape node.kind := by
  obtain ⟨_, shown, answered⟩ := resolves.transcript isAllOf.direct
  obtain ⟨written, rest, beside, rfl, rfl, besides, merged⟩ := isAllOf.transcript shown
  rw [Transcript.beside_iff, if_pos stands] at besides
  obtain ⟨shape, declared, rfl⟩ := besides
  have branches : List.Forall₂ (Resolves components) (written.map (·.1)) (written.map (·.2)) :=
    forall₂_resolves fun answer member => answered answer (List.mem_append_left _ member)
  refine ⟨shape, ⟨rest, declared, ?_⟩, mergedWith_of_merged branches merged⟩
  exact fun answer member => answered answer (List.mem_append_right _ member)

theorem plain_siblingBranch :
    Inquiry.plain (siblingBranch fields) facets = Inquiry.typed (siblingBranch fields) "object" facets := by
  have allOf : Table.get? "allOf" (siblingBranch fields) = none := get?_siblingBranch (by decide)
  have anyOf : Table.get? "anyOf" (siblingBranch fields) = none := get?_siblingBranch (by decide)
  have oneOf : Table.get? "oneOf" (siblingBranch fields) = none := get?_siblingBranch (by decide)
  have type : Table.get? "type" (siblingBranch fields) = some (.string "object") := Table.get?_cons_self
  simp only [Inquiry.plain, allOf, anyOf, oneOf, type]

/-- Written as a branch, the keywords beside an `allOf` declare the same shape. -/
theorem Resolves.siblingBranch (resolves : Resolves components (.object (siblingBranch fields)) node) :
    ∃ shape own, Shaped components fields shape ∧ node = ⟨.object shape, own⟩ := by
  have direct : Table.get? "$ref" (Schema.siblingBranch fields) = none := get?_siblingBranch (by decide)
  obtain ⟨answers, shown, answered⟩ := resolves.transcript direct
  rw [plain_siblingBranch, Transcript.typed_iff] at shown
  obtain ⟨_, shape, declared, rfl⟩ | ⟨array, _⟩ | ⟨other, _⟩ := shown
  · rw [shape_siblingBranch] at declared
    exact ⟨shape, _, ⟨answers, declared, answered⟩, rfl⟩
  · simp at array
  · exact absurd rfl other

/-- Written as a branch, the keywords beside an `allOf` are the last part too. -/
theorem Resolves.mergedWith_branch (resolves : Resolves components (.object (withBranch fields branches)) node)
    (isAllOf : IsAllOf fields branches) :
    ∃ shape, Shaped components fields shape ∧ MergedWith components branches shape node.kind := by
  have moved := isAllOf_withBranch isAllOf
  obtain ⟨_, shown, answered⟩ := resolves.transcript moved.direct
  obtain ⟨written, rest, beside, rfl, same, besides, merged⟩ := moved.transcript shown
  obtain ⟨front, last, rfl, rfl, last_⟩ := List.map_eq_append_iff.mp same.symm
  obtain ⟨⟨_, branch⟩, rfl, rfl⟩ := List.map_eq_singleton_iff.mp last_
  have alone : ¬ (Table.has "properties" (withBranch fields (front.map (·.1))) ||
      Table.has "required" (withBranch fields (front.map (·.1)))) = true := by
    rw [not_has_withBranch (by simp [shapeKeywords]), not_has_withBranch (by simp [shapeKeywords])]
    simp
  rw [Transcript.beside_iff, if_neg alone] at besides
  obtain ⟨rfl, rfl⟩ := besides
  have resolved : Resolves components (.object (Schema.siblingBranch fields)) branch :=
    answered (.object (Schema.siblingBranch fields), branch) (by simp)
  obtain ⟨shape, own, shaped, rfl⟩ := resolved.siblingBranch
  have branches : List.Forall₂ (Resolves components) (front.map (·.1)) (front.map (·.2)) :=
    forall₂_resolves fun answer member => answered answer (by simp [member])
  rw [List.append_nil, List.map_append, List.map_singleton] at merged
  exact ⟨shape, shaped, mergedWith_of_merged branches merged⟩

end Nodes

/-- What stands beside an `allOf` is one more branch. If properties or required names do, then the schema and the one
in which all of it is written as the last branch have the same structure, wherever both resolve. -/
theorem kind_of_siblings (isAllOf : IsAllOf fields branches)
    (stands : (Table.has "properties" fields || Table.has "required" fields) = true)
    (meets : session.Meets components (.object fields))
    (meets' : session'.Meets components (.object (withBranch fields branches)))
    (resolved : (Session.resolve components (.object fields)).outcome session = (.ok node, after))
    (resolved' : (Session.resolve components (.object (withBranch fields branches))).outcome session' =
      (.ok node', after')) : node.kind = node'.kind := by
  obtain ⟨shape, shaped, merged⟩ := (meets.resolves resolved).mergedWith_beside isAllOf stands
  obtain ⟨shape', shaped', merged'⟩ := (meets'.resolves resolved').mergedWith_branch isAllOf
  obtain rfl := shaped.unique shaped'
  exact merged.unique merged'

/-- A component, and a schema that adds to it beside its `allOf`. -/
def tagComponents : Table Json :=
  [("Tag", .object [("properties", .object [("name", .object [("type", .string "string")])])])]

def tagBranches : List Json := [.object [("$ref", .string "#/components/schemas/Tag")]]

def labelFields : Table Json :=
  [("title", .string "Label"), ("allOf", .array tagBranches), ("required", .array [.string "name"]),
   ("properties", .object [("color", .object [])]), ("additionalProperties", .bool false)]

def labelShape : Shape Node where
  properties := [("name", ⟨.primitive .string, {}⟩), ("color", .any)]
  required := ["name"]
  additional := .forbidden

theorem kind_of_siblings_label : ∃ node node' after after',
    (Session.resolve tagComponents (.object labelFields)).outcome {} = (.ok node, after) ∧
      (Session.resolve tagComponents (.object (withBranch labelFields tagBranches))).outcome after =
        (.ok node', after') ∧ node.kind = node'.kind := by
  have isAllOf : IsAllOf labelFields tagBranches := ⟨rfl, rfl⟩
  obtain ⟨after, resolved⟩ : ∃ after, (Session.resolve tagComponents (.object labelFields)).outcome {} =
      (.ok ⟨.object labelShape, { title := some "Label" }⟩, after) := ⟨_, rfl⟩
  have used : after = Session.after tagComponents [.resolve (.object labelFields)] :=
    (congrArg Prod.snd resolved).symm
  obtain ⟨after', resolved'⟩ : ∃ after', (Session.resolve tagComponents
      (.object (withBranch labelFields tagBranches))).outcome
        (Session.after tagComponents [.resolve (.object labelFields)]) =
      (.ok ⟨.object labelShape, { title := some "Label" }⟩, after') := ⟨_, rfl⟩
  refine ⟨_, _, after, after', resolved, used ▸ resolved', ?_⟩
  exact kind_of_siblings isAllOf rfl (Session.meets_after []) (Session.meets_after _) resolved resolved'

/-- A schema beside whose `allOf` undeclared keys are forbidden, but nothing is declared. -/
def closedBranches : List Json := [.object [("type", .string "object")]]

def closedFields : Table Json := [("allOf", .array closedBranches), ("additionalProperties", .bool false)]

/-- What is said about undeclared keys alone is no branch: it is not looked at. -/
theorem kind_of_siblings_ignored : ¬ ∀ (components fields : Table Json) (branches : List Json)
    (session session' after after' : Session) (node node' : Node), IsAllOf fields branches →
    (∃ keyword ∈ shapeKeywords, Table.has keyword fields) → session.Meets components (.object fields) →
    session'.Meets components (.object (withBranch fields branches)) →
    (Session.resolve components (.object fields)).outcome session = (.ok node, after) →
    (Session.resolve components (.object (withBranch fields branches))).outcome session' = (.ok node', after') →
    node.kind = node'.kind := by
  intro law
  have isAllOf : IsAllOf closedFields closedBranches := ⟨rfl, rfl⟩
  have same : Kind.object {} = Kind.object { additional := .forbidden } :=
    law [] closedFields closedBranches {} {} _ _ ⟨.object {}, {}⟩ ⟨.object { additional := .forbidden }, {}⟩ isAllOf
      ⟨"additionalProperties", by simp [shapeKeywords], rfl⟩ (Session.meets_after []) (Session.meets_after []) rfl rfl
  cases same

end Schema

end ApiAtlas
