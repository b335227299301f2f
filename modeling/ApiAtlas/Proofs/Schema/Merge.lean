import Mathlib.Data.List.Induction
import ApiAtlas.Proofs.Schema.Outcome
import ApiAtlas.Proofs.Sorted
import ApiAtlas.Proofs.Table

/-! # Merging branches

The shape that an `allOf` is merged into: the names that its branches declare, in the order in which they first
occur, each as the last branch declares it. The law holds in every session of a resolver, whatever it remembers and
has open.
-/

namespace ApiAtlas

namespace Schema

namespace Shape

variable {α : Type} {parts : List (Shape α)} {shape part whole : Shape α} {name : String}

/-- The schema declared for a property, by the last of its declarations. -/
def lastProperty? (shape : Shape α) (name : String) : Option α := Table.get? name shape.properties.reverse

/-- A shape is what these parts make together. -/
structure Merges (parts : List (Shape α)) (whole : Shape α) : Prop where
  names : Table.keys whole.properties = (parts.flatMap fun part => Table.keys part.properties).eraseDups
  declared (name : String) : whole.property? name = parts.reverse.findSome? (·.lastProperty? name)
  required (name : String) : name ∈ whole.required ↔ ∃ part ∈ parts, name ∈ part.required
  additional : whole.additional = ((parts.map (·.additional)).reverse.find? (·.isSpecified)).getD .unspecified

theorem Merges.nil : Merges [] ({} : Shape α) := ⟨rfl, fun _ => rfl, by simp, rfl⟩

theorem Merges.concat (merges : Merges parts whole) : Merges (parts ++ [part]) (whole.merge part) where
  names := by
    rw [List.flatMap_append, List.flatMap_singleton]
    exact Table.keys_foldl_put merges.names
  declared name := by
    have step : (whole.merge part).property? name = (part.lastProperty? name).or (whole.property? name) :=
      Table.get?_foldl_put
    rw [step, merges.declared, List.reverse_append, List.reverse_singleton, List.singleton_append,
      List.findSome?_cons]
    cases part.lastProperty? name <;> rfl
  required name := by
    have step : name ∈ (whole.merge part).required ↔ name ∈ part.required ∨ name ∈ whole.required :=
      SortedSet.mem_insertAll
    rw [step, merges.required]
    simp [or_and_right, exists_or, or_comm]
  additional := by
    rw [List.map_append, List.reverse_append, List.map_singleton, List.reverse_singleton, List.singleton_append,
      List.find?_cons]
    cases said : part.additional.isSpecified <;> simp [merge, said, merges.additional]

/-- The parts are merged from the first to the last. -/
theorem merges_foldl (parts : List (Shape α)) : Merges parts (parts.foldl merge {}) := by
  induction parts using List.reverseRecOn with
  | nil => exact .nil
  | append_singleton parts part ih =>
      rw [List.foldl_append]
      exact ih.concat

end Shape

/-- Facets that are those of `own` where it sets them, and those of `other` elsewhere. -/
structure Facets.Completes (own other facets : Facets) : Prop where
  title : facets.title = own.title.or other.title
  description : facets.description = own.description.or other.description
  sample : facets.sample = own.sample.or other.sample
  fallback : facets.fallback = own.fallback.or other.fallback
  format : facets.format = own.format.or other.format
  choices : facets.choices = if own.choices = [] then other.choices else own.choices
  nullable : facets.nullable ↔ own.nullable ∨ other.nullable
  constraints (keyword : String) : Table.get? keyword facets.constraints =
    (Table.get? keyword own.constraints).or (Table.get? keyword other.constraints)

theorem Facets.completes_fillFrom (own other : Facets) : Completes own other (own.fillFrom other) where
  title := rfl
  description := rfl
  sample := rfl
  fallback := rfl
  format := rfl
  choices := by simp only [fillFrom, List.isEmpty_iff]
  nullable := by simp [fillFrom]
  constraints _ := Table.get?_foldl_putNew

/-- Whether the schema itself is an object schema. -/
def Node.isObject (node : Node) : Bool :=
  match node.kind with
  | .object _ => true
  | _ => false

/-- The branches that say something, followed through references. -/
def meaningful (nodes : List Node) : List Node := (nodes.map Node.target).filter fun node => !node.isAny

theorem mem_meaningful {nodes : List Node} {node : Node} (member : node ∈ nodes) (target : node.target = node)
    (some_ : node.isAny = false) : node ∈ meaningful nodes := by
  apply List.mem_filter.mpr
  exact ⟨List.mem_map.mpr ⟨node, member, target⟩, by simp [some_]⟩

namespace Inquiry

section Merged

variable {parts : List Node} {part : Node} {shapes : List (Shape Node)} {facets : Facets} {index : Nat}

theorem shapesFrom_objects (objects : parts.map Node.kind = shapes.map .object) :
    shapesFrom index parts = .done shapes := by
  induction parts generalizing shapes index with
  | nil =>
      rw [List.map_nil, eq_comm, List.map_eq_nil_iff] at objects
      rw [objects]
      rfl
  | cons part parts ih =>
      obtain ⟨shape, rest, rfl, head, tail⟩ := List.map_eq_cons_iff.mp objects.symm
      obtain ⟨kind, facets⟩ := part
      obtain rfl : Kind.object shape = kind := head
      rw [shapesFrom, ih tail.symm]
      rfl

/-- The first branch that is no object is reported. -/
theorem shapesFrom_other (other : ∃ part ∈ parts, part.isObject = false) : shapesFrom index parts =
    .fail (.composition "allOf" (.branchNotObject (index + parts.findIdx fun part => !part.isObject))) := by
  induction parts generalizing index with
  | nil => simp at other
  | cons part parts ih =>
      obtain ⟨kind, facets⟩ := part
      cases kind with
      | object shape =>
          have here : Node.isObject ⟨.object shape, facets⟩ = true := rfl
          have rest : ∃ part ∈ parts, part.isObject = false := by simpa [here] using other
          rw [shapesFrom, ih rest, List.findIdx_cons, here]
          simp only [fail_bind, Bool.not_true, cond_false]
          congr 3
          omega
      | array | primitive | union | reference | any =>
          rw [shapesFrom]
          · simp [List.findIdx_cons, Node.isObject, Node.kind]
          · intro _ _ same
            cases same

theorem merged_several (several : 2 ≤ parts.length) : merged parts facets =
    (shapesFrom 0 parts >>= fun shapes => .done ⟨.object (shapes.foldl Shape.merge {}), facets⟩) := by
  unfold merged
  split
  case h_1 | h_2 | h_3 => simp at several
  case h_4 => rfl

theorem merged_objects (some_ : parts ≠ []) (objects : parts.map Node.kind = shapes.map .object) :
    merged parts facets = .done ⟨.object (shapes.foldl Shape.merge {}), facets⟩ := by
  match parts, some_ with
  | [⟨kind, inside⟩], _ =>
      obtain ⟨shape, rest, rfl, head, tail⟩ := List.map_eq_cons_iff.mp objects.symm
      obtain rfl : Kind.object shape = kind := head
      obtain rfl := List.map_eq_nil_iff.mp tail
      rfl
  | first :: second :: rest, _ =>
      rw [merged_several (by simp), shapesFrom_objects objects]
      rfl

theorem merged_single (other : part.isObject = false) :
    merged [part] facets = .done ⟨part.kind, facets.fillFrom part.facets⟩ := by
  obtain ⟨kind, inside⟩ := part
  cases kind with
  | object shape => cases other
  | _ => rfl

theorem merged_mixed (several : 2 ≤ parts.length) (other : ∃ part ∈ parts, part.isObject = false) :
    merged parts facets = .fail (.composition "allOf" (.branchNotObject (parts.findIdx fun part => !part.isObject))) := by
  rw [merged_several several, shapesFrom_other other, Nat.zero_add]
  rfl

end Merged

section Running

variable {α β : Type} {descend : Json → Resolving Node}

theorem run_bind {reading : Inquiry α} {next : α → Inquiry β} :
    (reading >>= next).run descend = (reading.run descend >>= fun value => (next value).run descend) := by
  induction reading with
  | done value => simp [run]
  | fail objection => rfl
  | ask schema rest ih => simp [run, ih]

theorem run_mapM_nodeOf {schemas : List Json} :
    (schemas.mapM nodeOf).run descend = schemas.mapM descend := by
  induction schemas with
  | nil => rfl
  | cons schema schemas ih =>
      rw [List.mapM_cons, List.mapM_cons, run_bind]
      simp [run_bind, ih, nodeOf, run]

/-- An inquiry that asks nothing leaves the session as it is. -/
theorem AsksOnly.outcome_run {reading : Inquiry α} {session : Session} (only : AsksOnly (fun _ => False) reading) :
    ((reading.run descend).outcome session).2 = session := by
  cases only with
  | done value => rfl
  | fail objection => rfl
  | ask impossible => exact impossible.elim

end Running

end Inquiry

/-- A schema object that is an `allOf` of these branches. -/
structure IsAllOf (fields : Table Json) (branches : List Json) : Prop where
  direct : Table.get? "$ref" fields = none
  composed : Table.get? "allOf" fields = some (.array branches)

/-- What is answered about an `allOf`: first about its branches, then about what stands beside them. -/
theorem IsAllOf.transcript {fields : Table Json} {branches : List Json} {facets : Facets} {node : Node}
    {answers : List (Json × Node)} (isAllOf : IsAllOf fields branches)
    (shown : (Inquiry.plain fields facets).Transcript answers node) : ∃ written rest beside,
      answers = written ++ rest ∧ branches = written.map (·.1) ∧ (Inquiry.beside fields).Transcript rest beside ∧
      (Inquiry.merged (meaningful (written.map (·.2) ++ beside)) facets).Transcript [] node := by
  simp only [Inquiry.plain, isAllOf.composed] at shown
  obtain ⟨written, rest, beside, rfl, same, _, besides, merged⟩ := Inquiry.Transcript.allOf_iff.mp shown
  have listed : branches = written.map (·.1) := by simpa using same
  exact ⟨written, rest, beside, rfl, listed, besides, merged⟩

/-- The nodes of the branches of an `allOf`, one after another, and last that of the object which the keywords beside
it make, if they make one. -/
def branchNodes (components fields : Table Json) (branches : List Json) : Resolving (List Node) := do
  let written ← branches.mapM (Session.resolve components)
  let beside ← (Inquiry.beside fields).run (Session.resolve components)
  return written ++ beside

section Resolving

open Resolving (deeper shallower)

variable {α β : Type} {components fields : Table Json} {branches : List Json} {schema : Json}
  {session after : Session} {nodes : List Node} {facets : Facets}

theorem Resolving.outcome_bind_eq_ok_iff {step : Resolving α} {next : α → Resolving β} {value : β} :
    (step >>= next).outcome session = (.ok value, after) ↔
      ∃ found between, step.outcome session = (.ok found, between) ∧
        (next found).outcome between = (.ok value, after) := by
  rcases h : step.outcome session with ⟨error | found, between⟩
  · simp [outcome_bind_error h]
  · simp [outcome_bind_ok h]

/-- What is answered at all is not nested too deep. -/
theorem depth_lt_of_resolve {node : Node} (h : (Session.resolve components schema).outcome session = (.ok node, after)) :
    session.depth < greatestNesting := by
  rw [Resolving.resolve_eq_level, Resolving.outcome_level] at h
  split at h
  · cases h
  · omega

theorem outcome_resolve_direct (direct : Table.get? "$ref" fields = none) (shallow : session.depth < greatestNesting) :
    (Session.resolve components (.object fields)).outcome session =
      Prod.map id shallower (((Inquiry.plain fields (Facets.ofFields fields)).run
        (Session.resolve components)).outcome (deeper session)) := by
  rw [Resolving.resolve_eq_level, Resolving.outcome_level, if_neg (by omega), Resolving.outcome_nested,
    ← Resolving.resolve_eq_level]
  simp only [Resolving.node, direct]
  rfl

theorem run_allOf (some_ : branches ≠ []) :
    (Inquiry.allOf fields (.array branches) facets).run (Session.resolve components) =
      (branchNodes components fields branches >>= fun nodes =>
        (Inquiry.merged (meaningful nodes) facets).run (Session.resolve components)) := by
  have read : Inquiry.branches "allOf" (.array branches) = .done branches := by
    cases branches with
    | nil => exact absurd rfl some_
    | cons branch branches => rfl
  rw [Inquiry.allOf, read, Inquiry.done_bind, Inquiry.run_bind, Inquiry.run_mapM_nodeOf, branchNodes]
  simp only [Inquiry.run_bind, meaningful, bind_assoc, pure_bind]

/-- An `allOf` whose branches resolve is what becomes of merging them. -/
theorem outcome_resolve_allOf (isAllOf : IsAllOf fields branches) (some_ : branches ≠ [])
    (resolved : (branchNodes components fields branches).outcome (deeper session) = (.ok nodes, after)) :
    (Session.resolve components (.object fields)).outcome session =
      Prod.map id shallower (((Inquiry.merged (meaningful nodes) (Facets.ofFields fields)).run
        (Session.resolve components)).outcome after) := by
  have shallow : session.depth < greatestNesting := by
    cases branches with
    | nil => exact absurd rfl some_
    | cons branch branches =>
        obtain ⟨_, _, written, _⟩ := Resolving.outcome_bind_eq_ok_iff.mp resolved
        rw [List.mapM_cons] at written
        obtain ⟨_, _, first, _⟩ := Resolving.outcome_bind_eq_ok_iff.mp written
        have inner : (deeper session).depth < greatestNesting := depth_lt_of_resolve first
        simp only [deeper] at inner
        omega
  have plain : Inquiry.plain fields (Facets.ofFields fields) =
      Inquiry.allOf fields (.array branches) (Facets.ofFields fields) := by
    simp only [Inquiry.plain, isAllOf.composed]
  rw [outcome_resolve_direct isAllOf.direct shallow, plain, run_allOf some_, Resolving.outcome_bind_ok resolved]

/-- The law of `allOf`. Where its branches, and the object that stands beside them, resolve to nodes, let the parts be
those that say something, followed through references. Without any, everything is admitted. Objects are merged into
one. A single part that is no object is taken over, with the facets of the schema filled up from its own. A part that
is no object beside others is refused. -/
theorem resolve_allOf (isAllOf : IsAllOf fields branches) (some_ : branches ≠ [])
    (resolved : (branchNodes components fields branches).outcome (deeper session) = (.ok nodes, after)) :
    let parts := meaningful nodes
    let own := Facets.ofFields fields
    ∃ result, (Session.resolve components (.object fields)).outcome session = (result, shallower after) ∧
      (parts = [] → result = .ok ⟨.any, own⟩) ∧
      (∀ shapes, shapes ≠ [] → parts.map Node.kind = shapes.map .object →
        ∃ whole, result = .ok ⟨.object whole, own⟩ ∧ whole.Merges shapes) ∧
      (∀ part, parts = [part] → part.isObject = false →
        ∃ facets, result = .ok ⟨part.kind, facets⟩ ∧ own.Completes part.facets facets) ∧
      (2 ≤ parts.length → (∃ part ∈ parts, part.isObject = false) → result =
        .error (.composition "allOf" (.branchNotObject (parts.findIdx fun part => !part.isObject)))) := by
  intro parts own
  have outcome := outcome_resolve_allOf isAllOf some_ resolved
  have kept : (((Inquiry.merged parts own).run (Session.resolve components)).outcome after).2 = after :=
    Inquiry.AsksOnly.merged.outcome_run
  refine ⟨(((Inquiry.merged parts own).run (Session.resolve components)).outcome after).1, ?_, ?_, ?_, ?_, ?_⟩
  · exact outcome.trans (Prod.ext rfl (congrArg shallower kept))
  · intro nothing
    rw [nothing]
    rfl
  · intro shapes several objects
    have parts_ : parts ≠ [] := by
      intro nothing
      rw [nothing, List.map_nil, eq_comm, List.map_eq_nil_iff] at objects
      exact several objects
    rw [Inquiry.merged_objects parts_ objects]
    exact ⟨_, rfl, Shape.merges_foldl shapes⟩
  · intro part single other
    rw [single, Inquiry.merged_single other]
    exact ⟨_, rfl, Facets.completes_fillFrom own part.facets⟩
  · intro several other
    rw [Inquiry.merged_mixed several other]
    rfl

/-- A component, and a schema that adds to it. -/
def namedComponents : Table Json :=
  [("Named", .object
     [("properties", .object [("name", .object [("type", .string "string")])]), ("required", .array [.string "name"])])]

def datedBranches : List Json :=
  [.object [("$ref", .string "#/components/schemas/Named")], .object [],
   .object [("properties", .object [("born", .object []), ("name", .object [])])]]

def datedFields : Table Json := [("allOf", .array datedBranches), ("required", .array [.string "born"])]

def namedShape : Shape Node where
  properties := [("name", ⟨.primitive .string, {}⟩)]
  required := ["name"]

def datedShapes : List (Shape Node) :=
  [namedShape, { properties := [("born", .any), ("name", .any)] }, { required := ["born"] }]

def datedNodes : List Node :=
  [⟨.reference "Named" ⟨.object namedShape, { title := some "Named" }⟩, {}⟩, .any,
   ⟨.object { properties := [("born", .any), ("name", .any)] }, {}⟩, ⟨.object { required := ["born"] }, {}⟩]

theorem resolve_allOf_dated : ∃ after nodes shapes,
    (branchNodes namedComponents datedFields datedBranches).outcome (deeper {}) = (.ok nodes, after) ∧
      (meaningful nodes).map Node.kind = shapes.map .object ∧ shapes.length = 3 ∧
      ∃ whole, (Session.resolve namedComponents (.object datedFields)).outcome {} =
        (.ok ⟨.object whole, {}⟩, shallower after) ∧ whole.Merges shapes := by
  have isAllOf : IsAllOf datedFields datedBranches := ⟨rfl, rfl⟩
  obtain ⟨after, resolved⟩ : ∃ after, (branchNodes namedComponents datedFields datedBranches).outcome (deeper {}) =
      (.ok datedNodes, after) := ⟨_, rfl⟩
  obtain ⟨result, outcome, _, merges, _⟩ := resolve_allOf isAllOf (by decide) resolved
  obtain ⟨whole, rfl, merged⟩ := merges datedShapes (by simp [datedShapes]) rfl
  exact ⟨after, datedNodes, datedShapes, resolved, rfl, rfl, whole, outcome, merged⟩

/-- An `allOf` without branches is refused. It has no part either, but does not admit everything. -/
theorem resolve_allOf_without_branches : ¬ ∀ (components fields : Table Json) (branches : List Json)
    (session after : Session) (nodes : List Node), IsAllOf fields branches →
    (branchNodes components fields branches).outcome (deeper session) = (.ok nodes, after) → meaningful nodes = [] →
    ((Session.resolve components (.object fields)).outcome session).1 = .ok ⟨.any, Facets.ofFields fields⟩ := by
  intro law
  have isAllOf : IsAllOf [("allOf", .array [])] [] := ⟨rfl, rfl⟩
  have refused : ((Session.resolve [] (.object [("allOf", .array [])])).outcome {}).1 =
      .error (.composition "allOf" .noBranches) := rfl
  have admitted := law [] [("allOf", .array [])] [] {} _ [] isAllOf rfl rfl
  rw [refused] at admitted
  cases admitted

end Resolving

end Schema

end ApiAtlas
