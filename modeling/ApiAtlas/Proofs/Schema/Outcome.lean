import ApiAtlas.Proofs.Except
import ApiAtlas.Proofs.Schema.Inner
import ApiAtlas.Schema.Resolution

/-! # Outcomes of resolving steps

What the steps of a resolver do to a session, and that its recursion ends: below the greatest
nesting nothing is ever asked, so it does not matter what would be answered there.
-/

namespace ApiAtlas

namespace Schema

namespace Resolving

variable {α β : Type} {components : Table Json} {session after : Session}

@[simp] theorem outcome_pure (value : α) :
    (pure value : Resolving α).outcome session = (.ok value, session) := rfl

@[simp] theorem outcome_throw (error : Error) :
    (throw error : Resolving α).outcome session = (.error error, session) := rfl

theorem outcome_bind_ok {step : Resolving α} {next : α → Resolving β} {value : α}
    (h : step.outcome session = (.ok value, after)) :
    (step >>= next).outcome session = (next value).outcome after := run_bind_of_ok h

theorem outcome_bind_error {step : Resolving α} {next : α → Resolving β} {error : Error}
    (h : step.outcome session = (.error error, after)) :
    (step >>= next).outcome session = (.error error, after) := run_bind_of_error h

/-- The session one level further inside. -/
def deeper (session : Session) : Session := { session with depth := session.depth + 1 }

/-- The session back on the level outside. -/
def shallower (session : Session) : Session := { session with depth := session.depth - 1 }

theorem outcome_nested {step : Resolving α} :
    (nested step).outcome session =
      ((step.outcome (deeper session)).1, shallower (step.outcome (deeper session)).2) := rfl

/-- The session while a component is being resolved. -/
def entered (name : String) (session : Session) : Session :=
  { session with stack := session.stack ++ [name] }

/-- The session after a component has been resolved, in either way. -/
def left (session : Session) : Session := { session with stack := session.stack.dropLast }

theorem outcome_during {name : String} {step : Resolving α} {result : Except Error α}
    (h : step.outcome (entered name session) = (result, after)) :
    (during name step).outcome session = (result, left after) := by
  change ((step.outcome (entered name session)).1, left (step.outcome (entered name session)).2) = _
  rw [h]

theorem outcome_level {descend : Json → Resolving Node} {schema : Json} :
    (level components descend schema).outcome session =
      if greatestNesting ≤ session.depth then (.error (.malformed .tooDeep), session)
      else (nested (node components descend schema)).outcome session := by
  change (if greatestNesting ≤ session.depth then (throw _ : Resolving Node) else _).outcome _ = _
  split <;> rfl

/-- The session after the node of a component is remembered. -/
def remembered (name : String) (node : Node) (session : Session) : Session :=
  { session with memo := Table.put name node session.memo }

/-- What following a reference comes to. -/
inductive Follows (components : Table Json) (descend : Json → Resolving Node) (text : String)
    (facets : Facets) (session : Session) : Except Error Node × Session → Prop where
  | unnamed : componentName? text = none →
    Follows components descend text facets session (.error (.unresolved text), session)
  | open {name : String} : componentName? text = some name → name ∈ session.stack →
    Follows components descend text facets session
      (.error (.circular (session.stack.dropWhile (· != name) ++ [name])), session)
  | known {name : String} {node : Node} : componentName? text = some name → name ∉ session.stack →
    Table.get? name session.memo = some node →
    Follows components descend text facets session (.ok ⟨.reference name node, facets⟩, session)
  | absent {name : String} : componentName? text = some name → name ∉ session.stack →
    Table.get? name session.memo = none → Table.get? name components = none →
    Follows components descend text facets session (.error (.unresolved text), session)
  | resolved {name : String} {schema : Json} {node : Node} {after : Session} :
    componentName? text = some name → name ∉ session.stack →
    Table.get? name session.memo = none → Table.get? name components = some schema →
    (descend schema).outcome (entered name session) = (.ok node, after) →
    Follows components descend text facets session
      (.ok ⟨.reference name (node.titled name), facets⟩,
        remembered name (node.titled name) (left after))
  | failed {name : String} {schema : Json} {error : Error} {after : Session} :
    componentName? text = some name → name ∉ session.stack →
    Table.get? name session.memo = none → Table.get? name components = some schema →
    (descend schema).outcome (entered name session) = (.error error, after) →
    Follows components descend text facets session (.error error, left after)

section Reference

variable {descend : Json → Resolving Node} {text name : String} {facets : Facets}
  {result : Except Error Node × Session}

theorem outcome_get : (get : Resolving Session).outcome session = (.ok session, session) := rfl

theorem outcome_component_of_known {node : Node} (known : Table.get? name session.memo = some node) :
    (component components descend text name).outcome session = (.ok node, session) := by
  rw [component, outcome_bind_ok outcome_get]
  dsimp only
  rw [known]
  rfl

theorem outcome_component_of_absent (unknown : Table.get? name session.memo = none)
    (absent : Table.get? name components = none) :
    (component components descend text name).outcome session = (.error (.unresolved text), session) := by
  rw [component, outcome_bind_ok outcome_get]
  dsimp only
  rw [unknown, absent]
  rfl

theorem outcome_component_of_present {schema : Json} (unknown : Table.get? name session.memo = none)
    (present : Table.get? name components = some schema) :
    (component components descend text name).outcome session =
      (during name (descend schema) >>= fun node => modify (remembered name (node.titled name)) >>=
        fun _ => pure (node.titled name)).outcome session := by
  rw [component, outcome_bind_ok outcome_get]
  dsimp only
  rw [unknown, present]
  rfl

theorem outcome_reference_of_fresh (named : componentName? text = some name)
    (fresh : name ∉ session.stack) :
    (reference components descend text facets).outcome session =
      (component components descend text name >>=
        fun node => pure ⟨.reference name node, facets⟩).outcome session := by
  rw [reference, named]
  change (if name ∈ session.stack then _ else _ : Resolving Node).outcome session = _
  rw [if_neg fresh]

theorem outcome_reference (h : Follows components descend text facets session result) :
    (reference components descend text facets).outcome session = result := by
  cases h with
  | unnamed named =>
      rw [reference, named]
      rfl
  | «open» named member =>
      rw [reference, named]
      change (if _ ∈ session.stack then _ else _ : Resolving Node).outcome session = _
      rw [if_pos member]
      rfl
  | known named fresh known =>
      rw [outcome_reference_of_fresh named fresh, outcome_bind_ok (outcome_component_of_known known)]
      rfl
  | absent named fresh unknown absent =>
      rw [outcome_reference_of_fresh named fresh,
        outcome_bind_error (outcome_component_of_absent unknown absent)]
  | resolved named fresh unknown present inside =>
      have step : (component components descend text _).outcome session = _ :=
        outcome_component_of_present unknown present
      rw [outcome_reference_of_fresh named fresh,
        outcome_bind_ok (step.trans (outcome_bind_ok (outcome_during inside)))]
      rfl
  | failed named fresh unknown present inside =>
      have step : (component components descend text _).outcome session = _ :=
        outcome_component_of_present unknown present
      rw [outcome_reference_of_fresh named fresh,
        outcome_bind_error (step.trans (outcome_bind_error (outcome_during inside)))]

variable (components descend text facets session) in
theorem exists_follows : ∃ result, Follows components descend text facets session result := by
  cases named : componentName? text with
  | none => exact ⟨_, .unnamed named⟩
  | some name =>
      by_cases fresh : name ∈ session.stack
      · exact ⟨_, .open named fresh⟩
      · cases known : Table.get? name session.memo with
        | some node => exact ⟨_, .known named fresh known⟩
        | none =>
            cases present : Table.get? name components with
            | none => exact ⟨_, .absent named fresh known present⟩
            | some schema =>
                cases step : (descend schema).outcome (entered name session) with
                | mk inside after =>
                    cases inside with
                    | ok node => exact ⟨_, .resolved named fresh known present step⟩
                    | error error => exact ⟨_, .failed named fresh known present step⟩

end Reference

section Agreement

variable {first second : Json → Resolving Node} {depth : Nat}

/-- From this depth on two resolvers come to the same, and they return to the level they started
from. -/
def AgreeFrom (depth : Nat) (first second : Json → Resolving Node) : Prop :=
  ∀ schema session, depth ≤ session.depth →
    (first schema).outcome session = (second schema).outcome session ∧
      ((first schema).outcome session).2.depth = session.depth

theorem AgreeFrom.run (agree : AgreeFrom depth first second) (reading : Inquiry α)
    (deep : depth ≤ session.depth) :
    (reading.run first).outcome session = (reading.run second).outcome session ∧
      ((reading.run first).outcome session).2.depth = session.depth := by
  induction reading generalizing session with
  | done | fail => exact ⟨rfl, rfl⟩
  | ask schema next ih =>
      obtain ⟨same, returns⟩ := agree schema session deep
      simp only [Inquiry.run]
      rcases h : (first schema).outcome session with ⟨result, after⟩
      rw [h] at same returns
      cases result with
      | error error =>
          rw [outcome_bind_error h, outcome_bind_error same.symm]
          exact ⟨rfl, returns⟩
      | ok node =>
          rw [outcome_bind_ok h, outcome_bind_ok same.symm]
          have there := ih node (Nat.le_trans deep (Nat.le_of_eq returns.symm))
          exact ⟨there.1, there.2.trans returns⟩

theorem AgreeFrom.reference (agree : AgreeFrom depth first second) {text : String}
    {facets : Facets} (deep : depth ≤ session.depth) :
    (reference components first text facets).outcome session =
        (reference components second text facets).outcome session ∧
      ((reference components first text facets).outcome session).2.depth = session.depth := by
  obtain ⟨result, h⟩ := exists_follows components session first text facets
  rw [outcome_reference h]
  cases h with
  | unnamed named => exact ⟨(outcome_reference (.unnamed named)).symm, rfl⟩
  | «open» named member => exact ⟨(outcome_reference (.open named member)).symm, rfl⟩
  | known named fresh known => exact ⟨(outcome_reference (.known named fresh known)).symm, rfl⟩
  | absent named fresh unknown absent =>
      exact ⟨(outcome_reference (.absent named fresh unknown absent)).symm, rfl⟩
  | resolved named fresh unknown present inside =>
      obtain ⟨same, returns⟩ := agree _ (entered _ session) deep
      rw [inside] at same returns
      exact ⟨(outcome_reference (.resolved named fresh unknown present same.symm)).symm, returns⟩
  | failed named fresh unknown present inside =>
      obtain ⟨same, returns⟩ := agree _ (entered _ session) deep
      rw [inside] at same returns
      exact ⟨(outcome_reference (.failed named fresh unknown present same.symm)).symm, returns⟩

theorem AgreeFrom.node (agree : AgreeFrom depth first second) : AgreeFrom depth
    (node components first) (node components second) := by
  intro schema session deep
  unfold Resolving.node
  split
  · split
    · exact agree.reference deep
    · exact ⟨rfl, rfl⟩
    · exact agree.run _ deep
  · exact ⟨rfl, rfl⟩
  · exact ⟨rfl, rfl⟩

/-- One level does not depend on what is done beyond the greatest nesting. -/
theorem AgreeFrom.level {depth : Nat}
    (agree : depth < greatestNesting → AgreeFrom (depth + 1) first second) :
    AgreeFrom depth (level components first) (level components second) := by
  intro schema session deep
  rw [outcome_level, outcome_level]
  split
  · exact ⟨rfl, rfl⟩
  · rename_i shallow
    obtain ⟨same, returns⟩ := (agree (by omega)).node schema (deeper session) (Nat.succ_le_succ deep)
    rw [outcome_nested, outcome_nested, same]
    rw [same] at returns
    exact ⟨rfl, congrArg (· - 1) returns⟩

/-- What lies beyond an unrolling that is deep enough is never reached. -/
theorem agreeFrom_unrolled {levels : Nat} (enough : greatestNesting ≤ depth + levels) :
    AgreeFrom depth (unrolled components first (levels + 1))
      (unrolled components second (levels + 1)) := by
  induction levels generalizing depth with
  | zero => exact .level fun shallow => absurd shallow (Nat.not_lt_of_le enough)
  | succ levels ih => exact .level fun _ => ih (by omega)

theorem unrolled_add {levels more : Nat} :
    unrolled components first (more + levels) =
      unrolled components (unrolled components first more) levels := by
  induction levels with
  | zero => rfl
  | succ levels ih => exact congrArg (level components) ih

/-- The recursion of a resolver ends: it has come to its result before the unrolling does. -/
theorem unrolled_eq_resolve {levels : Nat} (enough : Session.levels ≤ levels) :
    unrolled components first levels = Session.resolve components := by
  obtain ⟨more, rfl⟩ := Nat.exists_eq_add_of_le' enough
  rw [unrolled_add]
  funext schema session
  exact (agreeFrom_unrolled (Nat.le_of_eq (Nat.zero_add _).symm) schema session (Nat.zero_le _)).1

/-- Resolving a schema resolves those inside it and behind references in the same way. -/
theorem resolve_eq_level :
    Session.resolve components = level components (Session.resolve components) := by
  have unrolling : unrolled components (fun _ => throw (.malformed .tooDeep)) (Session.levels + 1) =
      Session.resolve components := unrolled_eq_resolve (Nat.le_succ _)
  exact unrolling.symm

end Agreement

end Resolving

end Schema

end ApiAtlas
