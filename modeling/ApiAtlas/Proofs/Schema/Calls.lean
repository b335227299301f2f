import ApiAtlas.Proofs.Json.Pointer
import ApiAtlas.Proofs.Schema.Progress
import ApiAtlas.Proofs.Text.Basic

/-! # Calls of a resolver

A resolver is used any number of times, for schemas and for components by name. Whatever the calls
come to, nothing is open between them, and the memo is one that resolving may have left.
-/

namespace ApiAtlas

namespace Schema

/-- One use of a resolver. -/
inductive Call where
  | resolve (schema : Json)
  | component (name : String)

/-- What a call does. -/
def Call.step (components : Table Json) : Call → Resolving Node
  | .resolve schema => Session.resolve components schema
  | .component name => Session.resolveComponent components name

/-- The session of a resolver after these calls. -/
def Session.after (components : Table Json) (calls : List Call) : Session :=
  calls.foldl (fun session call => ((call.step components).outcome session).2) {}

/-- A session between two calls. -/
structure Session.Idle (components : Table Json) (session : Session) : Prop where
  stack : session.stack = []
  depth : session.depth = 0
  valid : session.memo.Valid components

variable {components : Table Json} {session after : Session} {name : String}

/-- A reference to a component names it by one part of a pointer, which is not empty. -/
theorem componentName?_eq_some_iff {reference : String} : componentName? reference = some name ↔
    ∃ part, reference = componentPrefix ++ part ∧ part ≠ "" ∧ '/' ∉ part.toList ∧ Pointer.unescape part = name := by
  unfold componentName?
  cases start : Text.afterStart? componentPrefix reference with
  | none =>
      refine iff_of_false nofun ?_
      rintro ⟨part, rfl, -⟩
      rw [Text.afterStart?_append] at start
      cases start
  | some part =>
      obtain rfl := Text.afterStart?_eq_some_iff.mp start
      have same (other : String) : componentPrefix ++ part = componentPrefix ++ other ↔ part = other :=
        String.append_right_inj componentPrefix
      simp only [same, exists_eq_left', Option.ite_none_left_eq_some, Option.some.injEq, Bool.or_eq_true, beq_iff_eq,
        List.contains_iff_mem, not_or, and_assoc]

theorem ne_empty_of_componentName? {reference : String} (named : componentName? reference = some name) : name ≠ "" := by
  obtain ⟨part, -, written, -, rfl⟩ := componentName?_eq_some_iff.mp named
  exact fun empty => written (Pointer.unescape_eq_empty empty)

/-- The reference to a component names that component; one without a name cannot be referred to. -/
theorem componentName?_componentReference :
    componentName? (componentReference name) = if name = "" then none else some name := by
  have oneName : (Pointer.escape name).toList.contains '/' = false := by
    rw [Bool.eq_false_iff, ne_eq, List.contains_iff_mem, Pointer.escape, String.toList_ofList]
    exact Pointer.slash_notMem_escapeChars _
  rw [componentName?, componentReference, Text.afterStart?_append]
  dsimp only
  rw [oneName, Bool.or_false]
  by_cases empty : name = ""
  · subst empty
    rfl
  · have written : (Pointer.escape name == "") = false :=
      beq_eq_false_iff_ne.mpr fun same => empty (Pointer.escape_eq_empty same)
    rw [if_neg empty, written, if_neg Bool.false_ne_true, Pointer.unescape_escape]

theorem eq_of_componentReference {found : String}
    (named : componentName? (componentReference name) = some found) : found = name := by
  rw [componentName?_componentReference] at named
  split at named
  · cases named
  · exact (Option.some.inj named).symm

/-- The schema that only refers to a component. -/
def referenceTo (name : String) : Json := .object [("$ref", .string (componentReference name))]

/-- Without the node of the reference that a reference resolves to. -/
def Node.withoutReference : Node → Node
  | ⟨.reference _ resolved, _⟩ => resolved
  | node => node

/-- Resolving a component is resolving the reference to it, without the node of the reference. -/
theorem outcome_resolveComponent :
    (Session.resolveComponent components name).outcome session =
      Prod.map (Except.map Node.withoutReference) id
        ((Resolving.reference components (Session.resolve components) (componentReference name) {}).outcome
          session) := by
  rcases h : (Resolving.reference components (Session.resolve components) (componentReference name)
    {}).outcome session with ⟨error | ⟨⟨kind, facets⟩⟩, after⟩
  · exact Resolving.outcome_bind_error h
  · rw [Session.resolveComponent, Resolving.outcome_bind_ok h]
    cases kind <;> rfl

/-- What a resolver owes about a component. -/
structure ComponentAnswers (components : Table Json) (name : String) (session : Session)
    (outcome : Except Error Node × Session) : Prop where
  progress : Progress components (Reaches components (referenceTo name)) session outcome.2
  right {node : Node} : outcome.1 = .ok node → IsComponent components name node
  cycle {chain : List String} : outcome.1 = .error (.circular chain) → IsCycle components chain

namespace Session

theorem Idle.resolve (idle : session.Idle components) (schema : Json) :
    Answers components schema session ((Session.resolve components schema).outcome session) := by
  refine Sound.resolve idle.valid ?_
  rw [idle.stack]
  exact .nil

theorem Idle.resolveComponent (idle : session.Idle components) (name : String) :
    ComponentAnswers components name session
      ((Session.resolveComponent components name).outcome session) := by
  have path : OpenPath components session.stack (referenceTo name) := idle.stack ▸ .nil
  have answers : Answers components (referenceTo name) session
      ((Resolving.reference components (Session.resolve components) (componentReference name) {}).outcome
        session) :=
    Sound.resolve.reference rfl idle.valid path
  rw [outcome_resolveComponent]
  generalize (Resolving.reference components (Session.resolve components) (componentReference name)
    {}).outcome session = outcome at answers ⊢
  obtain ⟨error | node, after⟩ := outcome
  · refine ⟨answers.progress, nofun, ?_⟩
    rintro chain ⟨⟩
    exact answers.cycle rfl
  · refine ⟨answers.progress, ?_, nofun⟩
    rintro _ ⟨⟩
    cases answers.right rfl with
    | reference written named present inside =>
        cases written
        obtain rfl := eq_of_componentReference named
        exact ⟨_, _, present, inside, rfl⟩
    | plain absent => cases absent

theorem Idle.progress {allowed : String → Prop} (idle : session.Idle components)
    (step : Progress components allowed session after) : after.Idle components where
  stack := step.stack.trans idle.stack
  depth := step.depth.trans idle.depth
  valid := step.valid

theorem Idle.call (idle : session.Idle components) (call : Call) :
    ((call.step components).outcome session).2.Idle components := by
  cases call with
  | resolve schema => exact idle.progress (idle.resolve schema).progress
  | component name => exact idle.progress (idle.resolveComponent name).progress

theorem Idle.fresh : Idle components {} := ⟨rfl, rfl, .nil⟩

/-- After any calls, whatever they came to, nothing is open. -/
theorem idle_after (calls : List Call) : (Session.after components calls).Idle components := by
  have from_ : ∀ session : Session, session.Idle components → (calls.foldl (fun session call =>
      ((call.step components).outcome session).2) session).Idle components := by
    induction calls with
    | nil => exact fun _ idle => idle
    | cons call calls ih => exact fun _ idle => ih _ (idle.call call)
  exact from_ {} .fresh

theorem after_concat (calls : List Call) (call : Call) : Session.after components (calls ++ [call]) =
    ((call.step components).outcome (Session.after components calls)).2 := by
  rw [Session.after, List.foldl_append]
  rfl

/-- Between two calls a session is no more than its memo. -/
theorem Idle.eq_memo (idle : session.Idle components) : session = { memo := session.memo } := by
  obtain ⟨memo, stack, depth⟩ := session
  obtain ⟨rfl, rfl, _⟩ := idle
  rfl

/-- A call on its own goes on from the memo that calls have left. -/
theorem run_alone (calls : List Call) (call : Call) :
    (call.step components).alone.run.run (Session.after components calls).memo =
      (((call.step components).outcome (Session.after components calls)).1,
        (Session.after components (calls ++ [call])).memo) := by
  rw [after_concat, (idle_after calls).eq_memo]
  rfl

end Session

end Schema

end ApiAtlas
