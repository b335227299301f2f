import ApiAtlas.Proofs.Schema.Memoization

/-! # Calls that can be answered

Whether a call is answered depends neither on what a resolver remembers nor on how it got there: a call is
answered exactly if its schema or component resolves by the rules alone, unless the nesting is too deep.
A computation that makes calls succeeds, with the same exception, exactly if what it demands holds.
-/

namespace ApiAtlas

namespace Schema

/-- The rules give the call an answer, at whatever depth. -/
def Call.Answerable (components : Table Json) : Call → Prop
  | .resolve schema => ∃ node, Resolves components schema node
  | .component name => name ≠ "" ∧ ∃ node, IsComponent components name node

section Calls

variable {components : Table Json} {session : Session} {call : Call} {name : String}

theorem IsComponent.resolves_referenceTo {node : Node} (named : name ≠ "") (h : IsComponent components name node) :
    Resolves components (referenceTo name) ⟨.reference name node, {}⟩ := by
  obtain ⟨schema, inside, present, resolves, rfl⟩ := h
  refine .reference rfl ?_ present resolves
  rw [componentName?_componentReference, if_neg named]

/-- The answer about a component is the answer about the reference to it, without the reference. -/
theorem fst_outcome_resolveComponent : ((Session.resolveComponent components name).outcome session).1 =
    ((Resolving.reference components (Session.resolve components) (componentReference name) {}).outcome
      session).1.map Node.withoutReference := by
  rw [outcome_resolveComponent, Prod.map_fst]

theorem outcome_resolveComponent_empty :
    ((Session.resolveComponent components "").outcome session).1 = .error (.unresolved (componentReference "")) := by
  have unnamed : componentName? (componentReference "") = none := componentName?_componentReference
  rw [fst_outcome_resolveComponent, Resolving.outcome_reference (.unnamed unnamed), Except.map]

theorem Session.Idle.answerable (idle : session.Idle components) {node : Node}
    (answered : ((call.step components).outcome session).1 = .ok node) : call.Answerable components := by
  cases call with
  | resolve schema => exact ⟨node, (idle.resolve schema).right answered⟩
  | component name =>
      refine ⟨?_, node, (idle.resolveComponent name).right answered⟩
      intro empty
      subst empty
      rw [Call.step, outcome_resolveComponent_empty] at answered
      cases answered

/-- A call that could be answered is, unless the nesting is too deep. -/
theorem Session.Idle.eq_tooDeep (idle : session.Idle components) (answerable : call.Answerable components)
    {error : Error} (failed : ((call.step components).outcome session).1 = .error error) : error = tooDeep := by
  have path : ∀ schema, OpenPath components session.stack schema := fun schema => idle.stack ▸ .nil
  have apart : ∀ schema, ∀ name ∈ session.stack, ¬ Reaches components schema name := by
    rw [idle.stack]
    exact fun _ _ => nofun
  have complete : Complete components (Session.resolve components) := Session.resolve_complete_transparent.1
  cases call with
  | resolve schema =>
      obtain ⟨node, resolves⟩ := answerable
      rw [Call.step] at failed
      rcases complete resolves idle.valid (path _) (apart _) with answered | deep
      · rw [failed] at answered
        cases answered
      · rw [failed] at deep
        exact Except.error.inj deep
  | component name =>
      -- A component is resolved as the reference to it would be.
      obtain ⟨named, node, component⟩ := answerable
      have resolves := component.resolves_referenceTo named
      have written : Table.get? "$ref" [("$ref", Json.string (componentReference name))] =
          some (.string (componentReference name)) := Table.get?_cons_self
      have read : Facets.ofFields [("$ref", .string (componentReference name))] = {} := rfl
      have followed := complete.reference written resolves idle.valid (path _) (apart _)
      rw [read] at followed
      rw [Call.step, fst_outcome_resolveComponent] at failed
      rcases followed with answered | deep
      · rw [answered] at failed
        cases failed
      · rw [deep] at failed
        exact (Except.error.inj failed).symm

/-- A memo is all that a call on its own needs, and it leaves one that is right again. -/
theorem Call.run_alone {memo after : Memo} {result : Except Error Node} (valid : memo.Valid components)
    (run : (call.step components).alone.run.run memo = (result, after)) : after.Valid components ∧
      (∀ node, result = .ok node → call.Answerable components) ∧
      ∀ error, result = .error error → call.Answerable components → error = tooDeep := by
  have idle : Session.Idle components { memo } := ⟨rfl, rfl, valid⟩
  have outcome : (((call.step components).outcome { memo }).1, ((call.step components).outcome { memo }).2.memo) =
    (result, after) := run
  obtain ⟨same, rfl⟩ := Prod.mk.inj outcome
  refine ⟨(idle.call call).valid, fun node ok => ?_, fun error failed answerable => ?_⟩
  · exact idle.answerable (same.trans ok)
  · exact idle.eq_tooDeep answerable (same.trans failed)

end Calls

section Demands

variable {σ ε α β : Type} {components : Table Json} {memoOf : σ → Memo} {excused : ε → Prop}

/-- A computation with a memo succeeds exactly if something holds, unless its error is excused. -/
def Demands (components : Table Json) (memoOf : σ → Memo) (excused : ε → Prop) (step : StateT σ (Except ε) α)
    (need : Prop) : Prop :=
  ∀ ⦃before : σ⦄, (memoOf before).Valid components →
    match step.run before with
    | .ok (_, after) => need ∧ (memoOf after).Valid components
    | .error error => need → excused error

namespace Demands

variable {step : StateT σ (Except ε) α} {next : α → StateT σ (Except ε) β} {need need' : Prop}

theorem congr (demands : Demands components memoOf excused step need) (same : need ↔ need') :
    Demands components memoOf excused step need' := propext same ▸ demands

theorem pure (value : α) : Demands components memoOf excused (Pure.pure value) True :=
  fun _ valid => ⟨trivial, valid⟩

theorem throw (error : ε) : Demands components memoOf excused (MonadExcept.throw error : StateT σ (Except ε) α) False :=
  fun _ _ => False.elim

theorem throw_bind (error : ε) (next : α → StateT σ (Except ε) β) :
    Demands components memoOf excused ((MonadExcept.throw error : StateT σ (Except ε) α) >>= next) False :=
  fun _ _ => False.elim

/-- A step that makes a call with the memo of its state and keeps the memo that the call leaves. -/
theorem call {step : StateT σ (Except ε) Node} {call : Call} (keep : σ → Memo → σ) (fail : Error → ε)
    (kept : ∀ before memo, memoOf (keep before memo) = memo) (deep : excused (fail tooDeep))
    (answered : ∀ {before node memo}, (call.step components).alone.run.run (memoOf before) = (.ok node, memo) →
      step.run before = .ok (node, keep before memo))
    (failed : ∀ {before error memo}, (call.step components).alone.run.run (memoOf before) = (.error error, memo) →
      step.run before = .error (fail error)) :
    Demands components memoOf excused step (call.Answerable components) := by
  intro before valid
  rcases run : (call.step components).alone.run.run (memoOf before) with ⟨error | node, memo⟩
  · obtain ⟨_, _, exhausted⟩ := call.run_alone valid run
    rw [failed run]
    intro answerable
    rw [exhausted error rfl answerable]
    exact deep
  · obtain ⟨valid, answers, _⟩ := call.run_alone valid run
    rw [answered run]
    refine ⟨answers node rfl, ?_⟩
    rwa [kept]

theorem bind (first : Demands components memoOf excused step need)
    (second : ∀ value, Demands components memoOf excused (next value) need') :
    Demands components memoOf excused (step >>= next) (need ∧ need') := by
  intro before valid
  have here := first valid
  rw [StateT.run_bind]
  cases run : step.run before with
  | error error =>
      rw [run] at here
      exact fun both => here both.1
  | ok outcome =>
      obtain ⟨value, between⟩ := outcome
      rw [run] at here
      have there := second value here.2
      change match (next value).run between with
        | .ok (_, after) => (need ∧ need') ∧ (memoOf after).Valid components
        | .error error => need ∧ need' → excused error
      cases rest : (next value).run between with
      | error error =>
          rw [rest] at there
          exact fun both => there both.2
      | ok outcome =>
          rw [rest] at there
          exact ⟨⟨here.1, there.1⟩, there.2⟩

theorem map (change : α → β) (demands : Demands components memoOf excused step need) :
    Demands components memoOf excused (step >>= fun value => Pure.pure (change value)) need :=
  (demands.bind fun _ => pure _).congr (and_iff_left trivial)

theorem forM {ι : Type} {items : List ι} {step : ι → StateT σ (Except ε) PUnit} {need : ι → Prop}
    (each : ∀ item, Demands components memoOf excused (step item) (need item)) :
    Demands components memoOf excused (items.forM step) (∀ item ∈ items, need item) := by
  induction items with
  | nil => exact (pure _).congr (by simp)
  | cons item items ih => exact ((each item).bind fun _ => ih).congr (by simp)

theorem mapM {ι : Type} {items : List ι} {step : ι → StateT σ (Except ε) α} {need : ι → Prop}
    (each : ∀ item, Demands components memoOf excused (step item) (need item)) :
    Demands components memoOf excused (items.mapM step) (∀ item ∈ items, need item) := by
  induction items with
  | nil => exact (pure _).congr (by simp)
  | cons item items ih =>
      rw [List.mapM_cons]
      exact ((each item).bind fun _ => ih.map _).congr (by simp)

end Demands

end Demands

end Schema

end ApiAtlas
