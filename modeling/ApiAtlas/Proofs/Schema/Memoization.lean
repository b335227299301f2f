import ApiAtlas.Proofs.Schema.Cycles

/-! # Transparent memoization

A resolver that remembers more answers the same, unless the one that remembers less gives up at the
greatest nesting. Two facts carry this: a schema that resolves is resolved from every session whose
open components it does not reach, and a memo knows all that its components lead to.
-/

namespace ApiAtlas

namespace Schema

/-- A schema of which the tree is too deep. -/
def tooDeep : Error := .malformed .tooDeep

/-- Every entry of the first memo stands in the second one. -/
def Memo.Within (memo other : Memo) : Prop :=
  ∀ ⦃name node⦄, Table.get? name memo = some node → Table.get? name other = some node

/-- The second session is as the first one, but may remember more. -/
structure Session.Richer (components : Table Json) (poor rich : Session) : Prop where
  stack : rich.stack = poor.stack
  depth : rich.depth = poor.depth
  validPoor : poor.memo.Valid components
  validRich : rich.memo.Valid components
  memo : poor.memo.Within rich.memo

/-- A schema that resolves is resolved, if no open component is met on the way. -/
def Complete (components : Table Json) (descend : Json → Resolving Node) : Prop :=
  ∀ ⦃schema node session⦄, Resolves components schema node → session.memo.Valid components →
    OpenPath components session.stack schema →
    (∀ name ∈ session.stack, ¬ Reaches components schema name) →
    ((descend schema).outcome session).1 = .ok node ∨
      ((descend schema).outcome session).1 = .error tooDeep

/-- Outcomes with the same result, of which the second leaves the richer session. -/
def Alike {α : Type} (components : Table Json) (poor rich : Except Error α × Session) : Prop :=
  poor.1 = .error tooDeep ∨ rich.1 = poor.1 ∧ Session.Richer components poor.2 rich.2

/-- A richer session makes no difference, unless the nesting is too deep. -/
def Transparent (components : Table Json) (descend : Json → Resolving Node) : Prop :=
  ∀ ⦃schema poor rich⦄, Session.Richer components poor rich → OpenPath components poor.stack schema →
    Alike components ((descend schema).outcome poor) ((descend schema).outcome rich)

variable {components : Table Json} {descend : Json → Resolving Node}

/-- Right memos agree on what both know. -/
theorem Memo.Valid.within {memo other : Memo} (valid : memo.Valid components)
    (valid' : other.Valid components) (known : ∀ name, Table.has name memo → Table.has name other) :
    memo.Within other := by
  intro name node here
  obtain ⟨found, there⟩ := Table.has_iff.mp (known name (Table.has_of_get? here))
  rwa [(valid.component here).unique (valid'.component there)]

/-- What is no component is not remembered. -/
theorem Memo.Valid.get?_of_absent {memo : Memo} (valid : memo.Valid components) {name : String}
    (absent : Table.get? name components = none) : Table.get? name memo = none := by
  cases there : Table.get? name memo with
  | none => rfl
  | some found =>
      obtain ⟨schema, _, present, _⟩ := valid.component there
      rw [absent] at present
      cases present

/-- A component that resolves is not reached from its own schema. -/
theorem IsComponent.not_reaches {name : String} {node : Node} {schema : Json}
    (h : IsComponent components name node) (present : Table.get? name components = some schema) :
    ¬ Reaches components schema name := by
  rintro ⟨first, refers, path⟩
  exact not_cycle_of_acc h.acc .refl (.head' ⟨schema, present, refers⟩ path)

namespace Complete

variable {fields : Table Json} {session : Session}

theorem reference (complete : Complete components descend) {text : String} {node : Node}
    (written : Table.get? "$ref" fields = some (.string text))
    (h : Resolves components (.object fields) node) (valid : session.memo.Valid components)
    (path : OpenPath components session.stack (.object fields))
    (apart : ∀ name ∈ session.stack, ¬ Reaches components (.object fields) name) :
    ((Resolving.reference components descend text (Facets.ofFields fields)).outcome session).1 = .ok node ∨
      ((Resolving.reference components descend text (Facets.ofFields fields)).outcome session).1 =
        .error tooDeep := by
  cases h with
  | plain absent =>
      rw [written] at absent
      cases absent
  | @reference _ _ name schema node written' named present inside =>
      rw [written] at written'
      cases written'
      have refers : Refers (.object fields) name := .here written named
      have component : IsComponent components name (node.titled name) := ⟨schema, node, present, inside, rfl⟩
      have fresh : name ∉ session.stack := fun member => apart name member (.of_refers refers)
      cases known : Table.get? name session.memo with
      | some found =>
          rw [Resolving.outcome_reference (.known named fresh known),
            (valid.component known).unique component]
          exact .inl rfl
      | none =>
          -- The component is open itself from here on, but what resolves does not reach itself.
          have answer : ((descend schema).outcome (Resolving.entered name session)).1 = .ok node ∨
              ((descend schema).outcome (Resolving.entered name session)).1 = .error tooDeep := by
            refine complete inside valid (path.enter refers fresh present) fun other member reached => ?_
            rcases List.mem_append.mp member with member | member
            · exact apart other member (.trans refers present reached)
            · obtain rfl := List.mem_singleton.mp member
              exact component.not_reaches present reached
          rcases step : (descend schema).outcome (Resolving.entered name session) with ⟨result, after⟩
          rw [step] at answer
          rcases answer with rfl | rfl
          · rw [Resolving.outcome_reference (.resolved named fresh known present step)]
            exact .inl rfl
          · rw [Resolving.outcome_reference (.failed named fresh known present step)]
            exact .inr rfl

theorem run {α : Type} (complete : Complete components descend) (sound : Sound components descend)
    {reading : Inquiry α} {answers : List (Json × Node)} {value : α}
    (absent : Table.get? "$ref" fields = none) (h : reading.Transcript answers value)
    (asked : ∀ answer ∈ answers, answer.1 ∈ inner fields)
    (answered : ∀ answer ∈ answers, Resolves components answer.1 answer.2)
    (valid : session.memo.Valid components)
    (path : OpenPath components session.stack (.object fields))
    (apart : ∀ name ∈ session.stack, ¬ Reaches components (.object fields) name) :
    ((reading.run descend).outcome session).1 = .ok value ∨
      ((reading.run descend).outcome session).1 = .error tooDeep := by
  induction h generalizing session with
  | done value => exact .inl rfl
  | @ask schema next node answers value _ ih =>
      obtain ⟨member, asked⟩ := List.forall_mem_cons.mp asked
      obtain ⟨resolves, answered⟩ := List.forall_mem_cons.mp answered
      have opened := path.inside absent member
      have found := complete resolves valid opened fun name open_ reached =>
        apart name open_ (.inside absent member reached)
      have progress := (sound valid opened).progress
      rw [Inquiry.run]
      rcases step : (descend schema).outcome session with ⟨result, between⟩
      rw [step] at found progress
      rcases found with rfl | rfl
      · rw [Resolving.outcome_bind_ok step]
        have same : between.stack = session.stack := progress.stack
        exact ih asked answered progress.valid (same ▸ path) (same ▸ apart)
      · rw [Resolving.outcome_bind_error step]
        exact .inr rfl

theorem node (complete : Complete components descend) (sound : Sound components descend) :
    Complete components (Resolving.node components descend) := by
  intro schema node session h valid path apart
  unfold Resolving.node
  split
  · split
    · exact complete.reference ‹_› h valid path apart
    · rename_i notText written
      cases h with
      | reference written' =>
          rw [written] at written'
          cases written'
          exact absurd rfl (notText _)
      | plain absent =>
          rw [written] at absent
          cases absent
    · rename_i fields absent
      cases h with
      | reference written =>
          rw [absent] at written
          cases written
      | plain _ shown answered =>
          refine complete.run sound absent shown (fun answer member => ?_) answered valid path apart
          rw [← shown.asked_plain]
          exact List.mem_map_of_mem member
  · cases h
    exact .inl rfl
  · rename_i notObject notTrue
    cases h with
    | truth => exact absurd rfl notTrue
    | reference | plain => exact absurd rfl (notObject _)

theorem level (complete : Complete components descend) (sound : Sound components descend) :
    Complete components (Resolving.level components descend) := by
  intro schema node session h valid path apart
  rw [Resolving.outcome_level]
  split
  · exact .inr rfl
  · rw [Resolving.outcome_nested]
    exact complete.node sound h valid path apart

end Complete

namespace Session.Richer

variable {poor rich : Session}

theorem deeper (h : Richer components poor rich) :
    Richer components (Resolving.deeper poor) (Resolving.deeper rich) :=
  ⟨h.stack, congrArg (· + 1) h.depth, h.validPoor, h.validRich, h.memo⟩

theorem shallower (h : Richer components poor rich) :
    Richer components (Resolving.shallower poor) (Resolving.shallower rich) :=
  ⟨h.stack, congrArg (· - 1) h.depth, h.validPoor, h.validRich, h.memo⟩

theorem entered (h : Richer components poor rich) (name : String) :
    Richer components (Resolving.entered name poor) (Resolving.entered name rich) :=
  ⟨congrArg (· ++ [name]) h.stack, h.depth, h.validPoor, h.validRich, h.memo⟩

theorem left (h : Richer components poor rich) :
    Richer components (Resolving.left poor) (Resolving.left rich) :=
  ⟨congrArg List.dropLast h.stack, h.depth, h.validPoor, h.validRich, h.memo⟩

theorem remembered (h : Richer components poor rich) {name : String} {node : Node}
    (validPoor : Memo.Valid components (Table.put name node poor.memo))
    (validRich : Memo.Valid components (Table.put name node rich.memo)) :
    Richer components (Resolving.remembered name node poor) (Resolving.remembered name node rich) where
  stack := h.stack
  depth := h.depth
  validPoor := validPoor
  validRich := validRich
  memo := by
    intro other found known
    change Table.get? other (Table.put name node _) = some found at known
    change Table.get? other (Table.put name node _) = some found
    rw [Table.get?_put] at known ⊢
    split at known
    · rwa [if_pos ‹_›]
    · rw [if_neg ‹_›]
      exact h.memo known

end Session.Richer

namespace Transparent

variable {fields : Table Json} {poor rich : Session}

/-- A component that only the richer session knows is resolved to the same node by the other one,
which then still knows no more. -/
theorem known {text name : String} {schema : Json} {found : Node} {after : Session}
    {result : Except Error Node} (complete : Complete components descend)
    (sound : Sound components descend) (richer : Session.Richer components poor rich)
    (path : OpenPath components poor.stack (.object fields))
    (written : Table.get? "$ref" fields = some (.string text)) (named : componentName? text = some name)
    (fresh : name ∉ poor.stack) (present : Table.get? name components = some schema)
    (unknown : Table.get? name poor.memo = none) (there : Table.get? name rich.memo = some found)
    (step : (descend schema).outcome (Resolving.entered name poor) = (result, after)) :
    result = .error tooDeep ∨ ∃ node, result = .ok node ∧ found = node.titled name ∧
      Session.Richer components (Resolving.remembered name found (Resolving.left after)) rich := by
  have refers : Refers (.object fields) name := .here written named
  have opened := path.enter refers fresh present
  have component := richer.validRich.component there
  -- Every open component leads to this one, so that reaching it from here would close a cycle.
  have apart : ∀ other ∈ poor.stack ++ [name], ¬ Reaches components schema other := by
    rintro other member ⟨first, onwards, further⟩
    refine component.not_reaches present ⟨first, onwards, further.trans ?_⟩
    rcases List.mem_append.mp member with member | member
    · exact (path.transGen refers member).to_reflTransGen
    · obtain rfl := List.mem_singleton.mp member
      exact .refl
  have answers : Answers components schema (Resolving.entered name poor) _ := sound richer.validPoor opened
  obtain ⟨_, node, present', inside, rfl⟩ := component
  obtain rfl := Option.some.inj (present.symm.trans present')
  have answer : ((descend schema).outcome (Resolving.entered name poor)).1 = .ok node ∨
      ((descend schema).outcome (Resolving.entered name poor)).1 = .error tooDeep :=
    complete inside richer.validPoor opened apart
  rw [step] at answer answers
  rcases answer with rfl | rfl
  · have memo := answers.progress.valid.put present inside fun second => answers.known rfl
    have progress := (answers.progress.during.weaken fun other reached =>
      show other = name ∨ Reaches components schema other from .inr reached).remembered unknown memo (.inl rfl)
    refine .inr ⟨node, rfl, rfl, richer.stack.trans progress.stack.symm,
      richer.depth.trans progress.depth.symm, progress.valid, richer.validRich, ?_⟩
    refine progress.valid.within richer.validRich fun other here => ?_
    rcases progress.introduced here with before | rfl | ⟨first, onwards, further⟩
    · obtain ⟨node, before⟩ := Table.has_iff.mp before
      exact Table.has_of_get? (richer.memo before)
    · exact Table.has_of_get? there
    · exact richer.validRich.has_of_transGen (Table.has_of_get? there)
        (.head' ⟨schema, present, onwards⟩ further)
  · exact .inl rfl

/-- A component that neither session knows is resolved by both of them, one level down. -/
theorem unknown (transparent : Transparent components descend) (sound : Sound components descend)
    {text name : String} {schema : Json} (richer : Session.Richer components poor rich)
    (path : OpenPath components poor.stack (.object fields))
    (written : Table.get? "$ref" fields = some (.string text)) (named : componentName? text = some name)
    (fresh : name ∉ poor.stack) (present : Table.get? name components = some schema)
    (unknown : Table.get? name poor.memo = none) (unknown' : Table.get? name rich.memo = none) :
    Alike components
      ((Resolving.reference components descend text (Facets.ofFields fields)).outcome poor)
      ((Resolving.reference components descend text (Facets.ofFields fields)).outcome rich) := by
  have fresh' : name ∉ rich.stack := richer.stack ▸ fresh
  have opened := path.enter (.here written named) fresh present
  have opened' : OpenPath components (Resolving.entered name rich).stack schema := by
    rw [(richer.entered name).stack]
    exact opened
  have answers : Answers components schema (Resolving.entered name poor) _ := sound richer.validPoor opened
  have answers' : Answers components schema (Resolving.entered name rich) _ := sound richer.validRich opened'
  have alike := transparent (richer.entered name) opened
  rcases step : (descend schema).outcome (Resolving.entered name poor) with ⟨result, after⟩
  rcases step' : (descend schema).outcome (Resolving.entered name rich) with ⟨result', after'⟩
  rw [step] at answers alike
  rw [step'] at answers' alike
  obtain rfl | ⟨rfl, onwards⟩ := alike
  · rw [Resolving.outcome_reference (.failed named fresh unknown present step)]
    exact .inl rfl
  · cases result' with
    | error error =>
        rw [Resolving.outcome_reference (.failed named fresh unknown present step),
          Resolving.outcome_reference (.failed named fresh' unknown' present step')]
        exact .inr ⟨rfl, onwards.left⟩
    | ok node =>
        rw [Resolving.outcome_reference (.resolved named fresh unknown present step),
          Resolving.outcome_reference (.resolved named fresh' unknown' present step')]
        have resolves := answers.right rfl
        exact .inr ⟨rfl, onwards.left.remembered
          (answers.progress.valid.put present resolves fun second => answers.known rfl)
          (answers'.progress.valid.put present resolves fun second => answers'.known rfl)⟩

/-- A component that the poorer session has to resolve makes no difference, whether the other one knows it or not. -/
theorem entered (transparent : Transparent components descend) (complete : Complete components descend)
    (sound : Sound components descend) {text name : String} {schema : Json}
    (richer : Session.Richer components poor rich) (path : OpenPath components poor.stack (.object fields))
    (written : Table.get? "$ref" fields = some (.string text)) (named : componentName? text = some name)
    (fresh : name ∉ poor.stack) (present : Table.get? name components = some schema)
    (unknown : Table.get? name poor.memo = none) :
    Alike components
      ((Resolving.reference components descend text (Facets.ofFields fields)).outcome poor)
      ((Resolving.reference components descend text (Facets.ofFields fields)).outcome rich) := by
  cases there : Table.get? name rich.memo with
  | none => exact transparent.unknown sound richer path written named fresh present unknown there
  | some found =>
      rcases step : (descend schema).outcome (Resolving.entered name poor) with ⟨result, after⟩
      obtain rfl | ⟨node, rfl, rfl, onwards⟩ :=
        known complete sound richer path written named fresh present unknown there step
      · rw [Resolving.outcome_reference (.failed named fresh unknown present step)]
        exact .inl rfl
      · rw [Resolving.outcome_reference (.resolved named fresh unknown present step),
          Resolving.outcome_reference (.known named (richer.stack ▸ fresh) there)]
        exact .inr ⟨rfl, onwards⟩

theorem reference (transparent : Transparent components descend) (complete : Complete components descend)
    (sound : Sound components descend) {text : String} (richer : Session.Richer components poor rich)
    (path : OpenPath components poor.stack (.object fields))
    (written : Table.get? "$ref" fields = some (.string text)) :
    Alike components
      ((Resolving.reference components descend text (Facets.ofFields fields)).outcome poor)
      ((Resolving.reference components descend text (Facets.ofFields fields)).outcome rich) := by
  obtain ⟨result, h⟩ := Resolving.exists_follows components poor descend text (Facets.ofFields fields)
  cases h with
  | unnamed named =>
      rw [Resolving.outcome_reference (.unnamed named), Resolving.outcome_reference (.unnamed named)]
      exact .inr ⟨rfl, richer⟩
  | «open» named member =>
      rw [Resolving.outcome_reference (.open named member),
        Resolving.outcome_reference (.open named (richer.stack ▸ member)), richer.stack]
      exact .inr ⟨rfl, richer⟩
  | known named fresh known =>
      rw [Resolving.outcome_reference (.known named fresh known),
        Resolving.outcome_reference (.known named (richer.stack ▸ fresh) (richer.memo known))]
      exact .inr ⟨rfl, richer⟩
  | absent named fresh unknown absent =>
      have unknown' := richer.validRich.get?_of_absent absent
      rw [Resolving.outcome_reference (.absent named fresh unknown absent),
        Resolving.outcome_reference (.absent named (richer.stack ▸ fresh) unknown' absent)]
      exact .inr ⟨rfl, richer⟩
  | resolved named fresh unknown present
  | failed named fresh unknown present =>
      exact transparent.entered complete sound richer path written named fresh present unknown

theorem run {α : Type} (transparent : Transparent components descend)
    (sound : Sound components descend) {reading : Inquiry α}
    (absent : Table.get? "$ref" fields = none) (only : reading.AsksOnly (· ∈ inner fields))
    (richer : Session.Richer components poor rich)
    (path : OpenPath components poor.stack (.object fields)) :
    Alike components ((reading.run descend).outcome poor) ((reading.run descend).outcome rich) := by
  induction only generalizing poor rich with
  | done value => exact .inr ⟨rfl, richer⟩
  | fail objection => exact .inr ⟨rfl, richer⟩
  | @ask schema next member _ ih =>
      have opened := path.inside absent member
      have progress := (sound richer.validPoor opened).progress
      have alike := transparent richer opened
      rw [Inquiry.run]
      rcases step : (descend schema).outcome poor with ⟨result, between⟩
      rcases step' : (descend schema).outcome rich with ⟨result', between'⟩
      rw [step] at progress alike
      rw [step'] at alike
      have same : between.stack = poor.stack := progress.stack
      obtain rfl | ⟨rfl, onwards⟩ := alike
      · rw [Resolving.outcome_bind_error step]
        exact .inl rfl
      · cases result' with
        | error error =>
            rw [Resolving.outcome_bind_error step, Resolving.outcome_bind_error step']
            exact .inr ⟨rfl, onwards⟩
        | ok node =>
            rw [Resolving.outcome_bind_ok step, Resolving.outcome_bind_ok step']
            exact ih node onwards (same ▸ path)

theorem node (transparent : Transparent components descend) (complete : Complete components descend)
    (sound : Sound components descend) : Transparent components (Resolving.node components descend) := by
  intro schema poor rich richer path
  unfold Resolving.node
  split
  · split
    · exact transparent.reference complete sound richer path ‹_›
    · exact .inr ⟨rfl, richer⟩
    · exact transparent.run sound ‹_› .plain richer path
  · exact .inr ⟨rfl, richer⟩
  · exact .inr ⟨rfl, richer⟩

theorem level (transparent : Transparent components descend) (complete : Complete components descend)
    (sound : Sound components descend) : Transparent components (Resolving.level components descend) := by
  intro schema poor rich richer path
  rw [Resolving.outcome_level, Resolving.outcome_level, richer.depth]
  split
  · exact .inl rfl
  · rw [Resolving.outcome_nested, Resolving.outcome_nested]
    exact (transparent.node complete sound richer.deeper path).imp_right fun ⟨same, onwards⟩ =>
      ⟨same, onwards.shallower⟩

end Transparent

/-- A resolver resolves what resolves, and remembering more makes no difference to it. -/
theorem Session.resolve_complete_transparent : Complete components (Session.resolve components) ∧
    Transparent components (Session.resolve components) := by
  have unrolling : ∀ levels, Sound components (Resolving.unrolled components (fun _ => throw tooDeep) levels) ∧
      Complete components (Resolving.unrolled components (fun _ => throw tooDeep) levels) ∧
      Transparent components (Resolving.unrolled components (fun _ => throw tooDeep) levels) := by
    intro levels
    induction levels with
    | zero =>
        refine ⟨fun _ _ valid _ => ⟨.refl valid, nofun, nofun, nofun⟩, ?_, ?_⟩
        · exact fun _ _ _ _ _ _ _ => .inr rfl
        · exact fun _ _ _ _ _ => .inl rfl
    | succ levels ih =>
        obtain ⟨sound, complete, transparent⟩ := ih
        exact ⟨sound.level, complete.level sound, transparent.level complete sound⟩
  exact (unrolling levels).2

/-- The memo of a resolver makes no difference: after any calls, whatever they came to, nothing is
open, and a further schema is answered as by a fresh resolver, unless that one gives up at the
greatest nesting. -/
theorem resolve_after_calls (components : Table Json) (calls : List Call) :
    (Session.after components calls).stack = [] ∧ (Session.after components calls).depth = 0 ∧
      ∀ schema, ((Session.resolve components schema).outcome {}).1 ≠ .error (.malformed .tooDeep) →
        ((Session.resolve components schema).outcome (Session.after components calls)).1 =
          ((Session.resolve components schema).outcome {}).1 := by
  have idle : (Session.after components calls).Idle components := Session.idle_after calls
  have richer : Session.Richer components {} (Session.after components calls) :=
    ⟨idle.stack, idle.depth, .nil, idle.valid, nofun⟩
  refine ⟨idle.stack, idle.depth, fun schema shallow => ?_⟩
  have path : OpenPath components [] schema := .nil
  obtain deep | ⟨same, _⟩ := Session.resolve_complete_transparent.2 richer path
  · exact absurd deep shallow
  · exact same

end Schema

end ApiAtlas
