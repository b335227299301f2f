import Mathlib.Data.List.Chain
import ApiAtlas.Proofs.Schema.Outcome
import ApiAtlas.Proofs.Schema.Resolves
import ApiAtlas.Proofs.Table

/-! # Sessions of a resolver

What a resolver remembers is right, and every component that a remembered one leads to is remembered
as well. The components that are open form a path of references. Resolving keeps both: it adds to
the memo what the schema reaches, and a repetition on the path is a cycle.
-/

namespace ApiAtlas

namespace Schema

open Relation (TransGen)

/-- A memo that resolving may have left. -/
structure Memo.Valid (components : Table Json) (memo : Memo) : Prop where
  component {name : String} {node : Node} :
    Table.get? name memo = some node → IsComponent components name node
  closed {first second : String} :
    Table.has first memo → Leads components first second → Table.has second memo

/-- The components being resolved: each leads to the next one, and the last one to what the schema at
hand refers to. -/
structure OpenPath (components : Table Json) (stack : List String) (schema : Json) : Prop where
  distinct : stack.Nodup
  present {name : String} : name ∈ stack → Table.has name components
  chain {name : String} : Refers schema name → (stack ++ [name]).IsChain (Leads components)

/-- A chain of component names that leads back to where it starts. -/
structure IsCycle (components : Table Json) (chain : List String) : Prop where
  long : 2 ≤ chain.length
  back : chain.head? = chain.getLast?
  distinct : chain.dropLast.Nodup
  present {name : String} : name ∈ chain.dropLast → Table.has name components
  chain : chain.IsChain (Leads components)

variable {components : Table Json}

namespace Memo

variable {memo : Memo}

theorem Valid.nil : Valid components [] where
  component known := by cases known
  closed known := by cases known

theorem Valid.has_of_transGen (valid : memo.Valid components) {first second : String}
    (known : Table.has first memo) (path : TransGen (Leads components) first second) :
    Table.has second memo := by
  induction path with
  | single leads => exact valid.closed known leads
  | tail _ leads ih => exact valid.closed ih leads

/-- Remembering a component is right once everything that its schema refers to is remembered. -/
theorem Valid.put (valid : memo.Valid components) {name : String} {schema : Json} {node : Node}
    (present : Table.get? name components = some schema) (inside : Resolves components schema node)
    (known : ∀ second, Refers schema second → Table.has second memo) :
    Valid components (Table.put name (node.titled name) memo) where
  component := by
    intro other found h
    rw [Table.get?_put] at h
    split at h
    · rename_i same
      cases h
      subst same
      exact ⟨schema, node, present, inside, rfl⟩
    · exact valid.component h
  closed := by
    intro first second h leads
    rcases Table.has_put.mp h with rfl | h
    · exact Table.has_put.mpr (.inr (known second ((Leads.of_component present).mp leads)))
    · exact Table.has_put.mpr (.inr (valid.closed h leads))

end Memo

namespace OpenPath

variable {stack : List String} {schema target : Json} {name : String}

theorem nil : OpenPath components [] schema where
  distinct := .nil
  present member := absurd member List.not_mem_nil
  chain _ := List.isChain_singleton _

theorem inside {fields : Table Json} (path : OpenPath components stack (.object fields))
    (absent : Table.get? "$ref" fields = none) (member : schema ∈ inner fields) :
    OpenPath components stack schema where
  distinct := path.distinct
  present := path.present
  chain refers := path.chain (.inside absent member refers)

/-- A component that is not open yet makes the path longer. -/
theorem enter (path : OpenPath components stack schema) (refers : Refers schema name)
    (fresh : name ∉ stack) (present : Table.get? name components = some target) :
    OpenPath components (stack ++ [name]) target where
  distinct := List.nodup_append.mpr
    ⟨path.distinct, List.nodup_cons.mpr ⟨List.not_mem_nil, .nil⟩, by
      rintro open_ member _ last rfl
      obtain rfl := List.mem_singleton.mp last
      exact fresh member⟩
  present := by
    intro other member
    rcases List.mem_append.mp member with member | member
    · exact path.present member
    · obtain rfl := List.mem_singleton.mp member
      exact Table.has_of_get? present
  chain := by
    intro next onwards
    refine (path.chain refers).append (List.isChain_singleton next) ?_
    intro last isLast first isFirst
    rw [List.getLast?_concat, Option.mem_some_iff] at isLast
    cases isFirst
    subst isLast
    exact ⟨target, present, onwards⟩

/-- Coming back to an open component closes a cycle. -/
theorem cycle (path : OpenPath components stack schema) (refers : Refers schema name)
    (member : name ∈ stack) :
    IsCycle components (stack.dropWhile (· != name) ++ [name]) := by
  obtain ⟨before, rest, rfl, first⟩ := List.eq_append_cons_of_mem member
  have found : (before ++ name :: rest).dropWhile (· != name) = name :: rest := by
    have others : ∀ other ∈ before, (other != name) = true := by
      intro other inside
      rw [bne_iff_ne]
      rintro rfl
      exact first inside
    rw [List.dropWhile_append_of_pos others]
    exact List.dropWhile_cons_of_neg (by simp)
  have dropped : (name :: rest ++ [name]).dropLast = name :: rest := List.dropLast_concat
  have chain := path.chain refers
  rw [List.append_assoc] at chain
  rw [found]
  exact {
    long := by simp
    back := List.getLast?_concat.symm
    distinct := by
      rw [dropped]
      exact path.distinct.sublist (List.sublist_append_right _ _)
    present := by
      intro other inside
      rw [dropped] at inside
      exact path.present (List.mem_append_right _ inside)
    chain := chain.right_of_append }

/-- Every open component leads to what the schema at hand refers to. -/
theorem transGen (path : OpenPath components stack schema) (refers : Refers schema name)
    {first : String} (member : first ∈ stack) : TransGen (Leads components) first name := by
  obtain ⟨before, rest, rfl⟩ := List.append_of_mem member
  have chain := path.chain refers
  rw [List.append_assoc] at chain
  have onwards := chain.right_of_append.imp fun _ _ leads => TransGen.single leads
  exact onwards.rel_cons (List.mem_append_right _ List.mem_cons_self)

end OpenPath

/-- What a step leaves of the session before it: nothing else is open, what was remembered stays, and
new is only what was allowed. -/
structure Progress (components : Table Json) (allowed : String → Prop) (before after : Session) :
    Prop where
  stack : after.stack = before.stack
  depth : after.depth = before.depth
  valid : after.memo.Valid components
  retains {name : String} {node : Node} :
    Table.get? name before.memo = some node → Table.get? name after.memo = some node
  introduced {name : String} :
    Table.has name after.memo → Table.has name before.memo ∨ allowed name

namespace Progress

variable {allowed : String → Prop} {before between after : Session}

theorem refl (valid : before.memo.Valid components) : Progress components allowed before before where
  stack := rfl
  depth := rfl
  valid := valid
  retains known := known
  introduced known := .inl known

theorem trans (first : Progress components allowed before between)
    (second : Progress components allowed between after) : Progress components allowed before after where
  stack := second.stack.trans first.stack
  depth := second.depth.trans first.depth
  valid := second.valid
  retains known := second.retains (first.retains known)
  introduced known := (second.introduced known).elim first.introduced .inr

theorem weaken {wider : String → Prop} (step : Progress components allowed before after)
    (wide : ∀ name, allowed name → wider name) : Progress components wider before after :=
  { step with introduced := fun known => (step.introduced known).imp_right (wide _) }

theorem has (step : Progress components allowed before after) {name : String}
    (known : Table.has name before.memo) : Table.has name after.memo := by
  obtain ⟨node, known⟩ := Table.has_iff.mp known
  exact Table.has_of_get? (step.retains known)

/-- The depth is taken back on the way out. -/
theorem nested (step : Progress components allowed (Resolving.deeper before) after) :
    Progress components allowed before (Resolving.shallower after) where
  stack := step.stack
  depth := congrArg (· - 1) step.depth
  valid := step.valid
  retains := step.retains
  introduced := step.introduced

/-- The component is no longer open on the way out. -/
theorem during {name : String} (step : Progress components allowed (Resolving.entered name before) after) :
    Progress components allowed before (Resolving.left after) where
  stack := (congrArg List.dropLast step.stack).trans List.dropLast_concat
  depth := step.depth
  valid := step.valid
  retains := step.retains
  introduced := step.introduced

/-- A component that was not remembered is remembered. -/
theorem remembered {name : String} {node : Node} (step : Progress components allowed before after)
    (unknown : Table.get? name before.memo = none) (valid : Memo.Valid components (Table.put name node after.memo))
    (here : allowed name) : Progress components allowed before (Resolving.remembered name node after) where
  stack := step.stack
  depth := step.depth
  valid := valid
  retains {other found} known := by
    have different : other ≠ name := by
      rintro rfl
      rw [unknown] at known
      cases known
    exact (Table.get?_put_ne different).trans (step.retains known)
  introduced {other} known := by
    rcases Table.has_put.mp known with rfl | known
    · exact .inr here
    · exact step.introduced known

end Progress

/-- What a resolver owes about a schema. -/
structure Answers (components : Table Json) (schema : Json) (session : Session)
    (outcome : Except Error Node × Session) : Prop where
  progress : Progress components (Reaches components schema) session outcome.2
  right {node : Node} : outcome.1 = .ok node → Resolves components schema node
  known {node : Node} {name : String} :
    outcome.1 = .ok node → Refers schema name → Table.has name outcome.2.memo
  cycle {chain : List String} : outcome.1 = .error (.circular chain) → IsCycle components chain

/-- Every schema is answered rightly in a session that resolving may have left. -/
def Sound (components : Table Json) (descend : Json → Resolving Node) : Prop :=
  ∀ ⦃schema session⦄, session.memo.Valid components → OpenPath components session.stack schema →
    Answers components schema session ((descend schema).outcome session)

namespace Sound

variable {descend : Json → Resolving Node} {session : Session}

theorem reference (sound : Sound components descend) {fields : Table Json} {text : String}
    (written : Table.get? "$ref" fields = some (.string text)) (valid : session.memo.Valid components)
    (path : OpenPath components session.stack (.object fields)) :
    Answers components (.object fields) session
      ((Resolving.reference components descend text (Facets.ofFields fields)).outcome session) := by
  obtain ⟨result, h⟩ := Resolving.exists_follows components session descend text (Facets.ofFields fields)
  rw [Resolving.outcome_reference h]
  cases h with
  | unnamed named => exact ⟨.refl valid, nofun, nofun, nofun⟩
  | «open» named member =>
      refine ⟨.refl valid, nofun, nofun, ?_⟩
      rintro chain ⟨⟩
      exact path.cycle (.here written named) member
  | known named fresh known =>
      obtain ⟨schema, node, present, inside, rfl⟩ := valid.component known
      refine ⟨.refl valid, ?_, ?_, nofun⟩
      · rintro _ ⟨⟩
        exact .reference written named present inside
      · rintro _ other ⟨⟩ refers
        rw [refers.of_reference written named]
        exact Table.has_of_get? known
  | absent named fresh unknown absent => exact ⟨.refl valid, nofun, nofun, nofun⟩
  | @resolved name schema node after named fresh unknown present inside =>
      have refers : Refers (.object fields) name := .here written named
      have answers : Answers components schema (Resolving.entered name session) _ :=
        sound valid (path.enter refers fresh present)
      rw [inside] at answers
      have resolves := answers.right rfl
      have memo := answers.progress.valid.put present resolves fun second => answers.known rfl
      have progress := answers.progress.during.weaken fun other => Reaches.trans refers present
      refine ⟨progress.remembered unknown memo (.of_refers refers), ?_, ?_, nofun⟩
      · rintro _ ⟨⟩
        exact .reference written named present resolves
      · rintro _ other ⟨⟩ refers
        rw [refers.of_reference written named]
        exact Table.has_put.mpr (.inl rfl)
  | @failed name schema error after named fresh unknown present inside =>
      have refers : Refers (.object fields) name := .here written named
      have answers : Answers components schema (Resolving.entered name session) _ :=
        sound valid (path.enter refers fresh present)
      rw [inside] at answers
      have progress := answers.progress.during.weaken fun other => Reaches.trans refers present
      refine ⟨progress, nofun, nofun, ?_⟩
      rintro chain ⟨⟩
      exact answers.cycle rfl

/-- An inquiry about a schema object ends with a transcript of right answers, unless it fails. -/
theorem run {α : Type} (sound : Sound components descend) {fields : Table Json} {reading : Inquiry α}
    {result : Except Error α} {after : Session}
    (absent : Table.get? "$ref" fields = none) (only : reading.AsksOnly (· ∈ inner fields))
    (valid : session.memo.Valid components)
    (path : OpenPath components session.stack (.object fields))
    (h : (reading.run descend).outcome session = (result, after)) :
    Progress components (Reaches components (.object fields)) session after ∧
      (∀ value, result = .ok value → ∃ answers, reading.Transcript answers value ∧
        ∀ answer ∈ answers, Resolves components answer.1 answer.2 ∧
          ∀ name, Refers answer.1 name → Table.has name after.memo) ∧
      ∀ chain, result = .error (.circular chain) → IsCycle components chain := by
  induction only generalizing session with
  | done value =>
      cases h
      refine ⟨.refl valid, fun _ same => ?_, fun _ same => ?_⟩
      · cases same
        exact ⟨[], .done value, List.forall_mem_nil _⟩
      · cases same
  | fail objection =>
      cases h
      refine ⟨.refl valid, fun _ same => ?_, fun chain same => ?_⟩
      · cases same
      · cases objection <;> cases same
  | @ask schema next member _ ih =>
      have answers : Answers components schema session _ := sound valid (path.inside absent member)
      have inside := answers.progress.weaken fun name => Reaches.inside absent member
      rw [Inquiry.run] at h
      rcases asked : (descend schema).outcome session with ⟨answer, between⟩
      rw [asked] at answers inside
      cases answer with
      | error error =>
          rw [Resolving.outcome_bind_error asked] at h
          cases h
          refine ⟨inside, fun _ same => ?_, fun chain same => ?_⟩
          · cases same
          · cases same
            exact answers.cycle rfl
      | ok node =>
          rw [Resolving.outcome_bind_ok asked] at h
          have onwards : OpenPath components between.stack (.object fields) := inside.stack ▸ path
          obtain ⟨progress, right, cycle⟩ := ih node inside.valid onwards h
          refine ⟨inside.trans progress, ?_, cycle⟩
          intro value same
          obtain ⟨rest, shown, answered⟩ := right value same
          refine ⟨(schema, node) :: rest, .ask shown, List.forall_mem_cons.mpr ⟨?_, answered⟩⟩
          exact ⟨answers.right rfl, fun name refers => progress.has (answers.known rfl refers)⟩

theorem plain (sound : Sound components descend) {fields : Table Json}
    (absent : Table.get? "$ref" fields = none) (valid : session.memo.Valid components)
    (path : OpenPath components session.stack (.object fields)) :
    Answers components (.object fields) session
      (((Inquiry.plain fields (Facets.ofFields fields)).run descend).outcome session) := by
  obtain ⟨progress, right, cycle⟩ := sound.run absent .plain valid path rfl
  refine ⟨progress, ?_, ?_, cycle _⟩
  · intro node same
    obtain ⟨answers, shown, answered⟩ := right node same
    exact .plain absent shown fun answer member => (answered answer member).1
  · intro node name same refers
    obtain ⟨answers, shown, answered⟩ := right node same
    obtain ⟨schema, member, refers⟩ := refers.of_plain absent
    obtain ⟨answer, asked, rfl⟩ := shown.exists_of_inner member
    exact (answered answer asked).2 name refers

theorem node (sound : Sound components descend) : Sound components (Resolving.node components descend) := by
  intro schema session valid path
  unfold Resolving.node
  split
  · split
    · exact sound.reference ‹_› valid path
    · exact ⟨.refl valid, nofun, nofun, nofun⟩
    · exact sound.plain ‹_› valid path
  · refine ⟨.refl valid, ?_, ?_, nofun⟩
    · rintro _ ⟨⟩
      exact .truth
    · rintro _ _ _ ⟨⟩
  · exact ⟨.refl valid, nofun, nofun, nofun⟩

theorem level (sound : Sound components descend) :
    Sound components (Resolving.level components descend) := by
  intro schema session valid path
  rw [Resolving.outcome_level]
  split
  · exact ⟨.refl valid, nofun, nofun, nofun⟩
  · rw [Resolving.outcome_nested]
    have answers : Answers components schema (Resolving.deeper session) _ := sound.node valid path
    exact ⟨answers.progress.nested, answers.right, answers.known, answers.cycle⟩

theorem unrolled {levels : Nat} (sound : Sound components descend) :
    Sound components (Resolving.unrolled components descend levels) := by
  induction levels with
  | zero => exact sound
  | succ levels ih => exact ih.level

/-- A resolver is sound. -/
theorem resolve : Sound components (Session.resolve components) := by
  apply unrolled
  intro schema session valid _
  exact ⟨.refl valid, nofun, nofun, nofun⟩

end Sound

end Schema

end ApiAtlas
