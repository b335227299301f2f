import ApiAtlas.Proofs.Document.Data
import ApiAtlas.Proofs.Schema.Merge

/-! # Schemas that vary in data

Data decides nothing when a schema is resolved. Two resolvers that go in lockstep over schemas that vary in data
come to nodes that say a type alike, as long as the first one comes to a node at all.
-/

namespace ApiAtlas

open Json (Varies)
open References (nameTables valueKeywords)

namespace Schema

/-- Nodes that, followed through references, both say no type, are both objects, or neither. -/
structure Node.Alike (node other : Node) : Prop where
  isAny : node.target.isAny = other.target.isAny
  isObject : node.target.isObject = other.target.isObject

namespace Node

variable {node other : Node} {facets facets' : Facets}

theorem target_target (node : Node) : node.target.target = node.target := by
  obtain ⟨kind, facets⟩ := node
  cases kind with
  | reference name resolved =>
      rw [target]
      exact target_target resolved
  | _ => rfl

theorem alike_withFacets (node : Node) (facets : Facets) : Alike (node.withFacets facets) node := by
  obtain ⟨kind, own⟩ := node
  cases kind with
  | reference name resolved => constructor <;> simp only [withFacets, Node.kind, target]
  | _ => exact ⟨rfl, rfl⟩

namespace Alike

theorem refl : Alike node node := ⟨rfl, rfl⟩

theorem symm (alike : Alike node other) : Alike other node := ⟨alike.isAny.symm, alike.isObject.symm⟩

theorem trans {third : Node} (first : Alike node other) (second : Alike other third) : Alike node third :=
  ⟨first.isAny.trans second.isAny, first.isObject.trans second.isObject⟩

theorem withFacets (alike : Alike node other) : Alike (node.withFacets facets) (other.withFacets facets') :=
  (alike_withFacets node facets).trans (alike.trans (alike_withFacets other facets').symm)

theorem reference {name name' : String} (alike : Alike node other) :
    Alike ⟨.reference name node, facets⟩ ⟨.reference name' other, facets'⟩ := by
  constructor
  · simpa only [target] using alike.isAny
  · simpa only [target] using alike.isObject

end Alike

end Node

namespace Inquiry

variable {α β γ δ : Type} {R : α → β → Prop} {S : γ → δ → Prop}

/-- As long as the answers are alike the first reading asks about schemas that the second one asks about up to data,
and if it comes to a value then so does the second one. -/
inductive Leads (R : α → β → Prop) : Inquiry α → Inquiry β → Prop where
  | done {value : α} {other : β} : R value other → Leads R (.done value) (.done other)
  | fail {objection : Objection} {reading : Inquiry β} : Leads R (.fail objection) reading
  | ask {schema other : Json} {next : Node → Inquiry α} {next' : Node → Inquiry β} : Varies false schema other →
    (∀ {node node' : Node}, node.Alike node' → Leads R (next node) (next' node')) →
    Leads R (.ask schema next) (.ask other next')

namespace Leads

variable {reading : Inquiry α} {reading' : Inquiry β}

theorem mono {R' : α → β → Prop} (leads : Leads R reading reading') (implies : ∀ {value other}, R value other → R' value other) :
    Leads R' reading reading' := by
  induction leads with
  | done related => exact .done (implies related)
  | fail => exact .fail
  | ask varies _ ih => exact .ask varies ih

theorem bind {next : α → Inquiry γ} {next' : β → Inquiry δ} (leads : Leads R reading reading')
    (onwards : ∀ {value other}, R value other → Leads S (next value) (next' other)) :
    Leads S (reading >>= next) (reading' >>= next') := by
  induction leads with
  | done related => exact onwards related
  | fail => exact .fail
  | ask varies _ ih => exact .ask varies ih

theorem mapM {ι κ : Type} {P : ι → κ → Prop} {list : List ι} {others : List κ} {step : ι → Inquiry α} {step' : κ → Inquiry β}
    (related : list.Forall₂ P others) (each : ∀ {item other}, P item other → Leads R (step item) (step' other)) :
    Leads (List.Forall₂ R) (list.mapM step) (others.mapM step') := by
  induction related with
  | nil => exact .done .nil
  | cons here _ ih =>
      rw [List.mapM_cons, List.mapM_cons]
      exact (each here).bind fun first => ih.bind fun rest => .done (.cons first rest)

theorem nodeOf {schema other : Json} (varies : Varies false schema other) :
    Leads Node.Alike (nodeOf schema) (nodeOf other) :=
  .ask varies fun alike => .done alike

section Reading

variable {fields others : List (String × Json)} {facets facets' : Facets}

theorem read (key : String) (varies : Varies false (.object fields) (.object others)) (structural : key ∉ valueKeywords) :
    (Table.get? key fields = none ∧ Table.get? key others = none) ∨ ∃ value other, Table.get? key fields = some value ∧
      Table.get? key others = some other ∧ Varies (nameTables.contains key) value other :=
  rel_cases (varies.get? key fun _ => structural)

theorem has_eq (key : String) (varies : Varies false (.object fields) (.object others)) (structural : key ∉ valueKeywords) :
    Table.has key fields = Table.has key others := by
  unfold Table.has
  rcases read key varies structural with ⟨absent, absent'⟩ | ⟨_, _, found, found', _⟩
  · rw [absent, absent']
  · rw [found, found']
    rfl

theorem properties (varies : Varies false (.object fields) (.object others)) :
    Leads (fun _ _ => True) (Inquiry.properties fields) (Inquiry.properties others) := by
  unfold Inquiry.properties
  rcases read "properties" varies (by decide) with ⟨absent, absent'⟩ | ⟨_, _, found, found', inner⟩
  · rw [absent, absent']
    exact .done trivial
  · rw [found, found']
    cases inner.view with
    | object entries =>
        have table : nameTables.contains "properties" = true := by decide
        refine (mapM (R := fun _ _ => True) (entries table) ?_).mono fun _ => trivial
        intro entry entry' both
        exact (nodeOf both.2).bind fun _ => .done trivial
    | _ => exact .fail

theorem additional (varies : Varies false (.object fields) (.object others)) :
    Leads (fun _ _ => True) (Inquiry.additional fields) (Inquiry.additional others) := by
  unfold Inquiry.additional
  rcases read "additionalProperties" varies (by decide) with ⟨absent, absent'⟩ | ⟨value, other, found, found', inner⟩
  · rw [absent, absent']
    exact .done trivial
  · rw [found, found']
    have typed : Leads (fun _ _ => True) (do return Additional.typed (← Inquiry.nodeOf value))
        (do return Additional.typed (← Inquiry.nodeOf other)) :=
      (nodeOf inner.mono).bind fun _ => .done trivial
    cases inner.view with
    | bool b => cases b <;> exact .done trivial
    | _ => exact typed

theorem shape (varies : Varies false (.object fields) (.object others)) :
    Leads (fun _ _ => True) (Inquiry.shape fields) (Inquiry.shape others) :=
  (properties varies).bind fun _ => (additional varies).bind fun _ => .done trivial

theorem items (varies : Varies false (.object fields) (.object others)) :
    Leads (fun _ _ => True) (Inquiry.items fields) (Inquiry.items others) := by
  unfold Inquiry.items
  rcases read "items" varies (by decide) with ⟨absent, absent'⟩ | ⟨value, other, found, found', inner⟩
  · rw [absent, absent']
    exact .done trivial
  · rw [found, found']
    have each : Leads (fun _ _ => True) (Inquiry.nodeOf value) (Inquiry.nodeOf other) :=
      (nodeOf inner.mono).mono fun _ => trivial
    cases inner.view with
    | array _ => exact .fail
    | _ => exact each

theorem typed (varies : Varies false (.object fields) (.object others)) (type : String) :
    Leads Node.Alike (Inquiry.typed fields type facets) (Inquiry.typed others type facets') := by
  unfold Inquiry.typed
  split
  · exact (shape varies).bind fun _ => .done ⟨rfl, rfl⟩
  · split
    · exact (items varies).bind fun _ => .done ⟨rfl, rfl⟩
    · split
      · exact .done ⟨rfl, rfl⟩
      · exact .fail

theorem typeName {entry other : Json} (varies : Varies false entry other) :
    Leads Eq (Inquiry.typeName entry) (Inquiry.typeName other) := by
  cases varies.view with
  | string name => exact .done rfl
  | _ => exact .fail

theorem typeList {types types' : List Json} (varies : Varies false (.object fields) (.object others))
    (each : types.Forall₂ (Varies false) types') :
    Leads Node.Alike (Inquiry.typeList fields types facets) (Inquiry.typeList others types' facets') := by
  refine (mapM each typeName).bind fun {names names'} same => ?_
  rw [List.forall₂_eq_eq_eq] at same
  subst same
  match names with
  | [] => exact .done ⟨rfl, rfl⟩
  | [name] => exact typed varies name
  | first :: second :: rest =>
      have all : (first :: second :: rest).Forall₂ Eq (first :: second :: rest) := List.forall₂_same.mpr fun _ _ => rfl
      refine (mapM (R := Node.Alike) all ?_).bind fun _ => .done ⟨rfl, rfl⟩
      rintro name _ rfl
      exact typed varies name

theorem branches {keyword : String} {named : Bool} {value other : Json} (varies : Varies named value other) :
    Leads (List.Forall₂ (Varies false)) (Inquiry.branches keyword value) (Inquiry.branches keyword other) := by
  cases varies.view with
  | array each =>
      cases each with
      | nil => exact .fail
      | cons here rest => exact .done (.cons here rest)
  | _ => exact .fail

theorem union {mode : UnionMode} {named : Bool} {value other : Json} (varies : Varies named value other) :
    Leads Node.Alike (Inquiry.union mode value facets) (Inquiry.union mode other facets') :=
  (branches varies).bind fun each => (mapM each nodeOf).bind fun _ => .done ⟨rfl, rfl⟩

theorem beside (varies : Varies false (.object fields) (.object others)) :
    Leads (List.Forall₂ Node.Alike) (Inquiry.beside fields) (Inquiry.beside others) := by
  unfold Inquiry.beside
  rw [has_eq "properties" varies (by decide), has_eq "required" varies (by decide)]
  split
  · exact (shape varies).bind fun _ => .done (.cons ⟨rfl, rfl⟩ .nil)
  · exact .done .nil

/-- Nodes that are alike already before references are followed. -/
structure AlikeHere (node other : Node) : Prop where
  isAny : node.isAny = other.isAny
  isObject : node.isObject = other.isObject
  alike : node.Alike other

theorem meaningful {nodes nodes' : List Node} (each : nodes.Forall₂ Node.Alike nodes') :
    (Schema.meaningful nodes).Forall₂ AlikeHere (Schema.meaningful nodes') := by
  have targets : (nodes.map Node.target).Forall₂ AlikeHere (nodes'.map Node.target) := by
    refine List.rel_map (fun node other alike => ?_) each
    refine ⟨alike.isAny, alike.isObject, ?_, ?_⟩
    · rw [node.target_target, other.target_target, alike.isAny]
    · rw [node.target_target, other.target_target, alike.isObject]
  exact List.rel_filter (fun node other here => by simp [here.isAny]) targets

theorem shapesFrom {index : Nat} {parts parts' : List Node} (each : parts.Forall₂ AlikeHere parts') :
    Leads (fun _ _ => True) (Inquiry.shapesFrom index parts) (Inquiry.shapesFrom index parts') := by
  induction each generalizing index with
  | nil => exact .done trivial
  | @cons part part' _ _ alike _ ih =>
      have isObject := alike.isObject
      obtain ⟨kind, facets⟩ := part
      obtain ⟨kind', facets'⟩ := part'
      cases kind with
      | object shape =>
          cases kind' with
          | object shape' => exact ih.bind fun _ => .done trivial
          | _ => cases isObject
      | _ => exact .fail

theorem exists_shape_of_isObject {node : Node} (object : node.isObject) : ∃ shape, node.kind = .object shape := by
  obtain ⟨kind, facets⟩ := node
  cases kind with
  | object shape => exact ⟨shape, rfl⟩
  | _ => cases object

theorem merged_object {node : Node} {shape : Shape Node} (object : node.kind = .object shape) :
    Inquiry.merged [node] facets = .done ⟨.object ([shape].foldl Shape.merge {}), facets⟩ :=
  merged_objects (by simp) (by simp [object])

theorem merged {parts parts' : List Node} (each : parts.Forall₂ AlikeHere parts') :
    Leads Node.Alike (Inquiry.merged parts facets) (Inquiry.merged parts' facets') := by
  cases each with
  | nil => exact .done ⟨rfl, rfl⟩
  | @cons part part' rest rest' alike others =>
      cases others with
      | nil =>
          cases here : part.isObject with
          | true =>
              obtain ⟨shape, object⟩ := exists_shape_of_isObject here
              obtain ⟨shape', object'⟩ := exists_shape_of_isObject (alike.isObject.symm.trans here)
              rw [merged_object object, merged_object object']
              exact .done ⟨rfl, rfl⟩
          | false =>
              rw [merged_single here, merged_single (alike.isObject.symm.trans here)]
              exact .done alike.alike.withFacets
      | cons second rest =>
          rw [merged_several (by simp), merged_several (by simp)]
          exact (shapesFrom (.cons alike (.cons second rest))).bind fun _ => .done ⟨rfl, rfl⟩

theorem allOf {named : Bool} {value other : Json} (varies : Varies false (.object fields) (.object others))
    (inner : Varies named value other) :
    Leads Node.Alike (Inquiry.allOf fields value facets) (Inquiry.allOf others other facets') :=
  (branches inner).bind fun each => (mapM each nodeOf).bind fun written => (beside varies).bind fun besides =>
    merged (meaningful (List.rel_append written besides))

/-- Reading a schema object without `$ref`. -/
theorem plain (varies : Varies false (.object fields) (.object others)) :
    Leads Node.Alike (Inquiry.plain fields facets) (Inquiry.plain others facets') := by
  unfold Inquiry.plain
  rcases read "allOf" varies (by decide) with ⟨absent, absent'⟩ | ⟨_, _, found, found', inner⟩
  · rw [absent, absent']
    rcases read "anyOf" varies (by decide) with ⟨absent, absent'⟩ | ⟨_, _, found, found', inner⟩
    · rw [absent, absent']
      rcases read "oneOf" varies (by decide) with ⟨absent, absent'⟩ | ⟨_, _, found, found', inner⟩
      · rw [absent, absent']
        rcases read "type" varies (by decide) with ⟨absent, absent'⟩ | ⟨_, _, found, found', inner⟩
        · rw [absent, absent', has_eq "properties" varies (by decide), has_eq "additionalProperties" varies (by decide),
            has_eq "items" varies (by decide)]
          dsimp only
          split
          · exact (shape varies).bind fun _ => .done ⟨rfl, rfl⟩
          · split
            · exact (items varies).bind fun _ => .done ⟨rfl, rfl⟩
            · exact .done ⟨rfl, rfl⟩
        · rw [found, found']
          cases inner.view with
          | string type => exact typed varies type
          | array each => exact typeList varies each
          | _ => exact .fail
      · rw [found, found']
        exact union inner
    · rw [found, found']
      exact union inner
  · rw [found, found']
    exact allOf varies inner

end Reading

end Leads

end Inquiry

namespace Resolving

/-- Sessions with the same components open, as deep, which remember alike nodes. -/
structure InStep (session other : Session) : Prop where
  stack : session.stack = other.stack
  depth : session.depth = other.depth
  memo (name : String) : Option.Rel Node.Alike (Table.get? name session.memo) (Table.get? name other.memo)

/-- If the first step succeeds then so does the second one, with a related value, and the sessions stay in step. -/
def Leads {α β : Type} (R : α → β → Prop) (step : Resolving α) (step' : Resolving β) : Prop :=
  ∀ ⦃session session' : Session⦄, InStep session session' → ∀ ⦃value after⦄, step.outcome session = (.ok value, after) →
    ∃ value' after', step'.outcome session' = (.ok value', after') ∧ R value value' ∧ InStep after after'

/-- Two resolvers of inner schemas come to alike nodes for schemas that vary in data. -/
def Descends (descend descend' : Json → Resolving Node) : Prop :=
  ∀ ⦃schema other : Json⦄, Varies false schema other → Leads Node.Alike (descend schema) (descend' other)

variable {α β γ δ : Type} {R : α → β → Prop} {S : γ → δ → Prop} {components others : Table Json}
  {descend descend' : Json → Resolving Node}

namespace Leads

theorem pure {value : α} {other : β} (related : R value other) :
    Leads R (Pure.pure value : Resolving α) (Pure.pure other : Resolving β) := by
  intro session session' inStep _ _ succeeds
  cases succeeds
  exact ⟨other, session', rfl, related, inStep⟩

theorem throw {error : Error} {step : Resolving β} : Leads R (MonadExcept.throw error : Resolving α) step := by
  intro _ _ _ _ _ succeeds
  cases succeeds

theorem bind {step : Resolving α} {step' : Resolving β} {next : α → Resolving γ} {next' : β → Resolving δ}
    (leads : Leads R step step') (onwards : ∀ {value other}, R value other → Leads S (next value) (next' other)) :
    Leads S (step >>= next) (step' >>= next') := by
  intro session session' inStep result after succeeds
  rcases first : step.outcome session with ⟨error | value, between⟩
  · rw [outcome_bind_error first] at succeeds
    cases succeeds
  · rw [outcome_bind_ok first] at succeeds
    obtain ⟨value', between', first', related, inStep⟩ := leads inStep first
    obtain ⟨result', after', second', related, inStep⟩ := onwards related inStep succeeds
    exact ⟨result', after', (outcome_bind_ok first').trans second', related, inStep⟩

theorem nested {step : Resolving α} {step' : Resolving β} (leads : Leads R step step') :
    Leads R (Resolving.nested step) (Resolving.nested step') := by
  intro session session' inStep value after succeeds
  rw [outcome_nested] at succeeds
  have inside : InStep (deeper session) (deeper session') := ⟨inStep.stack, congrArg (· + 1) inStep.depth, inStep.memo⟩
  rcases first : step.outcome (deeper session) with ⟨error | value, between⟩
  · rw [first] at succeeds
    cases succeeds
  · rw [first] at succeeds
    cases succeeds
    obtain ⟨value', between', first', related, inStep⟩ := leads inside first
    refine ⟨value', shallower between', by rw [outcome_nested, first'], related, ?_⟩
    exact ⟨inStep.stack, congrArg (· - 1) inStep.depth, inStep.memo⟩

end Leads

section Levels

variable (descends : Descends descend descend')
  (present : ∀ name, Option.Rel (Varies false) (Table.get? name components) (Table.get? name others))

include descends

theorem Descends.run {reading : Inquiry α} {reading' : Inquiry β} (leads : reading.Leads R reading') :
    Leads R (reading.run descend) (reading'.run descend') := by
  induction leads with
  | done related => exact .pure related
  | fail => exact .throw
  | ask varies _ ih => exact (descends varies).bind ih

include present

theorem Descends.reference {text : String} {facets facets' : Facets} :
    Leads Node.Alike (reference components descend text facets) (reference others descend' text facets') := by
  intro session session' inStep node after succeeds
  obtain ⟨result, follows⟩ := exists_follows components session descend text facets
  obtain rfl := (outcome_reference follows).symm.trans succeeds
  cases follows with
  | known named fresh known =>
      obtain ⟨other, known', alike⟩ := exists_of_rel (inStep.memo _) known
      exact ⟨_, session', outcome_reference (.known named (inStep.stack ▸ fresh) known'), alike.reference, inStep⟩
  | @resolved name schema node after named fresh unknown stands inside =>
      have unknown' := eq_none_of_rel (inStep.memo name) unknown
      obtain ⟨schema', stands', varies⟩ := exists_of_rel (present name) stands
      have entering : InStep (entered name session) (entered name session') :=
        ⟨congrArg (· ++ [name]) inStep.stack, inStep.depth, inStep.memo⟩
      obtain ⟨node', after', inside', alike, leaving⟩ := descends varies entering inside
      have titled : (node.titled name).Alike (node'.titled name) := alike.withFacets
      refine ⟨_, _, outcome_reference (.resolved named (inStep.stack ▸ fresh) unknown' stands' inside'), titled.reference, ?_⟩
      refine ⟨congrArg List.dropLast leaving.stack, leaving.depth, fun other => ?_⟩
      by_cases same : other = name
      · subst same
        simp only [remembered, Table.get?_put_self]
        exact .some titled
      · simp only [remembered, Table.get?_put_ne same]
        exact leaving.memo other

theorem Descends.node : Descends (node components descend) (node others descend') := by
  intro schema other varies
  unfold Resolving.node
  cases varies.view with
  | @object fields fields' _ =>
      rcases Inquiry.Leads.read "$ref" varies (by decide) with ⟨absent, absent'⟩ | ⟨_, _, found, found', inner⟩
      · simp only [absent, absent']
        exact descends.run (.plain varies)
      · simp only [found, found']
        cases inner.view with
        | string text => exact descends.reference present
        | _ => exact .throw
  | bool b =>
      cases b with
      | true => exact .pure .refl
      | false => exact .throw
  | _ => exact .throw

theorem Descends.level : Descends (level components descend) (level others descend') := by
  intro schema other varies session session' inStep node after succeeds
  rw [outcome_level] at succeeds
  split at succeeds
  · cases succeeds
  · rename_i shallow
    rw [outcome_level, if_neg (inStep.depth ▸ shallow)]
    exact ((descends.node present) varies).nested inStep succeeds

end Levels

section Resolvers

variable (present : ∀ name, Option.Rel (Varies false) (Table.get? name components) (Table.get? name others))

include present

theorem descends_resolve : Descends (Session.resolve components) (Session.resolve others) := by
  have unrolling (levels : Nat) : Descends
      (unrolled components (fun _ => MonadExcept.throw (.malformed .tooDeep)) levels)
      (unrolled others (fun _ => MonadExcept.throw (.malformed .tooDeep)) levels) := by
    induction levels with
    | zero => exact fun _ _ _ => .throw
    | succ levels ih => exact ih.level present
  exact unrolling Session.levels

theorem leads_resolveComponent (name : String) :
    Leads (fun _ _ => True) (Session.resolveComponent components name) (Session.resolveComponent others name) := by
  refine ((descends_resolve present).reference present).bind fun _ => ?_
  split <;> split <;> exact .pure trivial

end Resolvers

end Resolving

end Schema

end ApiAtlas
