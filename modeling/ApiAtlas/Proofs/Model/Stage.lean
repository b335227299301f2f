import Mathlib.Logic.Function.Basic
import ApiAtlas.Proofs.Model.Kept
import ApiAtlas.Proofs.Model.Registry
import ApiAtlas.Proofs.Naming

/-! # Stages of modelling

A stage is a registry together with what its models accept. Modelling goes from stage to stage, and what
is there at one stage means the same at every later one.
-/

namespace ApiAtlas

namespace Model

open Schema (Node IsComponent)

/-- What models accept, and an order in which they can be read. -/
structure Meaning where
  accepts : String → Json → Bool
  rank : String → Nat

/-- There is a model of this name. -/
def Namespace.Has (models : Namespace) (name : String) : Prop :=
  ∃ model, SortedTable.get? name models = some model

/-- A model means what is said under its name, and mentions models that come before it. -/
structure Meaning.Fits (meaning : Meaning) (models : Namespace) (name : String) (model : Definition) :
    Prop where
  named : model.name = name
  literal : Naming.Literal name
  regular : model.Regular
  accepts : meaning.accepts name = model.accepts meaning.accepts
  earlier : ∀ other ∈ model.body.mentions, models.Has other ∧ meaning.rank other < meaning.rank name

/-- What the models of a document mean. -/
def Namespace.Means (models : Namespace) (meaning : Meaning) : Prop :=
  ∀ ⦃name model⦄, SortedTable.get? name models = some model → meaning.Fits models name model

/-- There is a model of this name, with this title. -/
def Namespace.Titled (models : Namespace) (name : String) (title : Option String) : Prop :=
  ∃ model, SortedTable.get? name models = some model ∧ model.facets.title = title

/-- What the models of a registry mean; the models of components mean what is kept of the components, and have
their titles. -/
structure Registry.Means (components : Table Json) (registry : Registry) (meaning : Meaning) : Prop where
  models : registry.models.Means meaning
  kept {key name : String} : Table.get? key registry.components = some name →
    registry.models.Has name ∧ ∀ node, IsComponent components key node → meaning.accepts name = node.kept.satisfies
  titled {key name : String} {node : Node} : Table.get? key registry.components = some name →
    IsComponent components key node → registry.models.Titled name node.facets.title

/-- What has been compiled at some point, with its meaning. -/
structure Stage (components : Table Json) where
  registry : Registry
  meaning : Meaning
  means : registry.Means components meaning

variable {components : Table Json}

namespace Stage

/-- The models. -/
def models (stage : Stage components) : Namespace := stage.registry.models

/-- What the models accept. -/
def accepts (stage : Stage components) : String → Json → Bool := stage.meaning.accepts

/-- What is there stays, with its meaning. -/
structure Grows (before after : Stage components) : Prop where
  models {name : String} {model : Definition} : SortedTable.get? name before.models = some model →
    SortedTable.get? name after.models = some model
  accepts {name : String} : before.models.Has name → after.accepts name = before.accepts name
  components {key name : String} : Table.get? key before.registry.components = some name →
    Table.get? key after.registry.components = some name

namespace Grows

variable {before between after stage : Stage components} {name : String}

theorem refl : Grows stage stage := ⟨id, fun _ => rfl, id⟩

theorem has (grows : Grows before after) (h : before.models.Has name) : after.models.Has name := by
  obtain ⟨model, found⟩ := h
  exact ⟨model, grows.models found⟩

theorem titled {title : Option String} (grows : Grows before after) (h : before.models.Titled name title) :
    after.models.Titled name title := by
  obtain ⟨model, found, same⟩ := h
  exact ⟨model, grows.models found, same⟩

theorem trans (grows : Grows before between) (grows' : Grows between after) : Grows before after where
  models found := grows'.models (grows.models found)
  accepts h := (grows'.accepts (grows.has h)).trans (grows.accepts h)
  components found := grows'.components (grows.components found)

end Grows

/-- The stage before anything is compiled. -/
def empty : Stage components where
  registry := {}
  meaning := ⟨fun _ _ => true, fun _ => 0⟩
  means := { models := nofun, kept := nofun, titled := nofun }

end Stage

/-- A step leads from one stage to another. -/
structure Modelling.Runs {α : Type} (step : Modelling α) (before : Stage components) (value : α)
    (after : Stage components) : Prop where
  run : step.run before.registry = (value, after.registry)
  grows : before.Grows after

namespace Modelling.Runs

variable {α β : Type} {step : Modelling α} {next : α → Modelling β} {before between after : Stage components}
  {value : α} {result : β}

theorem pure (value : α) (stage : Stage components) :
    Runs (Pure.pure value : Modelling α) stage value stage := ⟨rfl, .refl⟩

theorem bind (first : Runs step before value between) (second : Runs (next value) between result after) :
    Runs (step >>= next) before result after := by
  refine ⟨?_, first.grows.trans second.grows⟩
  rw [StateT.run_bind, first.run]
  exact second.run

theorem map (change : α → β) (h : Runs step before value after) :
    Runs (step >>= fun value => Pure.pure (change value)) before (change value) after :=
  h.bind (.pure _ _)

end Modelling.Runs

/-- A rank above those of these models. -/
def Meaning.rankAbove (meaning : Meaning) : List String → Nat
  | [] => 0
  | name :: names => meaning.rank name + 1 + meaning.rankAbove names

theorem Meaning.rank_lt_rankAbove {meaning : Meaning} {names : List String} {name : String} (member : name ∈ names) :
    meaning.rank name < meaning.rankAbove names := by
  induction names with
  | nil => cases member
  | cons first names ih =>
      rw [rankAbove]
      rcases List.mem_cons.mp member with rfl | member
      · omega
      · have less := ih member
        omega

/-- A meaning in which one more model is read. -/
def Meaning.set (meaning : Meaning) (name : String) (model : Definition) : Meaning where
  accepts := Function.update meaning.accepts name (model.accepts meaning.accepts)
  rank := Function.update meaning.rank name (meaning.rankAbove model.body.mentions)

variable {models : Namespace} {meaning : Meaning} {name : String} {model : Definition}

theorem Namespace.Has.ne_of_fresh {other : String} (fresh : SortedTable.get? name models = none)
    (h : models.Has other) : other ≠ name := by
  rintro rfl
  obtain ⟨found, there⟩ := h
  rw [fresh] at there
  cases there

theorem get?_put_of_fresh (fresh : SortedTable.get? name models = none) {other : String} {found : Definition}
    (there : SortedTable.get? other models = some found) :
    SortedTable.get? other (SortedTable.put name model models) = some found :=
  (SortedTable.get?_put_ne (Namespace.Has.ne_of_fresh fresh ⟨found, there⟩)).trans there

theorem Namespace.Titled.has {title : Option String} (titled : models.Titled name title) : models.Has name := by
  obtain ⟨model, there, _⟩ := titled
  exact ⟨model, there⟩

theorem Namespace.Titled.put {title : Option String} (fresh : SortedTable.get? name models = none) {other : String}
    (titled : models.Titled other title) : Namespace.Titled (SortedTable.put name model models) other title := by
  obtain ⟨found, there, same⟩ := titled
  exact ⟨found, get?_put_of_fresh fresh there, same⟩

theorem Namespace.Has.put (fresh : SortedTable.get? name models = none) {other : String}
    (h : models.Has other) : Namespace.Has (SortedTable.put name model models) other := by
  obtain ⟨found, there⟩ := h
  exact ⟨found, get?_put_of_fresh fresh there⟩

theorem Meaning.accepts_set_ne {other : String} (different : other ≠ name) :
    (meaning.set name model).accepts other = meaning.accepts other := Function.update_of_ne different _ _

theorem Meaning.accepts_set_self : (meaning.set name model).accepts name = model.accepts meaning.accepts :=
  Function.update_self _ _ _

theorem Meaning.rank_set_ne {other : String} (different : other ≠ name) :
    (meaning.set name model).rank other = meaning.rank other := Function.update_of_ne different _ _

theorem Meaning.rank_set_self : (meaning.set name model).rank name = meaning.rankAbove model.body.mentions :=
  Function.update_self _ _ _

/-- A model that mentions models which are there may be added under a free name. -/
theorem Namespace.Means.put (means : models.Means meaning) (fresh : SortedTable.get? name models = none)
    (named : model.name = name) (literal : Naming.Literal name) (regular : model.Regular)
    (known : ∀ other ∈ model.body.mentions, models.Has other) :
    Namespace.Means (SortedTable.put name model models) (meaning.set name model) := by
  have reads : ∀ mentions : List String, (∀ other ∈ mentions, models.Has other) →
      ∀ other ∈ mentions, meaning.accepts other = (meaning.set name model).accepts other :=
    fun mentions known other member =>
      (Meaning.accepts_set_ne (Namespace.Has.ne_of_fresh fresh (known other member))).symm
  intro other found there
  by_cases same : other = name
  · subst same
    rw [SortedTable.get?_put_self] at there
    cases there
    refine ⟨named, literal, regular, ?_, fun mentioned member => ⟨(known _ member).put fresh, ?_⟩⟩
    · exact Meaning.accepts_set_self.trans (Definition.accepts_congr (reads _ known))
    · rw [Meaning.rank_set_self, Meaning.rank_set_ne (Namespace.Has.ne_of_fresh fresh (known _ member))]
      exact Meaning.rank_lt_rankAbove member
  · rw [SortedTable.get?_put_ne same] at there
    obtain ⟨named, literal, regular, accepts, earlier⟩ := means there
    refine ⟨named, literal, regular, ?_, fun mentioned member => ?_⟩
    · rw [Meaning.accepts_set_ne same, accepts]
      exact Definition.accepts_congr (reads _ fun mentioned member => (earlier mentioned member).1)
    · obtain ⟨there, less⟩ := earlier mentioned member
      rw [Meaning.rank_set_ne same, Meaning.rank_set_ne (Namespace.Has.ne_of_fresh fresh there)]
      exact ⟨there.put fresh, less⟩

/-- A model may be registered: its name is free, and it mentions models that are there. -/
structure Registry.Admits (registry : Registry) (model : Definition) : Prop where
  fresh : SortedTable.get? model.name registry.models = none
  literal : Naming.Literal model.name
  regular : model.Regular
  known : ∀ other ∈ model.body.mentions, registry.models.Has other

/-- One more model leaves what the models of components mean. -/
theorem Registry.Means.put {registry : Registry} (means : registry.Means components meaning)
    (admits : registry.Admits model) : Registry.Means components
      { registry with models := SortedTable.put model.name model registry.models } (meaning.set model.name model) where
  models := means.models.put admits.fresh rfl admits.literal admits.regular admits.known
  kept there := by
    obtain ⟨has, reads⟩ := means.kept there
    refine ⟨has.put admits.fresh, fun node known => ?_⟩
    rw [Meaning.accepts_set_ne (has.ne_of_fresh admits.fresh)]
    exact reads node known
  titled there known := (means.titled there known).put admits.fresh

namespace Stage

variable {stage : Stage components}

/-- The stage with one more model. -/
def put (stage : Stage components) (admits : stage.registry.Admits model) : Stage components where
  registry := { stage.registry with models := SortedTable.put model.name model stage.registry.models }
  meaning := stage.meaning.set model.name model
  means := stage.means.put admits

theorem grows_put (admits : stage.registry.Admits model) : stage.Grows (stage.put admits) :=
  ⟨get?_put_of_fresh admits.fresh, fun has => Meaning.accepts_set_ne (has.ne_of_fresh admits.fresh), id⟩

theorem get?_put_self (admits : stage.registry.Admits model) :
    SortedTable.get? model.name (stage.put admits).models = some model := SortedTable.get?_put_self

end Stage

theorem Registry.literal_candidate (literal : Naming.Literal name) (k : Nat) :
    Naming.Literal (candidate name k) := by
  rw [candidate]
  split
  · exact literal
  · exact literal.append (.number k)

/-- Registering a model leads to a stage where its name means what the model does, and has its title. -/
theorem Modelling.runs_register {before : Stage components} {body : Body} {facets : Schema.Facets}
    (literal : Naming.Literal name) (bodyRegular : body.Regular) (facetsRegular : facets.Regular)
    (known : ∀ other ∈ body.mentions, before.models.Has other) :
    ∃ placed after, Runs (register name body facets) before placed after ∧ after.models.Titled placed facets.title ∧
      ∀ value, after.accepts placed value = facets.admits value (body.accepts after.accepts value) := by
  obtain ⟨k, _, _, settled⟩ := Registry.placed_place before.models name body facets
  have placed := settled (before.models.length + 1) (Nat.lt_succ_self _)
  generalize settles : Registry.place before.models name body facets (before.models.length + 1) 1 = result at placed
  -- The name is free for a new model, or an equal model has it, which then means the same.
  cases placed with
  | fresh free =>
      have admits : before.registry.Admits ⟨Registry.candidate name k, body, facets⟩ :=
        ⟨free, Registry.literal_candidate literal k, ⟨bodyRegular, facetsRegular⟩, known⟩
      refine ⟨_, before.put admits, ⟨run_register settles, Stage.grows_put admits⟩,
        ⟨_, Stage.get?_put_self admits, rfl⟩, ?_⟩
      exact congrFun ((before.put admits).means.models (Stage.get?_put_self admits)).accepts
  | @shared present there sameBody sameFacets =>
      refine ⟨_, before, ⟨run_register settles, .refl⟩,
        ⟨present, there, Schema.Facets.title_of_same sameFacets⟩, fun value => ?_⟩
      have fits := before.means.models there
      let asked : Definition := ⟨name, body, facets⟩
      have regular : asked.Regular := ⟨bodyRegular, facetsRegular⟩
      have sameBody : present.body.same asked.body = true := sameBody
      have sameFacets : present.facets.same asked.facets = true := sameFacets
      have same : present.accepts before.accepts value = asked.accepts before.accepts value :=
        Definition.accepts_of_same fits.regular regular sameBody sameFacets value
      exact (congrFun fits.accepts value).trans same

end Model

end ApiAtlas
