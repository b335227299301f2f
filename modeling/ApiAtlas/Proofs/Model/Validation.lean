import Mathlib.Data.List.Count
import ApiAtlas.Payload.Validator
import ApiAtlas.Proofs.Model.Closure
import ApiAtlas.Proofs.Model.Rendering
import ApiAtlas.Proofs.Model.Stage

/-! # Validators accept what models do

A validator follows references through the definitions beside the schema of its model. A chain of
references leads to models of ever smaller rank, so no chain is longer than the number of definitions.
-/

namespace ApiAtlas

namespace Model

open Payload
open Relation (ReflTransGen)

variable {models : Namespace} {meaning : Meaning} {root name other : String} {model : Definition}
  {accepts : String → Json → Bool} {strict : Bool}

/-- What is said of each model is what the model accepts in a mode, given what is said of the others. -/
def Namespace.Reads (models : Namespace) (strict : Bool) (accepts : String → Json → Bool) : Prop :=
  ∀ ⦃name model⦄, SortedTable.get? name models = some model → accepts name = model.acceptsIn accepts strict

/-- What models mean is what they accept in lenient mode. -/
theorem Namespace.Means.reads (means : models.Means meaning) : models.Reads false meaning.accepts :=
  fun _ model there => (means there).accepts.trans (model.acceptsIn_lenient meaning.accepts).symm

/-- The schemas of models by name. -/
def schemasOf (models : Namespace) (strict : Bool) (names : List String) : Table Json :=
  names.filterMap fun name =>
    (SortedTable.get? name models).map fun model => (name, Json.object (model.schemaFields strict))

theorem get?_schemasOf {names : List String} (member : name ∈ names)
    (there : SortedTable.get? name models = some model) :
    Table.get? name (schemasOf models strict names) = some (.object (model.schemaFields strict)) := by
  induction names with
  | nil => cases member
  | cons first names ih =>
      by_cases same : first = name
      · subst same
        rw [schemasOf, List.filterMap_cons, there]
        exact Table.get?_cons_self
      · have rest := ih ((List.mem_cons.mp member).resolve_left (Ne.symm same))
        rw [schemasOf, List.filterMap_cons]
        cases SortedTable.get? first models with
        | none => exact rest
        | some _ => exact (Table.get?_cons_ne same).trans rest

/-- The names of the models that are written beside the schema of a model. -/
def Namespace.others (models : Namespace) (root : String) : List String :=
  (models.closure root).filter (· != root)

theorem rank_lt_of_mentions (means : models.Means meaning) (mentions : models.Mentions name other) :
    meaning.rank other < meaning.rank name := by
  obtain ⟨model, there, member⟩ := mentions
  exact ((means there).earlier other member).2

theorem rank_le_of_reaches (means : models.Means meaning) (path : ReflTransGen models.Mentions name other) :
    other = name ∨ meaning.rank other < meaning.rank name := by
  induction path with
  | refl => exact .inl rfl
  | tail _ mentions ih =>
      have less := rank_lt_of_mentions means mentions
      rcases ih with rfl | ih
      · exact .inr less
      · exact .inr (less.trans ih)

/-- What a model mentions is written beside it, and beside every model that it reaches. -/
theorem mem_others (means : models.Means meaning) (path : ReflTransGen models.Mentions root name)
    (mentions : models.Mentions name other) : other ∈ models.others root := by
  rw [Namespace.others, List.mem_filter, bne_iff_ne]
  refine ⟨Namespace.mem_closure.mpr (path.tail mentions), ?_⟩
  rintro rfl
  have less := rank_lt_of_mentions means mentions
  rcases rank_le_of_reaches means path with rfl | smaller
  · exact lt_irrefl _ less
  · exact lt_asymm less smaller

/-- The number of definitions that come no later than a model. -/
def Meaning.height (meaning : Meaning) (definitions : Table Json) (name : String) : Nat :=
  definitions.countP fun entry => meaning.rank entry.1 ≤ meaning.rank name

theorem height_pos {definitions : Table Json} (there : Table.has name definitions) :
    0 < meaning.height definitions name := by
  obtain ⟨schema, member⟩ := Table.mem_keys.mp (Table.mem_keys_iff_has.mpr there)
  exact List.countP_pos_iff.mpr ⟨_, member, decide_eq_true le_rfl⟩

theorem height_lt {definitions : Table Json} (there : Table.has name definitions)
    (less : meaning.rank other < meaning.rank name) :
    meaning.height definitions other < meaning.height definitions name := by
  obtain ⟨schema, member⟩ := Table.mem_keys.mp (Table.mem_keys_iff_has.mpr there)
  let upTo (name : String) (entry : String × Json) : Bool := meaning.rank entry.1 ≤ meaning.rank name
  have both : definitions.countP (upTo other) = (definitions.filter (upTo name)).countP (upTo other) := by
    rw [List.countP_filter]
    refine List.countP_congr fun entry _ => ?_
    simp only [upTo, Bool.and_eq_true, decide_eq_true_eq]
    omega
  have fewer : (definitions.filter (upTo name)).countP (upTo other) < (definitions.filter (upTo name)).length := by
    rw [List.countP_lt_length_iff]
    refine ⟨(name, schema), List.mem_filter.mpr ⟨member, decide_eq_true le_rfl⟩, ?_⟩
    exact decide_eq_false (Nat.not_le.mpr less)
  rw [Meaning.height, Meaning.height]
  calc definitions.countP (upTo other) = _ := both
    _ < _ := fewer
    _ = definitions.countP (upTo name) := List.countP_eq_length_filter.symm

theorem definitionName?_eq (literal : Naming.Literal name) :
    definitionName? (definitionPrefix ++ name) = some name := by
  rw [definitionName?, definitionPrefix, Text.afterStart?_append, Option.map_some, literal.unescape]

theorem has_of_reaches (means : models.Means meaning) (has : models.Has root)
    (path : ReflTransGen models.Mentions root name) : models.Has name := by
  rcases path.cases_tail with rfl | ⟨between, _, model, there, member⟩
  · exact has
  · exact ((means there).earlier name member).1

theorem written_of_mem_others (strict : Bool) (means : models.Means meaning) (has : models.Has root)
    (member : name ∈ models.others root) : ReflTransGen models.Mentions root name ∧
      ∃ model, SortedTable.get? name models = some model ∧
        Table.get? name (schemasOf models strict (models.others root)) = some (.object (model.schemaFields strict)) := by
  have path := Namespace.mem_closure.mp (List.mem_filter.mp member).1
  obtain ⟨model, there⟩ := has_of_reaches means has path
  exact ⟨path, model, there, get?_schemasOf member there⟩

/-- The surroundings in which the schema of a model and its definitions are read. -/
def surroundings (models : Namespace) (root : String) (strict : Bool) (hops : Nat) : Surroundings where
  strict
  follow := followWithin (schemasOf models strict (models.others root)) strict hops

/-- References among definitions are followed to what the models accept. -/
theorem knows_followWithin (means : models.Means meaning) (reads : models.Reads strict accepts)
    (has : models.Has root) {hops : Nat} {names : List String}
    (written : ∀ name ∈ names, name ∈ models.others root)
    (enough : ∀ name ∈ names, meaning.height (schemasOf models strict (models.others root)) name ≤ hops) :
    Knows (surroundings models root strict hops) accepts names := by
  -- What a model mentions is lower than the model itself, so one hop less is enough for it.
  induction hops generalizing names with
  | zero =>
      intro name member
      obtain ⟨_, _, _, found⟩ := written_of_mem_others strict means has (written name member)
      exact absurd (enough name member) (Nat.not_le.mpr (height_pos (Table.has_of_get? found)))
  | succ hops ih =>
      intro name member value
      obtain ⟨path, model, there, found⟩ := written_of_mem_others strict means has (written name member)
      have fits := means there
      have inside : Knows (surroundings models root strict hops) accepts model.body.mentions := by
        refine ih (fun other mentioned => mem_others means path ⟨model, there, mentioned⟩) fun other mentioned => ?_
        have less := height_lt (Table.has_of_get? found) (fits.earlier other mentioned).2
        have bound := enough name member
        omega
      have passes : passes (surroundings models root strict hops) (.object (model.schemaFields strict)) value =
          model.acceptsIn accepts strict value := Definition.passes_schemaFields fits.regular inside value
      rw [reads there, ← passes]
      simp only [surroundings, followWithin, definition?, definitionName?_eq fits.literal, Option.bind_some, found]
      rfl

/-- The schema of a model finds nothing wrong with a value exactly if the model accepts it. -/
theorem check_jsonSchema (means : models.Means meaning) (reads : models.Reads strict accepts)
    (there : SortedTable.get? root models = some model) (value : Json) :
    (check (models.jsonSchema model strict) strict value).isEmpty = accepts root value := by
  have fits := means there
  have written : ∀ name ∈ model.body.mentions, name ∈ models.others root :=
    fun name member => mem_others means .refl ⟨model, there, member⟩
  have schema : models.jsonSchema model strict =
      .object (if (schemasOf models strict (models.others root)).isEmpty
        then Table.put "$schema" (.string dialect) (model.schemaFields strict)
        else Table.put "$defs" (.object (schemasOf models strict (models.others root)))
          (Table.put "$schema" (.string dialect) (model.schemaFields strict))) := by
    rw [← fits.named]
    rfl
  -- Neither `$schema` nor `$defs` says anything about a value.
  have read : ∀ env : Surroundings, env.strict = strict → Knows env accepts model.body.mentions → ∀ value,
      passes env (.object (Table.put "$schema" (.string dialect) (model.schemaFields strict))) value =
        model.acceptsIn accepts strict value := by
    rintro env rfl knows value
    rw [passes_put_idle (by decide), Definition.passes_schemaFields fits.regular knows]
  rw [check, reads there, schema]
  split
  · rename_i nothing
    refine read _ rfl (fun name member => ?_) value
    obtain ⟨_, _, _, found⟩ := written_of_mem_others strict means ⟨model, there⟩ (written name member)
    rw [List.isEmpty_iff.mp nothing] at found
    cases found
  · have definitions : definitionsOf (.object (Table.put "$defs" (.object (schemasOf models strict (models.others root)))
        (Table.put "$schema" (.string dialect) (model.schemaFields strict)))) =
        schemasOf models strict (models.others root) := by
      rw [definitionsOf, Json.get?, Table.get?_put_self]
      rfl
    have knows : Knows (surroundings models root strict (schemasOf models strict (models.others root)).length) accepts
        model.body.mentions :=
      knows_followWithin means reads ⟨model, there⟩ written fun _ _ => List.countP_le_length
    have idle : "$defs" ∈ idleKeywords := by decide
    simp only [definitions]
    rw [← read _ rfl knows value, ← passes_put_idle idle]
    rfl

/-- A validator accepts what the model of its handle does. -/
theorem accepts_validator (means : models.Means meaning) (reads : models.Reads strict accepts) {handle : Handle}
    (named : Handle.ofName? models name = some handle) {validator : Validator}
    (built : handle.validator strict = .ok validator) (value : Json) : validator.accepts value = accepts name value := by
  obtain ⟨model, there, rfl⟩ := Option.map_eq_some_iff.mp named
  rw [Handle.validator] at built
  split at built
  · cases built
  · cases built
    exact check_jsonSchema means reads there value

end Model

end ApiAtlas
