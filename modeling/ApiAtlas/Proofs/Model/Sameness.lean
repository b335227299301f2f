import ApiAtlas.Proofs.Model.Meaning
import ApiAtlas.Proofs.Schema.Regular

/-! # Models that are the same

A registry shares a model with an equal one. Equal models accept the same values, and what a model
accepts depends only on the models that it mentions.
-/

namespace ApiAtlas

theorem all_congr_of_mem {α : Type} {list : List α} {first second : α → Bool}
    (h : ∀ item ∈ list, first item = second item) : list.all first = list.all second := by
  rw [Bool.eq_iff_iff, List.all_eq_true, List.all_eq_true]
  exact forall₂_congr fun item member => by rw [h item member]

namespace Schema

namespace Facets

variable {facets other : Facets} {value : Json} {fits : Bool}

theorem any_equal_of_same {first second : List Json} (keyed : ∀ choice ∈ first, choice.Keyed)
    (keyed' : ∀ choice ∈ second, choice.Keyed) (h : Json.sameItems first second) (value : Json) :
    first.any (·.equal value) = second.any (·.equal value) := by
  induction first generalizing second with
  | nil =>
      cases second with
      | nil => rfl
      | cons => simp [Json.sameItems] at h
  | cons choice first ih =>
      cases second with
      | nil => simp [Json.sameItems] at h
      | cons choice' second =>
          simp only [Json.sameItems, Bool.and_eq_true] at h
          rw [List.forall_mem_cons] at keyed keyed'
          rw [List.any_cons, List.any_cons, Json.equal_of_same keyed.1 keyed'.1 h.1, ih keyed.2 keyed'.2 h.2]

theorem isEmpty_of_same {first second : List Json} (h : Json.sameItems first second) :
    first.isEmpty = second.isEmpty := by
  cases first <;> cases second <;> simp_all [Json.sameItems]

theorem Regular.constraints (regular : facets.Regular) : (Json.object facets.constraints).Keyed :=
  .object regular.distinct regular.arguments

/-- Constraints that are the same as tables find the same values admissible. -/
theorem constraints_of_same (regular : facets.Regular) (regular' : other.Regular)
    (h : (Json.object facets.constraints).same (.object other.constraints)) (value : Json) :
    (facets.constraints.all fun entry => (Payload.constraintProblem entry.1 entry.2 value).isNone) =
      other.constraints.all fun entry => (Payload.constraintProblem entry.1 entry.2 value).isNone := by
  simp only [Json.same, Bool.and_eq_true, beq_iff_eq] at h
  obtain ⟨length, alike⟩ := h
  rw [Bool.eq_iff_iff, List.all_eq_true, List.all_eq_true]
  constructor
  · rintro found ⟨keyword, argument⟩ member
    obtain ⟨one, there, alike⟩ :=
      Json.sameFields_back regular.distinct regular'.distinct length alike _ member
    have same : (Payload.constraintProblem keyword one value).isNone = _ :=
      Payload.constraintProblem_of_same (regular.arguments _ there) (regular'.arguments _ member) alike value
    exact same.symm.trans (found _ there)
  · rintro found ⟨keyword, argument⟩ member
    obtain ⟨one, there, alike⟩ := Json.sameFields_iff.mp alike _ member
    have member' := Table.mem_of_get? there
    have same : (Payload.constraintProblem keyword argument value).isNone = _ :=
      Payload.constraintProblem_of_same (regular.arguments _ member) (regular'.arguments _ member') alike value
    exact same.trans (found _ member')

theorem title_of_same (h : facets.same other) : facets.title = other.title := by
  simp only [same, Bool.and_eq_true, beq_iff_eq] at h
  obtain ⟨⟨⟨⟨⟨⟨⟨title, _⟩, _⟩, _⟩, _⟩, _⟩, _⟩, _⟩ := h
  exact title

theorem admits_of_same (regular : facets.Regular) (regular' : other.Regular) (h : facets.same other) :
    facets.admits value fits = other.admits value fits := by
  simp only [same, Bool.and_eq_true, beq_iff_eq] at h
  obtain ⟨⟨⟨_, choices⟩, nullable⟩, constraints⟩ := h
  rw [admits, admits, nullable, isEmpty_of_same choices,
    any_equal_of_same regular.choices regular'.choices choices,
    constraints_of_same regular regular' constraints]

/-- Facets that were applied already, apart from null, may be applied again. -/
theorem admits_again : facets.admits value (Facets.admits { facets with nullable := false } value fits) =
    facets.admits value fits := by
  simp only [admits, Bool.false_and, Bool.false_or]
  generalize (facets.choices.isEmpty || facets.choices.any (·.equal value)) = choices
  generalize (facets.constraints.all fun entry =>
    (Payload.constraintProblem entry.1 entry.2 value).isNone) = constraints
  cases fits <;> cases choices <;> cases constraints <;> rfl

end Facets

theorem undeclaredFields_congr {α β : Type} {properties : Table α} {others : Table β}
    (h : Table.keys properties = Table.keys others) (fields : Table Json) :
    undeclaredFields properties fields = undeclaredFields others fields := by
  simp only [undeclaredFields, Table.has_congr h]

/-- A relation between answers that conjunction and disjunction respect. -/
structure Congruent (R : Bool → Bool → Prop) : Prop where
  refl (answer : Bool) : R answer answer
  and {first second first' second' : Bool} : R first first' → R second second' →
    R (first && second) (first' && second')
  or {first second first' second' : Bool} : R first first' → R second second' →
    R (first || second) (first' || second')

namespace Congruent

variable {R : Bool → Bool → Prop} (congruent : Congruent R)

theorem eq : Congruent (· = ·) := ⟨fun _ => rfl, by simp_all, by simp_all⟩

theorem imp : Congruent fun first second => first = true → second = true := ⟨fun _ => id, by simp_all, by simp_all⟩

include congruent

theorem all {α : Type} {items : List α} {first second : α → Bool}
    (each : ∀ item ∈ items, R (first item) (second item)) :
    R (items.all first) (items.all second) := by
  induction items with
  | nil => exact congruent.refl _
  | cons item items ih =>
      rw [List.forall_mem_cons] at each
      exact congruent.and each.1 (ih each.2)

theorem any {α : Type} {items : List α} {first second : α → Bool}
    (each : ∀ item ∈ items, R (first item) (second item)) :
    R (items.any first) (items.any second) := by
  induction items with
  | nil => exact congruent.refl _
  | cons item items ih =>
      rw [List.forall_mem_cons] at each
      exact congruent.or each.1 (ih each.2)

theorem admits {facets : Facets} {value : Json} {first second : Bool} (fits : R first second) :
    R (facets.admits value first) (facets.admits value second) :=
  congruent.or (congruent.refl _) (congruent.and (congruent.and fits (congruent.refl _)) (congruent.refl _))

end Congruent

end Schema

namespace Model

open Schema (Additional Congruent UnionMode undeclaredFields)

variable {models others : String → Json → Bool}

theorem TypeExpr.variantsAccept_eq (types : List TypeExpr) (value : Json) :
    TypeExpr.variantsAccept models types value = types.map (·.accepts models value) := by
  induction types with
  | nil => rfl
  | cons type types ih => rw [variantsAccept, ih, List.map_cons]

mutual
/-- The lists of variants of which exactly one has to accept. -/
def TypeExpr.exclusives : TypeExpr → List (List TypeExpr)
  | .array items => items.exclusives
  | .map values => values.exclusives
  | .union .oneOf variants => variants :: exclusivesList variants
  | .union .anyOf variants => exclusivesList variants
  | .primitive _ => []
  | .model _ => []
  | .any => []

/-- The lists of exclusive variants in some type of a list. -/
def TypeExpr.exclusivesList : List TypeExpr → List (List TypeExpr)
  | [] => []
  | type :: rest => type.exclusives ++ exclusivesList rest
end

/-- Exactly one of the variants accepts as before if each of them does. -/
def Single (R : Bool → Bool → Prop) (models others : String → Json → Bool) (variants : List TypeExpr) : Prop :=
  (∀ variant ∈ variants, ∀ value, R (variant.accepts models value) (variant.accepts others value)) → ∀ value,
    R (UnionMode.oneOf.holds (TypeExpr.variantsAccept models variants value))
      (UnionMode.oneOf.holds (TypeExpr.variantsAccept others variants value))

theorem Single.eq (variants : List TypeExpr) : Single (· = ·) models others variants := by
  intro each value
  rw [TypeExpr.variantsAccept_eq, TypeExpr.variantsAccept_eq,
    List.map_congr_left fun variant member => each variant member value]

variable {R : Bool → Bool → Prop}

mutual
/-- What a type accepts is related as the answers of the models are that it mentions. -/
theorem TypeExpr.accepts_rel (congruent : Congruent R) (type : TypeExpr)
    (mentioned : ∀ name ∈ type.mentions, ∀ value, R (models name value) (others name value))
    (single : ∀ variants ∈ type.exclusives, Single R models others variants) (value : Json) :
    R (type.accepts models value) (type.accepts others value) := by
  cases type with
  | primitive | any => exact congruent.refl _
  | array items =>
      simp only [accepts]
      cases value with
      | array values => exact congruent.all fun value _ => TypeExpr.accepts_rel congruent items mentioned single value
      | _ => exact congruent.refl _
  | map values =>
      simp only [accepts]
      cases value with
      | object fields => exact congruent.all fun field _ => TypeExpr.accepts_rel congruent values mentioned single field.2
      | _ => exact congruent.refl _
  | model name => exact mentioned name (List.mem_singleton_self _) value
  | union mode variants =>
      cases mode with
      | anyOf =>
          simp only [accepts, UnionMode.holds, variantsAccept_eq, List.any_map]
          have each := TypeExpr.variants_rel congruent variants mentioned single
          exact congruent.any fun variant member => each variant member value
      | oneOf =>
          rw [exclusives, List.forall_mem_cons] at single
          exact single.1 (TypeExpr.variants_rel congruent variants mentioned single.2) value

theorem TypeExpr.variants_rel (congruent : Congruent R) (types : List TypeExpr)
    (mentioned : ∀ name ∈ TypeExpr.mentionsList types, ∀ value, R (models name value) (others name value))
    (single : ∀ variants ∈ TypeExpr.exclusivesList types, Single R models others variants) :
    ∀ type ∈ types, ∀ value, R (type.accepts models value) (type.accepts others value) := by
  cases types with
  | nil => exact nofun
  | cons type types =>
      rw [TypeExpr.mentionsList, List.forall_mem_append] at mentioned
      rw [TypeExpr.exclusivesList, List.forall_mem_append] at single
      rw [List.forall_mem_cons]
      exact ⟨TypeExpr.accepts_rel congruent type mentioned.1 single.1,
        TypeExpr.variants_rel congruent types mentioned.2 single.2⟩
end

/-- A type depends on the models that it mentions. -/
theorem TypeExpr.accepts_congr (type : TypeExpr) (h : ∀ name ∈ type.mentions, models name = others name)
    (value : Json) : type.accepts models value = type.accepts others value :=
  TypeExpr.accepts_rel .eq type (fun name member => congrFun (h name member)) (fun variants _ => .eq variants) value

theorem TypeExpr.mem_mentionsList {types : List TypeExpr} {name : String} :
    name ∈ TypeExpr.mentionsList types ↔ ∃ type ∈ types, name ∈ type.mentions := by
  induction types with
  | nil => simp [TypeExpr.mentionsList]
  | cons type types ih => simp [TypeExpr.mentionsList, ih]

/-- The models that a body mentions. -/
def Body.mentions (body : Body) : List String := TypeExpr.mentionsList body.types

theorem Body.mem_mentions_of_field {fields : List Field} {extra : Additional TypeExpr} {field : Field}
    {name : String} (member : field ∈ fields) (mentioned : name ∈ field.type.mentions) :
    name ∈ (Body.record fields extra).mentions :=
  TypeExpr.mem_mentionsList.mpr ⟨field.type, List.mem_append_left _ (List.mem_map_of_mem member), mentioned⟩

theorem Body.mem_mentions_of_extra {fields : List Field} {type : TypeExpr} {name : String}
    (mentioned : name ∈ type.mentions) : name ∈ (Body.record fields (.typed type)).mentions :=
  TypeExpr.mem_mentionsList.mpr ⟨type, List.mem_append_right _ (List.mem_singleton_self _), mentioned⟩

/-- The lists of variants in a body of which exactly one has to accept. -/
def Body.exclusives : Body → List (List TypeExpr)
  | .record fields extra => TypeExpr.exclusivesList (Body.record fields extra).types
  | .union mode variants => (TypeExpr.union mode variants).exclusives
  | .alias type => type.exclusives

section Modes

variable {before after : Bool}

theorem extraAccepts_closed_unspecified (entries : Table Json) :
    extraAccepts models (closed before .unspecified) entries = (!before || entries.isEmpty) := by
  cases before <;> rfl

/-- What a body accepts is related as the answers of the models are that it mentions and the modes are. -/
theorem Body.acceptsIn_rel (congruent : Congruent R) (modes : ∀ answer, R (!before || answer) (!after || answer))
    {body : Body} (mentioned : ∀ name ∈ body.mentions, ∀ value, R (models name value) (others name value))
    (single : ∀ variants ∈ body.exclusives, Single R models others variants) (value : Json) :
    R (body.acceptsIn models before value) (body.acceptsIn others after value) := by
  cases body with
  | record fields extra =>
      have inside : ∀ type ∈ (Body.record fields extra).types, ∀ value,
          R (type.accepts models value) (type.accepts others value) :=
        TypeExpr.variants_rel congruent _ mentioned single
      cases value with
      | object entries =>
          refine congruent.and (congruent.all fun field member => congruent.and ?_ (congruent.refl _)) ?_
          · cases Table.get? field.name entries with
            | none => exact congruent.refl _
            | some value =>
                have type := inside field.type (List.mem_append_left _ (List.mem_map_of_mem member)) value
                refine congruent.admits (congruent.and type ?_)
                rw [Schema.Facets.formatted_eq, Schema.Facets.formatted_eq after]
                exact modes _
          · cases extra with
            | unspecified =>
                rw [extraAccepts_closed_unspecified, extraAccepts_closed_unspecified]
                exact modes _
            | forbidden => exact congruent.refl _
            | typed type =>
                have type := inside type (List.mem_append_right _ (List.mem_singleton_self _))
                exact congruent.all fun field _ => type field.2
      | _ => exact congruent.refl _
  | union mode variants => exact TypeExpr.accepts_rel congruent (.union mode variants) mentioned single value
  | «alias» type =>
      refine TypeExpr.accepts_rel congruent type (fun name member => mentioned name ?_) single value
      exact TypeExpr.mem_mentionsList.mpr ⟨type, List.mem_singleton_self _, member⟩

theorem Definition.acceptsIn_rel (congruent : Congruent R) (modes : ∀ answer, R (!before || answer) (!after || answer))
    {model : Definition} (mentioned : ∀ name ∈ model.body.mentions, ∀ value, R (models name value) (others name value))
    (single : ∀ variants ∈ model.body.exclusives, Single R models others variants) (value : Json) :
    R (model.acceptsIn models before value) (model.acceptsIn others after value) := by
  refine congruent.admits (congruent.and (Body.acceptsIn_rel congruent modes mentioned single value) ?_)
  rw [Schema.Facets.formatted_eq, Schema.Facets.formatted_eq after]
  exact modes _

end Modes

/-- A body depends on the models that it mentions. -/
theorem Body.accepts_congr {body : Body} (h : ∀ name ∈ body.mentions, models name = others name)
    (value : Json) : body.accepts models value = body.accepts others value := by
  rw [← body.acceptsIn_lenient, ← body.acceptsIn_lenient]
  exact Body.acceptsIn_rel .eq (fun _ => rfl) (fun name member => congrFun (h name member))
    (fun variants _ => .eq variants) value

/-- A model depends on the models that it mentions. -/
theorem Definition.acceptsIn_congr {model : Definition} {strict : Bool}
    (h : ∀ name ∈ model.body.mentions, models name = others name) :
    model.acceptsIn models strict = model.acceptsIn others strict := by
  funext value
  exact Definition.acceptsIn_rel .eq (fun _ => rfl) (fun name member => congrFun (h name member))
    (fun variants _ => .eq variants) value

theorem Definition.accepts_congr {model : Definition} (h : ∀ name ∈ model.body.mentions, models name = others name) :
    model.accepts models = model.accepts others := by
  rw [← model.acceptsIn_lenient, ← model.acceptsIn_lenient, acceptsIn_congr h]

/-- Fields that are read from a document: their facets are, and their names are distinct. -/
structure Field.Regular (fields : List Field) : Prop where
  facets : ∀ field ∈ fields, field.facets.Regular
  names : (fields.map (·.name)).Nodup

/-- A body of which the fields are read from a document. -/
def Body.Regular : Body → Prop
  | .record fields _ => Field.Regular fields
  | .union _ _ => True
  | .alias _ => True

/-- A model of which the facets and the fields are read from a document. -/
structure Definition.Regular (model : Definition) : Prop where
  body : model.body.Regular
  facets : model.facets.Regular

theorem Field.accepts_of_same {field other : Field} (regular : field.facets.Regular)
    (regular' : other.facets.Regular) (h : field.same other) (value : Json) :
    field.accepts models value = other.accepts models value := by
  simp only [Field.same, Bool.and_eq_true, beq_iff_eq] at h
  rw [accepts, accepts, h.1.1.2, Schema.Facets.admits_of_same regular regular' h.2]

theorem Field.all_of_same {fields others : List Field} (regular : ∀ field ∈ fields, field.facets.Regular)
    (regular' : ∀ field ∈ others, field.facets.Regular) (h : Field.sameList fields others) :
    fields.map (·.name) = others.map (·.name) ∧ ∀ entries : Table Json,
      (fields.all fun field => field.fits models entries) = others.all fun field => field.fits models entries := by
  induction fields generalizing others with
  | nil =>
      cases others with
      | nil => exact ⟨rfl, fun _ => rfl⟩
      | cons => simp [Field.sameList] at h
  | cons field fields ih =>
      cases others with
      | nil => simp [Field.sameList] at h
      | cons other others =>
          simp only [Field.sameList, Bool.and_eq_true] at h
          obtain ⟨first, rest⟩ := h
          rw [List.forall_mem_cons] at regular regular'
          obtain ⟨names, all⟩ := ih regular.2 regular'.2 rest
          have accepts : field.accepts models = other.accepts models :=
            funext (Field.accepts_of_same regular.1 regular'.1 first)
          simp only [Field.same, Bool.and_eq_true, beq_iff_eq] at first
          refine ⟨by rw [List.map_cons, List.map_cons, names, first.1.1.1], fun entries => ?_⟩
          rw [List.all_cons, List.all_cons, all, fits, fits, accepts, first.1.1.1, first.1.2]

/-- Bodies that are the same accept the same values. -/
theorem Body.accepts_of_same {body other : Body} (regular : body.Regular) (regular' : other.Regular)
    (h : body.same other) (value : Json) : body.accepts models value = other.accepts models value := by
  cases body with
  | record fields extra =>
      cases other with
      | record fields' extra' =>
          simp only [same, Bool.and_eq_true, beq_iff_eq] at h
          obtain ⟨fieldsSame, rfl⟩ := h
          cases value with
          | object entries =>
              obtain ⟨names, all⟩ := @Field.all_of_same models _ _ regular.facets regular'.facets fieldsSame
              have keys : Table.keys (fields.map fun field => (field.name, field)) =
                  Table.keys (fields'.map fun field => (field.name, field)) := by
                simpa [Table.keys, Function.comp_def] using names
              simp only [accepts, all, Schema.undeclaredFields_congr keys]
          | _ => rfl
      | _ => cases h
  | union mode variants =>
      cases other with
      | union mode' variants' =>
          simp only [same, Bool.and_eq_true, beq_iff_eq] at h
          obtain ⟨rfl, rfl⟩ := h
          rfl
      | _ => cases h
  | «alias» type =>
      cases other with
      | «alias» type' =>
          obtain rfl : type = type' := eq_of_beq h
          rfl
      | _ => cases h

/-- Models that are the same, but for their names, accept the same values. -/
theorem Definition.accepts_of_same {model other : Definition} (regular : model.Regular)
    (regular' : other.Regular) (body : model.body.same other.body) (facets : model.facets.same other.facets)
    (value : Json) : model.accepts models value = other.accepts models value := by
  rw [accepts, accepts, Body.accepts_of_same regular.body regular'.body body,
    Schema.Facets.admits_of_same regular.facets regular'.facets facets]

end Model

end ApiAtlas
