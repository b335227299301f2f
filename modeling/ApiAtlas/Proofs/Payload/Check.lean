import ApiAtlas.Payload.Check
import ApiAtlas.Proofs.Model.Meaning
import ApiAtlas.Proofs.Table

/-! # Checking payloads, keyword by keyword

A schema finds nothing wrong exactly if none of its keywords does. Each keyword says what it says on its
own, but for `additionalProperties`, which reads the properties beside it.
-/

namespace ApiAtlas

namespace Payload

open Schema (UnionMode undeclaredFields)

variable {env : Surroundings} {siblings others entries fields : Table Json} {keyword : String}
  {argument value : Json}

/-- Keywords find nothing wrong with a value. -/
def allows (env : Surroundings) (siblings entries : Table Json) (value : Json) : Bool :=
  (keywordProblems env siblings entries value).isEmpty

/-- One keyword finds nothing wrong with a value. -/
def permits (env : Surroundings) (siblings : Table Json) (keyword : String) (argument value : Json) : Bool :=
  allows env siblings [(keyword, argument)] value

/-- A schema finds nothing wrong with a value. -/
def passes (env : Surroundings) (schema value : Json) : Bool := (problems env schema value).isEmpty

theorem passes_object : passes env (.object fields) value = allows env fields fields value := by
  rw [passes, problems, allows]

@[simp] theorem allows_nil : allows env siblings [] value = true := by rw [allows, keywordProblems]; rfl

theorem keywordProblems_nil : keywordProblems env siblings [] value = [] := by rw [keywordProblems]

theorem keywordProblems_cons : keywordProblems env siblings ((keyword, argument) :: entries) value =
    keywordProblems env siblings [(keyword, argument)] value ++ keywordProblems env siblings entries value := by
  rw [keywordProblems.eq_def, keywordProblems.eq_def env siblings [_]]
  dsimp only
  rw [keywordProblems_nil, List.append_nil]

theorem isEmpty_append {α : Type} (first second : List α) :
    (first ++ second).isEmpty = (first.isEmpty && second.isEmpty) := by
  cases first <;> rfl

theorem allows_cons : allows env siblings ((keyword, argument) :: entries) value =
    (permits env siblings keyword argument value && allows env siblings entries value) := by
  rw [allows, keywordProblems_cons, isEmpty_append, permits, allows, allows]

theorem allows_append : allows env siblings (entries ++ others) value =
    (allows env siblings entries value && allows env siblings others value) := by
  induction entries with
  | nil => simp
  | cons entry entries ih => rw [List.cons_append, allows_cons, allows_cons, ih, Bool.and_assoc]

theorem isEmpty_flatMap {α β : Type} (list : List α) (each : α → List β) :
    (list.flatMap each).isEmpty = list.all fun item => (each item).isEmpty := by
  induction list with
  | nil => rfl
  | cons item list ih => rw [List.flatMap_cons, isEmpty_append, ih, List.all_cons]

section Keywords

theorem permits_type {type : String} :
    permits env siblings "type" (.string type) value = hasType type value := by
  rw [permits, allows, keywordProblems.eq_def]
  cases fits : hasType type value <;> simp [keywordProblems_nil, typeProblems, fits]

theorem permits_items : permits env siblings "items" argument value =
    match value with
    | .array items => items.all fun item => passes env argument item
    | _ => true := by
  rw [permits, allows, keywordProblems.eq_def]
  cases value <;> simp [keywordProblems_nil, isEmpty_flatMap, passes]

theorem permits_reference {text : String} :
    permits env siblings "$ref" (.string text) value = (env.follow text value).isEmpty := by
  rw [permits, allows, keywordProblems.eq_def]
  simp [keywordProblems_nil]

theorem permits_enum {choices : List Json} :
    permits env siblings "enum" (.array choices) value = choices.any (·.equal value) := by
  rw [permits, allows, keywordProblems.eq_def]
  cases found : choices.any (·.equal value) <;> simp [keywordProblems_nil, choiceProblem, found]

theorem isEmpty_propertyProblems {properties : Table Json} :
    (propertyProblems env properties (.object fields)).isEmpty =
      properties.all fun property => (Table.get? property.1 fields).all (passes env property.2) := by
  induction properties with
  | nil => rw [propertyProblems]; rfl
  | cons property properties ih =>
      obtain ⟨name, schema⟩ := property
      rw [propertyProblems, isEmpty_append, ih, List.all_cons, Json.get?]
      cases Table.get? name fields <;> rfl

theorem permits_properties {properties : Table Json} :
    permits env siblings "properties" (.object properties) (.object fields) =
      properties.all fun property => (Table.get? property.1 fields).all (passes env property.2) := by
  rw [permits, allows, keywordProblems.eq_def, ← isEmpty_propertyProblems]
  simp [keywordProblems_nil]

theorem permits_required {names : List String} :
    permits env siblings "required" (Json.strings names) (.object fields) = names.all (Table.has · fields) := by
  rw [permits, allows, keywordProblems.eq_def]
  simp only [keywordProblems_nil, List.append_nil, missingNames, Json.strings]
  induction names with
  | nil => rfl
  | cons name names ih =>
      cases present : Table.has name fields <;> simp_all [Json.text?]

/-- The properties that stand beside a keyword. -/
def declaredBeside (siblings : Table Json) : Table Json :=
  ((Table.get? "properties" siblings).bind Json.fields?).getD []

theorem permits_forbidden : permits env siblings "additionalProperties" (.bool false) (.object fields) =
    (undeclaredFields (declaredBeside siblings) fields).isEmpty := by
  rw [permits, allows, keywordProblems.eq_def, undeclaredFields, declaredBeside]
  simp only [keywordProblems_nil, undeclared, List.append_nil, List.isEmpty_map]
  generalize fields.filter _ = rest
  cases rest <;> rfl

theorem permits_additional {schema : Table Json} :
    permits env siblings "additionalProperties" (.object schema) (.object fields) =
      (undeclaredFields (declaredBeside siblings) fields).all fun field => passes env (.object schema) field.2 := by
  rw [permits, allows, keywordProblems.eq_def, undeclaredFields, declaredBeside]
  simp [keywordProblems_nil, undeclared, isEmpty_flatMap]
  rfl

theorem isEmpty_unionProblems {mode : UnionMode} {findings : List (List Problem)} :
    (unionProblems mode value findings).isEmpty = mode.holds (findings.map List.isEmpty) := by
  have counted : (findings.filter List.isEmpty).length = (findings.map List.isEmpty).count true := by
    rw [List.count, List.countP_map, List.countP_eq_length_filter]
    congr 1
    exact List.filter_congr fun finding _ => by simp
  have some : (findings.map List.isEmpty).any id = decide (0 < (findings.map List.isEmpty).count true) := by
    rw [Bool.eq_iff_iff, List.any_eq_true, decide_eq_true_iff, List.count_pos_iff]
    exact ⟨fun ⟨_, member, same⟩ => same ▸ member, fun member => ⟨_, member, rfl⟩⟩
  unfold unionProblems
  rw [counted]
  cases mode with
  | anyOf =>
      rw [UnionMode.holds, some]
      rcases (findings.map List.isEmpty).count true with _ | _ | n <;> rfl
  | oneOf =>
      rw [UnionMode.holds]
      rcases (findings.map List.isEmpty).count true with _ | _ | n <;> simp

theorem variantProblems_eq (variants : List Json) :
    variantProblems env variants value = variants.map fun variant => problems env variant value := by
  induction variants with
  | nil => rw [variantProblems]; rfl
  | cons variant variants ih => rw [variantProblems, ih, List.map_cons]

theorem permits_union {mode : UnionMode} {variants : List Json} :
    permits env siblings mode.keyword (.array variants) value =
      mode.holds (variants.map fun variant => passes env variant value) := by
  have whole : permits env siblings mode.keyword (.array variants) value =
      (unionProblems mode value (variantProblems env variants value)).isEmpty := by
    rw [permits, allows, keywordProblems.eq_def]
    cases mode <;> simp [keywordProblems_nil, UnionMode.keyword]
  rw [whole, isEmpty_unionProblems, variantProblems_eq, List.map_map]
  rfl

/-- The keywords that are no constraints and yet say something. -/
def structuralKeywords : List String :=
  ["type", "properties", "required", "additionalProperties", "items", "anyOf", "oneOf", "$ref", "enum", "format"]

theorem permits_other (other : keyword ∉ structuralKeywords) :
    permits env siblings keyword argument value = (constraintProblem keyword argument value).isNone := by
  have toList : ∀ found : Option Problem, found.toList.isEmpty = found.isNone := by
    intro found
    cases found <;> rfl
  simp only [structuralKeywords, List.mem_cons, List.not_mem_nil, or_false, not_or] at other
  rw [permits, allows, keywordProblems.eq_def]
  simp [keywordProblems_nil, other, toList]

theorem permits_constraint (member : keyword ∈ Schema.constraintKeywords) :
    permits env siblings keyword argument value = (constraintProblem keyword argument value).isNone := by
  have apart : ∀ keyword ∈ Schema.constraintKeywords, keyword ∉ structuralKeywords := by decide
  exact permits_other (apart keyword member)

theorem permits_format {format : String} : permits env siblings "format" (.string format) value =
    formatAdmits env.strict format value := by
  rw [permits, allows, keywordProblems.eq_def]
  cases value with
  | string text =>
      cases env.strict <;> cases fits : Format.admits format text <;>
        simp [keywordProblems_nil, formatProblems, formatAdmits, fits]
  | _ => simp [keywordProblems_nil, formatProblems, formatAdmits]

/-- The keywords that say nothing about a value. -/
def idleKeywords : List String := ["title", "description", "default", "examples", "$schema", "$defs"]

theorem permits_idle (member : keyword ∈ idleKeywords) : permits env siblings keyword argument value = true := by
  have other : ∀ keyword ∈ idleKeywords, keyword ∉ structuralKeywords := by decide
  rw [permits_other (other keyword member)]
  simp only [idleKeywords, List.mem_cons, List.not_mem_nil, or_false] at member
  rcases member with rfl | rfl | rfl | rfl | rfl | rfl <;> rfl

end Keywords

/-- A keyword reads nothing beside it but the properties. -/
theorem permits_congr (same : Table.get? "properties" siblings = Table.get? "properties" others) :
    permits env siblings keyword argument value = permits env others keyword argument value := by
  have rest : undeclared siblings value = undeclared others value := by
    unfold undeclared
    rw [same]
  unfold permits allows
  rw [keywordProblems.eq_def, keywordProblems.eq_def env others]
  simp only [rest, keywordProblems_nil]

theorem allows_congr (same : Table.get? "properties" siblings = Table.get? "properties" others) :
    allows env siblings entries value = allows env others entries value := by
  induction entries with
  | nil => rw [allows_nil, allows_nil]
  | cons entry entries ih => rw [allows_cons, allows_cons, ih, permits_congr same]

theorem allows_put_idle (member : keyword ∈ idleKeywords) :
    allows env siblings (Table.put keyword argument entries) value = allows env siblings entries value := by
  induction entries with
  | nil => rw [Table.put, allows_cons, permits_idle member, Bool.true_and]
  | cons entry entries ih =>
      rw [Table.put]
      split
      · rename_i same
        subst same
        rw [allows_cons, allows_cons, permits_idle member, permits_idle member]
      · rw [allows_cons, allows_cons, ih]

theorem allows_put_of_fresh (fresh : Table.has keyword entries = false) :
    allows env siblings (Table.put keyword argument entries) value =
      (allows env siblings entries value && permits env siblings keyword argument value) := by
  rw [Table.put_of_not_has fresh, allows_append, allows_cons, allows_nil, Bool.and_true]

end Payload

end ApiAtlas
