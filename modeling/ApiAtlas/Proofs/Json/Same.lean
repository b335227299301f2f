import Mathlib.Data.List.Nodup
import Mathlib.Data.List.Perm.Subperm
import ApiAtlas.Payload.Constraint
import ApiAtlas.Proofs.Table

/-! # Values that are the same

Documents have distinct keys in every object. Among such values, two that are the same are equal to the
same values, and as arguments of a keyword they constrain alike.
-/

namespace ApiAtlas

namespace Json

/-- The keys of every object in a value are distinct. -/
inductive Keyed : Json → Prop where
  | null : Keyed .null
  | bool (b : Bool) : Keyed (.bool b)
  | number (n : Number) : Keyed (.number n)
  | string (s : String) : Keyed (.string s)
  | array {items : List Json} : (∀ item ∈ items, Keyed item) → Keyed (.array items)
  | object {fields : List (String × Json)} : (Table.keys fields).Nodup →
    (∀ field ∈ fields, Keyed field.2) → Keyed (.object fields)

@[simp] theorem keyed_bool (b : Bool) : (Json.bool b).Keyed := .bool b

@[simp] theorem keyed_string (s : String) : (Json.string s).Keyed := .string s

@[simp] theorem keyed_array {items : List Json} : (Json.array items).Keyed ↔ ∀ item ∈ items, item.Keyed := by
  refine ⟨fun h => ?_, .array⟩
  cases h with
  | array each => exact each

@[simp] theorem keyed_object {fields : List (String × Json)} :
    (Json.object fields).Keyed ↔ (Table.keys fields).Nodup ∧ ∀ field ∈ fields, field.2.Keyed := by
  refine ⟨fun h => ?_, fun both => .object both.1 both.2⟩
  cases h with
  | object distinct each => exact ⟨distinct, each⟩

theorem Keyed.item {items : List Json} {item : Json} (h : (Json.array items).Keyed)
    (member : item ∈ items) : item.Keyed := keyed_array.mp h item member

theorem Keyed.distinct {fields : List (String × Json)} (h : (Json.object fields).Keyed) :
    (Table.keys fields).Nodup := (keyed_object.mp h).1

theorem Keyed.field {fields : List (String × Json)} {key : String} {value : Json}
    (h : (Json.object fields).Keyed) (member : (key, value) ∈ fields) : value.Keyed := by
  cases h with
  | object _ each => exact each _ member

theorem Keyed.get {fields : List (String × Json)} {key : String} {value : Json}
    (h : (Json.object fields).Keyed) (found : Table.get? key fields = some value) : value.Keyed :=
  h.field (Table.mem_of_get? found)

theorem sameFields_iff {first second : List (String × Json)} : sameFields first second ↔
    ∀ entry ∈ first, ∃ other, Table.get? entry.1 second = some other ∧ same entry.2 other := by
  induction first with
  | nil => simp [sameFields]
  | cons entry first ih =>
      obtain ⟨key, value⟩ := entry
      rw [sameFields, Bool.and_eq_true, ih, List.forall_mem_cons]
      cases Table.get? key second <;> simp

theorem equalFields_iff {first second : List (String × Json)} : equalFields first second ↔
    ∀ entry ∈ first, ∃ other, Table.get? entry.1 second = some other ∧ equal entry.2 other := by
  induction first with
  | nil => simp [equalFields]
  | cons entry first ih =>
      obtain ⟨key, value⟩ := entry
      rw [equalFields, Bool.and_eq_true, ih, List.forall_mem_cons]
      cases Table.get? key second <;> simp

/-- Of two tables with distinct keys and of one length, each matches every entry of the other. -/
theorem sameFields_back {first second : List (String × Json)} (distinct : (Table.keys first).Nodup)
    (distinct' : (Table.keys second).Nodup) (length : first.length = second.length)
    (h : sameFields first second) :
    ∀ entry ∈ second, ∃ other, (entry.1, other) ∈ first ∧ same other entry.2 := by
  have found := sameFields_iff.mp h
  have covered : Table.keys first ⊆ Table.keys second := by
    intro key member
    obtain ⟨value, member⟩ := Table.mem_keys.mp member
    obtain ⟨other, there, _⟩ := found _ member
    exact Table.mem_keys.mpr ⟨other, Table.mem_of_get? there⟩
  have perm : (Table.keys first).Perm (Table.keys second) :=
    (distinct.subperm covered).perm_of_length_le (by simp [Table.keys, length])
  intro entry member
  have key : entry.1 ∈ Table.keys first := perm.mem_iff.mpr (Table.mem_keys.mpr ⟨entry.2, member⟩)
  obtain ⟨other, there⟩ := Table.mem_keys.mp key
  obtain ⟨value, here, alike⟩ := found _ there
  rw [Table.get?_of_mem distinct' member] at here
  cases here
  exact ⟨other, there, alike⟩

theorem Number.same_iff {m n : Number} : m.same n ↔
    m = n ∨ ∃ x y, m = .double x ∧ n = .double y ∧ x.isZero ∧ y.isZero := by
  cases m <;> cases n <;> simp [Number.same]

end Json

theorem Binary64.value_of_isZero {x : Binary64} (h : x.isZero) : x.value = 0 := by
  obtain ⟨negative, mantissa, exponent⟩ := x
  obtain rfl : mantissa = 0 := eq_of_beq h
  have nothing : (Binary64.fraction ⟨negative, 0, exponent⟩).1 = 0 := by
    simp only [fraction, scale]
    split <;> simp
  simp only [value, nothing, Rat.div_def]
  simp

namespace Json

theorem Number.value_of_same {m n : Number} (h : m.same n) : m.value = n.value := by
  rcases Number.same_iff.mp h with rfl | ⟨x, y, rfl, rfl, first, second⟩
  · rfl
  · exact (Binary64.value_of_isZero first).trans (Binary64.value_of_isZero second).symm

theorem equalItems_of_same {items others values : List Json}
    (each : ∀ item ∈ items, ∀ other ∈ others, same item other → ∀ value, equal item value = equal other value)
    (h : sameItems items others) : equalItems items values = equalItems others values := by
  induction items generalizing others values with
  | nil =>
      cases others with
      | nil => rfl
      | cons => simp [sameItems] at h
  | cons item items ih =>
      cases others with
      | nil => simp [sameItems] at h
      | cons other others =>
          simp only [sameItems, Bool.and_eq_true] at h
          cases values with
          | nil => rfl
          | cons value values =>
              have rest : equalItems items values = equalItems others values :=
                ih (fun item member other member' => each item (List.mem_cons_of_mem _ member) other
                  (List.mem_cons_of_mem _ member')) h.2
              rw [equalItems, equalItems, rest,
                each item List.mem_cons_self other List.mem_cons_self h.1 value]

theorem equalFields_of_same {fields others values : List (String × Json)}
    (distinct : (Table.keys fields).Nodup) (distinct' : (Table.keys others).Nodup)
    (length : fields.length = others.length)
    (each : ∀ field ∈ fields, ∀ other ∈ others, same field.2 other.2 →
      ∀ value, equal field.2 value = equal other.2 value)
    (h : sameFields fields others) : equalFields fields values = equalFields others values := by
  rw [Bool.eq_iff_iff, equalFields_iff, equalFields_iff]
  constructor
  · intro found entry member
    obtain ⟨one, there, alike⟩ := sameFields_back distinct distinct' length h entry member
    obtain ⟨value, here, equals⟩ := found _ there
    exact ⟨value, here, (each _ there _ member alike value).symm.trans equals⟩
  · intro found entry member
    obtain ⟨other, there, alike⟩ := sameFields_iff.mp h entry member
    have member' := Table.mem_of_get? there
    obtain ⟨value, here, equals⟩ := found _ member'
    exact ⟨value, here, (each _ member _ member' alike value).trans equals⟩

/-- What is the same is equal to the same values. -/
theorem equal_of_same {first second : Json} (keyed : first.Keyed) (keyed' : second.Keyed)
    (h : same first second) (value : Json) : equal first value = equal second value := by
  induction keyed generalizing second value with
  | null | bool | string => cases second <;> simp_all [same]
  | number m =>
      cases second with
      | number n =>
          have alike := Number.value_of_same h
          cases value <;> simp [equal, alike]
      | _ => simp [same] at h
  | @array items _ ih =>
      cases second with
      | array others =>
          cases value with
          | array values =>
              exact equalItems_of_same
                (fun item member other member' alike => ih item member (keyed'.item member') alike) h
          | _ => rfl
      | _ => simp [same] at h
  | @object fields distinct _ ih =>
      cases second with
      | object others =>
          cases value with
          | object values =>
              simp only [same, Bool.and_eq_true, beq_iff_eq] at h
              have alike : equalFields fields values = equalFields others values :=
                equalFields_of_same distinct keyed'.distinct h.1
                  (fun field member other member' alike => ih field member (keyed'.field member') alike) h.2
              rw [equal, equal, h.1, alike]
          | _ => rfl
      | _ => simp [same] at h

end Json

namespace Payload

open Json (Number)

theorem isMultipleOf_of_same {unit other : Number} (h : unit.same other) (n : Number) :
    n.isMultipleOf unit = n.isMultipleOf other := by
  rcases Number.same_iff.mp h with rfl | ⟨x, y, rfl, rfl, first, second⟩
  · rfl
  · have integral {z : Binary64} (zero : z.isZero) : z.isIntegral := by
      rw [Binary64.isIntegral, Binary64.value_of_isZero zero]
      rfl
    have nearest (z : Binary64) : (Number.double z).nearestDouble? = some z := rfl
    rw [Number.isMultipleOf, Number.isMultipleOf, nearest, nearest]
    cases n.nearestDouble? with
    | none => rfl
    | some m =>
        simp only [integral first, integral second, Binary64.value_of_isZero first,
          Binary64.value_of_isZero second, if_true]

theorem count?_of_same {argument other : Json} (h : argument.same other) : count? argument = count? other := by
  cases argument <;> cases other <;> simp_all [Json.same, count?]
  rename_i m n
  rw [Number.integer?, Number.integer?, Number.value_of_same h]

theorem numberProblem_of_same {fails : Number → Number → Bool} {problem : Json → Json → Problem}
    {argument other : Json} (h : argument.same other)
    (values : ∀ n {m m' : Number}, m.value = m'.value → fails n m = fails n m') (value : Json) :
    (numberProblem fails problem argument value).isNone = (numberProblem fails problem other value).isNone := by
  cases argument <;> cases other <;> simp_all [Json.same, numberProblem]
  rename_i m m'
  cases value with
  | number n =>
      simp only [values n (Number.value_of_same h)]
      split <;> rfl
  | _ => rfl

theorem sizeProblem_of_same {size : Json → Option Nat} {fails : Nat → Nat → Bool}
    {problem : Json → Nat → Problem} {argument other : Json} (h : argument.same other) (value : Json) :
    sizeProblem size fails problem argument value = sizeProblem size fails problem other value := by
  rw [sizeProblem, sizeProblem, count?_of_same h]

theorem multipleProblem_of_same {argument other : Json} (h : argument.same other) (value : Json) :
    (multipleProblem argument value).isNone = (multipleProblem other value).isNone := by
  cases argument <;> cases other <;> simp_all [Json.same, multipleProblem]
  cases value with
  | number n =>
      simp only [isMultipleOf_of_same h n]
      split <;> rfl
  | _ => rfl

/-- Arguments that are the same constrain alike. -/
theorem constraintProblem_of_same {keyword : String} {argument other : Json} (keyed : argument.Keyed)
    (keyed' : other.Keyed) (h : argument.same other) (value : Json) :
    (constraintProblem keyword argument value).isNone = (constraintProblem keyword other value).isNone := by
  have text : patternProblem argument value = patternProblem other value := by
    cases argument <;> cases other <;> simp_all [Json.same, patternProblem]
  have truth : uniqueProblem argument value = uniqueProblem other value := by
    cases argument <;> cases other <;> simp_all [Json.same, uniqueProblem]
  have constant := Json.equal_of_same keyed keyed' h value
  unfold constraintProblem
  simp only [sizeProblem_of_same h value, text, truth, constant, apply_ite Option.isNone,
    multipleProblem_of_same h value, Option.isNone_none, Option.isNone_some]
  rw [numberProblem_of_same h fun n m m' alike => by rw [alike],
    numberProblem_of_same h fun n m m' alike => by rw [alike],
    numberProblem_of_same h fun n m m' alike => by rw [alike],
    numberProblem_of_same h fun n m m' alike => by rw [alike]]

end Payload

end ApiAtlas
