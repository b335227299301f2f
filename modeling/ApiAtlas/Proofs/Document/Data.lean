import ApiAtlas.Proofs.Document.Reordering
import ApiAtlas.Proofs.Json.Pointer
import ApiAtlas.Validation.References

/-! # Data in documents

Data stands under a keyword for data, unless the object around it is a table of names. Other data changes a
document neither where its structure is read nor where references lead that do not point into the data.
-/

namespace ApiAtlas

open References (nameTables valueKeywords)

theorem forall₂_modify {α : Type} {R : α → α → Prop} {change : α → α} (same : ∀ a, R a a) (changed : ∀ a, R a (change a))
    (list : List α) (n : Nat) : list.Forall₂ R (list.modify n change) := by
  induction list generalizing n with
  | nil => simp
  | cons a list ih =>
      cases n with
      | zero => exact .cons (changed a) (List.forall₂_same.mpr fun b _ => same b)
      | succ n => exact .cons (same a) (ih n)

theorem rel_cases {α β : Type} {R : α → β → Prop} {first : Option α} {second : Option β} (related : Option.Rel R first second) :
    (first = none ∧ second = none) ∨ ∃ value other, first = some value ∧ second = some other ∧ R value other := by
  cases related with
  | none => exact .inl ⟨rfl, rfl⟩
  | some inside => exact .inr ⟨_, _, rfl, rfl, inside⟩

theorem exists_of_rel {α β : Type} {R : α → β → Prop} {first : Option α} {second : Option β} {value : α}
    (related : Option.Rel R first second) (found : first = some value) : ∃ other, second = some other ∧ R value other := by
  subst found
  cases related with
  | some inside => exact ⟨_, rfl, inside⟩

theorem eq_none_of_rel {α β : Type} {R : α → β → Prop} {first : Option α} {second : Option β}
    (related : Option.Rel R first second) (absent : first = none) : second = none := by
  subst absent
  cases related
  rfl

namespace Json

/-- The value with a new one at the place that names lead to. -/
def replace (value : Json) (names : List String) (new : Json) : Json :=
  match names, value with
  | [], _ => new
  | name :: rest, .object fields => .object (Table.modify name (fun inner => inner.replace rest new) fields)
  | name :: rest, .array items =>
    match Pointer.position? name with
    | some n => .array (items.modify n fun inner => inner.replace rest new)
    | none => .array items
  | _ :: _, value => value

/-- Names that lead to data, from a value that is a table of names or not. -/
inductive LeadsToData : (named : Bool) → List String → Prop where
  | keyword {key : String} : key ∈ valueKeywords → LeadsToData false [key]
  | inside {named : Bool} {name : String} {rest : List String} :
    LeadsToData (nameTables.contains name) rest → LeadsToData named (name :: rest)

/-- Values that are the same but for data at one place. -/
def Varies (named : Bool) (value other : Json) : Prop :=
  value = other ∨ ∃ new names, LeadsToData named names ∧ other = value.replace names new

/-- Entries with the same key whose values vary. -/
def VariesEntry (entry other : String × Json) : Prop := entry.1 = other.1 ∧ Varies false entry.2 other.2

variable {named : Bool} {value other new : Json} {name key : String} {names rest : List String}

theorem LeadsToData.mono (data : LeadsToData named names) : LeadsToData false names := by
  cases data with
  | keyword known => exact .keyword known
  | inside deeper => exact .inside deeper

theorem leadsToData_concat (known : key ∈ valueKeywords) (table : names = [] → named = false)
    (around : ∀ last, names.getLast? = some last → last ∉ nameTables) : LeadsToData named (names ++ [key]) := by
  induction names generalizing named with
  | nil =>
      obtain rfl := table rfl
      exact .keyword known
  | cons name names ih =>
      refine .inside (ih ?_ fun last found => around last ?_)
      · rintro rfl
        simpa using around name rfl
      · rw [List.getLast?_cons, found]
        rfl

/-- A step of names that lead to the same place goes on inside, any other step is not affected. -/
theorem step_replace : Pointer.step (value.replace (name :: rest) new) key =
    if key = name then (Pointer.step value key).map (·.replace rest new) else Pointer.step value key := by
  cases value with
  | object fields =>
      rw [replace]
      exact Table.get?_modify
  | array items =>
      rw [replace]
      cases here : Pointer.position? name with
      | none =>
          by_cases same : key = name
          · simp [same, Pointer.step, here]
          · simp [same]
      | some n =>
          have written := Pointer.position?_eq_some_iff.mp here
          by_cases same : key = name
          · simp [same, Pointer.step, here, List.getElem?_modify]
          · rw [if_neg same, Pointer.step, Pointer.step]
            cases there : Pointer.position? key with
            | none => rfl
            | some m =>
                have apart : n ≠ m := by
                  rintro rfl
                  exact same ((Pointer.position?_eq_some_iff.mp there).trans written.symm)
                simp [List.getElem?_modify, apart]
  | _ => simp [replace, Pointer.step]

theorem get?_replace : (value.replace (name :: rest) new).get? key =
    if key = name then (value.get? key).map (·.replace rest new) else value.get? key := by
  cases value with
  | object fields =>
      rw [replace]
      exact Table.get?_modify
  | array items =>
      rw [replace]
      cases Pointer.position? name <;> simp [get?]
  | _ => simp [replace, get?]

namespace Varies

theorem refl : Varies named value value := .inl rfl

theorem rel_refl (found : Option Json) : Option.Rel (Varies named) found found := by
  cases found with
  | none => exact .none
  | some value => exact .some refl

theorem mono (varies : Varies named value other) : Varies false value other := by
  rcases varies with same | ⟨new, names, data, same⟩
  · exact .inl same
  · exact .inr ⟨new, names, data.mono, same⟩

theorem replace (data : LeadsToData named names) : Varies named value (value.replace names new) :=
  .inr ⟨new, names, data, rfl⟩

/-- What is read under a key that is no keyword for data varies, too. -/
theorem get? (varies : Varies named value other) (key : String) (structural : named = false → key ∉ valueKeywords) :
    Option.Rel (Varies (nameTables.contains key)) (value.get? key) (other.get? key) := by
  rcases varies with rfl | ⟨new, names, data, rfl⟩
  · exact rel_refl _
  · cases data with
    | @keyword word known =>
        have other : key ≠ word := by
          rintro rfl
          exact structural rfl known
        rw [get?_replace, if_neg other]
        exact rel_refl _
    | @inside _ name rest deeper =>
        rw [get?_replace]
        split
        · rename_i same
          subst same
          cases value.get? key with
          | none => exact .none
          | some inner => exact .some (replace deeper)
        · exact rel_refl _

end Varies

/-- How values that vary in data are built: alike, and a table of names has the same keys in the same order. -/
inductive VariesAs (named : Bool) : Json → Json → Prop where
  | null : VariesAs named .null .null
  | bool (b : Bool) : VariesAs named (.bool b) (.bool b)
  | number (n : Number) : VariesAs named (.number n) (.number n)
  | string (s : String) : VariesAs named (.string s) (.string s)
  | array {items others : List Json} : items.Forall₂ (Varies false) others → VariesAs named (.array items) (.array others)
  | object {fields others : List (String × Json)} :
    (named = true → fields.Forall₂ VariesEntry others) → VariesAs named (.object fields) (.object others)

theorem VariesAs.refl : VariesAs named value value := by
  cases value with
  | null => exact .null
  | bool b => exact .bool b
  | number n => exact .number n
  | string s => exact .string s
  | array items => exact .array (List.forall₂_same.mpr fun _ _ => .refl)
  | object fields => exact .object fun _ => List.forall₂_same.mpr fun _ _ => ⟨rfl, .refl⟩

theorem position?_valueKeyword (known : key ∈ valueKeywords) : Pointer.position? key = none := by
  have none : ∀ key ∈ valueKeywords, Pointer.position? key = none := by decide +kernel
  exact none key known

theorem Varies.view (varies : Varies named value other) : VariesAs named value other := by
  rcases varies with rfl | ⟨new, names, data, rfl⟩
  · exact .refl
  · cases data with
    | keyword known =>
        cases value with
        | array items =>
            rw [Json.replace, position?_valueKeyword known]
            exact .refl
        | object fields =>
            rw [Json.replace]
            exact .object nofun
        | _ => exact .refl
    | @inside _ name rest deeper =>
        cases value with
        | array items =>
            rw [Json.replace]
            cases Pointer.position? name with
            | none => exact .refl
            | some n => exact .array (forall₂_modify (fun _ => .refl) (fun _ => .replace deeper.mono) items n)
        | object fields =>
            rw [Json.replace]
            refine .object fun _ => List.forall₂_map_right_iff.mpr (List.forall₂_same.mpr fun entry _ => ⟨rfl, ?_⟩)
            split
            · exact .replace deeper.mono
            · exact .refl
        | _ => exact .refl

namespace Varies

theorem text? (varies : Varies named value other) : value.text? = other.text? := by
  cases varies.view <;> rfl

theorem isObject (varies : Varies named value other) : value.isObject = other.isObject := by
  cases varies.view <;> rfl

theorem textAt? (varies : Varies named value other) (key : String) (structural : named = false → key ∉ valueKeywords) :
    value.textAt? key = other.textAt? key := by
  unfold Json.textAt?
  rcases rel_cases (varies.get? key structural) with ⟨absent, absent'⟩ | ⟨_, _, found, found', inner⟩
  · rw [absent, absent']
  · rw [found, found']
    exact inner.text?

end Varies

/-- Names that do not lead into the place find there what varies at most. -/
theorem follow_replace (data : LeadsToData named names) {parts : List String} (apart : ¬ names <+: parts) :
    Option.Rel (Varies false) (Pointer.follow value parts) (Pointer.follow (value.replace names new) parts) := by
  induction parts generalizing named names value with
  | nil => exact .some (Varies.replace data).mono
  | cons part parts ih =>
      obtain ⟨name, rest, rfl⟩ : ∃ name rest, names = name :: rest := by
        cases data <;> exact ⟨_, _, rfl⟩
      rw [Pointer.follow, Pointer.follow, step_replace]
      split
      · rename_i same
        subst same
        cases Pointer.step value part with
        | none => exact .none
        | some inner =>
            have deeper : ¬ rest <+: parts := fun inside => apart (List.cons_prefix_cons.mpr ⟨rfl, inside⟩)
            cases data with
            | keyword known => exact absurd List.nil_prefix deeper
            | inside data => exact ih data deeper
      · exact Varies.rel_refl _

mutual
/-- The references that are written anywhere in the value. -/
def references (value : Json) : List String :=
  (value.textAt? "$ref").toList ++ match value with
    | .object fields => referencesOfFields fields
    | .array items => referencesOfItems items
    | _ => []

def referencesOfFields : List (String × Json) → List String
  | [] => []
  | (_, value) :: rest => value.references ++ referencesOfFields rest

def referencesOfItems : List Json → List String
  | [] => []
  | value :: rest => value.references ++ referencesOfItems rest
end

theorem mem_referencesOfFields {fields : List (String × Json)} {field : String × Json} {reference : String}
    (member : field ∈ fields) (written : reference ∈ field.2.references) : reference ∈ referencesOfFields fields := by
  induction fields with
  | nil => cases member
  | cons first fields ih =>
      rw [referencesOfFields, List.mem_append]
      rcases List.mem_cons.mp member with rfl | member
      · exact .inl written
      · exact .inr (ih member)

theorem mem_referencesOfItems {items : List Json} {item : Json} {reference : String} (member : item ∈ items)
    (written : reference ∈ item.references) : reference ∈ referencesOfItems items := by
  induction items with
  | nil => cases member
  | cons first items ih =>
      rw [referencesOfItems, List.mem_append]
      rcases List.mem_cons.mp member with rfl | member
      · exact .inl written
      · exact .inr (ih member)

theorem mem_references_of_step {inner : Json} {reference : String} (step : Pointer.step value name = some inner)
    (written : reference ∈ inner.references) : reference ∈ value.references := by
  cases value with
  | object fields =>
      rw [references, List.mem_append]
      exact .inr (mem_referencesOfFields (Table.mem_of_get? step) written)
  | array items =>
      rw [references, List.mem_append]
      obtain ⟨n, _, there⟩ := Option.bind_eq_some_iff.mp step
      exact .inr (mem_referencesOfItems (List.mem_of_getElem? there) written)
  | _ => cases step

theorem mem_references_of_follow {part : Json} {reference : String} (leads : Pointer.follow value names = some part)
    (written : part.textAt? "$ref" = some reference) : reference ∈ value.references := by
  induction names generalizing value with
  | nil =>
      cases leads
      cases part with
      | object fields =>
          rw [references, written]
          exact List.mem_append_left _ List.mem_cons_self
      | _ => cases written
  | cons name names ih =>
      obtain ⟨inner, step, leads⟩ := Option.bind_eq_some_iff.mp leads
      exact mem_references_of_step step (ih leads)

end Json

namespace Document

variable {doc : Document} {names : List String} {new : Json}

/-- The document with a new value at the place that names lead to. -/
def replace (doc : Document) (names : List String) (new : Json) : Document :=
  { doc with fields := (doc.root.replace names new).fields?.getD doc.fields }

/-- Whether some reference of the document points to the place that names lead to, or into it. -/
def pointsInto (doc : Document) (names : List String) : Bool :=
  doc.root.references.any fun reference =>
    ((Text.afterStart? "#" reference).bind Pointer.names?).any fun parts => names.isPrefixOf parts

theorem root_replace (some_ : names ≠ []) : (doc.replace names new).root = doc.root.replace names new := by
  cases names with
  | nil => exact absurd rfl some_
  | cons name rest => rfl

theorem resolveLocal?_replace (data : Json.LeadsToData false names) (free : doc.pointsInto names = false)
    {reference : String} (written : reference ∈ doc.root.references) :
    Option.Rel (Json.Varies false) (doc.resolveLocal? reference) ((doc.replace names new).resolveLocal? reference) := by
  have some_ : names ≠ [] := by
    rintro rfl
    cases data
  have apart := List.any_eq_false.mp free reference written
  unfold resolveLocal? Json.pointer?
  rw [root_replace some_]
  cases start : Text.afterStart? "#" reference with
  | none => exact .none
  | some pointer =>
      rw [Option.bind_some, Option.bind_some]
      cases read : Pointer.names? pointer with
      | none => exact .none
      | some parts =>
          apply Json.follow_replace data
          simpa [start, read] using apart

end Document

end ApiAtlas
