import ApiAtlas.Proofs.Document.Data
import ApiAtlas.Proofs.Schema.Resolves
import ApiAtlas.Proofs.Validation.References

/-! # What the walk visits

The walk over a document visits every place but those that names lead to through a keyword for data. With a schema
it visits the schemas inside it, and so it meets each reference that a resolver follows from there.
-/

namespace ApiAtlas

namespace Json

variable {named : Bool} {name : String} {names : List String}

/-- Names that lead to data, or on from there. -/
def LeadsIntoData (named : Bool) (names : List String) : Prop := ∃ part, part <+: names ∧ LeadsToData named part

theorem leadsIntoData_keyword (known : name ∈ References.valueKeywords) : LeadsIntoData false (name :: names) :=
  ⟨[name], List.cons_prefix_cons.mpr ⟨rfl, List.nil_prefix⟩, .keyword known⟩

theorem textAt?_of_get? {fields : Table Json} {key text : String}
    (written : Table.get? key fields = some (.string text)) : (Json.object fields).textAt? key = some text := by
  rw [textAt?, get?, written]
  rfl

theorem LeadsIntoData.inside (deeper : LeadsIntoData (References.nameTables.contains name) names) :
    LeadsIntoData named (name :: names) := by
  obtain ⟨part, starts, data⟩ := deeper
  exact ⟨name :: part, List.cons_prefix_cons.mpr ⟨rfl, starts⟩, .inside data⟩

end Json

namespace References

/-! ## Places that are visited -/

theorem mem_ofFields {pointer : String} {named : Bool} {fields : List (String × Json)} {entry : String × Json}
    (member : entry ∈ fields) (structural : named = false → entry.1 ∉ valueKeywords) :
    ⟨pointer ++ "/" ++ Pointer.escape entry.1, some entry.1, entry.2⟩ ∈ Spot.ofFields pointer named fields := by
  have kept : ¬ (!named && valueKeywords.contains entry.1) = true := by simpa using structural
  induction fields with
  | nil => cases member
  | cons field fields ih =>
      rw [Spot.ofFields]
      rcases List.mem_cons.mp member with rfl | member
      · rw [if_neg kept]
        exact List.mem_cons_self
      · split
        · exact ih member
        · exact List.mem_cons_of_mem _ (ih member)

theorem exists_mem_ofItems {pointer : String} {index : Nat} {items : List Json} {item : Json}
    (member : item ∈ items) : ∃ place, ⟨place, none, item⟩ ∈ Spot.ofItems pointer index items := by
  induction items generalizing index with
  | nil => cases member
  | cons first items ih =>
      rw [Spot.ofItems]
      rcases List.mem_cons.mp member with rfl | member
      · exact ⟨_, List.mem_cons_self⟩
      · obtain ⟨place, inside⟩ := ih member
        exact ⟨place, List.mem_cons_of_mem _ inside⟩

theorem weight_le_of_mem {spot : Spot} {spots : List Spot} (member : spot ∈ spots) :
    spot.value.weight ≤ Spot.weight spots := by
  induction spots with
  | nil => cases member
  | cons first spots ih =>
      rw [Spot.weight]
      rcases List.mem_cons.mp member with rfl | member
      · omega
      · have := ih member
        omega

/-- What is directly inside a spot of the walk is on the walk. -/
theorem mem_all_of_mem_inner {start spot part : Spot} (visited : spot ∈ start.all) (member : part ∈ spot.inner) :
    part ∈ start.all := by
  rw [start.all_eq] at visited ⊢
  refine List.mem_cons_of_mem _ (List.mem_flatMap.mpr ?_)
  rcases List.mem_cons.mp visited with rfl | inside
  · refine ⟨part, member, ?_⟩
    rw [part.all_eq]
    exact List.mem_cons_self
  · obtain ⟨first, here, inside⟩ := List.mem_flatMap.mp inside
    have lighter := (weight_le_of_mem here).trans_lt start.weight_inner
    exact ⟨first, here, mem_all_of_mem_inner inside member⟩
termination_by start.value.weight

/-- The walk over the document meets the value, as a table of names or not. -/
def Visits (doc : Document) (named : Bool) (value : Json) : Prop :=
  ∃ spot ∈ walk "" none doc.root, spot.isNameTable = named ∧ spot.value = value

namespace Visits

variable {doc : Document} {named : Bool} {value inner : Json} {key : String} {names : List String}

theorem root : Visits doc false doc.root := by
  have first : ⟨"", none, doc.root⟩ ∈ Spot.all ⟨"", none, doc.root⟩ := by
    rw [Spot.all_eq]
    exact List.mem_cons_self
  exact ⟨_, first, rfl, rfl⟩

theorem part {spot part : Spot} (visited : spot ∈ walk "" none doc.root) (member : part ∈ spot.inner) :
    Visits doc part.isNameTable part.value :=
  ⟨part, @mem_all_of_mem_inner ⟨"", none, doc.root⟩ spot part visited member, rfl, rfl⟩

theorem entry {fields : List (String × Json)} {entry : String × Json} (visits : Visits doc named (.object fields))
    (member : entry ∈ fields) (structural : named = false → entry.1 ∉ valueKeywords) :
    Visits doc (nameTables.contains entry.1) entry.2 := by
  obtain ⟨spot, visited, rfl, same⟩ := visits
  have inside : ⟨spot.pointer ++ "/" ++ Pointer.escape entry.1, some entry.1, entry.2⟩ ∈ spot.inner := by
    rw [Spot.inner, same]
    exact mem_ofFields member structural
  exact part visited inside

theorem item {items : List Json} {item : Json} (visits : Visits doc named (.array items)) (member : item ∈ items) :
    Visits doc false item := by
  obtain ⟨spot, visited, rfl, same⟩ := visits
  obtain ⟨place, member⟩ := @exists_mem_ofItems spot.pointer 0 items item member
  have inside : ⟨place, none, item⟩ ∈ spot.inner := by
    rw [Spot.inner, same]
    exact member
  exact part visited inside

theorem get? (visits : Visits doc named value) (found : value.get? key = some inner)
    (structural : named = false → key ∉ valueKeywords) : Visits doc (nameTables.contains key) inner := by
  cases value with
  | object fields => exact visits.entry (Table.mem_of_get? found) structural
  | _ => cases found

theorem position?_nameTable (known : key ∈ nameTables) : Pointer.position? key = none := by
  have none : ∀ key ∈ nameTables, Pointer.position? key = none := by decide +kernel
  exact none key known

theorem step (visits : Visits doc named value) (found : Pointer.step value key = some inner)
    (structural : named = false → key ∉ valueKeywords) : Visits doc (nameTables.contains key) inner := by
  cases value with
  | object fields => exact visits.get? found structural
  | array items =>
      obtain ⟨n, position, there⟩ := Option.bind_eq_some_iff.mp found
      have other : nameTables.contains key = false := by
        rw [Bool.eq_false_iff, ne_eq, List.contains_iff_mem]
        intro known
        rw [position?_nameTable known] at position
        cases position
      rw [other]
      exact visits.item (List.mem_of_getElem? there)
  | _ => cases found

/-- What names lead to is visited, unless they lead into data. -/
theorem follow (visits : Visits doc named value) (leads : Pointer.follow value names = some inner)
    (apart : ¬ Json.LeadsIntoData named names) : ∃ named, Visits doc named inner := by
  induction names generalizing named value with
  | nil =>
      cases leads
      exact ⟨named, visits⟩
  | cons name names ih =>
      obtain ⟨between, found, leads⟩ := Option.bind_eq_some_iff.mp leads
      have structural : named = false → name ∉ valueKeywords := by
        rintro rfl known
        exact apart (Json.leadsIntoData_keyword known)
      exact ih (visits.step found structural) leads fun deeper => apart deeper.inside

end Visits

/-! ## Schemas that are visited -/

namespace Visits

open Schema (Refers)

variable {doc : Document} {named : Bool} {fields : Table Json} {schema : Json}

/-- The schemas inside a schema are visited with it. -/
theorem inner (visits : Visits doc named (.object fields)) (member : schema ∈ Schema.inner fields) :
    ∃ named, Visits doc named schema := by
  have structural : ∀ key ∈ ["additionalProperties", "items", "allOf", "anyOf", "oneOf"], key ∉ valueKeywords := by
    decide
  cases Schema.standsIn_of_mem_inner member with
  | keyword known found => exact ⟨_, visits.get? found fun _ => structural _ (by grind)⟩
  | property found listed =>
      have table : Visits doc true (.object _) := visits.get? found fun _ => by decide
      exact ⟨_, table.entry listed nofun⟩
  | branch known found listed =>
      have items : Visits doc _ (.array _) := visits.get? found fun _ => structural _ (by grind)
      exact ⟨_, items.item listed⟩

/-- A reference that is followed from a schema that is visited is met on the walk. -/
theorem refers {name : String} (visits : Visits doc named schema) (refers : Refers schema name) :
    ∃ spot ∈ walk "" none doc.root, ∃ reference, spot.reference? = some reference ∧
      Schema.componentName? reference = some name := by
  induction refers generalizing named with
  | @here fields text name written target =>
      obtain ⟨spot, visited, _, same⟩ := visits
      exact ⟨spot, visited, text, by rw [Spot.reference?, same, Json.textAt?_of_get? written], target⟩
  | inside _ member _ ih =>
      obtain ⟨_, visits⟩ := visits.inner member
      exact ih visits

end Visits

end References

end ApiAtlas
