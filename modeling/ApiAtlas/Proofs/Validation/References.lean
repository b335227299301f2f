import ApiAtlas.Proofs.Except
import ApiAtlas.Proofs.Json.Pointer
import ApiAtlas.Proofs.Json.Same
import ApiAtlas.Proofs.Sorted
import ApiAtlas.Validation.References

/-! # The walk over a document

The visit of pending spots goes over a document like the recursion that lists a value before what is inside it,
with the fields of an object and the items of an array in their order. It ends at the first spot whose
reference is broken, and the location of a spot leads to the value that stands there.
-/

namespace ApiAtlas

namespace References

mutual
/-- A value and all that is visited inside it, in document order. -/
def walk (pointer : String) (key : Option String) (value : Json) : List Spot :=
  ⟨pointer, key, value⟩ :: match value with
    | .object fields => walkFields pointer (key.any nameTables.contains) fields
    | .array items => walkItems pointer 0 items
    | _ => []

/-- Data is left out, but the values of a table of names are no data. -/
def walkFields (pointer : String) (named : Bool) : List (String × Json) → List Spot
  | [] => []
  | (key, value) :: rest =>
    if !named && valueKeywords.contains key then walkFields pointer named rest
    else walk (pointer ++ "/" ++ Pointer.escape key) (some key) value ++ walkFields pointer named rest

def walkItems (pointer : String) (index : Nat) : List Json → List Spot
  | [] => []
  | value :: rest => walk (pointer ++ "/" ++ toString index) none value ++ walkItems pointer (index + 1) rest
end

namespace Spot

/-- The spot and all that is visited inside it. -/
def all (spot : Spot) : List Spot := walk spot.pointer spot.key spot.value

variable {pointer : String} {named : Bool}

theorem flatMap_ofFields (fields : List (String × Json)) :
    (ofFields pointer named fields).flatMap all = walkFields pointer named fields := by
  induction fields with
  | nil => rfl
  | cons field fields ih =>
      rw [ofFields, walkFields]
      split
      · exact ih
      · rw [List.flatMap_cons, ih]
        rfl

theorem flatMap_ofItems (index : Nat) (items : List Json) :
    (ofItems pointer index items).flatMap all = walkItems pointer index items := by
  induction items generalizing index with
  | nil => rfl
  | cons item items ih =>
      rw [ofItems, walkItems, List.flatMap_cons, ih]
      rfl

/-- What is inside a spot comes right after it. -/
theorem all_eq (spot : Spot) : spot.all = spot :: spot.inner.flatMap all := by
  obtain ⟨pointer, key, value⟩ := spot
  cases value with
  | object fields =>
      rw [all, walk]
      exact congrArg _ (flatMap_ofFields fields).symm
  | array items =>
      rw [all, walk]
      exact congrArg _ (flatMap_ofItems 0 items).symm
  | _ => simp [all, walk, inner]

/-- The reference of a spot, if it has one. -/
def reference? (spot : Spot) : Option String := spot.value.textAt? "$ref"

/-- The component that a spot refers to, if it refers to one. -/
def component? (spot : Spot) : Option String := spot.reference?.bind Schema.componentName?

end Spot

variable {doc : Document} {spot : Spot} {violation : Violation}

/-- A reference that does not stay in the document, or does not lead anywhere in it. -/
def Broken (doc : Document) (reference : String) : Prop :=
  Text.afterStart? "#" reference = none ∨ doc.resolveLocal? reference = none

theorem broken_iff {reference : String} : Broken doc reference ↔ doc.resolveLocal? reference = none := by
  constructor
  · intro broken
    rcases broken with foreign | nowhere
    · rw [Document.resolveLocal?, foreign]
      rfl
    · exact nowhere
  · exact .inr

/-- The reference of a spot, if it has one, is not broken. -/
def Intact (doc : Document) (spot : Spot) : Prop :=
  ∀ reference, spot.reference? = some reference → ¬ Broken doc reference

theorem inspect_eq_error_iff : inspect doc spot = .error violation ↔ ∃ reference,
    spot.reference? = some reference ∧ Broken doc reference ∧
    violation = .ofSchema spot.location (.unresolved reference) := by
  rw [inspect, ← Spot.reference?]
  cases spot.reference? with
  | none => simp
  | some reference => cases leads : doc.resolveLocal? reference <;> simp [broken_iff, leads, eq_comm]

theorem inspect_eq_ok_iff {name : Option String} :
    inspect doc spot = .ok name ↔ Intact doc spot ∧ spot.component? = name := by
  rw [inspect, ← Spot.reference?, Intact, Spot.component?]
  cases spot.reference? with
  | none => simp
  | some reference => cases leads : doc.resolveLocal? reference <;> simp [broken_iff, leads]

/-- Whether a visit ends with an error depends on the references alone. -/
def verify (doc : Document) (spots : List Spot) : Except Violation Unit :=
  spots.forM fun spot => (inspect doc spot).map fun _ => ()

/-- A visit of pending spots verifies each of them with all that is inside it before the next one. -/
theorem visit_eq (pending : List Spot) (found : SortedSet String) : visit doc pending found =
    (verify doc (pending.flatMap Spot.all)).map fun _ =>
      SortedSet.insertAll ((pending.flatMap Spot.all).filterMap Spot.component?) found := by
  have next (spot : Spot) (rest : List Spot) : (spot :: rest).flatMap Spot.all =
      spot :: (spot.inner ++ rest).flatMap Spot.all := by
    rw [List.flatMap_cons, spot.all_eq, List.cons_append, List.flatMap_append]
  fun_induction visit doc pending found with
  | case1 found => rfl
  | case2 found spot rest violation fails =>
      have first : verify doc (spot :: (spot.inner ++ rest).flatMap Spot.all) = .error violation := by
        simp [verify, fails, Except.map, bind, Except.bind]
      rw [next, first]
      rfl
  | case3 found spot rest name passes ih =>
      obtain ⟨-, rfl⟩ := inspect_eq_ok_iff.mp passes
      have first : verify doc (spot :: (spot.inner ++ rest).flatMap Spot.all) =
          verify doc ((spot.inner ++ rest).flatMap Spot.all) := by
        simp [verify, passes, Except.map, bind, Except.bind]
      rw [next, first, ih, List.filterMap_cons]
      cases spot.component? <;> rfl

theorem check_eq : check doc = (verify doc (walk "" none doc.root)).map fun _ =>
    SortedSet.ofList ((walk "" none doc.root).filterMap Spot.component?) := by
  have whole : [⟨"", none, doc.root⟩].flatMap Spot.all = walk "" none doc.root := List.append_nil _
  rw [check, visit_eq, whole]
  rfl

/-! ## Locations -/

section Locations

variable {pointer : String} {named : Bool} {fields : List (String × Json)} {items : List Json}

theorem mem_walkFields (member : spot ∈ walkFields pointer named fields) :
    ∃ field ∈ fields, spot ∈ walk (pointer ++ "/" ++ Pointer.escape field.1) (some field.1) field.2 := by
  induction fields with
  | nil => cases member
  | cons field fields ih =>
      have later (there : spot ∈ walkFields pointer named fields) : ∃ other ∈ field :: fields,
          spot ∈ walk (pointer ++ "/" ++ Pointer.escape other.1) (some other.1) other.2 := by
        obtain ⟨other, inside, there⟩ := ih there
        exact ⟨other, List.mem_cons_of_mem _ inside, there⟩
      rw [walkFields] at member
      split at member
      · exact later member
      · rcases List.mem_append.mp member with here | there
        · exact ⟨field, List.mem_cons_self, here⟩
        · exact later there

theorem mem_walkItems {index : Nat} (member : spot ∈ walkItems pointer index items) :
    ∃ n item, items[n]? = some item ∧ spot ∈ walk (pointer ++ "/" ++ toString (index + n)) none item := by
  induction items generalizing index with
  | nil => cases member
  | cons item items ih =>
      rw [walkItems] at member
      rcases List.mem_append.mp member with here | there
      · exact ⟨0, item, rfl, here⟩
      · obtain ⟨n, other, inside, there⟩ := ih there
        refine ⟨n + 1, other, inside, ?_⟩
        rwa [Nat.add_right_comm, Nat.add_assoc] at there

/-- The pointer of a spot is written from names that lead to its value. -/
theorem exists_names_of_mem_walk {key : Option String} {value : Json} (keyed : value.Keyed)
    (member : spot ∈ walk pointer key value) :
    ∃ names, spot.pointer = pointer ++ Pointer.write names ∧ Pointer.follow value names = some spot.value := by
  induction keyed generalizing pointer key with
  | @object fields distinct _ ih =>
      rw [walk] at member
      rcases List.mem_cons.mp member with rfl | inside
      · exact ⟨[], by simp, rfl⟩
      · obtain ⟨field, there, inside⟩ := mem_walkFields inside
        obtain ⟨names, written, leads⟩ := ih field there inside
        refine ⟨field.1 :: names, ?_, ?_⟩
        · rw [written, Pointer.write_cons]
          simp [String.append_assoc]
        · rw [Pointer.follow, Pointer.step, Table.get?_of_mem distinct there]
          exact leads
  | @array items _ ih =>
      rw [walk] at member
      rcases List.mem_cons.mp member with rfl | inside
      · exact ⟨[], by simp, rfl⟩
      · obtain ⟨n, item, there, inside⟩ := mem_walkItems inside
        rw [Nat.zero_add] at inside
        obtain ⟨names, written, leads⟩ := ih item (List.mem_of_getElem? there) inside
        refine ⟨toString n :: names, ?_, ?_⟩
        · rw [written, Pointer.write_cons, Pointer.escape_toString]
          simp [String.append_assoc]
        · rw [Pointer.follow, Pointer.step, Pointer.position?_eq_some_iff.mpr rfl, Option.bind_some, there]
          exact leads
  | _ =>
      simp only [walk, List.mem_singleton] at member
      subst member
      exact ⟨[], by simp, rfl⟩

theorem resolveLocal?_location (keyed : doc.root.Keyed) (member : spot ∈ walk "" none doc.root) :
    doc.resolveLocal? spot.location = some spot.value := by
  obtain ⟨names, written, leads⟩ := exists_names_of_mem_walk keyed member
  rw [Document.resolveLocal?, Spot.location, Text.afterStart?_append, Option.bind_some, written, String.empty_append,
    Json.pointer?_write, leads]

end Locations

/-- The reference of a spot is the first one in document order that is broken. -/
def FirstBroken (doc : Document) (spot : Spot) (reference : String) : Prop :=
  (∃ before after, walk "" none doc.root = before ++ spot :: after ∧ ∀ earlier ∈ before, Intact doc earlier) ∧
  spot.reference? = some reference ∧ Broken doc reference

theorem verify_walk_eq_error_iff : verify doc (walk "" none doc.root) = .error violation ↔
    ∃ spot reference, FirstBroken doc spot reference ∧ violation = .ofSchema spot.location (.unresolved reference) := by
  have passes {other : Spot} : ((inspect doc other).map fun _ => ()) = .ok () ↔ Intact doc other := by
    constructor
    · intro passes
      cases result : inspect doc other with
      | error violation =>
          rw [result] at passes
          cases passes
      | ok name => exact (inspect_eq_ok_iff.mp result).1
    · intro intact
      rw [inspect_eq_ok_iff.mpr ⟨intact, rfl⟩]
      rfl
  have fails {other : Spot} : ((inspect doc other).map fun _ => ()) = .error violation ↔
      inspect doc other = .error violation := by
    cases inspect doc other <;> simp [Except.map]
  simp only [verify, forM_eq_error_iff, passes, fails, inspect_eq_error_iff]
  constructor
  · intro ⟨before, spot, after, same, intact, reference, written, broken, named⟩
    exact ⟨spot, reference, ⟨⟨before, after, same, intact⟩, written, broken⟩, named⟩
  · intro ⟨spot, reference, ⟨⟨before, after, same, intact⟩, written, broken⟩, named⟩
    exact ⟨before, spot, after, same, intact, reference, written, broken, named⟩

theorem verify_walk_eq_ok_iff : verify doc (walk "" none doc.root) = .ok () ↔
    ∀ spot ∈ walk "" none doc.root, Intact doc spot := by
  rw [verify, forM_eq_ok_iff]
  apply forall₂_congr
  intro spot _
  cases result : inspect doc spot with
  | error violation =>
      obtain ⟨reference, written, broken, -⟩ := inspect_eq_error_iff.mp result
      exact iff_of_false nofun fun intact => intact reference written broken
  | ok name => exact iff_of_true rfl (inspect_eq_ok_iff.mp result).1

theorem check_eq_ok_iff {found : SortedSet String} : check doc = .ok found ↔
    (∀ spot ∈ walk "" none doc.root, Intact doc spot) ∧
      found = SortedSet.ofList ((walk "" none doc.root).filterMap Spot.component?) := by
  rw [check_eq, ← verify_walk_eq_ok_iff]
  cases verify doc (walk "" none doc.root) <;> simp [Except.map, eq_comm]

/-- What checking the references of a document comes to. -/
structure Checks (doc : Document) : Prop where
  error_iff {violation : Violation} : check doc = .error violation ↔
    ∃ spot reference, FirstBroken doc spot reference ∧ violation = .ofSchema spot.location (.unresolved reference)
  location {spot : Spot} {reference : String} :
    FirstBroken doc spot reference → doc.resolveLocal? spot.location = some spot.value
  ok_iff {found : SortedSet String} : check doc = .ok found ↔ (∀ spot ∈ walk "" none doc.root, Intact doc spot) ∧
    found = SortedSet.ofList ((walk "" none doc.root).filterMap Spot.component?)
  components {found : SortedSet String} : check doc = .ok found → ∀ name, name ∈ found ↔
    ∃ spot ∈ walk "" none doc.root, ∃ reference, spot.reference? = some reference ∧
      Schema.componentName? reference = some name

theorem check_follows_walk (keyed : doc.root.Keyed) : Checks doc := by
  constructor
  · intro violation
    rw [check_eq, ← verify_walk_eq_error_iff]
    cases verify doc (walk "" none doc.root) <;> simp [Except.map]
  · intro spot reference ⟨⟨before, after, same, _⟩, _⟩
    exact resolveLocal?_location keyed (by simp [same])
  · exact check_eq_ok_iff
  · intro found passes name
    rw [(check_eq_ok_iff.mp passes).2, SortedSet.mem_ofList, List.mem_filterMap]
    simp only [Spot.component?, Option.bind_eq_some_iff]

/-- Keys with slashes, tildes and nothing in them, and a property that is named like a keyword for data. What the last
reference is remains open. -/
def tangledDocument (reference : String) : Document where
  path := "tangled.json"
  relativePath := "tangled.json"
  fields := [("components", .object [("schemas", .object
    [("a/b~c", .object
      [("example", .object [("$ref", .string "other.json")]),
       ("properties", .object
        [("", .object [("$ref", .string "#/components/schemas/Leaf")]),
         ("default", .object [("allOf", .array [.object [], .object [("$ref", .string reference)]])])])]),
     ("Leaf", .object [("type", .string "string")])])])]

/-- The location and the reference that an error is about. -/
def complaint? : Except Violation (SortedSet String) → Option (String × String)
  | .error { location := some location, cause := some (.unresolved reference), .. } => some (location, reference)
  | _ => none

theorem check_follows_walk_tangled : (∀ reference, (tangledDocument reference).root.Keyed) ∧
    (∃ spot, FirstBroken (tangledDocument "#/nowhere") spot "#/nowhere" ∧
      spot.location = "#/components/schemas/a~1b~0c/properties/default/allOf/1" ∧
      spot.value = .object [("$ref", .string "#/nowhere")] ∧
      check (tangledDocument "#/nowhere") = .error (.ofSchema spot.location (.unresolved "#/nowhere"))) ∧
    check (tangledDocument "#/components/schemas/a~1b~0c") = .ok ["Leaf", "a/b~c"] ∧
    ∃ spot ∈ walk "" none (tangledDocument "#/components/schemas/a~1b~0c").root, ∃ reference,
      spot.reference? = some reference ∧ Schema.componentName? reference = some "a/b~c" := by
  have keyed (reference : String) : (tangledDocument reference).root.Keyed := by
    simp [tangledDocument, Document.root, Table.keys]
  refine ⟨keyed, ?_, ?_⟩
  · have fails : complaint? (check (tangledDocument "#/nowhere")) =
        some ("#/components/schemas/a~1b~0c/properties/default/allOf/1", "#/nowhere") := by
      rw [check_eq]
      decide +kernel
    cases result : check (tangledDocument "#/nowhere") with
    | ok found =>
        rw [result] at fails
        cases fails
    | error violation =>
        obtain ⟨spot, reference, first, same⟩ := (check_follows_walk (keyed _)).error_iff.mp result
        rw [result, same] at fails
        obtain ⟨located, rfl⟩ := Prod.mk.inj (Option.some.inj fails)
        have leads := (check_follows_walk (keyed _)).location first
        rw [located] at leads
        exact ⟨spot, first, located, (Option.some.inj leads).symm, congrArg _ same⟩
  · have passes : (check (tangledDocument "#/components/schemas/a~1b~0c")).toOption = some ["Leaf", "a/b~c"] := by
      rw [check_eq]
      decide +kernel
    rw [toOption_eq_some_iff] at passes
    exact ⟨passes, ((check_follows_walk (keyed _)).components passes "a/b~c").mp (by decide)⟩

end References

end ApiAtlas
