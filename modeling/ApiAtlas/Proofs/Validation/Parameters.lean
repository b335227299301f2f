import ApiAtlas.Proofs.Document.Keyed
import ApiAtlas.Proofs.Validation.Accepted
import ApiAtlas.Proofs.Validation.Visits

/-! # Parameters that are kept

The structural validator asks of an entry that it has a name and some place, and looks at the entry itself when
its reference leads nowhere. Reading the parameters asks for a place that is known and for a reference that leads
somewhere. What is accepted and not read is left out, and all else is kept in its order.
-/

namespace ApiAtlas

open References (Visits valueKeywords)

/-- A parameter is what an object says. -/
structure Parameter.Reads (object : Json) (parameter : Parameter) : Prop where
  name : object.textAt? "name" = some parameter.name
  place : (object.textAt? "in").bind ParameterPlace.ofText? = some parameter.place
  required : parameter.required = (parameter.place == .path || (object.boolAt? "required").getD false)
  description : parameter.description = object.textAt? "description"
  schema : parameter.schema = object.get? "schema"

/-- An entry with a name is read exactly if its place is known. -/
theorem Parameter.ofValue?_of_named {object : Json} {name : String} (named : object.textAt? "name" = some name) :
    (ofValue? object).isSome = ((object.textAt? "in").bind ParameterPlace.ofText?).isSome := by
  rw [ofValue?, named]
  cases (object.textAt? "in").bind ParameterPlace.ofText? <;> rfl

theorem Parameter.reads_of_ofValue? {object : Json} {parameter : Parameter}
    (read : ofValue? object = some parameter) : parameter.Reads object := by
  obtain ⟨name, named, read⟩ := Option.bind_eq_some_iff.mp read
  obtain ⟨place, placed, read⟩ := Option.bind_eq_some_iff.mp read
  cases read
  exact ⟨named, placed, rfl, rfl, rfl⟩

namespace Operation

/-- The place of a declared parameter, if its reference leads somewhere and the place is known. -/
def placeOf? (doc : Document) (entry : Json) : Option ParameterPlace :=
  (dereference? doc entry).bind fun object => (object.textAt? "in").bind ParameterPlace.ofText?

/-- An entry declares a parameter, itself or where its reference leads to. -/
def Declares (doc : Document) (entry : Json) (parameter : Parameter) : Prop :=
  ∃ object, dereference? doc entry = some object ∧ parameter.Reads object

theorem parameters_eq (doc : Document) (op : Operation) : op.parameters doc =
    op.declaredParameters.filterMap fun entry => (dereference? doc entry).bind Parameter.ofValue? := by
  rw [parameters, declaredParameters, List.filterMap_flatMap]

end Operation

/-- What a selection leaves are the values of the elements that have one, in their order. -/
theorem forall₂_filterMap {α β : Type} {R : α → β → Prop} {select : α → Option β} {keep : α → Bool} {list : List α}
    (kept : ∀ a ∈ list, (select a).isSome = keep a) (related : ∀ {a b}, select a = some b → R a b) :
    (list.filter keep).Forall₂ R (list.filterMap select) := by
  induction list with
  | nil => exact .nil
  | cons a list ih =>
      obtain ⟨here, rest⟩ := List.forall_mem_cons.mp kept
      rw [List.filter_cons, ← here, List.filterMap_cons]
      cases selected : select a with
      | none => exact ih rest
      | some b => exact .cons (related selected) (ih rest)

namespace References.Visits

variable {doc : Document} {named : Bool} {value : Json}

/-- What is visited has no broken reference. -/
theorem dereference? (visits : Visits doc named value) {found : SortedSet String} (passes : check doc = .ok found) :
    ∃ object, Operation.dereference? doc value = some object := by
  obtain ⟨spot, visited, _, rfl⟩ := visits
  rw [Operation.dereference?]
  cases written : spot.value.textAt? "$ref" with
  | none => exact ⟨_, rfl⟩
  | some reference =>
      have intact : Intact doc spot := (check_eq_ok_iff.mp passes).1 spot visited
      exact Option.ne_none_iff_exists'.mp fun nowhere => intact reference written (broken_iff.mpr nowhere)

theorem parameter (visits : Visits doc named value) {entry : Json}
    (member : entry ∈ (value.itemsAt? "parameters").getD []) : Visits doc false entry := by
  obtain ⟨entries, found, listed⟩ := Json.exists_items_of_mem member
  have list : Visits doc false (.array entries) := visits.get? found fun _ => by decide
  exact list.item listed

/-- The entries are visited, unless the path has the name of a keyword for data. -/
theorem declaredParameter {op : Operation} (member : op ∈ doc.operations) (path : op.path ∉ valueKeywords)
    {entry : Json} (declared : entry ∈ op.declaredParameters) : Visits doc false entry := by
  obtain ⟨items, written, listed, there⟩ := Document.exists_paths_of_mem_operations member
  have paths : Visits doc false (.object items) := root.get? written fun _ => by decide
  have item : Visits doc _ op.item := paths.entry listed fun _ => path
  have structural : op.key.text ∉ valueKeywords := by cases op.key <;> decide
  obtain ⟨source, either, declared⟩ := List.mem_flatMap.mp declared
  rcases List.mem_pair.mp either with rfl | rfl
  · exact item.parameter declared
  · exact (item.get? there fun _ => structural).parameter declared

end References.Visits

namespace Structure

open Operation (Declares placeOf?)

variable {doc : Document} {op : Operation} {entry : Json}

/-- A declared parameter that is accepted is read exactly if its place is known. -/
theorem AcceptedParameter.isSome_eq (accepted : AcceptedParameter doc entry) :
    ((Operation.dereference? doc entry).bind Parameter.ofValue?).isSome = (placeOf? doc entry).isSome := by
  obtain ⟨name, named, _⟩ := accepted.name
  rw [placeOf?]
  cases leads : Operation.dereference? doc entry with
  | none => rfl
  | some object =>
      rw [leads, Option.getD_some] at named
      exact Parameter.ofValue?_of_named named

/-- How the parameters of an operation come from the entries that declare them: they are those whose place is known,
and unless the path has the name of a keyword for data, each entry says somewhere what its place is. -/
structure ReadsParameters (doc : Document) (op : Operation) : Prop where
  inOrder : (op.declaredParameters.filter fun entry => (placeOf? doc entry).isSome).Forall₂ (Declares doc)
    (op.parameters doc)
  all_iff : op.declaredParameters.Forall₂ (Declares doc) (op.parameters doc) ↔
    ∀ entry ∈ op.declaredParameters, (placeOf? doc entry).isSome
  places : op.path ∉ valueKeywords → ∀ entry ∈ op.declaredParameters, ∃ object place,
    Operation.dereference? doc entry = some object ∧ object.textAt? "in" = some place ∧
      placeOf? doc entry = ParameterPlace.ofText? place

theorem readsParameters_of_check (accepted : check doc = .ok ()) (member : op ∈ doc.operations) :
    ReadsParameters doc op := by
  obtain ⟨referenced, references, accepted⟩ := accepted_of_check accepted
  have each : ∀ entry ∈ op.declaredParameters, AcceptedParameter doc entry :=
    (accepted.operations op member).parameters
  have inOrder : (op.declaredParameters.filter fun entry => (placeOf? doc entry).isSome).Forall₂ (Declares doc)
      (op.parameters doc) := by
    rw [op.parameters_eq]
    refine forall₂_filterMap (fun entry declared => (each entry declared).isSome_eq) fun read => ?_
    obtain ⟨object, leads, read⟩ := Option.bind_eq_some_iff.mp read
    exact ⟨object, leads, Parameter.reads_of_ofValue? read⟩
  refine ⟨inOrder, ⟨fun all => ?_, fun placed => ?_⟩, fun path entry declared => ?_⟩
  -- As many parameters as entries means that no entry was left out.
  · exact List.length_filter_eq_length_iff.mp (inOrder.length_eq.trans all.length_eq.symm)
  · rwa [List.filter_eq_self.mpr placed] at inOrder
  · obtain ⟨object, leads⟩ := (Visits.declaredParameter member path declared).dereference? references
    obtain ⟨place, placed⟩ := (each entry declared).place
    rw [leads, Option.getD_some] at placed
    exact ⟨object, place, leads, placed, by rw [placeOf?, leads, Option.bind_some, placed, Option.bind_some]⟩

/-- A parameter of the path item that is given by a reference, and one of the operation. -/
def adoptionDocument : Document where
  path := "adoption.json"
  relativePath := "adoption.json"
  fields :=
    [("openapi", .string "3.0.3"),
     ("paths", .object [("/pets", .object
        [("parameters", .array [.object [("$ref", .string "#/components/parameters/Limit")]]),
         ("get", .object
           [("parameters", .array [.object [("name", .string "trace"), ("in", .string "Header")]]),
            ("responses", .object [])])])]),
     ("components", .object [("parameters", .object
        [("Limit", .object [("name", .string "limit"), ("in", .string "query")])])])]

theorem readsParameters_of_check_adoption : check adoptionDocument = .ok () ∧ ∃ op ∈ adoptionDocument.operations,
    op.declaredParameters.Forall₂ (Declares adoptionDocument) (op.parameters adoptionDocument) ∧
    (op.parameters adoptionDocument).map (fun parameter => (parameter.name, parameter.place)) =
      [("limit", .query), ("trace", .header)] ∧
    ∃ limit trace object place, op.declaredParameters = [limit, trace] ∧
      Operation.dereference? adoptionDocument limit = some object ∧ object.textAt? "in" = some place ∧
      ParameterPlace.ofText? place = some .query := by
  have passes : (check adoptionDocument).isOk = true := by decide +kernel
  obtain ⟨⟨⟩, accepted⟩ := exists_eq_ok_of_isOk passes
  have reads : ReadsParameters adoptionDocument _ := readsParameters_of_check accepted (List.mem_singleton_self _)
  obtain ⟨object, place, leads, written, placed⟩ := reads.places (by decide +kernel) _ List.mem_cons_self
  refine ⟨accepted, _, List.mem_singleton_self _, reads.all_iff.mpr (by decide +kernel), by decide +kernel,
    _, _, object, place, rfl, leads, written, placed.symm.trans ?_⟩
  decide +kernel

/-- A parameter that is sent in a place of its own. -/
def surrenderDocument : Document where
  path := "surrender.json"
  relativePath := "surrender.json"
  fields :=
    [("openapi", .string "3.0.3"),
     ("paths", .object [("/pets", .object [("post", .object
        [("parameters", .array
           [.object [("name", .string "limit"), ("in", .string "query")],
            .object [("name", .string "pet"), ("in", .string "body")]]),
         ("responses", .object [("200", .object [("description", .string "ok")])])])])])]

/-- The second parameter is accepted, and yet it is lost. -/
theorem check_loses_parameter : check surrenderDocument = .ok () ∧
    ∃ op ∈ surrenderDocument.operations, (op.parameters surrenderDocument).map (·.name) = ["limit"] ∧
      ¬ op.declaredParameters.Forall₂ (Declares surrenderDocument) (op.parameters surrenderDocument) := by
  have passes : (check surrenderDocument).isOk = true := by decide +kernel
  obtain ⟨⟨⟩, accepted⟩ := exists_eq_ok_of_isOk passes
  refine ⟨accepted, _, List.mem_singleton_self _, by decide +kernel, fun all => ?_⟩
  have fewer : 2 = 1 := all.length_eq
  omega

end Structure

end ApiAtlas
