import ApiAtlas.Proofs.Document.Keyed
import ApiAtlas.Proofs.Validation.Acceptance
import ApiAtlas.Proofs.Validation.Visits

/-! # Titles of the components that are reached

A resolver goes from the bodies of the operations and from the components to whatever these refer to, while the
names that need a title are gathered by the walk over the document. The walk meets every reference that a
resolver follows, except those of a body that stands where the walk takes everything for data.
-/

namespace ApiAtlas

open Schema (Refers Leads Reaches Resolves)
open References (Visits nameTables valueKeywords)

/-- What is met on the way from a schema is referred to by the schema, or by a component. -/
theorem Schema.Reaches.refers_or_leads {components : Table Json} {schema : Json} {name : String}
    (reaches : Reaches components schema name) : Refers schema name ∨ ∃ key, Leads components key name := by
  obtain ⟨first, refers, path⟩ := reaches
  rcases path.cases_tail with rfl | ⟨key, _, leads⟩
  · exact .inl refers
  · exact .inr ⟨key, leads⟩

/-- The names that lead to a body that an operation declares: those of its reference, or of where it stands. -/
def Operation.bodyPlace (op : Operation) (declared : List String × Json) : List String :=
  match declared.2.textAt? "$ref" with
  | none => ["paths", op.path, op.key.text] ++ declared.1
  | some reference => ((Text.afterStart? "#" reference).bind Pointer.names?).getD []

/-! ## Where the bodies stand -/

section Places

variable {doc : Document} {op : Operation} {declared : List String × Json} {body : Json}

theorem Document.follow_operation (keyed : doc.root.Keyed) (member : op ∈ doc.operations) :
    Pointer.follow doc.root ["paths", op.path, op.key.text] = some op.value := by
  obtain ⟨items, written, listed, there⟩ := exists_paths_of_mem_operations member
  have item : (Json.object items).get? op.path = some op.item :=
    Table.get?_of_mem (keyed.get? written).distinct listed
  rw [Pointer.follow, Pointer.step_of_get? written, Option.bind_some, Pointer.follow, Pointer.step_of_get? item,
    Option.bind_some, Pointer.follow, Pointer.step_of_get? there]
  rfl

theorem Operation.follow_bodies (keyed : op.value.Keyed) (member : declared ∈ op.bodies) :
    Pointer.follow op.value declared.1 = some declared.2 := by
  rcases List.mem_append.mp member with member | member
  · obtain ⟨body, found, rfl⟩ := List.mem_map.mp member
    rw [Pointer.follow, Pointer.step_of_get? (Option.mem_toList.mp found)]
    rfl
  · obtain ⟨entry, listed, rfl⟩ := List.mem_map.mp member
    obtain ⟨entries, responses, listed⟩ := Json.exists_fields_of_mem listed
    have found : (Json.object entries).get? entry.1 = some entry.2 :=
      Table.get?_of_mem (keyed.get? responses).distinct listed
    rw [Pointer.follow, Pointer.step_of_get? responses, Option.bind_some, Pointer.follow, Pointer.step_of_get? found]
    rfl

theorem Operation.follow_bodyPlace (keyed : doc.root.Keyed) (member : op ∈ doc.operations)
    (declared_ : declared ∈ op.bodies) (leads : dereference? doc declared.2 = some body) :
    Pointer.follow doc.root (op.bodyPlace declared) = some body := by
  rw [dereference?] at leads
  rw [bodyPlace]
  cases written : declared.2.textAt? "$ref" with
  | none =>
      rw [written] at leads
      cases leads
      dsimp only
      rw [Pointer.follow_append, Document.follow_operation keyed member, Option.bind_some]
      exact follow_bodies (Document.keyed_operation keyed member) declared_
  | some reference =>
      rw [written] at leads
      obtain ⟨pointer, local_, leads⟩ := Option.bind_eq_some_iff.mp leads
      obtain ⟨names, read, leads⟩ := Option.bind_eq_some_iff.mp leads
      dsimp only
      rw [local_, Option.bind_some, read]
      exact leads

end Places

/-! ## What the walk meets -/

namespace References.Visits

variable {doc : Document} {named : Bool} {body schema : Json}

/-- The schemas in the content of a body are visited with it. -/
theorem media (visits : Visits doc named body) (member : schema ∈ body.mediaSchemas) :
    ∃ named, Visits doc named schema := by
  obtain ⟨entry, listed, written⟩ := List.mem_filterMap.mp member
  obtain ⟨fields, content, listed⟩ := Json.exists_fields_of_mem listed
  have table : Visits doc true (.object fields) := visits.get? content fun _ => by decide
  exact ⟨_, (table.entry listed nofun).get? written fun _ => by decide⟩

/-- The components are visited, whatever they are called. -/
theorem component {key : String} (present : Table.get? key doc.schemas = some schema) :
    ∃ named, Visits doc named schema := by
  obtain ⟨parts, fields, components, schemas, found⟩ := Document.exists_schemas_of_get? present
  have table : Visits doc true (.object fields) :=
    (root.get? components fun _ => by decide).get? schemas fun _ => by decide
  exact ⟨_, table.entry (Table.mem_of_get? found) nofun⟩

end References.Visits

/-! ## Titles -/

namespace Structure

variable {doc : Document} {referenced : SortedSet String} {key name : String} {schema : Json}

/-- A component that a schema on the walk refers to is among those that need a title. -/
theorem Accepted.titled_of_refers (accepted : Accepted doc referenced)
    (references : References.check doc = .ok referenced) {named : Bool} (visits : Visits doc named schema)
    (resolves : (Schema.Call.resolve schema).Answerable doc.schemas) (refers : Refers schema name) :
    doc.Titled name := by
  obtain ⟨spot, visited, reference, written, named⟩ := visits.refers refers
  have gathered : name ∈ referenced := by
    rw [(References.check_eq_ok_iff.mp references).2, SortedSet.mem_ofList, List.mem_filterMap]
    exact ⟨spot, visited, by rw [References.Spot.component?, written, Option.bind_some, named]⟩
  obtain ⟨_, resolves⟩ := resolves
  obtain ⟨_, target, _, present, _⟩ := resolves.component_of_refers refers
  obtain ⟨title, found, filled⟩ := (accepted.components _ (Table.mem_of_get? present)).titled gathered
  exact ⟨target, title, present, found, filled⟩

theorem Accepted.titled_of_leads (accepted : Accepted doc referenced)
    (references : References.check doc = .ok referenced) (leads : Leads doc.schemas key name) : doc.Titled name := by
  obtain ⟨schema, present, refers⟩ := leads
  obtain ⟨_, visits⟩ := References.Visits.component present
  obtain ⟨_, _, _, inside, there, resolves, _⟩ := (accepted.components _ (Table.mem_of_get? present)).resolves
  cases Option.some.inj (present.symm.trans there)
  exact accepted.titled_of_refers references visits ⟨inside, resolves⟩ refers

/-- The components that have a title in an accepted document. In a body that the walk takes for data the references
inside an inline schema are not met. -/
structure HasTitles (doc : Document) : Prop where
  component {key name : String} {schema : Json} : Table.get? key doc.schemas = some schema →
    Reaches doc.schemas schema name → doc.Titled name
  body {op : Operation} {declared : List String × Json} {body schema : Json} {name : String} :
    op ∈ doc.operations → declared ∈ op.bodies → Operation.dereference? doc declared.2 = some body →
    schema ∈ body.mediaSchemas → Reaches doc.schemas schema name → doc.Titled name ∨
      (Json.LeadsIntoData false (op.bodyPlace declared) ∧ Refers schema name ∧ schema.get? "$ref" = none)

theorem hasTitles_of_check (keyed : doc.root.Keyed) (accepted : check doc = .ok ()) : HasTitles doc := by
  obtain ⟨referenced, references, accepted⟩ := accepted_of_check accepted
  constructor
  · intro key name schema present reaches
    rcases reaches.refers_or_leads with refers | ⟨between, leads⟩
    · exact accepted.titled_of_leads references ⟨schema, present, refers⟩
    · exact accepted.titled_of_leads references leads
  · intro op declared body schema name member listed leads media reaches
    obtain ⟨other, same, _, schemas⟩ := ((accepted.operations op member).bodies declared listed).leads
    cases Option.some.inj (leads.symm.trans same)
    have here : AcceptedSchema doc schema := schemas schema media
    rcases reaches.refers_or_leads with refers | ⟨between, leads⟩
    -- Nothing inside data is met on the walk, but a reference in the place of the schema is checked on its own.
    · by_cases data : Json.LeadsIntoData false (op.bodyPlace declared)
      · cases refers with
        | here written target => exact .inl (here.titled (Json.textAt?_of_get? written) target)
        | inside absent member refers => exact .inr ⟨data, .inside absent member refers, absent⟩
      · have place := Operation.follow_bodyPlace keyed member listed leads
        obtain ⟨_, visits⟩ := References.Visits.root.follow place data
        obtain ⟨_, visits⟩ := visits.media media
        exact .inl (accepted.titled_of_refers references visits here.resolves refers)
    · exact .inl (accepted.titled_of_leads references leads)

/-- What the bodies of the shelter refer to. -/
def shelterSchema : Json := .object [("$ref", .string "#/components/schemas/Pet")]

theorem refers_shelter : Refers shelterSchema "Pet" := .here rfl (by decide +kernel)

theorem reaches_shelter : Reaches shelterDocument.schemas shelterSchema "Tag" := by
  have leads : Leads shelterDocument.schemas "Pet" "Tag" :=
    ⟨_, rfl, .inside rfl (List.mem_singleton_self _) (.here rfl (by decide +kernel))⟩
  exact ⟨"Pet", refers_shelter, .single leads⟩

theorem hasTitles_of_check_shelter : shelterDocument.root.Keyed ∧ check shelterDocument = .ok () ∧
    (∃ op ∈ shelterDocument.operations, ∃ declared ∈ op.bodies, ∃ body,
      Operation.dereference? shelterDocument declared.2 = some body ∧ shelterSchema ∈ body.mediaSchemas ∧
      op.bodyPlace declared = ["components", "requestBodies", "Pet"]) ∧
    (∃ pet, Table.get? "Pet" shelterDocument.schemas = some pet ∧ pet.textAt? "title" = some "Pet" ∧
      Text.isBlank "Pet" = false) ∧
    Reaches shelterDocument.schemas shelterSchema "Tag" ∧
    ∃ tag, Table.get? "Tag" shelterDocument.schemas = some tag ∧ tag.textAt? "title" = some "Tag" ∧
      Text.isBlank "Tag" = false := by
  have keyed : shelterDocument.root.Keyed := by
    simp [shelterDocument, Document.root, Table.keys]
  have passes : (check shelterDocument).isOk = true := by decide +kernel
  obtain ⟨⟨⟩, accepted⟩ := exists_eq_ok_of_isOk passes
  have request : Operation.dereference? shelterDocument (.object [("$ref", .string "#/components/requestBodies/Pet")]) =
      some (.object [("content", .object [("application/json", .object [("schema", shelterSchema)])])]) := by
    rfl
  have titled {name : String} (reaches : Reaches shelterDocument.schemas shelterSchema name) :
      shelterDocument.Titled name := by
    -- The schema is itself a reference, so that it does not matter where the body stands.
    rcases (hasTitles_of_check keyed accepted).body (List.mem_singleton_self _) List.mem_cons_self request
      (List.mem_singleton_self _) reaches with titled | ⟨_, _, inline⟩
    · exact titled
    · cases inline
  obtain ⟨pet, _, here, petTitle, petFilled⟩ := titled (.of_refers refers_shelter)
  obtain ⟨tag, _, there, tagTitle, tagFilled⟩ := titled reaches_shelter
  cases here
  cases petTitle
  cases there
  cases tagTitle
  exact ⟨keyed, accepted, ⟨_, List.mem_singleton_self _, _, List.mem_cons_self, _, request, List.mem_singleton_self _,
    by decide +kernel⟩, ⟨_, rfl, rfl, petFilled⟩, reaches_shelter, ⟨_, rfl, rfl, tagFilled⟩⟩

/-- A list of components. -/
def litterFields : Table Json :=
  [("type", .string "array"), ("items", .object [("$ref", .string "#/components/schemas/Pet")])]

/-- A request body that is called `default`, and that is a list of components that have no title. -/
def litterDocument : Document where
  path := "litter.json"
  relativePath := "litter.json"
  fields :=
    [("openapi", .string "3.0.3"),
     ("paths", .object [("/pets", .object [("post", .object
        [("requestBody", .object [("$ref", .string "#/components/requestBodies/default")]),
         ("responses", .object [])])])]),
     ("components", .object
        [("requestBodies", .object [("default", .object [("content", .object [("application/json",
           .object [("schema", .object litterFields)])])])]),
         ("schemas", .object [("Pet", .object [("type", .string "object")])])])]

/-- The component is reached from the body of the operation, and yet its missing title is not noticed. -/
theorem check_misses_title : litterDocument.root.Keyed ∧ check litterDocument = .ok () ∧
    ∃ op ∈ litterDocument.operations, ∃ declared ∈ op.bodies, ∃ body,
      Operation.dereference? litterDocument declared.2 = some body ∧ ∃ schema ∈ body.mediaSchemas,
        Reaches litterDocument.schemas schema "Pet" ∧ ¬ litterDocument.Titled "Pet" := by
  have keyed : litterDocument.root.Keyed := by
    simp [litterDocument, litterFields, Document.root, Table.keys]
  have passes : (check litterDocument).isOk = true := by decide +kernel
  obtain ⟨⟨⟩, accepted⟩ := exists_eq_ok_of_isOk passes
  have refers : Refers (.object litterFields) "Pet" := by
    have inside : Json.object [("$ref", .string "#/components/schemas/Pet")] ∈ Schema.inner litterFields :=
      List.mem_singleton_self _
    exact .inside rfl inside (.here rfl (by decide +kernel))
  refine ⟨keyed, accepted, _, List.mem_singleton_self _, _, List.mem_singleton_self _, _, rfl, _,
    List.mem_singleton_self _, .of_refers refers, ?_⟩
  rintro ⟨schema, title, present, found, _⟩
  cases present
  cases found

end Structure

end ApiAtlas
