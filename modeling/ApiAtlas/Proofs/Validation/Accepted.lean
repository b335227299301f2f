import ApiAtlas.Proofs.Model.Compilable
import ApiAtlas.Validation.Structure

/-! # What an accepted document is

Each check of the structural validator that passes establishes something about what it checked. Together these
facts describe an accepted document, with no mention of the order of the checks or of what was remembered
between them.
-/

namespace ApiAtlas

open Schema (Call Demands)

/-- The schemas in the content of a body, one for each media type that has one. -/
def Json.mediaSchemas (body : Json) : List Json :=
  (((body.get? "content").bind Json.fields?).getD []).filterMap fun entry => entry.2.get? "schema"

/-- A component that is there and has a title that is not blank. -/
def Document.Titled (doc : Document) (name : String) : Prop :=
  ∃ schema title, Table.get? name doc.schemas = some schema ∧ schema.textAt? "title" = some title ∧
    Text.isBlank title = false

namespace Operation

/-- The bodies that an operation declares, each with the names that lead to it from the operation. -/
def bodies (op : Operation) : List (List String × Json) :=
  ((op.value.get? "requestBody").toList.map fun body => (["requestBody"], body)) ++
    (Model.Compiling.declaredResponses op).map fun entry => (["responses", entry.1], entry.2)

/-- The entries of the two lists of parameters, those of the path item first. -/
def declaredParameters (op : Operation) : List Json :=
  [op.item, op.value].flatMap fun source => (source.itemsAt? "parameters").getD []

theorem mem_bodies_request {op : Operation} {body : Json} (written : op.value.get? "requestBody" = some body) :
    (["requestBody"], body) ∈ op.bodies := by
  refine List.mem_append_left _ (List.mem_map_of_mem ?_)
  rw [written]
  exact List.mem_singleton_self body

theorem mem_bodies_response {op : Operation} {entry : String × Json}
    (declared : entry ∈ Model.Compiling.declaredResponses op) : (["responses", entry.1], entry.2) ∈ op.bodies :=
  List.mem_append_right _ (List.mem_map_of_mem declared)

end Operation

theorem Json.mem_mediaSchemas {body schema : Json} (found : Model.Compiling.jsonSchemaOf? body = some schema) :
    schema ∈ body.mediaSchemas := by
  obtain ⟨media, there, inside⟩ := Option.bind_eq_some_iff.mp found
  obtain ⟨content, written, there⟩ := Option.bind_eq_some_iff.mp there
  cases content with
  | object fields =>
      rw [mediaSchemas, written]
      exact List.mem_filterMap.mpr ⟨_, Table.mem_of_get? there, inside⟩
  | _ => cases there

namespace Structure

variable {doc : Document} {op : Operation} {written schema : Json} {referenced : SortedSet String}
  {entry : String × Json} {location : String}

/-! ## Accepted parts -/

/-- A parameter has a name and a place, itself or where its reference leads to. -/
structure AcceptedParameter (doc : Document) (written : Json) : Prop where
  name : ∃ name, ((Operation.dereference? doc written).getD written).textAt? "name" = some name ∧ name ≠ ""
  place : ∃ place, ((Operation.dereference? doc written).getD written).textAt? "in" = some place

/-- The schema of a media type resolves, and a component that it is a reference to has a title. -/
structure AcceptedSchema (doc : Document) (schema : Json) : Prop where
  resolves : (Call.resolve schema).Answerable doc.schemas
  titled {reference name : String} : schema.textAt? "$ref" = some reference →
    Schema.componentName? reference = some name → doc.Titled name

/-- A body is an object, itself or where its reference leads to, and its schemas are accepted. -/
structure AcceptedBody (doc : Document) (written : Json) : Prop where
  leads : ∃ body, Operation.dereference? doc written = some body ∧ body.isObject ∧
    ∀ schema ∈ body.mediaSchemas, AcceptedSchema doc schema

structure AcceptedOperation (doc : Document) (op : Operation) : Prop where
  parameters : ∀ entry ∈ op.declaredParameters, AcceptedParameter doc entry
  bodies : ∀ declared ∈ op.bodies, AcceptedBody doc declared.2

/-- A component resolves, and it has a title if it is referred to. -/
structure AcceptedComponent (doc : Document) (referenced : SortedSet String) (entry : String × Json) : Prop where
  resolves : (Call.component entry.1).Answerable doc.schemas
  titled : entry.1 ∈ referenced → ∃ title, entry.2.textAt? "title" = some title ∧ Text.isBlank title = false

structure Accepted (doc : Document) (referenced : SortedSet String) : Prop where
  operations : ∀ op ∈ doc.operations, AcceptedOperation doc op
  components : ∀ entry ∈ doc.schemas, AcceptedComponent doc referenced entry

/-! ## Checks without a memo -/

theorem acceptedParameter_of_check (passes : checkParameter doc location written = .ok ()) :
    AcceptedParameter doc written := by
  unfold checkParameter at passes
  dsimp only at passes
  split at passes
  · cases passes
  · rename_i named
    split at passes
    · cases passes
    · rename_i placed
      constructor
      · cases found : ((Operation.dereference? doc written).getD written).textAt? "name" with
        | none => simp [found] at named
        | some name => exact ⟨name, rfl, by simpa [found] using named⟩
      · exact Option.ne_none_iff_exists'.mp (by simpa using placed)

theorem acceptedParameter_of_checkList (passes : checkParameterList doc location written = .ok ()) :
    ∀ entry ∈ (written.itemsAt? "parameters").getD [], AcceptedParameter doc entry := by
  unfold checkParameterList at passes
  unfold Json.itemsAt?
  split at passes
  · rename_i absent
    simp [absent]
  · rename_i parameters found
    intro entry member
    rw [found] at member
    exact acceptedParameter_of_check (forM_eq_ok_iff.mp passes entry member)
  · cases passes

theorem acceptedParameter_of_checkParameters (passes : checkParameters doc op = .ok ()) :
    ∀ entry ∈ op.declaredParameters, AcceptedParameter doc entry := by
  obtain ⟨⟨⟩, ofItem, ofOperation⟩ := bind_eq_ok_iff.mp passes
  intro entry member
  obtain ⟨source, listed, member⟩ := List.mem_flatMap.mp member
  rcases List.mem_pair.mp listed with rfl | rfl
  · exact acceptedParameter_of_checkList ofItem entry member
  · exact acceptedParameter_of_checkList ofOperation entry member

/-- A component that is referred to passes exactly if it has a title that is not blank. -/
theorem titleViolation?_eq_none_iff {name : String} {title : Option Json} : titleViolation? name title true = none ↔
    ∃ text, title.bind Json.text? = some text ∧ Text.isBlank text = false := by
  unfold titleViolation?
  cases title with
  | none => simp
  | some title => cases found : title.text? <;> simp [found]

theorem titled_of_checkTitle (passes : checkTitle doc schema location = .ok ()) {reference name : String}
    (written : schema.textAt? "$ref" = some reference) (named : Schema.componentName? reference = some name) :
    doc.Titled name := by
  rw [checkTitle, written, Option.bind_some, named] at passes
  dsimp only at passes
  split at passes
  · cases passes
  · rename_i titled
    obtain ⟨text, found, filled⟩ := titleViolation?_eq_none_iff.mp titled
    obtain ⟨title, found, read⟩ := Option.bind_eq_some_iff.mp found
    obtain ⟨target, present, there⟩ := Option.bind_eq_some_iff.mp found
    exact ⟨target, text, present, Option.bind_eq_some_iff.mpr ⟨title, there, read⟩, filled⟩

/-! ## Checks with a memo -/

section Checks

variable {α β : Type}

/-- A check that passes has established something. -/
abbrev Establishes (doc : Document) (step : Checking α) (fact : Prop) : Prop :=
  Demands doc.schemas id (fun _ => True) step fact

namespace Establishes

variable {step : Checking α} {fact fact' : Prop}

theorem weaken (establishes : Establishes doc step fact) (implies : fact → fact') : Establishes doc step fact' := by
  intro memo valid
  have here := establishes valid
  cases run : step.run memo with
  | error violation => exact fun _ => trivial
  | ok outcome =>
      rw [run] at here
      exact ⟨implies here.1, here.2⟩

theorem lift (check : Except Violation Unit) : Establishes doc (liftM check) (check = .ok ()) := by
  intro memo valid
  cases check with
  | error violation => exact fun _ => trivial
  | ok value => exact ⟨rfl, valid⟩

theorem resolving (call : Call) : Establishes doc (resolving location (call.step doc.schemas).alone)
    (call.Answerable doc.schemas) := by
  refine Demands.call (fun _ memo => memo) (.ofSchema location) (fun _ _ => rfl) trivial ?_ ?_
  all_goals
    intro before _ _ run
    rw [id_eq] at run
    simp only [Structure.resolving, StateT.run_bind, StateT.run_get, pure_bind, run, StateT.run_set]
    rfl

theorem checkMedia {media : Json} : Establishes doc (checkMedia doc location media)
    (∀ schema, media.get? "schema" = some schema → AcceptedSchema doc schema) := by
  unfold Structure.checkMedia
  split
  · rename_i absent
    exact (Demands.pure _).congr (by simp [absent])
  · rename_i schema written
    refine weaken ((resolving (.resolve schema)).bind fun _ => lift (checkTitle doc schema location)) ?_
    rintro ⟨resolves, titled⟩ _ found
    cases Option.some.inj (written.symm.trans found)
    exact ⟨resolves, titled_of_checkTitle titled⟩

/-- The content of a body is checked whatever its media types. -/
theorem content {fields : Table Json} {body : Json} (written : body.get? "content" = some (.object fields)) :
    Establishes doc (fields.forM fun entry => Structure.checkMedia doc location entry.2)
      (∀ schema ∈ body.mediaSchemas, AcceptedSchema doc schema) := by
  refine weaken (Demands.forM fun _ => checkMedia) fun each schema member => ?_
  rw [Json.mediaSchemas, written] at member
  obtain ⟨entry, listed, found⟩ := List.mem_filterMap.mp member
  exact each entry listed schema found

theorem checkBody : Establishes doc (checkBody doc location written) (AcceptedBody doc written) := by
  unfold Structure.checkBody
  extract_lets check
  have each : ∀ body, Establishes doc (check body)
      (body.isObject ∧ ∀ schema ∈ body.mediaSchemas, AcceptedSchema doc schema) := by
    intro body
    unfold check
    dsimp only
    split
    · exact weaken (Demands.throw_bind _ _) False.elim
    · rename_i object
      have isObject : body.isObject = true := by simpa using object
      split
      · rename_i absent
        exact weaken (Demands.pure _) fun _ => ⟨isObject, by simp [Json.mediaSchemas, absent]⟩
      · exact (content ‹_›).weaken fun accepted => ⟨isObject, accepted⟩
      · exact weaken (Demands.throw _) False.elim
  split
  · rename_i inline
    rw [pure_bind]
    exact (each written).weaken fun accepted => ⟨written, by rw [Operation.dereference?, inline], accepted⟩
  · rename_i reference referring
    split
    · rename_i body leads
      rw [pure_bind]
      have followed : Operation.dereference? doc written = some body := by
        simp only [Operation.dereference?, referring, leads]
      exact (each body).weaken fun accepted => ⟨body, followed, accepted⟩
    · exact weaken (Demands.throw_bind _ _) False.elim

theorem checkRequest : Establishes doc (checkRequest doc op)
    (∀ body, op.value.get? "requestBody" = some body → AcceptedBody doc body) := by
  unfold Structure.checkRequest
  split
  · rename_i absent
    exact (Demands.pure _).congr (by simp [absent])
  · rename_i body written
    exact checkBody.congr (by simp [written])

/-- The responses are checked whatever their keys. -/
theorem checkResponses : Establishes doc (checkResponses doc op)
    (∀ entry ∈ Model.Compiling.declaredResponses op, AcceptedBody doc entry.2) := by
  unfold Structure.checkResponses Model.Compiling.declaredResponses
  split
  · rename_i absent
    exact (Demands.pure _).congr (by simp [absent])
  · rename_i responses written
    rw [written]
    exact Demands.forM fun _ => checkBody
  · exact weaken (Demands.throw _) False.elim

theorem checkOperation : Establishes doc (checkOperation doc op) (AcceptedOperation doc op) := by
  have request : Establishes doc (Structure.checkRequest doc op) _ := checkRequest
  have responses : Establishes doc (Structure.checkResponses doc op) _ := checkResponses
  refine weaken ((lift (checkParameters doc op)).bind fun _ => request.bind fun _ => responses) ?_
  intro ⟨parameters, request, responses⟩
  refine ⟨acceptedParameter_of_checkParameters parameters, fun declared member => ?_⟩
  rcases List.mem_append.mp member with member | member
  · obtain ⟨body, written, rfl⟩ := List.mem_map.mp member
    exact request body (Option.mem_toList.mp written)
  · obtain ⟨entry, listed, rfl⟩ := List.mem_map.mp member
    exact responses entry listed

theorem checkComponent : Establishes doc (checkComponent doc referenced entry)
    (AcceptedComponent doc referenced entry) := by
  unfold Structure.checkComponent
  refine weaken ((resolving (.component entry.1)).bind fun _ => (?_ : Establishes doc _
    (titleViolation? entry.1 (entry.2.get? "title") (referenced.contains entry.1) = none))) ?_
  · split
    · exact weaken (Demands.throw _) False.elim
    · rename_i none
      exact weaken (Demands.pure _) fun _ => none
  · rintro ⟨resolves, passes⟩
    refine ⟨resolves, fun member => ?_⟩
    rw [List.contains_iff_mem.mpr member] at passes
    exact titleViolation?_eq_none_iff.mp passes

theorem checkSchemas : Establishes doc (checkSchemas doc referenced) (Accepted doc referenced) := by
  have operations : Establishes doc (doc.operations.forM (Structure.checkOperation doc)) _ :=
    Demands.forM fun _ => checkOperation
  have components : Establishes doc (doc.schemas.forM (Structure.checkComponent doc referenced)) _ :=
    Demands.forM fun _ => checkComponent
  exact weaken (operations.bind fun _ => components) fun ⟨operations, components⟩ => ⟨operations, components⟩

end Establishes

end Checks

theorem accepted_of_check (accepted : check doc = .ok ()) :
    ∃ referenced, References.check doc = .ok referenced ∧ Accepted doc referenced := by
  obtain ⟨_, _, accepted⟩ := bind_eq_ok_iff.mp accepted
  obtain ⟨_, _, accepted⟩ := bind_eq_ok_iff.mp accepted
  obtain ⟨referenced, references, accepted⟩ := bind_eq_ok_iff.mp accepted
  refine ⟨referenced, references, ?_⟩
  have established := @Establishes.checkSchemas doc referenced [] .nil
  cases run : (checkSchemas doc referenced).run [] with
  | error violation =>
      rw [StateT.run'_eq, run] at accepted
      cases accepted
  | ok outcome =>
      rw [run] at established
      exact established.1

end Structure

end ApiAtlas
