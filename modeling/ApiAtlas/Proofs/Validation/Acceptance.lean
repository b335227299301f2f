import ApiAtlas.Proofs.Validation.Accepted

/-! # Accepted documents compile

The structural validator resolves the bodies first and the components last, compiling goes the other way
round. Both demand the same of a document, so one that is accepted compiles, unless its schemas are nested
too deeply for the order in which compiling meets them.
-/

namespace ApiAtlas

namespace Structure

theorem AcceptedBody.resolves {doc : Document} {written : Json} (accepted : AcceptedBody doc written) :
    doc.BodyResolves written := by
  obtain ⟨body, leads, _, schemas⟩ := accepted.leads
  exact ⟨body, leads, fun schema found => (schemas schema (Json.mem_mediaSchemas found)).resolves⟩

theorem AcceptedOperation.compilable {doc : Document} {op : Operation} (accepted : AcceptedOperation doc op) :
    op.Compilable doc where
  request _ written := (accepted.bodies _ (Operation.mem_bodies_request written)).resolves
  responses _ declared _ := (accepted.bodies _ (Operation.mem_bodies_response declared)).resolves

theorem compilable_of_check {doc : Document} (accepted : check doc = .ok ()) : doc.Compilable := by
  obtain ⟨referenced, _, accepted⟩ := accepted_of_check accepted
  exact ⟨fun entry member => (accepted.components entry member).resolves,
    fun op member => (accepted.operations op member).compilable⟩

end Structure

/-- A document that the structural validator accepts compiles, unless its schemas are nested too deeply. -/
theorem Structure.compileDocument_of_check {doc : Document} (accepted : Structure.check doc = .ok ()) :
    (∃ compiled, Model.compileDocument doc = .ok compiled) ∨
      ∃ location, Model.compileDocument doc = .error (.schema doc.path location (.malformed .tooDeep)) :=
  Model.compiles_of_compilable (compilable_of_check accepted)

/-- Components that refer to one another, and an operation whose bodies are given by references. -/
def shelterDocument : Document where
  path := "shelter.json"
  relativePath := "shelter.json"
  fields :=
    [("openapi", .string "3.0.3"),
     ("paths", .object [("/pets", .object [("put", .object
        [("requestBody", .object [("$ref", .string "#/components/requestBodies/Pet")]),
         ("responses", .object [("200", .object [("content", .object [("application/json", .object [("schema",
           .object [("$ref", .string "#/components/schemas/Pet")])])])])])])])]),
     ("components", .object
        [("requestBodies", .object [("Pet", .object [("content", .object [("application/json", .object [("schema",
           .object [("$ref", .string "#/components/schemas/Pet")])])])])]),
         ("schemas", .object
           [("Pet", .object
              [("title", .string "Pet"), ("type", .string "object"),
               ("properties", .object [("tag", .object [("$ref", .string "#/components/schemas/Tag")])])]),
            ("Tag", .object [("title", .string "Tag"), ("type", .string "string")])])])]

theorem Structure.compileDocument_of_check_shelter : Structure.check shelterDocument = .ok () ∧ ∃ compiled,
    Model.compileDocument shelterDocument = .ok compiled ∧ SortedTable.keys compiled.models = ["Pet", "Tag"] := by
  have passes : (Structure.check shelterDocument).isOk = true := by decide +kernel
  have models : (Model.compileDocument shelterDocument).toOption.map (fun compiled => SortedTable.keys compiled.models) =
      some ["Pet", "Tag"] := by
    decide +kernel
  obtain ⟨⟨⟩, accepted⟩ := exists_eq_ok_of_isOk passes
  rcases compileDocument_of_check accepted with ⟨compiled, compiles⟩ | ⟨location, tooDeep⟩
  · have named := apply_eq_of_toOption_map compiles models
    exact ⟨accepted, compiled, compiles, named⟩
  · rw [tooDeep] at models
    cases models

end ApiAtlas
