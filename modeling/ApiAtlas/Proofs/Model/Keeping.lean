import ApiAtlas.Proofs.Model.Compilation

/-! # Valid payloads

What a schema loses by becoming a type alone decides which payloads its model accepts. Most of what is lost only
ever rejected, so that valid payloads are still accepted; null is lost where an item, a value or a variant admits
it beside its own type, and a variant that loses a constraint may make two out of exactly one.
-/

namespace ApiAtlas

namespace Model

open Schema (Call Node)

/-- A model of a compiled document accepts exactly what is kept of its schema, and therefore every value of a
schema of which nothing is lost that admits a value. -/
theorem compileDocument_admits {doc : Document} {compiled : CompiledDocument} (keyed : doc.root.Keyed)
    (compiles : compileDocument doc = .ok compiled) :
    (∃ names, componentModels doc = .ok names ∧ ∀ key ∈ Table.keys doc.schemas, ∃ name model,
      Table.get? key names = some name ∧ compiled.model? name = some model ∧
      model.Carries doc.schemas (.component key)) ∧
    List.Forall₂ (OperationSpec.ServesWith (·.Carries doc.schemas) doc) doc.operations compiled.operations := by
  obtain ⟨stage, drafts, ends⟩ := exists_endsAt keyed compiles
  exact ⟨⟨_, ends.components, fun _ member => ends.carries member⟩, ends.servesWith⟩

/-- What a resolver that was not used before answers a call with. -/
def answer? (doc : Document) (call : Call) : Option Node :=
  ((call.step doc.schemas).outcome (Schema.Session.after doc.schemas [])).1.toOption

theorem answered_of_answer? {doc : Document} {call : Call} {node : Node} (found : answer? doc call = some node) :
    Answered doc.schemas call node := ⟨[], toOption_eq_some_iff.mp found⟩

/-- A list of what the component `Reading` describes. -/
def seriesSchema : Json :=
  .object [("type", .string "array"), ("items", .object [("$ref", .string "#/components/schemas/Reading")])]

/-- A reading of an instrument, which can be missing, and an operation that receives several of them. -/
def stationDocument : Document where
  path := "station.json"
  relativePath := "station.json"
  fields :=
    [("paths", .object [("/readings", .object [("post", .object
        [("requestBody", .object [("content", .object [("application/json", .object [("schema", seriesSchema)])])]),
         ("responses", .object [("201", .object [("content", .object [("application/json", .object [("schema",
           .object [("type", .string "integer"), ("nullable", .bool true)])])])])])])])]),
     ("components", .object [("schemas", .object [("Reading", .object
        [("type", .string "object"), ("required", .array [.string "value"]),
         ("properties", .object [("value", .object [("type", .string "number"), ("nullable", .bool true)])])])])])]

def readingNode : Node :=
  ⟨.object { properties := [("value", ⟨.primitive .number, { nullable := true }⟩)], required := ["value"] },
    { title := some "Reading" }⟩

def seriesNode : Node := ⟨.array ⟨.reference "Reading" readingNode, {}⟩, {}⟩

theorem guarded_reading : readingNode.Everywhere Node.Guarded := by
  refine .intro ⟨nofun, nofun⟩ fun part member => ?_
  obtain rfl := List.mem_singleton.mp member
  exact .intro ⟨nofun, nofun⟩ nofun

theorem guarded_series : seriesNode.Everywhere Node.Guarded := by
  refine .intro ⟨fun part member => ?_, nofun⟩ fun part member => ?_
  · obtain rfl := List.mem_singleton.mp member
    exact nofun
  · obtain rfl := List.mem_singleton.mp member
    refine .intro ⟨nofun, nofun⟩ fun part member => ?_
    obtain rfl := List.mem_singleton.mp member
    exact guarded_reading

/-- A reading that is missing. -/
def missing : Json := .object [("value", .null)]

theorem compileDocument_admits_station : stationDocument.root.Keyed ∧
    ∃ compiled reading spec request readingValidator requestValidator,
      compileDocument stationDocument = .ok compiled ∧ componentModels stationDocument = .ok [("Reading", "Reading")] ∧
      compiled.model? "Reading" = some reading ∧ Answered stationDocument.schemas (.component "Reading") readingNode ∧
      readingNode.Everywhere Node.Guarded ∧ readingNode.satisfies missing = true ∧
      reading.validator false = .ok readingValidator ∧ readingValidator.accepts missing = true ∧
      compiled.operations = [spec] ∧ spec.request = some request ∧ request.name = "PostReadingsRequest" ∧
      Answered stationDocument.schemas (.resolve seriesSchema) seriesNode ∧
      seriesNode.Everywhere Node.Guarded ∧ seriesNode.satisfies (.array [missing, missing]) = true ∧
      request.validator false = .ok requestValidator ∧ requestValidator.accepts (.array [missing, missing]) = true := by
  have keyed : stationDocument.root.Keyed := by
    simp [Document.root, stationDocument, seriesSchema, Table.keys]
  have placed : (componentModels stationDocument).toOption = some [("Reading", "Reading")] := by decide +kernel
  have built : (compileDocument stationDocument).toOption.map (fun compiled =>
      ((compiled.model? "Reading").map fun model => (model.validator false).isOk, compiled.operations.map fun spec =>
        spec.request.map fun model => (model.name, (model.validator false).isOk))) =
      some (some true, [some ("PostReadingsRequest", true)]) := by
    decide +kernel
  obtain ⟨compiled, compiles, built⟩ := Option.map_eq_some_iff.mp built
  rw [toOption_eq_some_iff] at placed compiles
  obtain ⟨readingBuilt, operations⟩ := Prod.mk.inj built
  obtain ⟨spec, listed, requestBuilt⟩ := List.map_eq_singleton_iff.mp operations
  obtain ⟨⟨names, modelled, components⟩, serves⟩ := compileDocument_admits keyed compiles
  cases Except.ok.inj (placed.symm.trans modelled)
  obtain ⟨name, reading, found, there, readingCarries⟩ := components "Reading" (by decide +kernel)
  cases found
  rw [there] at readingBuilt
  obtain ⟨readingValidator, readingBuilt⟩ := exists_eq_ok_of_isOk (Option.some.inj readingBuilt)
  rw [listed] at serves
  have served : OperationSpec.ServesWith (·.Carries stationDocument.schemas) stationDocument _ spec :=
    (List.forall₂_cons.mp serves).1
  obtain ⟨_, leads, models⟩ := served.request rfl
  cases leads
  obtain ⟨request, requested, requestCarries⟩ := models seriesSchema rfl
  rw [requested] at requestBuilt
  obtain ⟨named, requestBuilt⟩ := Prod.mk.inj (Option.some.inj requestBuilt)
  obtain ⟨requestValidator, requestBuilt⟩ := exists_eq_ok_of_isOk requestBuilt
  have readingAnswered : Answered stationDocument.schemas (.component "Reading") readingNode :=
    answered_of_answer? rfl
  have seriesAnswered : Answered stationDocument.schemas (.resolve seriesSchema) seriesNode :=
    answered_of_answer? rfl
  have readingSatisfied : readingNode.satisfies missing = true := by decide +kernel
  have seriesSatisfied : seriesNode.satisfies (.array [missing, missing]) = true := by decide +kernel
  exact ⟨keyed, compiled, reading, spec, request, readingValidator, requestValidator, compiles, placed, there,
    readingAnswered, guarded_reading, readingSatisfied, readingBuilt,
    readingCarries.valid _ readingAnswered guarded_reading _ readingBuilt _ readingSatisfied,
    listed, requested, named, seriesAnswered, guarded_series, seriesSatisfied, requestBuilt,
    (requestCarries rfl).valid _ seriesAnswered guarded_series _ requestBuilt _ seriesSatisfied⟩

/-- Readings of an instrument, some of which are missing. -/
def readingsDocument : Document where
  path := "readings.json"
  relativePath := "readings.json"
  fields := [("components", .object [("schemas", .object [("Readings", .object
    [("type", .string "array"),
     ("items", .object [("type", .string "string"), ("nullable", .bool true)])])])])]

theorem keyed_readings : readingsDocument.root.Keyed := by
  simp [Document.root, readingsDocument, Table.keys]

/-- What the model of a component says about a value. -/
def verdict? (doc : Document) (key : String) (value : Json) : Option Bool := do
  let compiled ← (compileDocument doc).toOption
  let names ← (componentModels doc).toOption
  let name ← Table.get? key names
  let model ← compiled.model? name
  let validator ← (model.validator false).toOption
  return validator.accepts value

theorem exists_of_verdict? {doc : Document} {key : String} {value : Json} {verdict : Bool}
    (found : verdict? doc key value = some verdict) : ∃ compiled names name model validator,
      compileDocument doc = .ok compiled ∧ componentModels doc = .ok names ∧ Table.get? key names = some name ∧
      compiled.model? name = some model ∧ model.validator false = .ok validator ∧ validator.accepts value = verdict := by
  simp only [verdict?, Option.bind_eq_bind, Option.bind_eq_some_iff, toOption_eq_some_iff] at found
  obtain ⟨compiled, compiles, names, modelled, name, found, model, there, validator, built, same⟩ := found
  exact ⟨compiled, names, name, model, validator, compiles, modelled, found, there, built, Option.some.inj same⟩

theorem readings_null :
    (answer? readingsDocument (.component "Readings")).map (·.satisfies (.array [.null])) = some true ∧
    verdict? readingsDocument "Readings" (.array [.null]) = some false := by
  decide +kernel

/-- A valid payload can be rejected: null as an item that is a string or null. -/
theorem compileDocument_rejects_valid : ¬ ∀ (doc : Document) compiled names key name (model : Handle) node validator,
    doc.root.Keyed → compileDocument doc = .ok compiled → componentModels doc = .ok names →
    Table.get? key names = some name → compiled.model? name = some model →
    Answered doc.schemas (.component key) node → model.validator false = .ok validator →
    ∀ value, node.satisfies value = true → validator.accepts value = true := by
  intro admits
  obtain ⟨valid, rejected⟩ := readings_null
  obtain ⟨compiled, names, name, model, validator, compiles, modelled, found, there, built, rejects⟩ :=
    exists_of_verdict? rejected
  obtain ⟨node, answered, satisfied⟩ := Option.map_eq_some_iff.mp valid
  have accepted := admits readingsDocument compiled names "Readings" name model node validator keyed_readings compiles
    modelled found there (answered_of_answer? answered) built _ satisfied
  rw [rejects] at accepted
  cases accepted

end Model

end ApiAtlas
