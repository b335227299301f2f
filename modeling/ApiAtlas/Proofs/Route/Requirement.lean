import ApiAtlas.Proofs.Model.Bodies
import ApiAtlas.Proofs.Route.Checking

/-! # Required bodies

Whether a request has to have a body is said by the document, but it is the validator of the request model that a
table asks. A request without a body is therefore refused only where the document has a schema for JSON bodies, and
otherwise the handler runs without one.
-/

namespace ApiAtlas

namespace Route

open Model (CompiledDocument OperationSpec compileDocument)

section Origin

variable {docs : List Document} {compiled : List CompiledDocument} {bindings : Bindings} {allowStubs : Bool}
  {entries : List Entry} {entry : Entry} {spec : OperationSpec}

theorem exists_operation_of_resolve (resolved : resolve bindings allowStubs compiled = .ok entries)
    (member : entry ∈ entries) :
    ∃ doc ∈ compiled, ∃ op ∈ doc.operations, resolveOne bindings allowStubs op = .ok entry := by
  unfold resolve at resolved
  dsimp only at resolved
  split at resolved
  · cases resolved
  · cases resolved
  · obtain ⟨op, inside, found⟩ := exists_left_of_forall₂ (mapM_eq_ok_iff.mp resolved) member
    obtain ⟨doc, listed, here⟩ := List.mem_flatMap.mp inside
    exact ⟨doc, listed, op, here, found⟩

/-- A route asks of requests what its operation asks. -/
structure Asks (doc : Document) (op : Operation) (entry : Entry) : Prop where
  route : (entry.path, entry.method) = (op.path, op.method)
  source : entry.source = doc.path
  required : entry.requestRequired = true ↔ op.RequiresBody doc
  model : entry.request.isSome ↔ op.TakesJson doc

theorem asks_of_resolveOne {doc : Document} {op : Operation} (requests : OperationSpec.Requests doc op spec)
    (resolved : resolveOne bindings allowStubs spec = .ok entry) : Asks doc op entry := by
  obtain ⟨handler, source, rfl⟩ := exists_eq_entryOf resolved
  exact ⟨requests.route, requests.source, requests.required, requests.model⟩

theorem exists_asks (keyed : ∀ doc ∈ docs, doc.root.Keyed)
    (compile : docs.Forall₂ (fun doc compiled => compileDocument doc = .ok compiled) compiled)
    (resolved : resolve bindings allowStubs compiled = .ok entries) (member : entry ∈ entries) :
    ∃ doc ∈ docs, ∃ op ∈ doc.operations, Asks doc op entry := by
  obtain ⟨document, listed, spec, inside, found⟩ := exists_operation_of_resolve resolved member
  obtain ⟨doc, there, compiles⟩ := exists_left_of_forall₂ compile listed
  obtain ⟨op, declared, requests⟩ :=
    exists_left_of_forall₂ (Model.compileDocument_requests (keyed doc there) compiles) inside
  exact ⟨doc, there, op, declared, asks_of_resolveOne requests found⟩

end Origin

namespace DispatchTable

variable {strict : Bool} {registered : List Entry} {table : DispatchTable} {request : Http.Request} {entry : Entry}
  {parameters : Http.Pairs}

/-- Without a body a request is refused if its route has a model and requires a body, and is answered by the
handler of the route otherwise. -/
theorem absent_cases (built : ofEntries strict registered = .ok table) (absent : request.body = none)
    (found : table.find? request.method (barePath request.path) = some (entry, parameters)) :
    (entry.requestRequired = true ∧ entry.request.isSome → table.Refuses request 422) ∧
    (¬ (entry.requestRequired = true ∧ entry.request.isSome) →
      table.Calls request entry (givenTo entry parameters request)) := by
  obtain ⟨route, first, same⟩ := Option.map_eq_some_iff.mp (find?_eq.symm.trans found)
  obtain ⟨rfl, rfl⟩ := Prod.mk.inj same
  have guarded := (guards_ofEntries built).routes route (List.mem_of_find?_eq_some first)
  cases model : route.entry.request with
  | none =>
      have fits : objection? route request.body = none := objection?_of_unguarded (guarded.unguarded model)
      exact ⟨fun both => absurd both.2 (by simp), fun _ => calls_route first fits⟩
  | some model =>
      obtain ⟨validator, _, checks⟩ := guarded.guarded model
      have admits : objection? route request.body = none ↔ route.entry.requestRequired = false := by
        rw [objection?_eq_none_iff checks, absent]
        rfl
      constructor
      · intro both
        rw [refuses_iff_objection first, ne_eq, admits, both.1]
        exact nofun
      · intro neither
        exact calls_route first (admits.mpr (Bool.eq_false_iff.mpr fun required => neither ⟨required, rfl⟩))

/-- What a missing body leads to. For documents that compile, whose routes are registered in a table: a request
without a body that goes to one of these routes is refused with 422, and no handler runs, if the operation requires a
body and has a schema for JSON bodies. Otherwise the handler of the route runs, also where the body is required. -/
theorem refuses_absent {docs : List Document} {compiled : List CompiledDocument} {bindings : Bindings}
    {allowStubs : Bool} {entries : List Entry} (keyed : ∀ doc ∈ docs, doc.root.Keyed)
    (compile : docs.Forall₂ (fun doc compiled => compileDocument doc = .ok compiled) compiled)
    (resolved : resolve bindings allowStubs compiled = .ok entries) (built : ofEntries strict registered = .ok table)
    (absent : request.body = none)
    (found : table.find? request.method (barePath request.path) = some (entry, parameters))
    (member : entry ∈ entries) :
    ∃ doc ∈ docs, ∃ op ∈ doc.operations, Asks doc op entry ∧
      (op.RequiresBody doc ∧ op.TakesJson doc →
        table.Refuses request 422 ∧ ∀ other given, ¬ table.Calls request other given) ∧
      (¬ (op.RequiresBody doc ∧ op.TakesJson doc) →
        table.Calls request entry (givenTo entry parameters request)) := by
  obtain ⟨doc, there, op, declared, asks⟩ := exists_asks keyed compile resolved member
  obtain ⟨refused, runs⟩ := absent_cases built absent found
  rw [asks.required, asks.model] at refused runs
  refine ⟨doc, there, op, declared, asks, fun both => ⟨refused both, fun other given calls => ?_⟩, runs⟩
  exact calls.not_refuses (refused both)

/-- Two operations that require a JSON body, of which only the second has a schema for it. -/
def notesDocument : Document where
  path := "notes.json"
  relativePath := "notes.json"
  fields := [("paths", .object [("/notes", .object
    [("put", .object
        [("requestBody", .object
          [("required", .bool true), ("content", .object [("application/json", .object [])])]),
         ("responses", .object [])]),
     ("post", .object
        [("requestBody", .object
          [("required", .bool true),
           ("content", .object [("application/json", .object [("schema", .object [("type", .string "string")])])])]),
         ("responses", .object [])])])])]

theorem keyed_notes : ∀ doc ∈ [notesDocument], doc.root.Keyed := by
  rw [List.forall_mem_singleton]
  simp [Document.root, notesDocument, Table.keys]

/-- A request about the notes that has no body. -/
def emptyRequest (method : Method) : Http.Request where
  method := method
  path := "/notes"

theorem emptyRequest_body (method : Method) : (emptyRequest method).body = none :=
  rfl

theorem barePath_emptyRequest (method : Method) : barePath (emptyRequest method).path = "/notes" := by
  change barePath "/notes" = "/notes"
  decide

/-- The routes of a document, and the table that they are registered in. -/
def tabled? (doc : Document) : Option (List Entry × DispatchTable) := do
  let compiled ← (compileDocument doc).toOption
  let entries ← (resolve {} true [compiled]).toOption
  let table ← (ofEntries false entries).toOption
  return (entries, table)

theorem exists_of_tabled? {doc : Document} {tabled : List Entry × DispatchTable} (found : tabled? doc = some tabled) :
    ∃ compiled, [doc].Forall₂ (fun doc compiled => compileDocument doc = .ok compiled) [compiled] ∧
      resolve {} true [compiled] = .ok tabled.1 ∧ ofEntries false tabled.1 = .ok tabled.2 := by
  simp only [tabled?, Option.bind_eq_bind, Option.bind_eq_some_iff, toOption_eq_some_iff] at found
  obtain ⟨compiled, compiles, entries, resolved, table, built, same⟩ := found
  cases same
  exact ⟨compiled, .cons compiles .nil, resolved, built⟩

/-- Both operations of the notes require a body, and only the second has a model. -/
theorem tabled_notes : (tabled? notesDocument).any (fun tabled =>
    (tabled.2.find? "PUT" "/notes").any (fun found => found.1.requestRequired && found.1.request.isNone) &&
    (tabled.2.find? "POST" "/notes").any (fun found => found.1.requestRequired && found.1.request.isSome)) := by
  decide +kernel

theorem mem_of_find? {entries : List Entry} {method : Method} {path : String}
    (built : ofEntries strict entries = .ok table) (found : table.find? method path = some (entry, parameters)) :
    entry ∈ entries := by
  obtain ⟨route, member, rfl, _⟩ := find?_accepts found
  rw [← (holds_ofEntries built).entries]
  exact List.mem_map_of_mem member

theorem exists_tabled_notes : ∃ entries table put putParameters post postParameters,
    tabled? notesDocument = some (entries, table) ∧
    (table.find? "PUT" (barePath (emptyRequest "PUT").path) = some (put, putParameters) ∧
      put.requestRequired = true ∧ put.request = none) ∧
    table.find? "POST" (barePath (emptyRequest "POST").path) = some (post, postParameters) ∧
      post.requestRequired = true ∧ post.request.isSome := by
  simp only [barePath_emptyRequest]
  obtain ⟨⟨entries, table⟩, same, both⟩ := (Option.any_eq_true _ _).mp tabled_notes
  obtain ⟨puts, posts⟩ := Bool.and_eq_true_iff.mp both
  obtain ⟨⟨put, putParameters⟩, found, bare⟩ := (Option.any_eq_true _ _).mp puts
  obtain ⟨⟨post, postParameters⟩, there, typed⟩ := (Option.any_eq_true _ _).mp posts
  rw [Bool.and_eq_true_iff, Option.isNone_iff_eq_none] at bare
  exact ⟨entries, table, put, putParameters, post, postParameters, same, ⟨found, bare⟩, there,
    Bool.and_eq_true_iff.mp typed⟩

theorem refuses_absent_notes : ∃ compiled entries table,
    (∀ doc ∈ [notesDocument], doc.root.Keyed) ∧
    [notesDocument].Forall₂ (fun doc compiled => compileDocument doc = .ok compiled) compiled ∧
    resolve {} true compiled = .ok entries ∧ ofEntries false entries = .ok table ∧
    table.Refuses (emptyRequest "POST") 422 ∧
    ∃ entry parameters, table.Calls (emptyRequest "PUT") entry (givenTo entry parameters (emptyRequest "PUT")) := by
  obtain ⟨entries, table, put, putParameters, post, postParameters, tabled, ⟨putFound, _, untyped⟩, postFound,
    required, typed⟩ := exists_tabled_notes
  obtain ⟨compiled, compile, resolved, built⟩ := exists_of_tabled? tabled
  refine ⟨[compiled], entries, table, keyed_notes, compile, resolved, built, ?_, put, putParameters, ?_⟩
  · obtain ⟨doc, _, op, _, asks, refused, _⟩ := refuses_absent keyed_notes compile resolved built
      (emptyRequest_body "POST") postFound (mem_of_find? built postFound)
    exact (refused ⟨asks.required.mp required, asks.model.mp typed⟩).1
  · obtain ⟨doc, _, op, _, asks, _, runs⟩ := refuses_absent keyed_notes compile resolved built
      (emptyRequest_body "PUT") putFound (mem_of_find? built putFound)
    refine runs fun both => ?_
    rw [← asks.model, untyped] at both
    exact absurd both.2 (by simp)

/-- A handler can run without the body that its operation requires. -/
theorem runs_absent : ¬ ∀ (docs : List Document) (compiled : List CompiledDocument) (bindings : Bindings)
    (allowStubs strict : Bool) (entries : List Entry) (table : DispatchTable) (request : Http.Request) (entry : Entry)
    (parameters : Http.Pairs),
    (∀ doc ∈ docs, doc.root.Keyed) → docs.Forall₂ (fun doc compiled => compileDocument doc = .ok compiled) compiled →
    resolve bindings allowStubs compiled = .ok entries → ofEntries strict entries = .ok table →
    request.body = none → table.find? request.method (barePath request.path) = some (entry, parameters) →
    entry.requestRequired = true → table.Refuses request 422 := by
  intro always
  obtain ⟨entries, table, put, parameters, _, _, tabled, ⟨found, required, untyped⟩, _⟩ := exists_tabled_notes
  obtain ⟨compiled, compile, resolved, built⟩ := exists_of_tabled? tabled
  have refused : table.Refuses (emptyRequest "PUT") 422 :=
    always [notesDocument] [compiled] {} true false entries table (emptyRequest "PUT") put parameters keyed_notes
      compile resolved built (emptyRequest_body "PUT") found required
  have runs : table.Calls (emptyRequest "PUT") put (givenTo put parameters (emptyRequest "PUT")) :=
    (absent_cases built (emptyRequest_body "PUT") found).2 (by simp [untyped])
  exact runs.not_refuses refused

end DispatchTable

end Route

end ApiAtlas
