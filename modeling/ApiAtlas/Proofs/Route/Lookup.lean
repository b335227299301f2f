import ApiAtlas.Proofs.Model.Bodies
import ApiAtlas.Proofs.Model.Success
import ApiAtlas.Proofs.Route.Caching
import ApiAtlas.Proofs.Route.Reach

/-! # Looking up models

The models of a route are looked up among the operations of all documents, and the route itself is made from one of
them. Both come to the same, since no two operations share a route. The response that stands for success is the one
for 200 if the operation documents it, and else the one for the least status from 200 to 299 that it documents.
-/

namespace ApiAtlas

open Model (CompiledDocument Handle OperationSpec compileDocument)
open Model.Compiling (declaredResponses documented statusCode?)
open Route (Entry)

/-- An operation documents a status: a key of its responses writes it. -/
def Operation.Documents (op : Operation) (status : Nat) : Prop :=
  ∃ entry ∈ declaredResponses op, statusCode? entry.1 = some status

/-- A route has the models of a compiled operation: the one of its request, and that of the response that stands for
success among those that the operation documents. -/
structure Route.Entry.Serves (entry : Entry) (op : Operation) (spec : OperationSpec) : Prop where
  declared : (entry.path, entry.method) = (op.path, op.method)
  compiled : (entry.path, entry.method) = (spec.path, spec.method)
  request : entry.request = spec.request
  response : ∃ status, Primary op.Documents status ∧ entry.responseStatus = status.getD 200 ∧
    entry.response = status.bind fun status => (SortedTable.get? status spec.responses).bind (·.model)

namespace Model

variable {doc : Document} {compiled : CompiledDocument} {op : Operation} {spec : OperationSpec} {status : Nat}

theorem Compiling.isSome_documented {declared : List (String × Json)} :
    (documented status declared).isSome ↔ ∃ entry ∈ declared, statusCode? entry.1 = some status := by
  induction declared with
  | nil => simp [documented]
  | cons entry declared ih =>
      rw [documented, Option.isSome_or, Bool.or_eq_true, ih, List.exists_mem_cons_iff, or_comm]
      refine or_congr_left ?_
      split <;> simp [*]

/-- The responses of a compiled operation are for the statuses that the operation documents. -/
theorem compileDocument_documents (keyed : doc.root.Keyed) (compiles : compileDocument doc = .ok compiled) :
    doc.operations.Forall₂ (fun op spec => (spec.path, spec.method) = (op.path, op.method) ∧
      ∀ status, status ∈ SortedTable.keys spec.responses ↔ op.Documents status) compiled.operations := by
  obtain ⟨stage, drafts, ends⟩ := exists_endsAt keyed compiles
  rw [ends.operations, List.forall₂_map_right_iff]
  refine ends.drafted.imp fun op draft drafted => ⟨by rw [← drafted.operation]; rfl, fun status => ?_⟩
  have statuses : SortedTable.keys (OperationSpec.ofDraft doc stage.models draft).responses =
      SortedTable.keys draft.responses := List.map_map
  have responds := drafted.responses status
  rw [statuses, ← SortedTable.isSome_get?, Operation.Documents, ← Compiling.isSome_documented]
  cases written : documented status (declaredResponses op) with
  | none =>
      rw [written] at responds
      rw [responds]
      rfl
  | some response =>
      rw [written] at responds
      obtain ⟨_, _, _, found, _⟩ := responds
      rw [found]
      rfl

end Model

namespace Route

variable {bindings : Bindings} {allowStubs : Bool} {entry : Entry} {entries : List Entry} {docs : List CompiledDocument}
  {spec : OperationSpec}

/-- The route of an operation has the models of that operation. -/
theorem serves_of_resolveOne {op : Operation} (ascending : SortedTable.Ascending spec.responses)
    (route : (spec.path, spec.method) = (op.path, op.method))
    (documents : ∀ status, status ∈ SortedTable.keys spec.responses ↔ op.Documents status)
    (resolves : resolveOne bindings allowStubs spec = .ok entry) : entry.Serves op spec := by
  obtain ⟨handler, source, rfl⟩ := exists_eq_entryOf resolves
  have primary := (Model.OperationSpec.primary_primaryStatus? ascending).congr documents
  refine ⟨route, rfl, rfl, spec.primaryStatus?, primary, rfl, ?_⟩
  exact Option.bind_assoc _ _ _

theorem find?_of_nodup {ops : List OperationSpec} (distinct : (ops.map routeOf).Nodup) (member : spec ∈ ops) :
    (ops.find? fun op => op.path == spec.path && op.method == spec.method) = some spec := by
  cases found : ops.find? fun op => op.path == spec.path && op.method == spec.method with
  | none =>
      have absent := List.find?_eq_none.mp found spec member
      simp at absent
  | some op =>
      have same := List.find?_some found
      simp only [Bool.and_eq_true, beq_iff_eq] at same
      have route : routeOf op = routeOf spec := Prod.ext same.1 same.2
      rw [List.inj_on_of_nodup_map distinct (List.mem_of_find?_eq_some found) member route]

/-- A compiled operation comes from one of the documents. -/
theorem exists_operation {loaded : List Document} (keyed : ∀ doc ∈ loaded, doc.root.Keyed)
    (compiled : loaded.Forall₂ (fun doc compiled => compileDocument doc = .ok compiled) docs)
    (member : spec ∈ docs.flatMap (·.operations)) : ∃ doc ∈ loaded, ∃ op ∈ doc.operations,
      (∃ compiled ∈ docs, compileDocument doc = .ok compiled ∧ spec ∈ compiled.operations) ∧
      SortedTable.Ascending spec.responses ∧ (spec.path, spec.method) = (op.path, op.method) ∧
      ∀ status, status ∈ SortedTable.keys spec.responses ↔ op.Documents status := by
  obtain ⟨whole, listed, member⟩ := List.mem_flatMap.mp member
  obtain ⟨doc, there, compiles⟩ := exists_left_of_forall₂ compiled listed
  obtain ⟨op, declared, route, documents⟩ :=
    exists_left_of_forall₂ (Model.compileDocument_documents (keyed doc there) compiles) member
  exact ⟨doc, there, op, declared, ⟨whole, listed, compiles, member⟩,
    Model.compileDocument_ascending compiles member, route, documents⟩

end Route

namespace Router

variable {tree : FileTree} {router next : Router} {docs : List CompiledDocument} {entries : List Entry}

theorem run_documents_of_kept (kept : router.compiled = some docs) :
    (documents tree).run.run router = (.ok docs, router) := by
  obtain ⟨root, chain, bindings, allowStubs, strict, compiled⟩ := router
  cases kept
  rfl

/-- Once documents are kept, the files no longer matter. -/
theorem perform_of_kept {other : FileTree} (kept : router.compiled = some docs) (call : Call) :
    perform tree call router = perform other call router := by
  have same {α : Type} (next : List CompiledDocument → Using α) :
      (documents tree >>= next).run.run router = (documents other >>= next).run.run router := by
    rw [run_bind_of_ok (run_documents_of_kept kept), run_bind_of_ok (run_documents_of_kept kept)]
  have resolves : (resolve tree).run.run router = (resolve other).run.run router := same _
  cases call with
  | bind | bindDefault => rfl
  | compile => exact (run_documents_of_kept kept).trans (run_documents_of_kept kept).symm
  | resolve => exact resolves
  | assemble register state => rw [perform, perform, assemble_eq, assemble_eq, resolves]
  | table => rw [perform, perform, table_eq, table_eq, resolves]
  | requestModel | responseModel =>
      simp only [perform, requestModel?, responseModel?, operation?, bind_assoc]
      exact same _

/-- A router in use: a new one, or one on which calls were made. The files may change between two calls. -/
inductive Used : Router → Prop where
  | new {router : Router} (fresh : router.compiled = none) : Used router
  | step {router : Router} (used : Used router) (tree : FileTree) (call : Call) : Used (perform tree call router).2

theorem upToDate_of_fresh (fresh : router.compiled = none) : UpToDate tree router := fun docs kept => by
  rw [fresh] at kept
  cases kept

theorem Used.upToDate (used : router.Used) : ∃ source, UpToDate source router := by
  induction used with
  | new fresh => exact ⟨{}, upToDate_of_fresh fresh⟩
  | @step router _ tree call ih =>
      obtain ⟨source, current⟩ := ih
      cases kept : router.compiled with
      | none =>
          have current : UpToDate tree router := upToDate_of_fresh kept
          exact ⟨tree, current.perform call⟩
      | some docs =>
          refine ⟨source, ?_⟩
          rw [perform_of_kept kept call]
          exact current.perform call

/-- A router in use answers every call as it does for the files that its documents come from. -/
theorem Used.exists_source (used : router.Used) (tree : FileTree) :
    ∃ source, UpToDate source router ∧ ∀ call, perform tree call router = perform source call router := by
  cases kept : router.compiled with
  | none => exact ⟨tree, upToDate_of_fresh kept, fun _ => rfl⟩
  | some docs =>
      obtain ⟨source, current⟩ := used.upToDate
      exact ⟨source, current, perform_of_kept kept⟩

/-- Looking up the models of a route gives these. -/
structure Finds (tree : FileTree) (router : Router) (route : String × Method) (request response : Option Handle) :
    Prop where
  request : (perform tree (.requestModel route.1 route.2) router).1 = (.ok request : Except BuildError _)
  response : (perform tree (.responseModel route.1 route.2) router).1 = (.ok response : Except BuildError _)

theorem finds_of_upToDate (current : UpToDate tree router)
    (compiles : compileTree tree router.specsPath router.chain = .ok docs) (route : String × Method) :
    Finds tree router route ((operationOf? docs route).bind (·.request))
      ((operationOf? docs route).bind (·.responseModel?)) := by
  constructor
  · rw [perform, run_requestModel? current, compiles]
  · rw [perform, run_responseModel? current, compiles]

/-- What a router keeps comes from these documents. -/
structure Keeps (router : Router) (loaded : List Document) (docs : List CompiledDocument) : Prop where
  kept : router.compiled = some docs
  loads : ∃ source, Document.loadAll source router.specsPath = .ok loaded
  compiled : loaded.Forall₂ (fun doc compiled => compileDocument doc = .ok compiled) docs

theorem keeps_of_compiles (compiles : compileTree tree router.specsPath router.chain = .ok docs) : ∃ loaded,
    Keeps { router with compiled := some docs } loaded docs ∧ ∀ doc ∈ loaded, doc.root.Keyed := by
  rw [compileTree, bind_eq_ok_iff] at compiles
  obtain ⟨loaded, loads, builds⟩ := compiles
  rw [mapError_eq_ok_iff] at loads
  have compiled := (mapM_eq_ok_iff.mp builds).imp fun _ _ built => (compileOne_eq_ok_iff.mp built).2
  have each := Document.loadAll_eq_ok_iff.mp loads
  exact ⟨loaded, ⟨rfl, ⟨tree, loads⟩, compiled⟩, fun doc member =>
    Document.keyed_of_loadEach each (List.mem_map_of_mem member)⟩

theorem Finds.of_same {other : FileTree} {route : String × Method} {request response : Option Handle}
    (same : ∀ call, perform tree call router = perform other call router)
    (finds : Finds other router route request response) : Finds tree router route request response :=
  ⟨(congrArg Prod.fst (same _)).trans finds.request, (congrArg Prod.fst (same _)).trans finds.response⟩

/-- Once routes are resolved, lookups come to a search among the operations that the routes are made from. -/
theorem Used.exists_keeps (used : router.Used) (resolved : (resolve tree).run.run router = (.ok entries, next)) :
    ∃ loaded docs, next.Keeps loaded docs ∧ (∀ doc ∈ loaded, doc.root.Keyed) ∧
      Route.resolve router.bindings router.allowStubs docs = .ok entries ∧ ∀ route,
        Finds tree router route ((operationOf? docs route).bind (·.request))
          ((operationOf? docs route).bind (·.responseModel?)) ∧
        ∀ later, Finds later next route ((operationOf? docs route).bind (·.request))
          ((operationOf? docs route).bind (·.responseModel?)) := by
  obtain ⟨source, current, same⟩ := used.exists_source tree
  have resolved : (resolve source).run.run router = (.ok entries, next) := (same .resolve).symm.trans resolved
  rw [run_resolve current] at resolved
  cases compiles : compileTree source router.specsPath router.chain with
  | error error =>
      rw [compiles] at resolved
      cases resolved
  | ok docs =>
      rw [compiles] at resolved
      obtain ⟨routes, rfl⟩ := Prod.mk.inj resolved
      have still : UpToDate source { router with compiled := some docs } := by
        rintro _ ⟨⟩
        exact compiles
      obtain ⟨loaded, keeps, keyed⟩ := keeps_of_compiles compiles
      exact ⟨loaded, docs, keeps, keyed, routes, fun route => ⟨.of_same same (finds_of_upToDate current compiles route),
        fun later => .of_same (perform_of_kept rfl) (finds_of_upToDate still compiles route)⟩⟩

/-- Looking up models agrees with the routes. If the routes of a router in use are resolved, no two are for one path
and method, the models that are looked up for a path and a method are those of the route, and there are none if there
is no such route; so it stays afterwards, whatever becomes of the files. The models of a route are those of the
operation of a document that declares it. Its response is the one for status 200 if the operation documents it, else
for the least status from 200 to 299 that it documents. -/
theorem models_of_routes (used : router.Used) (resolved : (resolve tree).run.run router = (.ok entries, next)) :
    (entries.map fun entry => (entry.path, entry.method)).Nodup ∧
    (∀ entry ∈ entries, Finds tree router (entry.path, entry.method) entry.request entry.response ∧
      ∀ later, Finds later next (entry.path, entry.method) entry.request entry.response) ∧
    (∀ route ∉ entries.map fun entry => (entry.path, entry.method),
      Finds tree router route none none ∧ ∀ later, Finds later next route none none) ∧
    ∃ loaded docs, next.Keeps loaded docs ∧ ∀ entry ∈ entries, ∃ doc ∈ loaded, ∃ op ∈ doc.operations,
      ∃ compiled ∈ docs, compileDocument doc = .ok compiled ∧ ∃ spec ∈ compiled.operations, entry.Serves op spec := by
  obtain ⟨loaded, docs, keeps, keyed, routes, finds⟩ := used.exists_keeps resolved
  obtain ⟨distinct, each⟩ := Route.operations_of_resolve routes
  refine ⟨Route.nodup_of_resolve routes, fun entry member => ?_, fun route absent => ?_, loaded, docs, keeps,
    fun entry member => ?_⟩
  · obtain ⟨spec, there, resolves⟩ := exists_left_of_forall₂ each member
    obtain ⟨handler, origin, rfl⟩ := Route.exists_eq_entryOf resolves
    have found : operationOf? docs (spec.path, spec.method) = some spec := Route.find?_of_nodup distinct there
    have finds := finds (spec.path, spec.method)
    rw [found] at finds
    exact finds
  · rw [Route.routes_of_forall₂ each] at absent
    have missing : operationOf? docs route = none := by
      refine List.find?_eq_none.mpr fun spec there equal => absent ?_
      simp only [Bool.and_eq_true, beq_iff_eq] at equal
      exact List.mem_map.mpr ⟨spec, there, Prod.ext equal.1 equal.2⟩
    have finds := finds route
    rw [missing] at finds
    exact finds
  · obtain ⟨spec, there, resolves⟩ := exists_left_of_forall₂ each member
    obtain ⟨doc, one, op, declared, ⟨compiled, listed, compiles, within⟩, ascending, route, documents⟩ :=
      Route.exists_operation keyed keeps.compiled there
    exact ⟨doc, one, op, declared, compiled, listed, compiles, spec, within,
      Route.serves_of_resolveOne ascending route documents resolves⟩

section Adoption

/-- A document with one operation, which documents two statuses. -/
def adoptionDocument : Document where
  path := "pets.json"
  relativePath := "pets.json"
  fields :=
    [("openapi", .string "3.0.3"),
     ("paths", .object [("/pets", .object [("post", .object [("responses", .object
       [("204", .object []),
        ("201", .object [("content", .object
          [("application/json", .object [("schema", .object [("type", .string "object")])])])])])])])])]

def adoptionText : String :=
  "\x7b\"openapi\":\"3.0.3\",\"paths\":\x7b\"/pets\":\x7b\"post\":\x7b\"responses\":\x7b\"204\":\x7b\x7d," ++
    "\"201\":\x7b\"content\":\x7b\"application/json\":\x7b\"schema\":\x7b\"type\":\"object\"\x7d\x7d\x7d\x7d" ++
    "\x7d\x7d\x7d\x7d\x7d"

def adoptionTree : FileTree where
  entries := [(["pets.json"], .file adoptionText.toUTF8)]

def adoptionRouter : Router where
  specsPath := "pets.json"
  allowStubs := true

theorem parse?_adoption : Json.parse? adoptionText = some adoptionDocument.root := by cbv

theorem loadAll_adoption : Document.loadAll adoptionTree "pets.json" = .ok [adoptionDocument] :=
  Document.loadAll_file rfl (by decide +kernel) rfl parse?_adoption rfl

theorem routes_adoption : (([adoptionDocument].mapM (compileOne {}) >>= Route.resolve {} true).toOption.map
    (List.map fun entry => ((entry.path, entry.method), entry.responseStatus, entry.response.map (·.name)))) =
      some [(("/pets", "POST"), 201, some "PostPetsResponse201")] := by
  decide +kernel

theorem exists_route_adoption : ∃ entry next, (resolve adoptionTree).run.run adoptionRouter = (.ok [entry], next) ∧
    (entry.path, entry.method) = ("/pets", "POST") ∧ entry.responseStatus = 201 ∧
    entry.response.map (·.name) = some "PostPetsResponse201" := by
  obtain ⟨entries, resolves, routes⟩ := Option.map_eq_some_iff.mp routes_adoption
  obtain ⟨entry, none, rfl, same, empty⟩ := List.map_eq_cons_iff.mp routes
  obtain rfl := List.map_eq_nil_iff.mp empty
  obtain ⟨route, status, response⟩ := And.imp_right Prod.mk.inj (Prod.mk.inj same)
  have resolved : ((resolve adoptionTree).run.run adoptionRouter).1 = .ok [entry] :=
    (resolve_of_loadAll rfl loadAll_adoption).trans (toOption_eq_some_iff.mp resolves)
  exact ⟨entry, _, Prod.ext resolved rfl, route, status, response⟩

theorem models_of_routes_adoption : ∃ entry next, (resolve adoptionTree).run.run adoptionRouter = (.ok [entry], next) ∧
    entry.responseStatus = 201 ∧ entry.response.map (·.name) = some "PostPetsResponse201" ∧
    Finds adoptionTree adoptionRouter ("/pets", "POST") entry.request entry.response ∧
    Finds adoptionTree adoptionRouter ("/pets", "GET") none none := by
  obtain ⟨entry, next, resolved, route, status, response⟩ := exists_route_adoption
  obtain ⟨_, found, absent, _⟩ := models_of_routes (.new rfl) resolved
  have here := (found entry (List.mem_singleton_self entry)).1
  rw [route] at here
  refine ⟨entry, next, resolved, status, response, here, (absent ("/pets", "GET") ?_).1⟩
  rw [List.map_singleton, route]
  decide

end Adoption

end Router

end ApiAtlas
