import ApiAtlas.Proofs.Http.Query
import ApiAtlas.Proofs.Route.Reach
import ApiAtlas.Proofs.Table

/-! # How a table answers

A request goes to the first route for its method and path. If there is none, the table refuses it, and the
refusal tells whether other methods have routes for the path. Which handlers the routes have makes no
difference to this, so an answer is the table's own if it stays the same whatever the handlers do.
-/

namespace ApiAtlas

namespace Route

/-- The path of a request without its query string. -/
def barePath (path : String) : String := String.ofList (path.toList.takeWhile (· != '?'))

/-- What follows the first question mark. -/
def queryText (path : String) : String := String.ofList ((path.toList.dropWhile (· != '?')).drop 1)

def Entry.matches (entry : Entry) (path : String) : Bool := (Template.ofPath entry.path).accepts path

namespace DispatchTable

/-- The table of entries that are registered one after another. -/
def ofEntries (strict : Bool) (entries : List Entry) : Except String DispatchTable :=
  entries.foldlM (fun table entry => table.register entry) { strict }

/-- The table with other handlers. -/
def withHandlers (handlers : Entry → Http.Handler) (table : DispatchTable) : DispatchTable :=
  { table with
    routes := table.routes.map fun route =>
      { route with entry := { route.entry with handler := handlers route.entry } } }

/-- The table itself answers a request: the handlers make no difference. -/
def Answers (table : DispatchTable) (request : Http.Request) (response : Http.Response) : Prop :=
  ∀ handlers, (table.withHandlers handlers).dispatch request = response

/-- The table itself answers a request, with this status. -/
def Refuses (table : DispatchTable) (request : Http.Request) (status : Nat) : Prop :=
  ∃ response, table.Answers request response ∧ response.status = status

/-- The answer to a request is what the handler of an entry makes of what it is given. -/
def Calls (table : DispatchTable) (request : Http.Request) (entry : Entry) (given : Http.Request) : Prop :=
  ∀ handlers, (table.withHandlers handlers).dispatch request = handlers entry given

variable {table : DispatchTable} {request given : Http.Request} {response : Http.Response} {entry : Entry}
  {route : Registered} {status : Nat} {path : String}

theorem Answers.unique {other : Http.Response} (answers : table.Answers request response)
    (answers' : table.Answers request other) : response = other :=
  (answers fun entry => entry.handler).symm.trans (answers' fun entry => entry.handler)

theorem Answers.refuses_iff (answers : table.Answers request response) :
    table.Refuses request status ↔ response.status = status := by
  constructor
  · intro ⟨other, answers', same⟩
    exact answers.unique answers' ▸ same
  · intro same
    exact ⟨response, answers, same⟩

theorem Calls.not_refuses (calls : table.Calls request entry given) : ¬ table.Refuses request status := by
  intro ⟨response, answers, _⟩
  -- A handler can be swapped for one that answers otherwise, which the table's own answer would not notice.
  let other : Http.Response := { response with status := response.status + 1 }
  have same : response = other := (answers fun _ _ => other).symm.trans (calls fun _ _ => other)
  have statuses : response.status = response.status + 1 := congrArg Http.Response.status same
  omega

theorem withQuery_eq : withQuery request = { request with
    path := barePath request.path
    query := request.query ++ Query.parse (queryText request.path) } := by
  have whole : request.path.toList.takeWhile (· != '?') ++ request.path.toList.dropWhile (· != '?') =
      request.path.toList := List.takeWhile_append_dropWhile
  rw [withQuery, Text.cutAt?, barePath, queryText]
  cases rest : request.path.toList.dropWhile (· != '?') with
  | nil =>
      have nothing : Query.parse "" = [] := rfl
      rw [rest, List.append_nil] at whole
      simp only [whole, List.drop_nil, String.ofList_toList, String.ofList_nil, nothing, List.append_nil]
  | cons mark rest => simp

theorem route?_withHandlers {handlers : Entry → Http.Handler} {method : Method} :
    (table.withHandlers handlers).route? method path = (table.route? method path).map fun route =>
      { route with entry := { route.entry with handler := handlers route.entry } } := by
  rw [route?, withHandlers, List.find?_map]
  rfl

theorem refusal_withHandlers {handlers : Entry → Http.Handler} :
    (table.withHandlers handlers).refusal path = table.refusal path := by
  have same : (table.withHandlers handlers).allowedMethods path = table.allowedMethods path := by
    simp only [allowedMethods, withHandlers, List.filter_map, List.map_map, Function.comp_def]
  rw [refusal, refusal, same]

/-- What a handler is given: the path without the query, which is decoded, and the parameters of the path. -/
def givenTo (entry : Entry) (parameters : Http.Pairs) (request : Http.Request) : Http.Request :=
  { request with
    path := barePath request.path
    routeName := entry.name
    pathParameters := parameters
    query := request.query ++ Query.parse (queryText request.path) }

/-- A handler is given the path without the query, its parameters, the name of the route, and the pairs that the query
says after those of the caller. The rest of the request stays. -/
structure Given (entry : Entry) (parameters : Http.Pairs) (request given : Http.Request) : Prop where
  method : given.method = request.method
  path : given.path = barePath request.path
  routeName : given.routeName = entry.name
  pathParameters : given.pathParameters = parameters
  query : ∃ decoded, Query.Decodes (queryText request.path) decoded ∧ given.query = request.query ++ decoded
  headers : given.headers = request.headers
  body : given.body = request.body

theorem given_givenTo (entry : Entry) (parameters : Http.Pairs) (request : Http.Request) :
    Given entry parameters request (givenTo entry parameters request) :=
  ⟨rfl, rfl, rfl, rfl, ⟨_, Query.decodes_iff.mpr rfl, rfl⟩, rfl, rfl⟩

theorem Given.eq_givenTo {parameters : Http.Pairs} (right : Given entry parameters request given) :
    given = givenTo entry parameters request := by
  obtain ⟨decoded, written, query⟩ := right.query
  rw [Query.decodes_iff.mp written] at query
  cases given
  simp only [givenTo, Http.Request.mk.injEq]
  exact ⟨right.method, right.path, right.routeName, right.pathParameters, query, right.headers, right.body⟩

theorem answers_refusal (none : table.route? request.method (barePath request.path) = none) :
    table.Answers request (table.refusal (barePath request.path)) := by
  intro handlers
  simp only [dispatch, withQuery_eq, route?_withHandlers, none, Option.map_none, refusal_withHandlers]

theorem answers_objection (found : table.route? request.method (barePath request.path) = some route)
    (objects : objection? route request.body = some response) : table.Answers request response := by
  intro handlers
  have same : objection? { route with entry := { route.entry with handler := handlers route.entry } } request.body =
      some response := objects
  simp only [dispatch, withQuery_eq, route?_withHandlers, found, Option.map_some, same]

theorem calls_route (found : table.route? request.method (barePath request.path) = some route)
    (fits : objection? route request.body = none) : table.Calls request route.entry
      (givenTo route.entry ((route.template.capture? (barePath request.path)).getD []) request) := by
  intro handlers
  have same : objection? { route with entry := { route.entry with handler := handlers route.entry } } request.body =
      none := fits
  simp only [dispatch, withQuery_eq, route?_withHandlers, found, Option.map_some, same]
  rfl

theorem status_objection (objects : objection? route request.body = some response) : response.status = 422 := by
  unfold objection? at objects
  split at objects
  · cases objects
  · split at objects
    · cases objects
      rfl
    · cases objects
  · split at objects
    · cases objects
    · cases objects
      rfl

theorem refuses_or_calls (found : table.route? request.method (barePath request.path) = some route) :
    table.Refuses request 422 ∨ table.Calls request route.entry
      (givenTo route.entry ((route.template.capture? (barePath request.path)).getD []) request) := by
  cases objects : objection? route request.body with
  | some response => exact .inl ⟨response, answers_objection found objects, status_objection objects⟩
  | none => exact .inr (calls_route found objects)

theorem not_refuses_of_found (found : table.route? request.method (barePath request.path) = some route)
    (other : status ≠ 422) : ¬ table.Refuses request status := by
  rcases refuses_or_calls found with ⟨response, answers, unfit⟩ | calls
  · rw [answers.refuses_iff, unfit]
    exact fun same => other same.symm
  · exact calls.not_refuses

theorem status_refusal (table : DispatchTable) (path : String) :
    (table.refusal path).status = if table.allowedMethods path = [] then 404 else 405 := by
  rw [refusal]
  split
  · rename_i none
    rw [none]
    rfl
  · rename_i some_
    rw [if_neg some_]
    rfl

theorem header?_refusal (some_ : table.allowedMethods path ≠ []) :
    (table.refusal path).header? "allow" = some (Text.join ", " (table.allowedMethods path)) := by
  have other : Text.sameIgnoringAsciiCase "content-type" "allow" = false := by decide
  have same : Text.sameIgnoringAsciiCase "allow" "allow" = true := by decide
  rw [refusal]
  split
  · rename_i none
    exact absurd none some_
  · simp [Http.Response.header?, Http.headerValue?, Http.Response.withHeader, Http.Response.ofError,
      Http.Response.ofJson, other, same]

section Registered

variable {strict : Bool} {entries : List Entry} {grown : DispatchTable} {method : Method}

/-- The routes of the table are those of the entries, each under the template of its path. -/
structure Holds (table : DispatchTable) (entries : List Entry) : Prop where
  entries : table.routes.map (·.entry) = entries
  template : ∀ route ∈ table.routes, route.template = .ofPath route.entry.path

theorem adds_foldlM (h : entries.foldlM (fun table entry => table.register entry) table = .ok grown) :
    Router.Adds table grown entries := by
  induction entries generalizing table with
  | nil =>
      cases h
      exact .nil
  | cons entry entries ih =>
      rw [List.foldlM_cons, bind_eq_ok_iff] at h
      obtain ⟨between, first, rest⟩ := h
      exact .cons first (ih rest)

theorem holds_ofEntries (h : ofEntries strict entries = .ok table) : table.Holds entries := by
  obtain ⟨added, routes, same, template⟩ := adds_foldlM h
  rw [List.nil_append] at routes
  exact ⟨routes ▸ same, routes ▸ template⟩

namespace Holds

theorem serves (holds : table.Holds entries) (member : route ∈ table.routes) :
    route.serves method path ↔ route.entry.method = method ∧ route.entry.matches path := by
  rw [Registered.serves_iff, holds.template route member, Entry.matches]

theorem owners (holds : table.Holds entries) :
    (table.routes.filter (·.template.accepts path)).map (·.entry) = entries.filter (·.matches path) := by
  have same : ∀ route ∈ table.routes, route.template.accepts path = route.entry.matches path := by
    intro route member
    rw [holds.template route member, Entry.matches]
  rw [List.filter_congr same, ← holds.entries, List.filter_map]
  rfl

theorem allowedMethods (holds : table.Holds entries) :
    table.allowedMethods path = ((entries.filter (·.matches path)).map (·.method)).eraseDups := by
  rw [DispatchTable.allowedMethods, ← holds.owners, List.map_map]
  rfl

theorem route?_eq_none_iff (holds : table.Holds entries) : table.route? method path = none ↔
    ∀ entry ∈ entries, entry.matches path → entry.method ≠ method := by
  rw [route?, List.find?_eq_none, ← holds.entries, List.forall_mem_map]
  refine forall₂_congr fun route member => ?_
  rw [holds.serves member]
  tauto

theorem allowedMethods_eq_nil_iff (holds : table.Holds entries) :
    table.allowedMethods path = [] ↔ ∀ entry ∈ entries, ¬ entry.matches path := by
  rw [holds.allowedMethods, List.eq_nil_iff_forall_not_mem]
  simp only [List.mem_eraseDups, List.mem_map, List.mem_filter, not_exists, not_and]
  exact ⟨fun none entry member matching => none _ entry ⟨member, matching⟩ rfl,
    fun none _ entry owner _ => none entry owner.1 owner.2⟩

/-- The refusal of a path says whether any entry matches it. -/
theorem status_refusal_iff (holds : table.Holds entries) :
    ((table.refusal path).status = 404 ↔ ∀ entry ∈ entries, ¬ entry.matches path) ∧
      ((table.refusal path).status = 405 ↔ ∃ entry ∈ entries, entry.matches path) := by
  rw [table.status_refusal path, ← holds.allowedMethods_eq_nil_iff]
  have matched : (∃ entry ∈ entries, entry.matches path) ↔ table.allowedMethods path ≠ [] := by
    simp [holds.allowedMethods_eq_nil_iff]
  rw [matched]
  split <;> simp_all

end Holds

/-- An entry is the first one for a method and a path, and these are the parameters of the path. -/
structure IsFirst (entries : List Entry) (method : Method) (path : String) (entry : Entry)
    (parameters : Http.Pairs) : Prop where
  owner : entry.method = method
  captured : (Template.ofPath entry.path).capture? path = some parameters
  first : ∃ before after, entries = before ++ entry :: after ∧
    ∀ earlier ∈ before, earlier.matches path → earlier.method ≠ method

theorem Holds.isFirst (holds : table.Holds entries) (found : table.route? method path = some route) :
    ∃ parameters, route.template.capture? path = some parameters ∧
      IsFirst entries method path route.entry parameters ∧
      table.find? method path = some (route.entry, parameters) := by
  obtain ⟨serves, before, after, order, earlier⟩ := List.find?_eq_some_iff_append.mp found
  have here : route ∈ table.routes := by simp [order]
  obtain ⟨same, accepts⟩ := Registered.serves_iff.mp serves
  obtain ⟨parameters, captured⟩ := Option.isSome_iff_exists.mp accepts
  refine ⟨parameters, captured, ⟨same, ?_, before.map (·.entry), after.map (·.entry), ?_, ?_⟩, ?_⟩
  · rw [← holds.template route here, captured]
  · rw [← holds.entries, order, List.map_append, List.map_cons]
  · rw [List.forall_mem_map]
    intro other member matching owner
    have there : other ∈ table.routes := by simp [order, member]
    have taken : other.serves method path := (holds.serves there).mpr ⟨owner, matching⟩
    simpa [taken] using earlier other member
  · rw [find?_eq, found, Option.map_some, captured, Option.getD_some]

theorem IsFirst.mem {parameters : Http.Pairs} (first : IsFirst entries method path entry parameters) :
    entry ∈ entries := by
  obtain ⟨before, after, order, _⟩ := first.first
  simp [order]

theorem IsFirst.matches {parameters : Http.Pairs} (first : IsFirst entries method path entry parameters) :
    entry.matches path := Option.isSome_of_eq_some first.captured

namespace Holds

theorem find?_eq_none_iff (holds : table.Holds entries) : table.find? method path = none ↔
    ∀ entry ∈ entries, entry.matches path → entry.method ≠ method := by
  rw [find?_eq, Option.map_eq_none_iff, holds.route?_eq_none_iff]

theorem refuses_notFound_iff (holds : table.Holds entries) : table.Refuses request 404 ↔
    ∀ entry ∈ entries, ¬ entry.matches (barePath request.path) := by
  cases found : table.route? request.method (barePath request.path) with
  | none => rw [(answers_refusal found).refuses_iff, holds.status_refusal_iff.1]
  | some route =>
      -- The path has an entry of this method, so the table refuses the request neither with 404 nor with 405.
      obtain ⟨parameters, _, first, _⟩ := holds.isFirst found
      exact iff_of_false (not_refuses_of_found found (by decide)) fun none => none _ first.mem first.matches

theorem refuses_notAllowed_iff (holds : table.Holds entries) : table.Refuses request 405 ↔
    (∃ entry ∈ entries, entry.matches (barePath request.path)) ∧
      ∀ entry ∈ entries, entry.matches (barePath request.path) → entry.method ≠ request.method := by
  cases found : table.route? request.method (barePath request.path) with
  | none =>
      rw [(answers_refusal found).refuses_iff, holds.status_refusal_iff.2,
        and_iff_left (holds.route?_eq_none_iff.mp found)]
  | some route =>
      obtain ⟨parameters, _, first, _⟩ := holds.isFirst found
      refine iff_of_false (not_refuses_of_found found (by decide)) fun refused => ?_
      exact refused.2 _ first.mem first.matches first.owner

/-- The methods that have a route for the path of a request that is refused with 405, in the header `allow`. -/
theorem header?_of_notAllowed (holds : table.Holds entries) (answers : table.Answers request response)
    (refused : response.status = 405) :
    response.header? "allow" = some (Text.join ", " (table.allowedMethods (barePath request.path))) := by
  cases found : table.route? request.method (barePath request.path) with
  | some route => exact absurd ⟨response, answers, refused⟩ (not_refuses_of_found found (by decide))
  | none =>
      obtain rfl := (answers_refusal found).unique answers
      obtain ⟨entry, member, matching⟩ := holds.status_refusal_iff.2.mp refused
      exact header?_refusal fun none => holds.allowedMethods_eq_nil_iff.mp none entry member matching

theorem isFirst_of_find? {parameters : Http.Pairs} (holds : table.Holds entries)
    (there : table.find? request.method (barePath request.path) = some (entry, parameters)) :
    IsFirst entries request.method (barePath request.path) entry parameters ∧
      ∃ given, Given entry parameters request given ∧ (table.Refuses request 422 ∨ table.Calls request entry given) := by
  obtain ⟨route, found, _⟩ := Option.map_eq_some_iff.mp (find?_eq.symm.trans there)
  obtain ⟨captures, captured, first, same⟩ := holds.isFirst found
  rw [there] at same
  cases same
  have outcome := refuses_or_calls found
  rw [captured, Option.getD_some] at outcome
  exact ⟨first, _, given_givenTo .., outcome⟩

end Holds

end Registered

/-- Dispatching is a partition in three that agrees with finding. A table that entries were registered in one
after another refuses a request with 404 exactly if no template matches the path before the query, and with 405
exactly if some template does but none of this method; the header `allow` then lists each method with a matching
template once, in the order of first registration. Any other request goes to the route that is found, the first
one for it: the table refuses the body, or the handler is given the request under the name of the route, with the
path before the query, its parameters, and what the query says after what the caller says. -/
theorem dispatch_partition {strict : Bool} {entries : List Entry} {table : DispatchTable}
    (built : ofEntries strict entries = .ok table) (request : Http.Request) :
    let path := barePath request.path
    let owners := (entries.filter (·.matches path)).map (·.method)
    (table.Refuses request 404 ↔ ∀ entry ∈ entries, ¬ entry.matches path) ∧
    (table.Refuses request 405 ↔ (∃ entry ∈ entries, entry.matches path) ∧
      ∀ entry ∈ entries, entry.matches path → entry.method ≠ request.method) ∧
    (∀ response, table.Answers request response → response.status = 405 →
      ∃ methods, response.header? "allow" = some (Text.join ", " methods) ∧
        (∀ method, method ∈ methods ↔ method ∈ owners) ∧
        methods.Pairwise fun first second => owners.idxOf first < owners.idxOf second) ∧
    (table.find? request.method path = none ↔
      ∀ entry ∈ entries, entry.matches path → entry.method ≠ request.method) ∧
    (∀ entry parameters, table.find? request.method path = some (entry, parameters) →
      IsFirst entries request.method path entry parameters ∧
        ∃ given, Given entry parameters request given ∧
          (table.Refuses request 422 ∨ table.Calls request entry given)) := by
  intro path owners
  have holds := holds_ofEntries built
  have allowed : table.allowedMethods path = owners.eraseDups := holds.allowedMethods
  refine ⟨holds.refuses_notFound_iff, holds.refuses_notAllowed_iff, fun response answers refused => ?_,
    holds.find?_eq_none_iff, fun entry parameters there => holds.isFirst_of_find? there⟩
  refine ⟨_, holds.header?_of_notAllowed answers refused, fun method => ?_, ?_⟩
  · rw [allowed, List.mem_eraseDups]
  · exact allowed ▸ pairwise_eraseDups owners

/-- A route that takes every request of `/pets/first`. -/
def petEntry : Entry := { (default : Entry) with path := "/pets/{id}", method := "GET", name := "pet" }

/-- Routes of which the first one takes requests of the second, and none is for methods other than two. -/
def petEntries : List Entry :=
  [petEntry,
   { (default : Entry) with path := "/pets/first", method := "GET", name := "first_pet" },
   { (default : Entry) with path := "/pets/{id}", method := "PUT", name := "put_pet" }]

/-- A request with a query that has a blank, bytes beyond ASCII, an empty piece, a written plus sign and a name alone. -/
def petRequest : Http.Request :=
  { method := "GET", path := "/pets/first?name=caf%C3%A9+noir&&sum=1%2B1&full", query := [("page", "2")],
    headers := [("accept", "application/json")] }

theorem IsFirst.eq_petEntry {parameters : Http.Pairs} (first : IsFirst petEntries "GET" "/pets/first" entry parameters) :
    entry = petEntry ∧ parameters = [("id", "first")] := by
  obtain ⟨before, after, order, earlier⟩ := first.first
  obtain rfl : entry = petEntry := by
    cases before with
    | nil => exact (List.head_eq_of_cons_eq order).symm
    | cons other before =>
        obtain rfl : petEntry = other := List.head_eq_of_cons_eq order
        exact absurd rfl (earlier petEntry List.mem_cons_self (by decide))
  have captured : (Template.ofPath petEntry.path).capture? "/pets/first" = some [("id", "first")] := by decide
  exact ⟨rfl, Option.some_injective _ (first.captured.symm.trans captured)⟩

theorem dispatch_partition_pets : ∃ table, ofEntries false petEntries = .ok table ∧
    table.Refuses { method := "GET", path := "/owners?all" } 404 ∧
    (∃ response, table.Answers { method := "PATCH", path := "/pets/first" } response ∧ response.status = 405 ∧
      response.header? "allow" = some "GET, PUT") ∧
    table.find? "GET" "/pets/first" = some (petEntry, [("id", "first")]) ∧
    table.Calls petRequest petEntry
      { method := "GET", path := "/pets/first", routeName := "pet", pathParameters := [("id", "first")],
        query := [("page", "2"), ("name", "café noir"), ("sum", "1+1"), ("full", "")],
        headers := [("accept", "application/json")] } := by
  obtain ⟨table, built⟩ : ∃ table, ofEntries false petEntries = .ok table := exists_eq_ok_of_isOk (by decide +kernel)
  refine ⟨table, built, (dispatch_partition built _).1.mpr (by decide), ?_, ?_⟩
  · obtain ⟨-, notAllowed, allow, -⟩ := dispatch_partition built { method := "PATCH", path := "/pets/first" }
    obtain ⟨response, answers, status⟩ := notAllowed.mpr (by decide)
    obtain ⟨methods, header, owners, order⟩ := allow response answers status
    -- The list with these members in this order is the only one.
    have asymm : Std.Asymm fun first second => ["GET", "GET", "PUT"].idxOf first < ["GET", "GET", "PUT"].idxOf second :=
      ⟨fun _ _ => Nat.lt_asymm⟩
    have all : methods = ["GET", "PUT"] := by
      refine List.Pairwise.eq_of_mem_iff order (by decide) fun method => ?_
      rw [owners]
      change method ∈ ["GET", "GET", "PUT"] ↔ method ∈ ["GET", "PUT"]
      simp
    exact ⟨response, answers, status, by rw [header, all]; rfl⟩
  · obtain ⟨-, -, -, absent, present⟩ := dispatch_partition built petRequest
    have path : barePath petRequest.path = "/pets/first" := by decide
    rw [path] at absent present
    cases there : table.find? "GET" "/pets/first" with
    | none => exact absurd (absent.mp there) (by decide)
    | some found =>
        obtain ⟨entry, parameters⟩ := found
        obtain ⟨first, given, right, outcome⟩ := present entry parameters there
        obtain ⟨rfl, rfl⟩ := first.eq_petEntry
        have query : Query.parse (queryText petRequest.path) =
            [("name", "café noir"), ("sum", "1+1"), ("full", "")] := by decide +kernel
        rw [right.eq_givenTo, givenTo, path, query] at outcome
        refine ⟨rfl, outcome.resolve_left ?_⟩
        have free : (ofEntries false petEntries).toOption.bind (fun table =>
            (table.route? "GET" "/pets/first").map (·.validator.isNone)) = some true := by decide +kernel
        rw [built, Except.toOption, Option.bind_some] at free
        obtain ⟨route, serves, unchecked⟩ := Option.map_eq_some_iff.mp free
        have fits : objection? route petRequest.body = none := by
          simp only [objection?, Option.isNone_iff_eq_none.mp unchecked]
        rw [← path] at serves
        exact (calls_route serves fits).not_refuses

end DispatchTable

end Route

end ApiAtlas
