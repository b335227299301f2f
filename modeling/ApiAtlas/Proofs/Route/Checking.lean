import ApiAtlas.Proofs.Route.Dispatch

/-! # Bodies that handlers see

A route is registered together with the validator of its own request model. What a table checks before it runs a
handler is therefore the model of that very handler's entry, however the templates of its routes overlap.
-/

namespace ApiAtlas

theorem Payload.Validator.violations_eq_nil_iff {validator : Payload.Validator} {value : Json} :
    validator.violations value = [] ↔ validator.accepts value := by
  rw [violations, accepts, List.isEmpty_iff]
  constructor
  · intro none
    have lengths := congrArg List.length none
    simpa using lengths
  · intro none
    simp [none]

namespace Route

/-- The body of a request may be given to the handler of an entry: it is absent and not required, or the
validator of the entry's model finds nothing wrong with it. -/
def Entry.Admits (entry : Entry) (validator : Payload.Validator) : Option Json → Prop
  | none => entry.requestRequired = false
  | some body => validator.violations body = []

/-- The validator of a route is built from the request model of its own entry. -/
structure Registered.Guarded (strict : Bool) (route : Registered) : Prop where
  unguarded : route.entry.request = none → route.validator = none
  guarded {model : Model.Handle} : route.entry.request = some model →
    ∃ validator, model.validator strict = .ok validator ∧ route.validator = some validator

namespace DispatchTable

variable {strict : Bool} {table grown : DispatchTable} {route : Registered} {entry other : Entry} {entries : List Entry}
  {request given given' : Http.Request} {validator : Payload.Validator} {body : Option Json}

/-- All routes are guarded, in the mode of the table. -/
structure Guards (strict : Bool) (table : DispatchTable) : Prop where
  mode : table.strict = strict
  routes : ∀ route ∈ table.routes, route.Guarded strict

theorem Guards.add (guards : table.Guards strict) (guarded : route.Guarded strict) :
    Guards strict { table with routes := table.routes ++ [route] } where
  mode := guards.mode
  routes := by
    intro other member
    rcases List.mem_append.mp member with member | member
    · exact guards.routes other member
    · obtain rfl := List.mem_singleton.mp member
      exact guarded

theorem Guards.register (guards : table.Guards strict) (h : table.register entry = .ok grown) :
    grown.Guards strict := by
  obtain ⟨template, validator, _, built, rfl⟩ := register_eq_ok_iff.mp h
  rw [guards.mode] at built
  refine guards.add ⟨fun none => ?_, fun some_ => ?_⟩
  · rw [Entry.validator?, none] at built
    cases built
    rfl
  · rw [Entry.validator?, some_] at built
    obtain ⟨checks, builds, same⟩ := bind_eq_ok_iff.mp built
    cases same
    exact ⟨checks, builds, rfl⟩

theorem Guards.foldlM (guards : table.Guards strict)
    (h : entries.foldlM (fun table entry => table.register entry) table = .ok grown) : grown.Guards strict := by
  induction entries generalizing table with
  | nil =>
      cases h
      exact guards
  | cons entry entries ih =>
      rw [List.foldlM_cons, bind_eq_ok_iff] at h
      obtain ⟨between, first, rest⟩ := h
      exact ih (guards.register first) rest

theorem guards_ofEntries (built : ofEntries strict entries = .ok table) : table.Guards strict := by
  have empty : Guards strict { strict } := ⟨rfl, by simp⟩
  exact empty.foldlM built

theorem objection?_of_unguarded (none : route.validator = none) : objection? route body = .none := by
  unfold objection?
  rw [none]

theorem objection?_eq_none_iff (some_ : route.validator = some validator) :
    objection? route body = none ↔ route.entry.Admits validator body := by
  unfold objection?
  rw [some_]
  cases body with
  | none => cases required : route.entry.requestRequired <;> simp [Entry.Admits, required]
  | some body => cases found : validator.violations body <;> simp [Entry.Admits, found]

/-- A request is given to one handler only, and in one way. -/
theorem Calls.unique (calls : table.Calls request entry given) (calls' : table.Calls request other given') :
    entry = other ∧ given = given' := by
  classical
  -- Handlers that answer 200 to this request under this entry, and 404 to all else, tell calls apart.
  let handlers : Entry → Http.Handler := fun e r =>
    if e = entry ∧ r = given then .ofError 200 "" else .ofError 404 ""
  have same : handlers entry given = handlers other given' := (calls handlers).symm.trans (calls' handlers)
  have here : handlers entry given = .ofError 200 "" := if_pos ⟨rfl, rfl⟩
  by_contra different
  have there : handlers other given' = .ofError 404 "" := by
    apply if_neg
    rintro ⟨rfl, rfl⟩
    exact different ⟨rfl, rfl⟩
  rw [here, there] at same
  have statuses : (200 : Nat) = 404 := congrArg Http.Response.status same
  omega

/-- A handler that runs is that of the route which is found, and the table had no objection. -/
theorem Calls.found (calls : table.Calls request entry given) :
    ∃ route, table.route? request.method (barePath request.path) = some route ∧
      objection? route request.body = none ∧ route.entry = entry ∧ given.body = request.body := by
  cases found : table.route? request.method (barePath request.path) with
  | none => exact absurd ⟨_, answers_refusal found, rfl⟩ calls.not_refuses
  | some route =>
      cases objects : objection? route request.body with
      | some response => exact absurd ⟨_, answers_objection found objects, rfl⟩ calls.not_refuses
      | none =>
          obtain ⟨same, rfl⟩ := (calls_route found objects).unique calls
          exact ⟨route, rfl, objects, same, rfl⟩

theorem not_refuses_of_none (found : table.route? request.method (barePath request.path) = none) :
    ¬ table.Refuses request 422 := by
  rw [(answers_refusal found).refuses_iff, status_refusal]
  split <;> simp

theorem refuses_iff_objection (found : table.route? request.method (barePath request.path) = some route) :
    table.Refuses request 422 ↔ objection? route request.body ≠ none := by
  cases objects : objection? route request.body with
  | none =>
      have calls := calls_route found objects
      simp [calls.not_refuses]
  | some response =>
      have refused : table.Refuses request 422 := ⟨response, answers_objection found objects, status_objection objects⟩
      simp [refused]

/-- A handler sees only checked bodies. Where a table that entries were registered in runs the handler of an entry
with a request model, the body is the one of the request, and the validator of the model, built in the mode of the
table, was asked about it: it is admitted. The table itself answers with 422 exactly if the entry that is found has
a model that does not admit the body, and then it runs no handler. -/
theorem admits_of_calls (built : ofEntries strict entries = .ok table) (request : Http.Request) :
    (∀ entry given, table.Calls request entry given → entry ∈ entries ∧ given.body = request.body ∧
      ∀ model, entry.request = some model →
        ∃ validator, model.validator strict = .ok validator ∧ entry.Admits validator request.body) ∧
    (table.Refuses request 422 ↔ ∃ entry parameters model validator,
      table.find? request.method (barePath request.path) = some (entry, parameters) ∧
      entry.request = some model ∧ model.validator strict = .ok validator ∧
      ¬ entry.Admits validator request.body) ∧
    (table.Refuses request 422 → ∀ entry given, ¬ table.Calls request entry given) := by
  have guards := guards_ofEntries built
  have holds := holds_ofEntries built
  refine ⟨?_, ?_, ?_⟩
  · intro entry given calls
    obtain ⟨route, found, fits, rfl, body⟩ := calls.found
    have member : route ∈ table.routes := List.mem_of_find?_eq_some found
    refine ⟨?_, body, ?_⟩
    · rw [← holds.entries]
      exact List.mem_map_of_mem member
    · intro model some_
      obtain ⟨validator, ok, same⟩ := (guards.routes route member).guarded some_
      exact ⟨validator, ok, (objection?_eq_none_iff same).mp fits⟩
  · cases found : table.route? request.method (barePath request.path) with
    | none => simp [not_refuses_of_none found, find?_eq, found]
    | some route =>
        have member : route ∈ table.routes := List.mem_of_find?_eq_some found
        have guarded := guards.routes route member
        rw [refuses_iff_objection found, find?_eq, found]
        constructor
        · intro objects
          cases some_ : route.entry.request with
          | none => exact absurd (objection?_of_unguarded (guarded.unguarded some_)) objects
          | some model =>
              obtain ⟨validator, ok, same⟩ := guarded.guarded some_
              rw [ne_eq, objection?_eq_none_iff same] at objects
              exact ⟨_, _, model, validator, rfl, some_, ok, objects⟩
        · rintro ⟨_, _, model, validator, ⟨⟩, some_, ok, unfit⟩
          obtain ⟨_, ok', same⟩ := guarded.guarded some_
          rw [ok] at ok'
          cases ok'
          rwa [ne_eq, objection?_eq_none_iff same]
  · intro refuses entry given calls
    exact calls.not_refuses refuses

def nameModel : Model.Handle where
  models := []
  definition := { name := "Name", body := .alias (.primitive .string), facets := {} }

def nameEntry : Entry :=
  { (default : Entry) with
    path := "/pets/names", method := "POST", name := "add_name", request := some nameModel, requestRequired := true }

/-- A route that takes names, and one for all paths beside it that takes anything. -/
def namingEntries : List Entry :=
  [nameEntry, { (default : Entry) with path := "/pets/{part}", method := "POST", name := "add_part" }]

def nameRoute : Registered where
  template := .ofPath "/pets/names"
  entry := nameEntry
  validator := some { model := "Name", schema := nameModel.jsonSchema true, strict := true }

theorem validator_nameModel : nameModel.validator true =
    .ok { model := "Name", schema := nameModel.jsonSchema true, strict := true } := by
  have sound : Payload.defect? (nameModel.jsonSchema true) = none := by decide +kernel
  rw [Model.Handle.validator, sound]
  rfl

theorem register_nameEntry :
    register nameEntry { strict := true } = .ok { strict := true, routes := [nameRoute] } := by
  have read : Template.read? nameEntry.path = some (.ofPath nameEntry.path) := by decide +kernel
  have built : nameEntry.validator? true = .ok nameRoute.validator := by
    have some_ : nameEntry.request = some nameModel := rfl
    rw [Entry.validator?, some_, Option.mapM_some, validator_nameModel]
    rfl
  exact register_eq_ok_iff.mpr ⟨_, _, read, built, rfl⟩

theorem exists_table_naming : ∃ table rest, ofEntries true namingEntries = .ok table ∧
    table.routes = nameRoute :: rest := by
  have whole : ofEntries true namingEntries = (register nameEntry { strict := true } >>= fun table =>
      table.register { (default : Entry) with path := "/pets/{part}", method := "POST", name := "add_part" }) := rfl
  rw [whole, register_nameEntry]
  exact ⟨_, _, rfl, rfl⟩

theorem route?_naming {table : DispatchTable} {rest : List Registered} (order : table.routes = nameRoute :: rest) :
    table.route? "POST" (barePath "/pets/names") = some nameRoute := by
  have serves : nameRoute.serves "POST" (barePath "/pets/names") = true := by decide +kernel
  rw [route?, order]
  exact List.find?_cons_of_pos serves

/-- A request to add this name. -/
def posted (body : Json) : Http.Request where
  method := "POST"
  path := "/pets/names"
  body := some body

theorem admits_of_calls_naming : ∃ table, ofEntries true namingEntries = .ok table ∧
    (∃ entry given, table.Calls (posted (.string "Rex")) entry given ∧ entry ∈ namingEntries ∧
      given.body = some (.string "Rex") ∧ ∀ model, entry.request = some model →
        ∃ validator, model.validator true = .ok validator ∧ entry.Admits validator (some (.string "Rex"))) ∧
    table.Refuses (posted .null) 422 ∧ ∀ entry given, ¬ table.Calls (posted .null) entry given := by
  obtain ⟨table, rest, built, order⟩ := exists_table_naming
  have found (body : Json) : table.route? (posted body).method (barePath (posted body).path) = some nameRoute :=
    route?_naming order
  have fits : objection? nameRoute (some (.string "Rex")) = none := by
    apply (objection?_eq_none_iff rfl).mpr
    apply Payload.Validator.violations_eq_nil_iff.mpr
    decide +kernel
  have objects : objection? nameRoute (some .null) ≠ none := by
    rw [ne_eq, objection?_eq_none_iff rfl, Entry.Admits, Payload.Validator.violations_eq_nil_iff]
    decide +kernel
  have calls := calls_route (found (.string "Rex")) fits
  have refuses : table.Refuses (posted .null) 422 := (refuses_iff_objection (found .null)).mpr objects
  refine ⟨table, built, ⟨_, _, calls, (admits_of_calls built _).1 _ _ calls⟩, refuses, ?_⟩
  exact (admits_of_calls built _).2.2 refuses

end DispatchTable

end Route

end ApiAtlas
