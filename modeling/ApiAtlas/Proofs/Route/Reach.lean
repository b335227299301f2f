import ApiAtlas.Proofs.Route.Assembly
import ApiAtlas.Proofs.Route.Resolution
import ApiAtlas.Proofs.Route.Template

/-! # Routes that requests reach

Routes are tried in the order in which they were registered, so an earlier route may take every request of a
later one. It does so exactly if its template covers that of the later one: if no single earlier template
does, then some request passes all of them.
-/

namespace ApiAtlas

namespace Route

def Registered.route (registered : Registered) : String × Method :=
  (registered.entry.path, registered.entry.method)

/-- Each route stands under the template of its path, and no two are for one path and method. -/
structure DispatchTable.Regular (table : DispatchTable) : Prop where
  template : ∀ registered ∈ table.routes, registered.template = .ofPath registered.entry.path
  distinct : (table.routes.map Registered.route).Nodup

section Finding

variable {table : DispatchTable} {before after : List Registered} {registered : Registered} {method : Method}
  {path : String}

theorem Registered.serves_iff :
    registered.serves method path ↔ registered.entry.method = method ∧ registered.template.accepts path := by
  simp [serves]

/-- Finding and dispatching look for a route each in its own way, and come to the same one. -/
theorem DispatchTable.find?_eq : table.find? method path =
    (table.route? method path).map fun route => (route.entry, (route.template.capture? path).getD []) := by
  rw [find?, route?]
  induction table.routes with
  | nil => rfl
  | cons route routes ih =>
      cases owner : route.entry.method == method with
      | false =>
          have other : route.serves method path = false := by simp [Registered.serves, owner]
          rw [List.filter_cons_of_neg (by simp [owner]), List.find?_cons_of_neg (by simp [other]), ih]
      | true =>
          rw [List.filter_cons_of_pos (by simpa using owner), List.findSome?_cons]
          cases captured : route.template.capture? path with
          | none =>
              have other : route.serves method path = false := by simp [Registered.serves, Template.accepts, captured]
              rw [List.find?_cons_of_neg (by simp [other]), Option.map_none, ih]
          | some parameters =>
              have serves : route.serves method path := by simp [Registered.serves, Template.accepts, owner, captured]
              rw [List.find?_cons_of_pos (by simpa using serves), Option.map_some, Option.map_some, captured,
                Option.getD_some]

/-- The first route that serves a request is the one that is found. -/
theorem DispatchTable.find?_of_first (order : table.routes = before ++ registered :: after)
    (serves : registered.serves method path) (first : ∀ earlier ∈ before, ¬ earlier.serves method path) :
    table.find? method path = some (registered.entry, (registered.template.capture? path).getD []) := by
  have none : before.find? (·.serves method path) = none := List.find?_eq_none.mpr first
  have here : (registered :: after).find? (·.serves method path) = some registered := List.find?_cons_of_pos serves
  rw [find?_eq, route?, order, List.find?_append, none, Option.none_or, here, Option.map_some]

theorem DispatchTable.exists_before_of_find? {entry : Entry} {params : Http.Pairs}
    (order : table.routes = before ++ registered :: after) {earlier : Registered} (member : earlier ∈ before)
    (serves : earlier.serves method path) (found : table.find? method path = some (entry, params)) :
    ∃ other ∈ before, other.entry = entry := by
  have some_ : (before.find? (·.serves method path)).isSome := List.find?_isSome.mpr ⟨earlier, member, serves⟩
  obtain ⟨other, first⟩ := Option.isSome_iff_exists.mp some_
  rw [find?_eq, route?, order, List.find?_append, first, Option.some_or, Option.map_some, Option.some.injEq,
    Prod.mk.injEq] at found
  exact ⟨other, List.mem_of_find?_eq_some first, found.1⟩

theorem DispatchTable.find?_accepts {entry : Entry} {params : Http.Pairs}
    (found : table.find? method path = some (entry, params)) :
    ∃ other ∈ table.routes, other.entry = entry ∧ other.template.accepts path := by
  obtain ⟨other, first, same⟩ := Option.map_eq_some_iff.mp (find?_eq.symm.trans found)
  have serves := List.find?_some first
  exact ⟨other, List.mem_of_find?_eq_some first, congrArg Prod.fst same, (Registered.serves_iff.mp serves).2⟩

namespace DispatchTable.Regular

theorem proper (regular : table.Regular) (member : registered ∈ table.routes) : registered.template.Proper :=
  regular.template registered member ▸ Template.proper_ofPath _

/-- A route is reached if no earlier route of its method covers it. -/
theorem reached (regular : table.Regular) (order : table.routes = before ++ registered :: after)
    (uncovered : ∀ earlier ∈ before, earlier.entry.method = registered.entry.method →
      earlier.template.covers registered.template = false) :
    ∃ path params, table.find? registered.entry.method path = some (registered.entry, params) := by
  -- The piece is fresh for all earlier templates at once, so one path shows that none of them is in the way.
  obtain ⟨fresh, piece, apart⟩ := exists_fresh (before.flatMap fun earlier => earlier.template.literals)
  have here : registered ∈ table.routes := by simp [order]
  have accepts := Template.accepts_sample piece (regular.proper here)
  refine ⟨_, _, find?_of_first order (Registered.serves_iff.mpr ⟨rfl, accepts⟩) fun earlier member serves => ?_⟩
  obtain ⟨same, accepts⟩ := Registered.serves_iff.mp serves
  have there : earlier ∈ table.routes := by simp [order, member]
  have unmentioned : fresh ∉ earlier.template.literals := fun mentioned =>
    apart (List.mem_flatMap.mpr ⟨earlier, member, mentioned⟩)
  have covers := Template.covers_of_accepts_sample piece unmentioned (regular.proper there) (regular.proper here) accepts
  rw [uncovered earlier member same] at covers
  cases covers

/-- A route that is reached is covered by no earlier route of its method. -/
theorem uncovered (regular : table.Regular) (order : table.routes = before ++ registered :: after)
    {params : Http.Pairs} (found : table.find? registered.entry.method path = some (registered.entry, params)) :
    ∀ earlier ∈ before, earlier.entry.method = registered.entry.method →
      earlier.template.covers registered.template = false := by
  intro earlier member same
  by_contra covers
  rw [Bool.not_eq_false] at covers
  have here : registered ∈ table.routes := by simp [order]
  have there : earlier ∈ table.routes := by simp [order, member]
  have accepts : registered.template.accepts path := by
    obtain ⟨other, listed, entry, accepts⟩ := find?_accepts found
    rwa [regular.template registered here, ← entry, ← regular.template other listed]
  have serves : earlier.serves registered.entry.method path := by
    refine Registered.serves_iff.mpr ⟨same, ?_⟩
    exact (Template.covers_iff (regular.proper there) (regular.proper here)).mp covers path accepts
  -- What is found then stands before the route itself, and routes are not listed twice.
  obtain ⟨other, listed, entry⟩ := exists_before_of_find? order member serves found
  have distinct := regular.distinct
  rw [order, List.map_append, List.map_cons] at distinct
  have apart := (List.nodup_append.mp distinct).2.2 _ (List.mem_map_of_mem listed) _ List.mem_cons_self
  exact apart (by rw [Registered.route, Registered.route, entry])

end DispatchTable.Regular

end Finding

section Registering

variable {entries : List Entry}

/-- Routes that are resolved stand for the operations, one each, and no two operations share a route. -/
theorem operations_of_resolve {bindings : Bindings} {allowStubs : Bool} {docs : List Model.CompiledDocument}
    (h : resolve bindings allowStubs docs = .ok entries) : ((docs.flatMap (·.operations)).map routeOf).Nodup ∧
      List.Forall₂ (fun op entry => resolveOne bindings allowStubs op = .ok entry)
        (docs.flatMap (·.operations)) entries := by
  unfold resolve at h
  dsimp only at h
  split at h
  · cases h
  · cases h
  · rename_i clear _
    have start : (([] : List Model.OperationSpec).map routeOf).Nodup := List.nodup_nil
    exact ⟨(duplicate?_eq_none_iff start).mp clear, mapM_eq_ok_iff.mp h⟩

theorem nodup_of_resolve {bindings : Bindings} {allowStubs : Bool} {docs : List Model.CompiledDocument}
    (h : resolve bindings allowStubs docs = .ok entries) :
    (entries.map fun entry => (entry.path, entry.method)).Nodup := by
  obtain ⟨distinct, each⟩ := operations_of_resolve h
  rw [routes_of_forall₂ each]
  exact distinct

end Registering

end Route

namespace Router

open Route (DispatchTable Entry Registered)

variable {tree : FileTree} {router : Router} {table : DispatchTable} {entries : List Entry}

theorem exists_resolve {after : Router} (h : (resolve tree).run.run router = (.ok entries, after)) :
    ∃ bindings allowStubs docs, Route.resolve bindings allowStubs docs = .ok entries := by
  rcases step : (documents tree).run.run router with ⟨error | docs, between⟩
  · rw [resolve, run_bind_of_error step] at h
    cases h
  · rw [resolve, run_bind_of_ok step] at h
    have same : (MonadExcept.ofExcept (Route.resolve between.bindings between.allowStubs docs) : Using _).run.run
        between = (.ok entries, after) := h
    refine ⟨between.bindings, between.allowStubs, docs, ?_⟩
    cases result : Route.resolve between.bindings between.allowStubs docs with
    | error error =>
        rw [result] at same
        cases same
    | ok found =>
        rw [result] at same
        cases same
        rfl

theorem regular_table (h : (Router.table tree router).1 = .ok table) : table.Regular := by
  unfold Router.table assemble at h
  rcases resolved : (resolve tree).run.run router with ⟨error | entries, after⟩
  · simp only [resolved] at h
    cases h
  · simp only [resolved] at h
    rcases registered : (registerAll registerInTable entries).run.run { strict := router.strict } with
      ⟨error | count, grown⟩
    · rw [registered] at h
      cases h
    · rw [registered] at h
      cases h
      obtain ⟨added, routes, rfl, templates⟩ := adds_registerAll registered
      obtain ⟨_, _, _, resolves⟩ := exists_resolve resolved
      rw [List.nil_append] at routes
      refine ⟨routes ▸ templates, ?_⟩
      have distinct := Route.nodup_of_resolve resolves
      rw [List.map_map] at distinct
      rw [routes]
      exact distinct

/-- A route of a router's table is reached exactly if no earlier route of its method has a template that covers
its own, that is, one that accepts every path that its own accepts. -/
theorem table_reaches_iff {before after : List Registered} {registered : Registered}
    (h : (Router.table tree router).1 = .ok table) (order : table.routes = before ++ registered :: after) :
    ((∃ path params, table.find? registered.entry.method path = some (registered.entry, params)) ↔
      ∀ earlier ∈ before, earlier.entry.method = registered.entry.method →
        earlier.template.covers registered.template = false) ∧
    ∀ earlier ∈ before, earlier.template.covers registered.template ↔
      ∀ path, registered.template.accepts path → earlier.template.accepts path := by
  have regular := regular_table h
  refine ⟨⟨?_, regular.reached order⟩, fun earlier member => ?_⟩
  · intro ⟨path, params, found⟩
    exact regular.uncovered order found
  · have here : registered ∈ table.routes := by simp [order]
    have there : earlier ∈ table.routes := by simp [order, member]
    exact Route.Template.covers_iff (regular.proper there) (regular.proper here)

section Users

/-- The routes of compiled documents, registered in a table. -/
def tableOf (router : Router) (docs : List Model.CompiledDocument) : Except BuildError DispatchTable := do
  let entries ← Route.resolve router.bindings router.allowStubs docs
  let (result, table) := (registerAll registerInTable entries).run.run { strict := router.strict }
  result.map fun _ => table

/-- The table of a router that keeps no documents yet is that of the documents of its tree. -/
theorem table_fresh (fresh : router.compiled = none) : (Router.table tree router).1 =
    (compileTree tree router.specsPath router.chain).bind (tableOf router) := by
  unfold Router.table assemble
  cases compiled : compileTree tree router.specsPath router.chain with
  | error error =>
      have failed : ((resolve tree).run.run router).1 = .error error := resolve_of_error fresh compiled
      generalize (resolve tree).run.run router = outcome at failed ⊢
      obtain ⟨result, after⟩ := outcome
      cases failed
      rfl
  | ok docs =>
      have resolved : ((resolve tree).run.run router).1 = Route.resolve router.bindings router.allowStubs docs :=
        resolve_of_ok fresh compiled
      rw [Except.bind, tableOf, ← resolved]
      generalize (resolve tree).run.run router = outcome
      obtain ⟨error | entries, after⟩ := outcome <;> rfl

/-- A document with a route for one user and a route for oneself. -/
def usersDocument : Document where
  path := "users.json"
  relativePath := "users.json"
  fields :=
    [("openapi", .string "3.0.3"),
     ("paths", .object
       [("/users/{id}", .object [("get", .object [])]), ("/users/me", .object [("get", .object [])])])]

def usersText : String :=
  "\x7b\"openapi\":\"3.0.3\"," ++
    "\"paths\":\x7b\"/users/\x7bid\x7d\":\x7b\"get\":\x7b\x7d\x7d,\"/users/me\":\x7b\"get\":\x7b\x7d\x7d\x7d\x7d"

def usersTree : FileTree where
  entries := [(["users.json"], .file usersText.toUTF8)]

def usersRouter : Router where
  specsPath := "users.json"
  allowStubs := true

theorem parse?_users : Json.parse? usersText = some usersDocument.root := by cbv

theorem loadAll_users : Document.loadAll usersTree "users.json" = .ok [usersDocument] :=
  Document.loadAll_file rfl (by decide +kernel) rfl parse?_users rfl

theorem routes_users : ((Router.table usersTree usersRouter).1.toOption.map fun table =>
    table.routes.map Registered.route) = some [("/users/{id}", "GET"), ("/users/me", "GET")] := by
  have compiled : compileTree usersTree "users.json" {} = [usersDocument].mapM (compileOne {}) := by
    rw [compileTree, loadAll_users]
    rfl
  have table : (Router.table usersTree usersRouter).1 =
      (compileTree usersTree "users.json" {}).bind (tableOf usersRouter) := table_fresh rfl
  rw [table, compiled]
  decide +kernel

theorem exists_table_users : ∃ table first second, (Router.table usersTree usersRouter).1 = .ok table ∧
    table.routes = [first] ++ second :: [] ∧ first.route = ("/users/{id}", "GET") ∧
    second.route = ("/users/me", "GET") := by
  have routes := routes_users
  cases result : (Router.table usersTree usersRouter).1 with
  | error error =>
      rw [result] at routes
      cases routes
  | ok table =>
      rw [result] at routes
      obtain ⟨first, rest, order, one, two⟩ := List.map_eq_cons_iff.mp (Option.some.inj routes)
      obtain ⟨second, others, same, two, none⟩ := List.map_eq_cons_iff.mp two
      obtain rfl := List.map_eq_nil_iff.mp none
      exact ⟨table, first, second, rfl, by rw [order, same]; rfl, one, two⟩

theorem covers_users {table : DispatchTable} {first second : Registered}
    (ok : (Router.table usersTree usersRouter).1 = .ok table) (order : table.routes = [first] ++ second :: [])
    (one : first.route = ("/users/{id}", "GET")) (two : second.route = ("/users/me", "GET")) :
    first.template.covers second.template = true := by
  have regular := regular_table ok
  obtain ⟨onePath, _⟩ := Prod.mk.inj one
  obtain ⟨twoPath, _⟩ := Prod.mk.inj two
  rw [regular.template first (by simp [order]), regular.template second (by simp [order]), onePath, twoPath]
  decide

/-- The first route is reached, and it takes all requests of the second one. -/
theorem table_reaches_iff_users : ∃ table first second, (Router.table usersTree usersRouter).1 = .ok table ∧
    table.routes = [first, second] ∧ first.route = ("/users/{id}", "GET") ∧ second.route = ("/users/me", "GET") ∧
    (∃ path params, table.find? "GET" path = some (first.entry, params)) ∧
    (¬ ∃ path params, table.find? "GET" path = some (second.entry, params)) ∧
    ∀ path, second.template.accepts path → first.template.accepts path := by
  obtain ⟨table, first, second, ok, order, one, two⟩ := exists_table_users
  have covers := covers_users ok order one two
  have alone : table.routes = [] ++ first :: [second] := order
  obtain ⟨reached, -⟩ := table_reaches_iff ok alone
  obtain ⟨reaches, accepts⟩ := table_reaches_iff ok order
  obtain ⟨_, oneMethod⟩ := Prod.mk.inj one
  obtain ⟨_, twoMethod⟩ := Prod.mk.inj two
  rw [oneMethod] at reached
  rw [twoMethod] at reaches
  refine ⟨table, first, second, ok, order, one, two, reached.mpr (List.forall_mem_nil _), fun found => ?_,
    (accepts first (List.mem_singleton_self _)).mp covers⟩
  have uncovered := reaches.mp found first (List.mem_singleton_self _) oneMethod
  rw [covers] at uncovered
  cases uncovered

/-- A route may be shadowed without a word: a table is built in which no request reaches the second route. -/
theorem table_shadows : ¬ ∀ (tree : FileTree) (router : Router) (table : DispatchTable),
    (Router.table tree router).1 = .ok table → ∀ registered ∈ table.routes, ∃ path params,
      table.find? registered.entry.method path = some (registered.entry, params) := by
  intro reaches
  obtain ⟨table, first, second, ok, order, one, two⟩ := exists_table_users
  obtain ⟨path, params, found⟩ := reaches _ _ _ ok second (by simp [order])
  have uncovered := (regular_table ok).uncovered order found first (List.mem_singleton_self _)
    ((Prod.mk.inj one).2.trans (Prod.mk.inj two).2.symm)
  rw [covers_users ok order one two] at uncovered
  cases uncovered

end Users

end Router

end ApiAtlas
