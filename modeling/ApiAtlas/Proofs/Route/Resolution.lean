import Mathlib.Data.List.Nodup
import ApiAtlas.Proofs.Conformance
import ApiAtlas.Proofs.Model.Compilation
import ApiAtlas.Proofs.Route.Assignment

/-! # Resolving routes

The routes of documents are those that their operations declare, in order. They are resolved exactly if no two
documents share one, each binding of a single route is for one that is declared, and each has a handler.
Otherwise the first of these conditions to fail is reported.
-/

namespace ApiAtlas

open Model (CompiledDocument OperationSpec)

theorem OperationKey.method_injective : Function.Injective OperationKey.method := by
  intro first second
  cases first <;> cases second <;> decide

/-- Two elements of a joined list come from one part or from two parts in the same order. -/
theorem sublist_flatMap {α β : Type} {parts : α → List β} {first second : β} {wholes : List α}
    (h : [first, second].Sublist (wholes.flatMap parts)) :
    (∃ whole ∈ wholes, [first, second].Sublist (parts whole)) ∨
      ∃ earlier later, [earlier, later].Sublist wholes ∧ first ∈ parts earlier ∧ second ∈ parts later := by
  induction wholes with
  | nil => cases h
  | cons whole wholes ih =>
      rw [List.flatMap_cons, List.sublist_append_iff] at h
      obtain ⟨here, there, split, inside, beyond⟩ := h
      match here, split with
      | [], split =>
          obtain rfl : there = [first, second] := split.symm
          rcases ih beyond with ⟨part, member, both⟩ | ⟨earlier, later, order, one, other⟩
          · exact .inl ⟨part, List.mem_cons_of_mem _ member, both⟩
          · exact .inr ⟨earlier, later, order.cons _, one, other⟩
      | [_], split =>
          cases split
          obtain ⟨later, member, other⟩ := List.mem_flatMap.mp (List.singleton_sublist.mp beyond)
          exact .inr ⟨whole, later, (List.singleton_sublist.mpr member).cons_cons _,
            List.singleton_sublist.mp inside, other⟩
      | [_, _], split =>
          cases split
          exact .inl ⟨whole, List.mem_cons_self, inside⟩

namespace Document

variable {doc : Document}

/-- The routes that the operations of a document declare. -/
def routes (doc : Document) : List (String × Method) := doc.operations.map fun op => (op.path, op.method)

theorem routes_eq : doc.routes = (doc.paths?.getD []).flatMap fun entry =>
    (OperationKey.all.filter fun key => (entry.2.get? key.text).isSome).map fun key => (entry.1, key.method) := by
  rw [routes, operations, List.map_flatMap]
  congr 1
  funext entry
  unfold operationsOf
  rw [List.map_filterMap, ← List.filterMap_eq_map, List.filterMap_filter]
  congr 1
  funext key
  cases entry.2.get? key.text <;> rfl

theorem nodup_paths (keyed : doc.root.Keyed) : (Table.keys (doc.paths?.getD [])).Nodup := by
  cases found : doc.paths? with
  | none => exact .nil
  | some table =>
      obtain ⟨section', written, fields⟩ := Option.bind_eq_some_iff.mp found
      have whole := keyed.get? written
      cases section' with
      | object entries =>
          cases fields
          exact whole.distinct
      | _ => cases fields

theorem nodup_routes (keyed : doc.root.Keyed) : doc.routes.Nodup := by
  have keys : OperationKey.all.Nodup := by decide
  have paths : (doc.paths?.getD []).Pairwise fun first second => first.1 ≠ second.1 :=
    List.pairwise_map.mp (nodup_paths keyed)
  -- Within a path the keys differ, and two paths of one section differ since its keys do.
  rw [routes_eq, List.nodup_flatMap]
  constructor
  · intro entry _
    refine (keys.filter _).map fun first second same => ?_
    exact OperationKey.method_injective (Prod.mk.inj same).2
  · refine paths.imp fun apart route here there => ?_
    simp only [List.mem_map] at here there
    obtain ⟨_, _, rfl⟩ := here
    obtain ⟨_, _, same⟩ := there
    exact apart (Prod.mk.inj same).1.symm

end Document

namespace Model

variable {doc : Document} {compiled : CompiledDocument}

theorem declarations_compileDocument (keyed : doc.root.Keyed) (compiles : compileDocument doc = .ok compiled) :
    compiled.operations.map (fun op => (routeOf op, op.source)) = doc.routes.map fun route => (route, doc.path) := by
  obtain ⟨stage, drafts, ends⟩ := exists_endsAt keyed compiles
  have each : doc.operations.Forall₂ (fun op draft => op = draft.operation) drafts :=
    ends.drafted.imp fun _ _ drafts => drafts.operation.symm
  have same : doc.operations = drafts.map (·.operation) := by
    rwa [← List.forall₂_eq_eq_eq, List.forall₂_map_right_iff]
  rw [ends.operations, Document.routes, same, List.map_map, List.map_map, List.map_map]
  rfl

end Model

namespace Route

open Model (compileDocument)

section Operations

variable {bindings : Bindings} {allowStubs : Bool} {ops earlier : List OperationSpec} {op : OperationSpec}
  {error : BuildError}

theorem exists_of_duplicate? (found : duplicate? earlier ops = some error) :
    ∃ first second, [first, second].Sublist (earlier ++ ops) ∧ routeOf first = routeOf second ∧
      error = .duplicateRoute second.path second.method first.source second.source := by
  induction ops generalizing earlier with
  | nil => cases found
  | cons op ops ih =>
      rw [duplicate?] at found
      cases there : earlier.find? fun first => first.path == op.path && first.method == op.method with
      | some first =>
          rw [there] at found
          cases found
          have same := List.find?_some there
          simp only [Bool.and_eq_true, beq_iff_eq] at same
          have member : [first].Sublist earlier := List.singleton_sublist.mpr (List.mem_of_find?_eq_some there)
          have last : [op].Sublist (op :: ops) := List.singleton_sublist.mpr List.mem_cons_self
          exact ⟨first, op, member.append last, Prod.ext same.1 same.2, rfl⟩
      | none =>
          rw [there] at found
          obtain ⟨first, second, order, clash⟩ := ih found
          rw [List.append_assoc, List.singleton_append] at order
          exact ⟨first, second, order, clash⟩

theorem unknown?_eq_none_iff :
    unknown? bindings ops = none ↔ ∀ route ∈ bindings.overridden, route ∈ ops.map routeOf := by
  rw [unknown?, Option.map_eq_none_iff, List.find?_eq_none]
  refine forall₂_congr fun route _ => ?_
  simp [routeOf, Prod.ext_iff]

theorem exists_of_unknown? (found : unknown? bindings ops = some error) :
    ∃ route ∈ bindings.overridden, route ∉ ops.map routeOf ∧ error = .unknownRoute route.1 route.2 := by
  obtain ⟨route, first, rfl⟩ := Option.map_eq_some_iff.mp found
  refine ⟨route, List.mem_of_find?_eq_some first, ?_, rfl⟩
  have absent := List.find?_some first
  simp only [Bool.not_eq_true', List.any_eq_false] at absent
  rw [List.mem_map]
  rintro ⟨op, member, rfl⟩
  exact absent op member (by simp [routeOf])

theorem resolveOne_eq_ok_iff {entry : Entry} : resolveOne bindings allowStubs op = .ok entry ↔
    ∃ handler source, handlerOf? bindings allowStubs op = some (handler, source) ∧
      entry = entryOf bindings op handler source := by
  rw [resolveOne]
  cases handlerOf? bindings allowStubs op with
  | none => simp
  | some found => simp [Prod.ext_iff, eq_comm]

theorem resolveOne_eq_error_iff : resolveOne bindings allowStubs op = .error error ↔
    handlerOf? bindings allowStubs op = none ∧ error = .unboundRoute op.path op.method := by
  rw [resolveOne]
  cases handlerOf? bindings allowStubs op <;> simp [eq_comm]

/-- Whichever handler a route gets, the rest of it is the same. -/
theorem exists_eq_entryOf {entry : Entry} (h : resolveOne bindings allowStubs op = .ok entry) :
    ∃ handler source, entry = entryOf bindings op handler source := by
  obtain ⟨handler, source, _, same⟩ := resolveOne_eq_ok_iff.mp h
  exact ⟨handler, source, same⟩

theorem route_of_resolveOne {entry : Entry} (h : resolveOne bindings allowStubs op = .ok entry) :
    (entry.path, entry.method) = routeOf op := by
  obtain ⟨handler, source, rfl⟩ := exists_eq_entryOf h
  rfl

theorem routes_of_forall₂ {entries : List Entry}
    (each : ops.Forall₂ (fun op entry => resolveOne bindings allowStubs op = .ok entry) entries) :
    entries.map (fun entry => (entry.path, entry.method)) = ops.map routeOf := by
  induction each with
  | nil => rfl
  | cons first _ ih => rw [List.map_cons, List.map_cons, ih, route_of_resolveOne first]

end Operations

section Handlers

variable {assignments : List Assignment} {allowStubs : Bool} {ops : List OperationSpec} {op : OperationSpec}
  {route : String × Method} {error : BuildError}

/-- A handler is bound for this target: the last binding that is made for it has one. -/
def HandlerFor (target : Target) (assignments : List Assignment) : Prop :=
  ∃ binding, LastFor target binding assignments ∧ binding.handler.isSome

/-- The handler of a route comes from here: from its own binding, else from that of its method, else it is the stub. -/
inductive Supplies (assignments : List Assignment) (allowStubs : Bool) (route : String × Method) :
    HandlerSource → Prop where
  | override (own : HandlerFor (.single route.1 route.2) assignments) : Supplies assignments allowStubs route .override
  | methodDefault (unbound : ¬ HandlerFor (.single route.1 route.2) assignments)
      (general : HandlerFor (.general route.2) assignments) : Supplies assignments allowStubs route .methodDefault
  | stub (unbound : ¬ HandlerFor (.single route.1 route.2) assignments)
      (none : ¬ HandlerFor (.general route.2) assignments) (allowed : allowStubs = true) :
      Supplies assignments allowStubs route .stub

/-- A route has a handler of its own or of its method, or stubs are allowed. -/
def Handled (assignments : List Assignment) (allowStubs : Bool) (route : String × Method) : Prop :=
  HandlerFor (.single route.1 route.2) assignments ∨ HandlerFor (.general route.2) assignments ∨ allowStubs = true

theorem Supplies.handled {source : HandlerSource} (supplies : Supplies assignments allowStubs route source) :
    Handled assignments allowStubs route := by
  cases supplies with
  | override own => exact .inl own
  | methodDefault _ general => exact .inr (.inl general)
  | stub _ _ allowed => exact .inr (.inr allowed)

theorem Supplies.unique {first second : HandlerSource} (one : Supplies assignments allowStubs route first)
    (other : Supplies assignments allowStubs route second) : first = second := by
  cases one <;> cases other <;> first | rfl | contradiction

theorem not_handlerFor_of_forall {target : Target} (none : ∀ assignment ∈ assignments, assignment.target ≠ target) :
    ¬ HandlerFor target assignments := by
  rintro ⟨binding, last, _⟩
  exact none _ last.mem rfl

theorem handlerFor_iff {target : Target} : HandlerFor target assignments ↔
    ∃ make, ((Bindings.ofAssignments assignments).get? target).bind (·.handler) = some make := by
  simp only [HandlerFor, ← Bindings.get?_ofAssignments, Option.isSome_iff_exists, Option.bind_eq_some_iff]
  exact ⟨fun ⟨binding, bound, make, set⟩ => ⟨make, binding, bound, set⟩,
    fun ⟨make, binding, bound, set⟩ => ⟨binding, bound, make, set⟩⟩

theorem not_handlerFor_iff {target : Target} : ¬ HandlerFor target assignments ↔
    ((Bindings.ofAssignments assignments).get? target).bind (·.handler) = none := by
  rw [handlerFor_iff, ← Option.isSome_iff_exists, Bool.not_eq_true, Option.isSome_eq_false_iff, Option.isNone_iff_eq_none]

/-- The handler of an operation comes from the first source that has one. -/
theorem handlerOf?_cases (assignments : List Assignment) (allowStubs : Bool) (op : OperationSpec) :
    (∃ handler source, handlerOf? (.ofAssignments assignments) allowStubs op = some (handler, source) ∧
      Supplies assignments allowStubs (routeOf op) source) ∨
    (handlerOf? (.ofAssignments assignments) allowStubs op = none ∧ ¬ Handled assignments allowStubs (routeOf op)) := by
  rw [handlerOf?]
  dsimp only
  cases own : ((Bindings.ofAssignments assignments).override? op.path op.method).bind (·.handler) with
  | some make => exact .inl ⟨_, _, rfl, .override (handlerFor_iff.mpr ⟨make, own⟩)⟩
  | none =>
      have unbound : ¬ HandlerFor (.single op.path op.method) assignments := not_handlerFor_iff.mpr own
      cases general : ((Bindings.ofAssignments assignments).default? op.method).bind (·.handler) with
      | some make => exact .inl ⟨_, _, rfl, .methodDefault unbound (handlerFor_iff.mpr ⟨make, general⟩)⟩
      | none =>
          have none : ¬ HandlerFor (.general op.method) assignments := not_handlerFor_iff.mpr general
          cases allowStubs with
          | true => exact .inl ⟨_, _, rfl, .stub unbound none rfl⟩
          | false =>
              refine .inr ⟨rfl, ?_⟩
              rintro (own | general | allowed)
              · exact unbound own
              · exact none general
              · cases allowed

/-- The routes of a list of operations, one each. -/
structure RoutesOf (assignments : List Assignment) (allowStubs : Bool) (routes : List (String × Method))
    (entries : List Entry) : Prop where
  routes : entries.map (fun entry => (entry.path, entry.method)) = routes
  supplies : ∀ entry ∈ entries, Supplies assignments allowStubs (entry.path, entry.method) entry.handlerSource

theorem routesOf_forall₂ {entries : List Entry}
    (each : ops.Forall₂ (fun op entry => resolveOne (.ofAssignments assignments) allowStubs op = .ok entry) entries) :
    RoutesOf assignments allowStubs (ops.map routeOf) entries := by
  refine ⟨routes_of_forall₂ each, fun entry member => ?_⟩
  obtain ⟨op, _, resolved⟩ := exists_left_of_forall₂ each member
  obtain ⟨handler, source, found, rfl⟩ := resolveOne_eq_ok_iff.mp resolved
  rcases handlerOf?_cases assignments allowStubs op with ⟨_, _, same, supplies⟩ | ⟨none, _⟩
  · rw [found] at same
    cases same
    exact supplies
  · rw [found] at none
    cases none

/-- The route of an entry, and where its handler comes from. -/
def outline (entry : Entry) : (String × Method) × HandlerSource := ((entry.path, entry.method), entry.handlerSource)

/-- The routes and the sources of their handlers leave no choice. -/
theorem RoutesOf.outlines {routes : List (String × Method)} {sources : List HandlerSource} {entries : List Entry}
    (found : RoutesOf assignments allowStubs routes entries)
    (each : routes.Forall₂ (Supplies assignments allowStubs) sources) : entries.map outline = routes.zip sources := by
  induction each generalizing entries with
  | nil => rw [List.map_eq_nil_iff.mp found.routes, List.map_nil, List.zip_nil_left]
  | cons first _ ih =>
      obtain ⟨entry, entries, rfl, rfl, rest⟩ := List.map_eq_cons_iff.mp found.routes
      obtain ⟨supplied, supplies⟩ := List.forall_mem_cons.mp found.supplies
      rw [List.map_cons, List.zip_cons_cons, ih ⟨rest, supplies⟩, outline, supplied.unique first]

theorem RoutesOf.handled {routes : List (String × Method)} {entries : List Entry}
    (found : RoutesOf assignments allowStubs routes entries) :
    ∀ route ∈ routes, Handled assignments allowStubs route := by
  rw [← found.routes, List.forall_mem_map]
  exact fun entry member => (found.supplies entry member).handled

end Handlers

section Documents

variable {assignments : List Assignment} {allowStubs : Bool} {docs : List Document} {compiled : List CompiledDocument}
  {error : BuildError}

/-- The routes that documents declare, in order. -/
def declared (docs : List Document) : List (String × Method) := docs.flatMap Document.routes

def Apart (docs : List Document) : Prop :=
  docs.Pairwise fun first second => first.routes.Disjoint second.routes

/-- The single routes for which bindings are made are declared. -/
def Known (assignments : List Assignment) (docs : List Document) : Prop :=
  ∀ route ∈ boundRoutes assignments, route ∈ declared docs

/-- Why the routes of documents are not resolved. -/
inductive Refused (assignments : List Assignment) (allowStubs : Bool) (docs : List Document) : BuildError → Prop where
  /-- An earlier and a later document declare one route. -/
  | duplicate {first second : Document} {route : String × Method} (order : [first, second].Sublist docs)
      (here : route ∈ first.routes) (there : route ∈ second.routes) :
      Refused assignments allowStubs docs (.duplicateRoute route.1 route.2 first.path second.path)
  /-- No route is declared twice, but one is bound that is not declared. -/
  | unknown {route : String × Method} (apart : Apart docs) (bound : route ∈ boundRoutes assignments)
      (absent : route ∉ declared docs) : Refused assignments allowStubs docs (.unknownRoute route.1 route.2)
  /-- All routes that are bound are declared once, but one that is declared has no handler. -/
  | unbound {route : String × Method} (apart : Apart docs) (known : Known assignments docs)
      (here : route ∈ declared docs) (none : ¬ Handled assignments allowStubs route) :
      Refused assignments allowStubs docs (.unboundRoute route.1 route.2)

theorem Refused.not_resolvable (refused : Refused assignments allowStubs docs error) :
    ¬ (Apart docs ∧ Known assignments docs ∧ ∀ route ∈ declared docs, Handled assignments allowStubs route) := by
  rintro ⟨apart, known, handled⟩
  cases refused with
  | duplicate order here there => exact List.pairwise_iff_forall_sublist.mp apart order here there
  | unknown _ bound absent => exact absent (known _ bound)
  | unbound _ _ here none => exact none (handled _ here)

theorem mem_overridden_iff {route : String × Method} :
    route ∈ (Bindings.ofAssignments assignments).overridden ↔ route ∈ boundRoutes assignments :=
  (Bindings.records_ofAssignments assignments).mem_overridden_iff route

variable (keyed : ∀ doc ∈ docs, doc.root.Keyed)
  (compile : docs.Forall₂ (fun doc compiled => compileDocument doc = .ok compiled) compiled)

include keyed compile

theorem declarations_flatMap : (compiled.flatMap (·.operations)).map (fun op => (routeOf op, op.source)) =
    docs.flatMap fun doc => doc.routes.map fun route => (route, doc.path) := by
  induction compile with
  | nil => rfl
  | cons first _ ih =>
      rw [List.forall_mem_cons] at keyed
      rw [List.flatMap_cons, List.flatMap_cons, List.map_append, ih keyed.2,
        Model.declarations_compileDocument keyed.1 first]

theorem routes_flatMap : (compiled.flatMap (·.operations)).map routeOf = declared docs := by
  have routes := congrArg (List.map Prod.fst) (declarations_flatMap keyed compile)
  simpa [List.map_flatMap, Function.comp_def, declared] using routes

omit compile in
theorem nodup_declared_iff : (declared docs).Nodup ↔ Apart docs := by
  rw [declared, List.nodup_flatMap]
  exact and_iff_right fun doc member => Document.nodup_routes (keyed doc member)

theorem exists_documents {first second : OperationSpec}
    (order : [first, second].Sublist (compiled.flatMap (·.operations))) (same : routeOf first = routeOf second) :
    ∃ earlier later, [earlier, later].Sublist docs ∧ routeOf second ∈ earlier.routes ∧
      routeOf second ∈ later.routes ∧ first.source = earlier.path ∧ second.source = later.path := by
  have declarations := order.map fun op => (routeOf op, op.source)
  rw [declarations_flatMap keyed compile] at declarations
  rcases sublist_flatMap declarations with ⟨doc, member, both⟩ | ⟨earlier, later, order, one, other⟩
  · -- A single document declares no route twice.
    have both := both.map Prod.fst
    rw [List.map_map] at both
    have inside : [routeOf first, routeOf second].Sublist doc.routes := by simpa [Function.comp_def] using both
    exact absurd same (List.pairwise_iff_forall_sublist.mp (Document.nodup_routes (keyed doc member)) inside)
  · obtain ⟨_, here, fields⟩ := List.mem_map.mp one
    obtain ⟨rfl, source⟩ := Prod.mk.inj fields
    obtain ⟨_, there, fields⟩ := List.mem_map.mp other
    obtain ⟨rfl, source'⟩ := Prod.mk.inj fields
    exact ⟨earlier, later, order, same ▸ here, there, source.symm, source'.symm⟩

theorem resolves_or_refused (assignments : List Assignment) (allowStubs : Bool) :
    (Apart docs ∧ Known assignments docs ∧ ∃ entries,
      resolve (.ofAssignments assignments) allowStubs compiled = .ok entries ∧
      RoutesOf assignments allowStubs (declared docs) entries) ∨
    ∃ error, resolve (.ofAssignments assignments) allowStubs compiled = .error error ∧
      Refused assignments allowStubs docs error := by
  have routes := routes_flatMap keyed compile
  have start : (([] : List OperationSpec).map routeOf).Nodup := List.nodup_nil
  have clear : duplicate? [] (compiled.flatMap (·.operations)) = none ↔ Apart docs := by
    rw [duplicate?_eq_none_iff start, List.map_nil, List.nil_append, routes, nodup_declared_iff keyed]
  have known : unknown? (.ofAssignments assignments) (compiled.flatMap (·.operations)) = none ↔
      Known assignments docs := by
    rw [unknown?_eq_none_iff, routes]
    exact forall_congr' fun route => imp_congr_left mem_overridden_iff
  -- The checks are made in this order, each of them on what the one before has let through.
  rw [resolve]
  cases duplicates : duplicate? [] (compiled.flatMap (·.operations)) with
  | some error =>
      obtain ⟨first, second, order, same, rfl⟩ := exists_of_duplicate? duplicates
      obtain ⟨earlier, later, order, here, there, source, source'⟩ := exists_documents keyed compile order same
      refine .inr ⟨_, rfl, ?_⟩
      rw [source, source']
      exact .duplicate order here there
  | none =>
      have apart := clear.mp duplicates
      cases undeclared : unknown? (.ofAssignments assignments) (compiled.flatMap (·.operations)) with
      | some error =>
          obtain ⟨route, bound, absent, rfl⟩ := exists_of_unknown? undeclared
          exact .inr ⟨_, rfl, .unknown apart (mem_overridden_iff.mp bound) (routes ▸ absent)⟩
      | none =>
          have known := known.mp undeclared
          cases each : (compiled.flatMap (·.operations)).mapM (resolveOne (.ofAssignments assignments) allowStubs) with
          | ok entries => exact .inl ⟨apart, known, entries, rfl, routes ▸ routesOf_forall₂ (mapM_eq_ok_iff.mp each)⟩
          | error error =>
              obtain ⟨op, member, fails⟩ := exists_of_mapM_eq_error each
              obtain ⟨none, rfl⟩ := resolveOne_eq_error_iff.mp fails
              have here : routeOf op ∈ declared docs := routes ▸ List.mem_map_of_mem member
              rcases handlerOf?_cases assignments allowStubs op with ⟨_, _, found, _⟩ | ⟨_, unhandled⟩
              · rw [none] at found
                cases found
              · exact .inr ⟨_, rfl, .unbound apart known here unhandled⟩

/-- Resolving the routes of compiled documents is exact, whatever bindings are made one after another. It succeeds
exactly if no two documents declare one route, every single route that is bound is declared, and every declared route
has a handler. The routes are then those that the documents declare, in order and all distinct, each with a handler
from the first source that has one. Otherwise two documents with one route are reported before an undeclared route,
and that before a route without a handler. -/
theorem resolve_exact (assignments : List Assignment) (allowStubs : Bool) :
    ((∃ entries, resolve (.ofAssignments assignments) allowStubs compiled = .ok entries) ↔
      Apart docs ∧ Known assignments docs ∧ ∀ route ∈ declared docs, Handled assignments allowStubs route) ∧
    (∀ entries, resolve (.ofAssignments assignments) allowStubs compiled = .ok entries →
      RoutesOf assignments allowStubs (declared docs) entries ∧ (declared docs).Nodup) ∧
    ∀ error, resolve (.ofAssignments assignments) allowStubs compiled = .error error →
      Refused assignments allowStubs docs error := by
  rcases resolves_or_refused keyed compile assignments allowStubs with
    ⟨apart, known, entries, resolved, found⟩ | ⟨error, failed, refused⟩
  · rw [resolved]
    refine ⟨iff_of_true ⟨entries, rfl⟩ ⟨apart, known, found.handled⟩, fun other same => ?_, nofun⟩
    cases same
    exact ⟨found, (nodup_declared_iff keyed).mpr apart⟩
  · rw [failed]
    refine ⟨iff_of_false nofun refused.not_resolvable, nofun, fun other same => ?_⟩
    cases same
    exact refused

end Documents

section Pets

open Model (keyed_petDocument petDocument)

/-- A document with another method of the path that the pets have, and with another path. -/
def listDocument : Document where
  path := "list.json"
  relativePath := "list.json"
  fields := [("paths", .object
    [("/pets", .object [("get", .object [("responses", .object [])])]),
     ("/owners", .object [("get", .object [("responses", .object [])])])])]

/-- The pets once more, under another path. -/
def copyDocument : Document := { petDocument with path := "copy.json", relativePath := "copy.json" }

/-- A handler for a method, and one for a route, which replaces a binding without a handler. -/
def petHandlers : List Assignment :=
  [⟨.single "/pets" "GET", { summary := some "Draft" }⟩,
   ⟨.general "GET", { handler := some fun _ => stubHandler }⟩,
   ⟨.single "/pets" "GET", { handler := some fun _ => stubHandler }⟩]

/-- The same, after a binding for a route that no document declares. -/
def misspeltHandlers : List Assignment := ⟨.single "/pet" "GET", {}⟩ :: petHandlers

theorem handlerFor_list : HandlerFor (.single "/pets" "GET") petHandlers :=
  ⟨_, ⟨[_, _], [], rfl, List.forall_mem_nil _⟩, rfl⟩

theorem handlerFor_get : HandlerFor (.general "GET") petHandlers :=
  ⟨_, ⟨[_], [_], rfl, by simp⟩, rfl⟩

theorem supplies_pets : [("/pets", "POST"), ("/pets", "GET"), ("/owners", "GET")].Forall₂ (Supplies petHandlers true)
    [.stub, .override, .methodDefault] := by
  have none {target : Target} (apart : ∀ assignment ∈ petHandlers, assignment.target ≠ target) :
      ¬ HandlerFor target petHandlers := not_handlerFor_of_forall apart
  exact .cons (.stub (none (by decide)) (none (by decide)) rfl)
    (.cons (.override handlerFor_list) (.cons (.methodDefault (none (by decide)) handlerFor_get) .nil))

theorem keyed_copies : ∀ doc ∈ [petDocument, listDocument, copyDocument], doc.root.Keyed := by
  rw [List.forall_mem_cons, List.forall_mem_cons, List.forall_mem_singleton]
  refine ⟨?_, ?_, ?_⟩
  · exact keyed_petDocument
  · simp [Document.root, listDocument, Table.keys]
  · exact keyed_petDocument

theorem keyed_pets : ∀ doc ∈ [petDocument, listDocument], doc.root.Keyed := fun doc member =>
  keyed_copies doc (List.mem_append_left [copyDocument] member)

theorem declared_pets : declared [petDocument, listDocument] =
    [("/pets", "POST"), ("/pets", "GET"), ("/owners", "GET")] := by
  decide +kernel

theorem apart_pets : Apart [petDocument, listDocument] :=
  (nodup_declared_iff keyed_pets).mp (by rw [declared_pets]; decide)

theorem known_pets : Known petHandlers [petDocument, listDocument] := by
  rw [Known, declared_pets]
  decide

theorem not_handled_post : ¬ Handled petHandlers false ("/pets", "POST") := by
  rintro (own | general | allowed)
  · exact not_handlerFor_of_forall (by decide) own
  · exact not_handlerFor_of_forall (by decide) general
  · cases allowed

theorem not_known_misspelt : ¬ Known misspeltHandlers [petDocument, listDocument] := by
  rw [Known, declared_pets]
  decide

theorem Refused.of_pets {error : BuildError} (refused : Refused petHandlers false [petDocument, listDocument] error) :
    error = .unboundRoute "/pets" "POST" := by
  cases refused with
  | duplicate order here there => exact absurd there (List.pairwise_iff_forall_sublist.mp apart_pets order here)
  | unknown _ bound absent => exact absurd (known_pets _ bound) absent
  | unbound _ _ here none =>
      simp only [declared_pets, List.mem_cons, List.not_mem_nil, or_false] at here
      rcases here with rfl | rfl | rfl
      · rfl
      · exact absurd (.inl handlerFor_list) none
      · exact absurd (.inr (.inl handlerFor_get)) none

theorem Refused.of_misspelt {error : BuildError}
    (refused : Refused misspeltHandlers false [petDocument, listDocument] error) :
    error = .unknownRoute "/pet" "GET" := by
  cases refused with
  | duplicate order here there => exact absurd there (List.pairwise_iff_forall_sublist.mp apart_pets order here)
  | unknown _ bound absent =>
      rcases List.mem_cons.mp bound with rfl | bound
      · rfl
      · exact absurd (known_pets _ bound) absent
  | unbound _ known _ _ => exact absurd known not_known_misspelt

theorem clash_copies : [petDocument, listDocument, copyDocument].Pairwise fun first second =>
    ∀ route ∈ first.routes, route ∈ second.routes →
      (first.path, second.path, route) = ("pets.json", "copy.json", ("/pets", "POST")) := by
  decide +kernel

theorem not_apart_copies : ¬ Apart [petDocument, listDocument, copyDocument] := by
  intro apart
  have here : ("/pets", "POST") ∈ petDocument.routes := by decide +kernel
  have there : ("/pets", "POST") ∈ copyDocument.routes := by decide +kernel
  exact (List.pairwise_cons.mp apart).1 copyDocument (by simp) here there

theorem Refused.of_copies {error : BuildError}
    (refused : Refused misspeltHandlers false [petDocument, listDocument, copyDocument] error) :
    error = .duplicateRoute "/pets" "POST" "pets.json" "copy.json" := by
  cases refused with
  | @duplicate first second route order here there =>
      have clash := List.pairwise_iff_forall_sublist.mp clash_copies order _ here there
      simp only [Prod.mk.injEq] at clash
      obtain ⟨one, other, same⟩ := clash
      rw [one, other, same]
  | unknown apart => exact absurd apart not_apart_copies
  | unbound apart => exact absurd apart not_apart_copies

theorem resolve_exact_pets : ∃ compiled copies,
    [petDocument, listDocument].Forall₂ (fun doc compiled => compileDocument doc = .ok compiled) compiled ∧
    (∃ entries, resolve (.ofAssignments petHandlers) true compiled = .ok entries ∧ entries.map outline =
      [(("/pets", "POST"), .stub), (("/pets", "GET"), .override), (("/owners", "GET"), .methodDefault)]) ∧
    resolve (.ofAssignments petHandlers) false compiled = .error (.unboundRoute "/pets" "POST") ∧
    resolve (.ofAssignments misspeltHandlers) false compiled = .error (.unknownRoute "/pet" "GET") ∧
    [petDocument, listDocument, copyDocument].Forall₂ (fun doc compiled => compileDocument doc = .ok compiled) copies ∧
    resolve (.ofAssignments misspeltHandlers) false copies =
      .error (.duplicateRoute "/pets" "POST" "pets.json" "copy.json") := by
  obtain ⟨pets, first⟩ : ∃ compiled, compileDocument petDocument = .ok compiled :=
    exists_eq_ok_of_isOk (by decide +kernel)
  obtain ⟨list, second⟩ : ∃ compiled, compileDocument listDocument = .ok compiled :=
    exists_eq_ok_of_isOk (by decide +kernel)
  obtain ⟨copy, third⟩ : ∃ compiled, compileDocument copyDocument = .ok compiled :=
    exists_eq_ok_of_isOk (by decide +kernel)
  have compile : [petDocument, listDocument].Forall₂ (fun doc compiled => compileDocument doc = .ok compiled)
      [pets, list] := .cons first (.cons second .nil)
  have copies : [petDocument, listDocument, copyDocument].Forall₂
      (fun doc compiled => compileDocument doc = .ok compiled) [pets, list, copy] :=
    .cons first (.cons second (.cons third .nil))
  refine ⟨[pets, list], [pets, list, copy], compile, ?_, ?_, ?_, copies, ?_⟩
  · obtain ⟨succeeds, found, _⟩ := resolve_exact keyed_pets compile petHandlers true
    obtain ⟨entries, resolved⟩ := succeeds.mpr ⟨apart_pets, known_pets, fun _ _ => .inr (.inr rfl)⟩
    have routes := (found entries resolved).1
    rw [declared_pets] at routes
    exact ⟨entries, resolved, routes.outlines supplies_pets⟩
  · obtain ⟨succeeds, _, fails⟩ := resolve_exact keyed_pets compile petHandlers false
    have here : ("/pets", "POST") ∈ declared [petDocument, listDocument] := by
      rw [declared_pets]
      decide
    refine eq_error_of_iff succeeds fails (fun ⟨_, _, handled⟩ => ?_) fun refused => refused.of_pets
    exact not_handled_post (handled _ here)
  · obtain ⟨succeeds, _, fails⟩ := resolve_exact keyed_pets compile misspeltHandlers false
    refine eq_error_of_iff succeeds fails (fun ⟨_, known, _⟩ => ?_) fun refused => refused.of_misspelt
    exact not_known_misspelt known
  · obtain ⟨succeeds, _, fails⟩ := resolve_exact keyed_copies copies misspeltHandlers false
    refine eq_error_of_iff succeeds fails (fun ⟨apart, _, _⟩ => ?_) fun refused => refused.of_copies
    exact not_apart_copies apart

end Pets

end Route

end ApiAtlas
