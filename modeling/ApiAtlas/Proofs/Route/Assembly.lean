import Mathlib.Data.List.Permutation
import ApiAtlas.Proofs.Conformance
import ApiAtlas.Proofs.Files.Tree

/-! # Assembling routes

Whatever registers the routes of a router is offered one route after another until it refuses one. A table refuses a
route without being changed, so after a refusal it has the routes before the one that it refused.
-/

namespace ApiAtlas

namespace Route

variable {table grown : DispatchTable} {entry : Entry} {path reason : String} {template : Template}

theorem Template.eq_ofPath_of_read? (read : Template.read? path = some template) : template = .ofPath path := by
  unfold read? at read
  dsimp only at read
  split at read
  · exact (Option.some.inj read).symm
  · cases read

namespace DispatchTable

/-- Why a table refuses a route: its template is too large, or else there is no validator for its request model. -/
inductive Declines (table : DispatchTable) (entry : Entry) : String → Prop where
  | template (unread : Template.read? entry.path = none) :
      Declines table entry ("invalid path template " ++ entry.path)
  | validator {template : Template} {error : Schema.Error} (read : Template.read? entry.path = some template)
      (fails : entry.validator? table.strict = .error error) :
      Declines table entry ("cannot build request validator for " ++ entry.method ++ " " ++ entry.path)

theorem register_eq_ok_iff : table.register entry = .ok grown ↔ ∃ template validator,
    Template.read? entry.path = some template ∧ entry.validator? table.strict = .ok validator ∧
      grown = { table with routes := table.routes ++ [{ template, entry, validator }] } := by
  rw [register]
  cases Template.read? entry.path <;> cases entry.validator? table.strict <;> simp [eq_comm]

theorem register_eq_error_iff : table.register entry = .error reason ↔ table.Declines entry reason := by
  rw [register]
  constructor
  · intro fails
    split at fails
    · rename_i _ unread
      cases fails
      exact .template unread
    · rename_i read malformed
      cases fails
      exact .validator read malformed
    · cases fails
  · intro declines
    cases declines with
    | template unread => simp only [unread]
    | validator read fails => simp only [read, fails]

theorem routes_register (h : table.register entry = .ok grown) : ∃ added : Registered,
    grown.routes = table.routes ++ [added] ∧ added.entry = entry ∧ added.template = .ofPath entry.path := by
  obtain ⟨template, validator, read, _, rfl⟩ := register_eq_ok_iff.mp h
  exact ⟨_, rfl, rfl, Template.eq_ofPath_of_read? read⟩

theorem strict_register (h : table.register entry = .ok grown) : grown.strict = table.strict := by
  obtain ⟨template, validator, _, _, rfl⟩ := register_eq_ok_iff.mp h
  rfl

end DispatchTable

end Route

namespace Router

open Route (DispatchTable Entry Registered)

section Registering

variable {σ : Type} {register : Entry → ExceptT String (StateM σ) Unit} {entry : Entry} {entries : List Entry}
  {before between last : σ}

/-- What registers routes takes all of these, one after another, each in the state that the one before has left. -/
inductive Takes (register : Entry → ExceptT String (StateM σ) Unit) : List Entry → σ → σ → Prop where
  | nil {state : σ} : Takes register [] state state
  | cons {entry : Entry} {entries : List Entry} {before between last : σ}
      (here : (register entry).run.run before = (.ok (), between)) (rest : Takes register entries between last) :
      Takes register (entry :: entries) before last

/-- What comes of resolved routes that are offered to what registers them: all are taken and counted, or the first one
that is refused is reported. Routes that are not resolved are not offered. -/
inductive Assembles (register : Entry → ExceptT String (StateM σ) Unit) (before : σ) :
    Except BuildError (List Entry) → Except BuildError Nat × σ → Prop where
  | unresolved {error : BuildError} : Assembles register before (.error error) (.error error, before)
  | complete {entries : List Entry} {last : σ} (takes : Takes register entries before last) :
      Assembles register before (.ok entries) (.ok entries.length, last)
  | stopped {taken : List Entry} {refused : Entry} {left : List Entry} {between last : σ} {reason : String}
      (takes : Takes register taken before between)
      (refuses : (register refused).run.run between = (.error reason, last)) :
      Assembles register before (.ok (taken ++ refused :: left))
        (.error (.registration refused.path refused.method reason), last)

/-- One route after another, up to the first one that is refused. -/
theorem run_forM_cases (register : Entry → ExceptT String (StateM σ) Unit) (entries : List Entry) (before : σ) :
    let run := (entries.forM fun entry =>
      ExceptT.adapt (BuildError.registration entry.path entry.method) (register entry)).run.run before
    (∃ last, Takes register entries before last ∧ run = (.ok (), last)) ∨
      ∃ taken refused left between reason last, entries = taken ++ refused :: left ∧
        Takes register taken before between ∧ (register refused).run.run between = (.error reason, last) ∧
        run = (.error (.registration refused.path refused.method reason), last) := by
  induction entries generalizing before with
  | nil => exact .inl ⟨before, .nil, rfl⟩
  | cons entry entries ih =>
      have adapted : (ExceptT.adapt (BuildError.registration entry.path entry.method) (register entry)).run.run before =
          (((register entry).run.run before).1.mapError (.registration entry.path entry.method),
            ((register entry).run.run before).2) := rfl
      rcases here : (register entry).run.run before with ⟨reason | ⟨⟨⟩⟩, between⟩
      · rw [here] at adapted
        exact .inr ⟨[], entry, entries, before, reason, between, rfl, .nil, here, run_bind_of_error adapted⟩
      · rw [here] at adapted
        rcases ih between with
          ⟨last, takes, run⟩ | ⟨taken, refused, left, middle, reason, last, rfl, takes, refuses, run⟩
        · exact .inl ⟨last, .cons here takes, (run_bind_of_ok adapted).trans run⟩
        · exact .inr ⟨entry :: taken, refused, left, middle, reason, last, rfl, .cons here takes, refuses,
            (run_bind_of_ok adapted).trans run⟩

theorem assembles_registerAll (register : Entry → ExceptT String (StateM σ) Unit) (entries : List Entry) (before : σ) :
    Assembles register before (.ok entries) ((registerAll register entries).run.run before) := by
  rcases run_forM_cases register entries before with
    ⟨last, takes, run⟩ | ⟨taken, refused, left, between, reason, last, rfl, takes, refuses, run⟩
  · have counted : (registerAll register entries).run.run before = (.ok entries.length, last) := run_bind_of_ok run
    rw [counted]
    exact .complete takes
  · have ended : (registerAll register (taken ++ refused :: left)).run.run before =
        (.error (.registration refused.path refused.method reason), last) := run_bind_of_error run
    rw [ended]
    exact .stopped takes refuses

/-- Of routes that are all taken, none is refused. -/
theorem Takes.not_refused {taken left : List Entry} {refused : Entry} {reason : String} {ended : σ}
    (takes : Takes register (taken ++ refused :: left) before last) (reached : Takes register taken before between) :
    (register refused).run.run between ≠ (.error reason, ended) := by
  induction reached with
  | nil =>
      cases takes with
      | cons here =>
          rw [here]
          exact nofun
  | cons here _ ih =>
      cases takes with
      | cons here' rest' =>
          rw [here] at here'
          cases here'
          exact ih rest'

/-- Assembling succeeds exactly if all routes are taken. -/
theorem Assembles.isOk_iff {resolved : Except BuildError (List Entry)} {outcome : Except BuildError Nat × σ}
    (assembles : Assembles register before resolved outcome) : (∃ count, outcome.1 = .ok count) ↔
      ∃ entries last, resolved = .ok entries ∧ Takes register entries before last := by
  cases assembles with
  | unresolved => exact iff_of_false nofun nofun
  | complete takes => exact iff_of_true ⟨_, rfl⟩ ⟨_, _, rfl, takes⟩
  | stopped takes refuses =>
      refine iff_of_false nofun ?_
      rintro ⟨_, last, ⟨⟩, all⟩
      exact all.not_refused takes refuses

end Registering

section Tables

variable {table grown : DispatchTable} {entry : Entry} {entries : List Entry} {reason : String}

theorem run_registerInTable (entry : Entry) (table : DispatchTable) : (registerInTable entry).run.run table =
    match table.register entry with
    | .ok grown => (.ok (), grown)
    | .error reason => (.error reason, table) := by
  have step : (registerInTable entry).run.run table = (do
      set (← (MonadExcept.ofExcept (table.register entry) : ExceptT String (StateM DispatchTable) DispatchTable))
        : ExceptT String (StateM DispatchTable) Unit).run.run table := rfl
  rw [step]
  cases table.register entry <;> rfl

theorem run_registerInTable_eq_ok_iff : (registerInTable entry).run.run table = (.ok (), grown) ↔
    table.register entry = .ok grown := by
  rw [run_registerInTable]
  cases table.register entry with
  | error => exact iff_of_false nofun nofun
  | ok => exact ⟨fun same => congrArg Except.ok (Prod.mk.inj same).2, fun same => by cases same; rfl⟩

/-- A table that refuses a route is left as it was. -/
theorem run_registerInTable_eq_error_iff : (registerInTable entry).run.run table = (.error reason, grown) ↔
    table.Declines entry reason ∧ grown = table := by
  rw [run_registerInTable, ← Route.DispatchTable.register_eq_error_iff]
  cases table.register entry with
  | error =>
      constructor
      · rintro ⟨⟩
        exact ⟨rfl, rfl⟩
      · rintro ⟨⟨⟩, rfl⟩
        rfl
  | ok => exact iff_of_false nofun fun both => nomatch both.1

/-- The routes that are added stand for these entries, each under the template of its path. -/
def Adds (table grown : DispatchTable) (entries : List Entry) : Prop :=
  ∃ added : List Registered, grown.routes = table.routes ++ added ∧ added.map (·.entry) = entries ∧
    ∀ registered ∈ added, registered.template = .ofPath registered.entry.path

theorem Adds.nil : Adds table table [] := ⟨[], (List.append_nil _).symm, rfl, List.forall_mem_nil _⟩

theorem Adds.cons {between : DispatchTable} {entry : Entry} (registered : table.register entry = .ok between)
    (adds : Adds between grown entries) : Adds table grown (entry :: entries) := by
  obtain ⟨one, here, rfl, template⟩ := Route.DispatchTable.routes_register registered
  obtain ⟨added, there, same, templates⟩ := adds
  refine ⟨one :: added, ?_, ?_, List.forall_mem_cons.mpr ⟨template, templates⟩⟩
  · rw [there, here, List.append_assoc, List.singleton_append]
  · rw [List.map_cons, same]

theorem adds_of_takes (takes : Takes registerInTable entries table grown) :
    Adds table grown entries ∧ grown.strict = table.strict := by
  induction takes with
  | nil => exact ⟨.nil, rfl⟩
  | cons here _ ih =>
      have registered := run_registerInTable_eq_ok_iff.mp here
      exact ⟨.cons registered ih.1, ih.2.trans (Route.DispatchTable.strict_register registered)⟩

theorem adds_registerAll {count : Nat}
    (h : (registerAll registerInTable entries).run.run table = (.ok count, grown)) : Adds table grown entries := by
  have assembles := assembles_registerAll registerInTable entries table
  rw [h] at assembles
  cases assembles with
  | complete takes => exact (adds_of_takes takes).1

end Tables

variable {tree : FileTree} {router : Router}

/-- What assembling comes to, given what resolving came to. -/
def registered {σ : Type} (register : Entry → ExceptT String (StateM σ) Unit) (state : σ) :
    Except BuildError (List Entry) → Except BuildError Nat × σ
  | .error error => (.error error, state)
  | .ok entries => (registerAll register entries).run.run state

theorem assemble_eq {σ : Type} (register : Entry → ExceptT String (StateM σ) Unit) (state : σ) :
    assemble tree register state router =
      (registered register state ((resolve tree).run.run router).1, ((resolve tree).run.run router).2) := by
  unfold assemble
  rcases (resolve tree).run.run router with ⟨error | entries, after⟩ <;> rfl

theorem assembles_assemble {σ : Type} (register : Entry → ExceptT String (StateM σ) Unit) (state : σ) :
    Assembles register state ((resolve tree).run.run router).1 (assemble tree register state router).1 := by
  rw [assemble_eq]
  cases ((resolve tree).run.run router).1 with
  | error error => exact .unresolved
  | ok entries => exact assembles_registerAll register entries state

/-- Assembling offers the routes of a router one after another, each in the state that the one before has left. If no
routes are resolved, the state stays as it was. It succeeds exactly if all routes are taken, and counts them; otherwise
it ends with the first one that is refused, and reports that one. A table that refuses a route stays as it was, so after
a refusal it has what it had before and then the routes before the one that it refused. -/
theorem assemble_registers (tree : FileTree) (router : Router) :
    (∀ {σ : Type} (register : Entry → ExceptT String (StateM σ) Unit) (state : σ),
      Assembles register state ((resolve tree).run.run router).1 (assemble tree register state router).1 ∧
      ((∃ count, (assemble tree register state router).1.1 = .ok count) ↔
        ∃ entries last, ((resolve tree).run.run router).1 = .ok entries ∧ Takes register entries state last)) ∧
    (∀ (table : DispatchTable) entry reason, table.register entry = .error reason →
      table.Declines entry reason ∧ (registerInTable entry).run.run table = (.error reason, table)) ∧
    ∀ (table last : DispatchTable) entries error, ((resolve tree).run.run router).1 = .ok entries →
      (assemble tree registerInTable table router).1 = (.error error, last) →
      ∃ taken refused left reason, entries = taken ++ refused :: left ∧
        error = .registration refused.path refused.method reason ∧ last.Declines refused reason ∧
        Adds table last taken ∧ last.strict = table.strict := by
  refine ⟨fun register state => ?_, fun table entry reason fails => ?_,
    fun table last entries error resolved fails => ?_⟩
  · exact ⟨assembles_assemble register state, (assembles_assemble register state).isOk_iff⟩
  · have declines := Route.DispatchTable.register_eq_error_iff.mp fails
    exact ⟨declines, run_registerInTable_eq_error_iff.mpr ⟨declines, rfl⟩⟩
  · have assembles : Assembles registerInTable table ((resolve tree).run.run router).1 _ :=
      assembles_assemble registerInTable table
    rw [resolved, fails] at assembles
    cases assembles with
    | stopped takes refuses =>
        obtain ⟨declines, rfl⟩ := run_registerInTable_eq_error_iff.mp refuses
        obtain ⟨adds, strict⟩ := adds_of_takes takes
        exact ⟨_, _, _, _, rfl, rfl, declines, adds, strict⟩

/-- What resolving comes to on a router that keeps no documents yet, given the documents of its tree. -/
theorem resolve_of_loadAll {docs : List Document} (fresh : router.compiled = none)
    (loads : Document.loadAll tree router.specsPath = .ok docs) : ((resolve tree).run.run router).1 =
      (docs.mapM (compileOne router.chain) >>= Route.resolve router.bindings router.allowStubs) := by
  have whole : compileTree tree router.specsPath router.chain = docs.mapM (compileOne router.chain) := by
    rw [compileTree, loads]
    rfl
  cases compiles : docs.mapM (compileOne router.chain) with
  | error error => exact resolve_of_error fresh (whole.trans compiles)
  | ok compiled => exact resolve_of_ok fresh (whole.trans compiles)

section Slots

/-- A document with two routes, of which the second has a model that no validator can be built for. -/
def slotsDocument : Document where
  path := "slots.json"
  relativePath := "slots.json"
  fields :=
    [("openapi", .string "3.0.3"),
     ("paths", .object
       [("/a", .object [("get", .object [])]),
        ("/b", .object [("put", .object [("requestBody", .object [("content", .object
          [("application/json", .object [("schema", .object
            [("type", .string "string"), ("pattern", .string "(")])])])])])])])]

def slotsText : String :=
  "\x7b\"openapi\":\"3.0.3\",\"paths\":\x7b\"/a\":\x7b\"get\":\x7b\x7d\x7d,\"/b\":\x7b\"put\":\x7b\"requestBody\":" ++
    "\x7b\"content\":\x7b\"application/json\":\x7b\"schema\":\x7b\"type\":\"string\",\"pattern\":\"(\"\x7d\x7d" ++
    "\x7d\x7d\x7d\x7d\x7d\x7d"

def slotsTree : FileTree where
  entries := [(["slots.json"], .file slotsText.toUTF8)]

def slotsRouter : Router where
  specsPath := "slots.json"
  allowStubs := true

theorem parse?_slots : Json.parse? slotsText = some slotsDocument.root := by cbv

theorem loadAll_slots : Document.loadAll slotsTree "slots.json" = .ok [slotsDocument] :=
  Document.loadAll_file rfl (by decide +kernel) rfl parse?_slots rfl

/-- The routes of the slots, and the table that has refused the second one. -/
def refusedSlots? : Option (List Entry × DispatchTable) := do
  let entries ← ([slotsDocument].mapM (compileOne {}) >>= Route.resolve {} true).toOption
  match (registerAll registerInTable entries).run.run {} with
  | (.error (.registration "/b" "PUT" "cannot build request validator for PUT /b"), last) =>
    if last.entries.map (·.path) = ["/a"] then some (entries, last) else none
  | _ => none

theorem isSome_refusedSlots? : refusedSlots?.isSome := by decide +kernel

theorem exists_refusal_slots : ∃ entries last, ((resolve slotsTree).run.run slotsRouter).1 = .ok entries ∧
    (assemble slotsTree registerInTable {} slotsRouter).1 =
      (.error (.registration "/b" "PUT" "cannot build request validator for PUT /b"), last) ∧
    last.entries.map (·.path) = ["/a"] := by
  obtain ⟨_, found⟩ := Option.isSome_iff_exists.mp isSome_refusedSlots?
  obtain ⟨entries, resolves, refused⟩ := Option.bind_eq_some_iff.mp found
  have resolved : ((resolve slotsTree).run.run slotsRouter).1 = .ok entries :=
    (resolve_of_loadAll rfl loadAll_slots).trans (toOption_eq_some_iff.mp resolves)
  split at refused
  · rename_i last fails
    split at refused
    · rename_i kept
      refine ⟨entries, last, resolved, ?_, kept⟩
      rw [assemble_eq, resolved]
      exact fails
    · cases refused
  · cases refused

/-- The table keeps the route before the one that it refuses, and refuses that one again. -/
theorem assemble_registers_slots : ∃ entries last taken refused left,
    ((resolve slotsTree).run.run slotsRouter).1 = .ok entries ∧ entries = taken ++ refused :: left ∧
    (refused.path, refused.method) = ("/b", "PUT") ∧ Adds {} last taken ∧ last.entries.map (·.path) = ["/a"] ∧
    (assemble slotsTree registerInTable {} slotsRouter).1 =
      (.error (.registration "/b" "PUT" "cannot build request validator for PUT /b"), last) ∧
    (registerInTable refused).run.run last = (.error "cannot build request validator for PUT /b", last) := by
  obtain ⟨entries, last, resolved, fails, kept⟩ := exists_refusal_slots
  obtain ⟨_, atomic, stops⟩ := assemble_registers slotsTree slotsRouter
  obtain ⟨taken, refused, left, reason, order, same, declines, adds, _⟩ := stops {} last entries _ resolved fails
  obtain ⟨path, method, rfl⟩ := BuildError.registration.inj same
  have again := (atomic last refused _ (Route.DispatchTable.register_eq_error_iff.mpr declines)).2
  exact ⟨entries, last, taken, refused, left, resolved, order, Prod.ext path.symm method.symm, adds, kept, fails,
    again⟩

end Slots

end Router

end ApiAtlas
