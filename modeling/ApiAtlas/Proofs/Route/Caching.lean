import ApiAtlas.Proofs.Route.Assembly
import ApiAtlas.Proofs.Route.Resolution

/-! # What a router keeps

A router keeps the documents of its tree once they are compiled. It answers every call as a new router does on
which nothing was called but what binds handlers; an error that comes from the documents is not kept.
-/

namespace ApiAtlas

open Model (CompiledDocument Handle OperationSpec)
open Route (Binding DispatchTable Entry)

/-- Whether the error comes from loading, validating or compiling a document. -/
def BuildError.ofDocuments : BuildError → Bool
  | .load _ => true
  | .validation .. => true
  | .schema .. => true
  | .duplicateRoute .. => false
  | .unboundRoute .. => false
  | .unknownRoute .. => false
  | .registration .. => false

namespace Router

/-- A call on a router. -/
inductive Call where
  | bind (path : String) (method : Method) (binding : Binding)
  | bindDefault (method : Method) (binding : Binding)
  | compile
  | resolve
  /-- What registers the routes has a state of its own. -/
  | assemble {σ : Type} (register : Entry → ExceptT String (StateM σ) Unit) (state : σ)
  | table
  | requestModel (path : String) (method : Method)
  | responseModel (path : String) (method : Method)

namespace Call

/-- What a call is answered with. -/
def Answer : Call → Type
  | .bind .. => Unit
  | .bindDefault .. => Unit
  | .compile => Except BuildError (List CompiledDocument)
  | .resolve => Except BuildError (List Entry)
  | .assemble (σ := σ) _ _ => Except BuildError Nat × σ
  | .table => Except BuildError DispatchTable
  | .requestModel .. => Except BuildError (Option Handle)
  | .responseModel .. => Except BuildError (Option Handle)

/-- Whether a call binds a handler. -/
def binds : Call → Bool
  | .bind .. => true
  | .bindDefault .. => true
  | _ => false

/-- The error that a call fails with. -/
def failure? : (call : Call) → call.Answer → Option BuildError
  | .bind .., _ => none
  | .bindDefault .., _ => none
  | .compile, .error error => some error
  | .resolve, .error error => some error
  | .assemble _ _, (.error error, _) => some error
  | .table, .error error => some error
  | .requestModel .., .error error => some error
  | .responseModel .., .error error => some error
  | _, _ => none

end Call

/-- Answers a call. -/
def perform (tree : FileTree) : (call : Call) → Router → call.Answer × Router
  | .bind path method binding, router => ((), router.bind path method binding)
  | .bindDefault method binding, router => ((), router.bindDefault method binding)
  | .compile, router => (documents tree).run.run router
  | .resolve, router => (resolve tree).run.run router
  | .assemble register state, router => assemble tree register state router
  | .table, router => table tree router
  | .requestModel path method, router => (requestModel? tree path method).run.run router
  | .responseModel path method, router => (responseModel? tree path method).run.run router

/-- The router after a list of calls. -/
def after (tree : FileTree) (calls : List Call) (router : Router) : Router :=
  calls.foldl (fun router call => (perform tree call router).2) router

/-- A new router with the same tree, validators and flags. -/
def blank (router : Router) : Router := { router with bindings := {}, compiled := none }

/-- The documents that a router keeps are those that compiling its tree gives. -/
def UpToDate (tree : FileTree) (router : Router) : Prop :=
  ∀ docs, router.compiled = some docs → compileTree tree router.specsPath router.chain = .ok docs

variable {tree : FileTree} {router : Router}

theorem UpToDate.compiled_eq_none {error : BuildError} (current : UpToDate tree router)
    (fails : compileTree tree router.specsPath router.chain = .error error) : router.compiled = none := by
  cases kept : router.compiled with
  | none => rfl
  | some docs =>
      have compiles := current docs kept
      rw [fails] at compiles
      cases compiles

/-- Whether the documents are kept already does not show. -/
theorem run_documents_of_upToDate (current : UpToDate tree router) : (documents tree).run.run router =
    match compileTree tree router.specsPath router.chain with
    | .error error => (.error error, router)
    | .ok docs => (.ok docs, { router with compiled := some docs }) := by
  cases kept : router.compiled with
  | none => exact run_documents tree kept
  | some docs =>
      rw [current docs kept]
      obtain ⟨root, chain, bindings, allowStubs, strict, compiled⟩ := router
      cases kept
      rfl

/-- What is done with the documents is done with those that compiling the tree gives. -/
theorem run_documents_bind {α : Type} {next : List CompiledDocument → Using α} (current : UpToDate tree router) :
    (documents tree >>= next).run.run router =
      match compileTree tree router.specsPath router.chain with
      | .error error => (.error error, router)
      | .ok docs => (next docs).run.run { router with compiled := some docs } := by
  have step := run_documents_of_upToDate current
  cases compiles : compileTree tree router.specsPath router.chain with
  | error error =>
      rw [compiles] at step
      exact run_bind_of_error step
  | ok docs =>
      rw [compiles] at step
      exact run_bind_of_ok step

theorem run_resolve (current : UpToDate tree router) : (resolve tree).run.run router =
    match compileTree tree router.specsPath router.chain with
    | .error error => (.error error, router)
    | .ok docs => (Route.resolve router.bindings router.allowStubs docs, { router with compiled := some docs }) := by
  rw [resolve, run_documents_bind current]
  cases compileTree tree router.specsPath router.chain with
  | error error => rfl
  | ok docs =>
      change ((MonadExcept.ofExcept (Route.resolve router.bindings router.allowStubs docs) : Using _).run.run
        { router with compiled := some docs }) = (Route.resolve router.bindings router.allowStubs docs, _)
      cases Route.resolve router.bindings router.allowStubs docs <;> rfl

section Models

variable {path : String} {method : Method}

/-- The operation of a route among compiled operations. -/
def operationOf? (docs : List CompiledDocument) (route : String × Method) : Option OperationSpec :=
  (docs.flatMap (·.operations)).find? fun op => op.path == route.1 && op.method == route.2

theorem run_requestModel? (current : UpToDate tree router) : (requestModel? tree path method).run.run router =
    match compileTree tree router.specsPath router.chain with
    | .error error => (.error error, router)
    | .ok docs => (.ok ((operationOf? docs (path, method)).bind (·.request)), { router with compiled := some docs }) := by
  rw [requestModel?, operation?, bind_assoc, run_documents_bind current]
  rfl

theorem run_responseModel? (current : UpToDate tree router) : (responseModel? tree path method).run.run router =
    match compileTree tree router.specsPath router.chain with
    | .error error => (.error error, router)
    | .ok docs =>
        (.ok ((operationOf? docs (path, method)).bind (·.responseModel?)), { router with compiled := some docs }) := by
  rw [responseModel?, operation?, bind_assoc, run_documents_bind current]
  rfl

end Models

/-- The table that registering comes to, unless a route was refused. -/
def tabled (outcome : Except BuildError Nat × DispatchTable) : Except BuildError DispatchTable :=
  outcome.1.map fun _ => outcome.2

theorem table_eq : table tree router =
    (tabled (registered registerInTable { strict := router.strict } ((resolve tree).run.run router).1),
      ((resolve tree).run.run router).2) := by
  unfold table
  rw [assemble_eq]
  rfl

/-- The state that a call other than one that binds leaves behind. -/
theorem perform_snd {call : Call} (reads : call.binds = false) (current : UpToDate tree router) :
    (perform tree call router).2 =
      match compileTree tree router.specsPath router.chain with
      | .error _ => router
      | .ok docs => { router with compiled := some docs } := by
  have resolved : ((resolve tree).run.run router).2 =
      match compileTree tree router.specsPath router.chain with
      | .error _ => router
      | .ok docs => { router with compiled := some docs } := by
    rw [run_resolve current]
    cases compileTree tree router.specsPath router.chain <;> rfl
  cases call with
  | bind | bindDefault => cases reads
  | compile =>
      rw [perform, run_documents_of_upToDate current]
      cases compileTree tree router.specsPath router.chain <;> rfl
  | resolve => exact resolved
  | assemble register state =>
      rw [perform, assemble_eq]
      exact resolved
  | table =>
      rw [perform, table_eq]
      exact resolved
  | requestModel =>
      rw [perform, run_requestModel? current]
      cases compileTree tree router.specsPath router.chain <;> rfl
  | responseModel =>
      rw [perform, run_responseModel? current]
      cases compileTree tree router.specsPath router.chain <;> rfl

/-- Two routers with the same tree, validators, flags and bindings give the same answers. -/
theorem perform_fst (call : Call) (current : UpToDate tree router) :
    (perform tree call router).1 = (perform tree call { router with compiled := none }).1 := by
  have fresh : UpToDate tree { router with compiled := none } := nofun
  have resolved : ((resolve tree).run.run router).1 =
      ((resolve tree).run.run { router with compiled := none }).1 := by
    rw [run_resolve current, run_resolve fresh]
    cases compileTree tree router.specsPath router.chain <;> rfl
  cases call with
  | bind | bindDefault => rfl
  | compile =>
      simp only [perform, run_documents_of_upToDate current, run_documents_of_upToDate fresh]
      cases compileTree tree router.specsPath router.chain <;> rfl
  | resolve => exact resolved
  | assemble register state =>
      rw [perform, perform, assemble_eq, assemble_eq]
      exact congrArg (registered register state) resolved
  | table =>
      rw [perform, perform, table_eq, table_eq]
      exact congrArg (fun result => tabled (registered registerInTable { strict := router.strict } result)) resolved
  | requestModel =>
      rw [perform, perform, run_requestModel? current, run_requestModel? fresh]
      cases compileTree tree router.specsPath router.chain <;> rfl
  | responseModel =>
      rw [perform, perform, run_responseModel? current, run_responseModel? fresh]
      cases compileTree tree router.specsPath router.chain <;> rfl

section Failures

variable {error : BuildError}

theorem ofDocuments_resolve {bindings : Route.Bindings} {allowStubs : Bool} {docs : List CompiledDocument}
    (fails : Route.resolve bindings allowStubs docs = .error error) : error.ofDocuments = false := by
  rw [Route.resolve] at fails
  split at fails
  · rename_i duplicate
    cases fails
    obtain ⟨_, _, _, _, rfl⟩ := Route.exists_of_duplicate? duplicate
    rfl
  · rename_i unknown
    cases fails
    obtain ⟨_, _, _, rfl⟩ := Route.exists_of_unknown? unknown
    rfl
  · obtain ⟨op, _, fails⟩ := exists_of_mapM_eq_error fails
    obtain ⟨_, rfl⟩ := Route.resolveOne_eq_error_iff.mp fails
    rfl

theorem ofDocuments_registerAll {σ : Type} {register : Entry → ExceptT String (StateM σ) Unit} {entries : List Entry}
    {before : σ} (fails : ((registerAll register entries).run.run before).1 = .error error) :
    error.ofDocuments = false := by
  have assembles := assembles_registerAll register entries before
  revert fails assembles
  generalize (registerAll register entries).run.run before = outcome
  intro fails assembles
  cases assembles with
  | complete => cases fails
  | stopped =>
      cases fails
      rfl

theorem ofDocuments_registered {σ : Type} {register : Entry → ExceptT String (StateM σ) Unit} {state : σ}
    {bindings : Route.Bindings} {allowStubs : Bool} {docs : List CompiledDocument}
    (fails : (registered register state (Route.resolve bindings allowStubs docs)).1 = .error error) :
    error.ofDocuments = false := by
  cases resolved : Route.resolve bindings allowStubs docs with
  | error reason =>
      rw [resolved] at fails
      cases fails
      exact ofDocuments_resolve resolved
  | ok entries =>
      rw [resolved] at fails
      exact ofDocuments_registerAll fails

/-- Once the documents are compiled, a call fails for other reasons than them. -/
theorem ofDocuments_of_compiles {docs : List CompiledDocument} {call : Call} (current : UpToDate tree router)
    (compiles : compileTree tree router.specsPath router.chain = .ok docs)
    (fails : call.failure? (perform tree call router).1 = some error) : error.ofDocuments = false := by
  have resolved : ((resolve tree).run.run router).1 = Route.resolve router.bindings router.allowStubs docs := by
    rw [run_resolve current, compiles]
  cases call with
  | bind | bindDefault => cases fails
  | compile =>
      rw [perform, run_documents_of_upToDate current, compiles] at fails
      cases fails
  | resolve =>
      rw [perform, resolved] at fails
      cases routes : Route.resolve router.bindings router.allowStubs docs with
      | error reason =>
          rw [routes] at fails
          cases fails
          exact ofDocuments_resolve routes
      | ok entries =>
          rw [routes] at fails
          cases fails
  | assemble register state =>
      rw [perform, assemble_eq, resolved] at fails
      rcases outcome : registered register state (Route.resolve router.bindings router.allowStubs docs) with
        ⟨reason | count, last⟩
      · rw [outcome] at fails
        cases fails
        exact ofDocuments_registered (congrArg Prod.fst outcome)
      · rw [outcome] at fails
        cases fails
  | table =>
      rw [perform, table_eq, resolved] at fails
      rcases outcome : registered registerInTable { strict := router.strict }
        (Route.resolve router.bindings router.allowStubs docs) with ⟨reason | count, last⟩
      · rw [outcome] at fails
        cases fails
        exact ofDocuments_registered (congrArg Prod.fst outcome)
      · rw [outcome] at fails
        cases fails
  | requestModel =>
      rw [perform, run_requestModel? current, compiles] at fails
      cases fails
  | responseModel =>
      rw [perform, run_responseModel? current, compiles] at fails
      cases fails

end Failures

/-- What a router keeps is up to date after each call. -/
theorem UpToDate.perform (current : UpToDate tree router) (call : Call) :
    UpToDate tree (Router.perform tree call router).2 := by
  cases binding : call.binds with
  | true =>
      cases call with
      | bind | bindDefault => exact current
      | _ => cases binding
  | false =>
      rw [perform_snd binding current]
      cases compiles : compileTree tree router.specsPath router.chain with
      | error => exact current
      | ok docs =>
          intro kept same
          cases same
          exact compiles

/-- Apart from what it keeps, a call changes a router only by binding. -/
theorem perform_forgotten (current : UpToDate tree router) (call : Call) :
    { (perform tree call router).2 with compiled := none } =
      if call.binds then (perform tree call { router with compiled := none }).2
      else { router with compiled := none } := by
  cases binding : call.binds with
  | true =>
      cases call with
      | bind | bindDefault => rfl
      | _ => cases binding
  | false =>
      rw [perform_snd binding current]
      cases compileTree tree router.specsPath router.chain <;> rfl

/-- Calls that do not bind leave only documents behind, which are up to date. -/
theorem after_filter (current : UpToDate tree router) (calls : List Call) :
    UpToDate tree (after tree calls router) ∧
      after tree (calls.filter (·.binds)) { router with compiled := none } =
        { after tree calls router with compiled := none } := by
  induction calls generalizing router with
  | nil => exact ⟨current, rfl⟩
  | cons call calls ih =>
      obtain ⟨final, same⟩ := ih (current.perform call)
      refine ⟨final, ?_⟩
      rw [perform_forgotten current] at same
      cases binding : call.binds with
      | true =>
          rw [binding, if_pos rfl] at same
          rw [List.filter_cons_of_pos binding]
          exact same
      | false =>
          rw [binding, if_neg Bool.false_ne_true] at same
          rw [List.filter_cons_of_neg (by rw [binding]; exact Bool.false_ne_true)]
          exact same

/-- Keeping documents does not show: after any calls on a router, the next one is answered as by a new router on
which only the bindings were made. An error that comes from the documents leaves none kept, and only a call that binds
changes the bindings. -/
theorem perform_after (tree : FileTree) (router : Router) (calls : List Call) (call : Call) :
    (perform tree call (after tree calls router.blank)).1 =
        (perform tree call (after tree (calls.filter (·.binds)) router.blank)).1 ∧
      (after tree (calls.filter (·.binds)) router.blank).compiled = none ∧
      (∀ error, call.failure? (perform tree call (after tree calls router.blank)).1 = some error →
        error.ofDocuments = true → (perform tree call (after tree calls router.blank)).2.compiled = none) ∧
      (call.binds = false → (perform tree call (after tree calls router.blank)).2.bindings =
        (after tree calls router.blank).bindings) := by
  have start : UpToDate tree router.blank := nofun
  obtain ⟨current, same⟩ := after_filter start calls
  have fresh : after tree (calls.filter (·.binds)) router.blank =
      { after tree calls router.blank with compiled := none } := same
  rw [fresh]
  refine ⟨perform_fst call current, rfl, fun error fails early => ?_, fun reads => ?_⟩
  · cases compiles : compileTree tree (after tree calls router.blank).specsPath (after tree calls router.blank).chain with
    | ok docs =>
        -- The documents are fine, so they cannot be what the call fails with.
        rw [ofDocuments_of_compiles current compiles fails] at early
        cases early
    | error reason =>
        cases binding : call.binds with
        | true =>
            cases call with
            | bind | bindDefault => cases fails
            | _ => cases binding
        | false =>
            rw [perform_snd binding current, compiles]
            exact current.compiled_eq_none compiles
  · rw [perform_snd reads current]
    cases compileTree tree (after tree calls router.blank).specsPath (after tree calls router.blank).chain <;> rfl

end Router

end ApiAtlas
