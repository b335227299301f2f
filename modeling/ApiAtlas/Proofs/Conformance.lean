import Mathlib.Data.List.Nodup
import ApiAtlas.CommandLine.Run
import ApiAtlas.Proofs.Document.Loading

/-! # Reports and routers

Two pipelines go over the same documents: the report keeps every failure, and the router ends at the
first one. Both accept a tree exactly when every document is loaded, accepted and compiled and no two
operations share a route.
-/

namespace ApiAtlas

open Model (CompiledDocument OperationSpec)

/-- The path and method of an operation. -/
def routeOf (op : OperationSpec) : String × Method := (op.path, op.method)

/-- The routes of compiled documents, in order. -/
def routesOf (docs : List CompiledDocument) : List (String × Method) :=
  (docs.flatMap (·.operations)).map routeOf

/-- A document that was loaded passes the validators and is compiled. -/
def Builds (chain : ValidatorChain) (loaded : Except LoadError Document) (compiled : CompiledDocument) :
    Prop :=
  ∃ doc, loaded = .ok doc ∧ Router.compileOne chain doc = .ok compiled

/-- What both pipelines ask of a tree. -/
def Conforms (tree : FileTree) (root : String) (chain : ValidatorChain) : Prop :=
  ∃ found, Document.loadEach tree root = .ok found ∧ ∃ docs, found.Forall₂ (Builds chain) docs ∧
    (routesOf docs).Nodup

theorem DocumentReport.passed_append {report : DocumentReport} {outcomes : List (String × Outcome)} :
    (report.append outcomes).passed = (report.passed && !outcomes.any (·.2.isFailed)) := by
  simp [passed, append]

theorem Router.compileOne_eq_ok_iff {chain : ValidatorChain} {doc : Document} {compiled : CompiledDocument} :
    compileOne chain doc = .ok compiled ↔
      chain.validate doc = .ok () ∧ Model.compileDocument doc = .ok compiled := by
  rw [compileOne, bind_eq_ok_iff]
  constructor
  · rintro ⟨⟨⟩, accepted, same⟩
    exact ⟨accepted, same⟩
  · rintro ⟨accepted, same⟩
    exact ⟨(), accepted, same⟩

namespace ValidatorChain

variable {chain : ValidatorChain} {doc : Document}

theorem isFailed_outcomeOf {validator : Validator} :
    (outcomeOf doc validator).2.isFailed = false ↔ validator.validate doc = .ok () := by
  unfold outcomeOf
  cases validator.validate doc <;> simp [Outcome.isFailed]

theorem validate_eq_ok_iff :
    chain.validate doc = .ok () ↔ ∀ validator ∈ chain.validators, validator.validate doc = .ok () := by
  simp only [validate, forM_eq_ok_iff, mapError_eq_ok_iff]

/-- A report finds no violation exactly in the documents that the chain lets through. -/
theorem passed_check_iff : (chain.check doc).passed ↔ chain.validate doc = .ok () := by
  rw [validate_eq_ok_iff, validators, List.forall_mem_cons, ← isFailed_outcomeOf]
  simp only [check, DocumentReport.passed, List.any_cons, Bool.not_or, Bool.and_eq_true, Bool.not_eq_true']
  refine and_congr_right fun accepted => ?_
  rw [accepted]
  simp [isFailed_outcomeOf]

end ValidatorChain

namespace Conformance

variable {declared : Declared} {source : String} {op : OperationSpec} {ops : List OperationSpec}

theorem declaredIn?_eq_none_iff : declaredIn? declared op = none ↔ routeOf op ∉ declared.map (·.1) := by
  rw [declaredIn?, Option.map_eq_none_iff, List.find?_eq_none]
  simp only [beq_iff_eq, List.mem_map, not_exists, not_and]
  rfl

theorem declareOne_fresh {clash : Option Violation} (fresh : routeOf op ∉ declared.map (·.1)) :
    declareOne source (clash, declared) op = (clash, declared ++ [(routeOf op, source)]) := by
  rw [declareOne, declaredIn?_eq_none_iff.mpr fresh]
  rfl

theorem declareOne_declared (source : String) (clash : Option Violation) (member : routeOf op ∈ declared.map (·.1)) :
    ∃ first : Violation, declareOne source (clash, declared) op = (clash <|> some first, declared) := by
  cases found : declaredIn? declared op with
  | none => exact absurd member (declaredIn?_eq_none_iff.mp found)
  | some first => exact ⟨_, by rw [declareOne, found]⟩

/-- The first clash is kept. -/
theorem foldl_declareOne_some {clash : Violation} :
    ((ops.foldl (declareOne source) (some clash, declared)).1) = some clash := by
  induction ops generalizing declared with
  | nil => rfl
  | cons op ops ih =>
      rw [List.foldl_cons]
      by_cases member : routeOf op ∈ declared.map (·.1)
      · obtain ⟨first, same⟩ := declareOne_declared source (some clash) member
        rw [same]
        exact ih
      · rw [declareOne_fresh member]
        exact ih

theorem not_clear_of_declared (member : routeOf op ∈ declared.map (·.1)) :
    ((op :: ops).foldl (declareOne source) (none, declared)).1 ≠ none := by
  obtain ⟨first, same⟩ := declareOne_declared source none member
  have kept : (ops.foldl (declareOne source) (some first, declared)).1 = some first :=
    foldl_declareOne_some
  rw [List.foldl_cons, same]
  intro clear
  exact absurd (kept.symm.trans clear) nofun

/-- No clash is found exactly if the routes differ from each other and from those declared before. -/
theorem declare_clear_iff (distinct : (declared.map (·.1)).Nodup) :
    (declare source ops declared).1 = none ↔ (declared.map (·.1) ++ ops.map routeOf).Nodup := by
  unfold declare
  induction ops generalizing declared with
  | nil => simpa using distinct
  | cons op ops ih =>
      by_cases member : routeOf op ∈ declared.map (·.1)
      · refine iff_of_false (not_clear_of_declared member) fun distinct => ?_
        have apart := (List.nodup_append.mp distinct).2.2
        exact apart _ member _ List.mem_cons_self rfl
      · have extended : (declared ++ [(routeOf op, source)]).map (·.1) = declared.map (·.1) ++ [routeOf op] :=
          List.map_append
        have distinct' : ((declared ++ [(routeOf op, source)]).map (·.1)).Nodup := by
          rw [extended, ← List.concat_eq_append]
          exact distinct.concat member
        rw [List.foldl_cons, declareOne_fresh member, ih distinct', extended, List.map_cons,
          List.append_assoc, List.singleton_append]

/-- Without a clash all routes are declared. -/
theorem keys_declare (clear : (declare source ops declared).1 = none) :
    (declare source ops declared).2.map (·.1) = declared.map (·.1) ++ ops.map routeOf := by
  unfold declare at *
  induction ops generalizing declared with
  | nil => simp
  | cons op ops ih =>
      by_cases member : routeOf op ∈ declared.map (·.1)
      · exact absurd clear (not_clear_of_declared member)
      · rw [List.foldl_cons, declareOne_fresh member] at clear ⊢
        rw [ih clear]
        simp

/-- A document passes exactly if it is built and its routes are new. -/
theorem passed_checkOne_iff {chain : ValidatorChain} {loaded : Except LoadError Document}
    (distinct : (declared.map (·.1)).Nodup) :
    (checkOne chain declared loaded).1.passed ↔ ∃ compiled, Builds chain loaded compiled ∧
      (declared.map (·.1) ++ compiled.operations.map routeOf).Nodup := by
  cases loaded with
  | error error =>
      refine iff_of_false ?_ ?_
      · simp [checkOne, unloaded, DocumentReport.passed, Outcome.isFailed]
      · rintro ⟨_, ⟨_, same, _⟩, _⟩
        cases same
  | ok doc =>
      have built {compiled : CompiledDocument} : Builds chain (.ok doc) compiled ↔
          (chain.check doc).passed ∧ Model.compileDocument doc = .ok compiled := by
        simp [Builds, Router.compileOne_eq_ok_iff, ValidatorChain.passed_check_iff]
      simp only [built, checkOne]
      cases accepted : (chain.check doc).passed with
      | false => simp [DocumentReport.passed_append, accepted]
      | true =>
          cases compiles : Model.compileDocument doc with
          | error error => simp [DocumentReport.passed_append, Outcome.isFailed]
          | ok compiled =>
              have clear : (declare doc.path compiled.operations declared).1 = none ↔ _ :=
                declare_clear_iff distinct
              simp only [Bool.not_true, Bool.false_eq_true, if_false, DocumentReport.passed_append, accepted,
                true_and, Except.ok.injEq, exists_eq_left', ← clear]
              cases (declare doc.path compiled.operations declared).1 <;> simp [outcomeOfClash, Outcome.isFailed]

/-- A document that passes declares its routes. -/
theorem keys_checkOne {chain : ValidatorChain} {loaded : Except LoadError Document}
    {compiled : CompiledDocument} (builds : Builds chain loaded compiled)
    (distinct : (declared.map (·.1) ++ compiled.operations.map routeOf).Nodup) :
    (checkOne chain declared loaded).2.map (·.1) =
      declared.map (·.1) ++ compiled.operations.map routeOf := by
  obtain ⟨doc, rfl, same⟩ := builds
  obtain ⟨accepted, compiles⟩ := Router.compileOne_eq_ok_iff.mp same
  have clear : (declare doc.path compiled.operations declared).1 = none :=
    (declare_clear_iff (List.nodup_append.mp distinct).1).mpr distinct
  simpa [checkOne, ValidatorChain.passed_check_iff.mpr accepted, compiles] using keys_declare clear

/-- All documents pass exactly if all are built and no two operations share a route. -/
theorem passed_checkAll_iff {chain : ValidatorChain} {found : List (Except LoadError Document)}
    (distinct : (declared.map (·.1)).Nodup) :
    (checkAll chain declared found).all (·.passed) ↔ ∃ docs, found.Forall₂ (Builds chain) docs ∧
      (declared.map (·.1) ++ routesOf docs).Nodup := by
  induction found generalizing declared with
  | nil => simpa [checkAll, routesOf] using distinct
  | cons loaded found ih =>
      rw [checkAll]
      simp only [List.all_cons, Bool.and_eq_true, passed_checkOne_iff distinct]
      constructor
      · rintro ⟨⟨compiled, builds, here⟩, rest⟩
        have keys := keys_checkOne builds here
        obtain ⟨docs, others, there⟩ := (ih (keys ▸ here)).mp rest
        refine ⟨compiled :: docs, .cons builds others, ?_⟩
        rw [keys, List.append_assoc] at there
        simpa [routesOf] using there
      · rintro ⟨_, builds, all⟩
        cases builds with
        | @cons _ compiled _ docs builds others =>
            have split : declared.map (·.1) ++ routesOf (compiled :: docs) =
                declared.map (·.1) ++ compiled.operations.map routeOf ++ routesOf docs := by
              simp [routesOf]
            rw [split] at all
            have here := (List.nodup_append.mp all).1
            have keys := keys_checkOne builds here
            refine ⟨⟨compiled, builds, here⟩, (ih (keys ▸ here)).mpr ⟨docs, others, ?_⟩⟩
            rwa [keys]

/-- A tree passes exactly if it conforms. -/
theorem passed_run_iff {tree : FileTree} {root : String} {chain : ValidatorChain} :
    (∃ report, run tree root chain = .ok report ∧ report.passed) ↔ Conforms tree root chain := by
  unfold run Conforms
  cases Document.loadEach tree root with
  | error error => simp [Except.map]
  | ok found =>
      simp only [Except.map, Except.ok.injEq, exists_eq_left', TreeReport.passed]
      have start : (([] : Declared).map (·.1)).Nodup := List.nodup_nil
      exact passed_checkAll_iff start

end Conformance

namespace Route

variable {ops earlier : List OperationSpec} {op : OperationSpec}

theorem find?_eq_none_iff :
    (earlier.find? fun first => first.path == op.path && first.method == op.method) = none ↔
      routeOf op ∉ earlier.map routeOf := by
  simp [routeOf]

/-- No duplicate is found exactly if the routes differ from each other and from the earlier ones. -/
theorem duplicate?_eq_none_iff (distinct : (earlier.map routeOf).Nodup) :
    duplicate? earlier ops = none ↔ (earlier.map routeOf ++ ops.map routeOf).Nodup := by
  induction ops generalizing earlier with
  | nil => simpa [duplicate?] using distinct
  | cons op ops ih =>
      rw [duplicate?]
      cases found : earlier.find? fun first => first.path == op.path && first.method == op.method with
      | some first =>
          refine iff_of_false nofun fun apart => ?_
          have member : routeOf op ∈ earlier.map routeOf := by
            by_contra fresh
            rw [find?_eq_none_iff.mpr fresh] at found
            cases found
          exact (List.nodup_append.mp apart).2.2 _ member _ List.mem_cons_self rfl
      | none =>
          have distinct' : ((earlier ++ [op]).map routeOf).Nodup := by
            rw [List.map_append, List.map_singleton, ← List.concat_eq_append]
            exact distinct.concat (find?_eq_none_iff.mp found)
          rw [ih distinct']
          simp

theorem unknown?_unbound : unknown? {} ops = none := rfl

theorem resolveOne_stubs : resolveOne {} true op = .ok (entryOf {} op stubHandler .stub) := rfl

/-- Without bindings, the routes are resolved exactly if no two operations share one. -/
theorem resolve_stubs_iff {docs : List CompiledDocument} :
    (∃ entries, resolve {} true docs = .ok entries) ↔ (routesOf docs).Nodup := by
  have start : (([] : List OperationSpec).map routeOf).Nodup := List.nodup_nil
  have distinct : duplicate? [] (docs.flatMap (·.operations)) = none ↔ (routesOf docs).Nodup :=
    duplicate?_eq_none_iff start
  rw [resolve, unknown?_unbound]
  cases duplicates : duplicate? [] (docs.flatMap (·.operations)) with
  | some error =>
      rw [duplicates] at distinct
      exact iff_of_false nofun (mt distinct.mpr nofun)
  | none =>
      refine iff_of_true ⟨(docs.flatMap (·.operations)).map fun op => entryOf {} op stubHandler .stub, ?_⟩
        (distinct.mp duplicates)
      rw [mapM_eq_ok_iff, List.forall₂_map_right_iff, List.forall₂_same]
      exact fun op _ => resolveOne_stubs

end Route

namespace Router

variable {tree : FileTree} {root : String} {chain : ValidatorChain}

/-- A tree compiles exactly if every document is built. -/
theorem compileTree_eq_ok_iff {docs : List CompiledDocument} :
    compileTree tree root chain = .ok docs ↔
      ∃ found, Document.loadEach tree root = .ok found ∧ found.Forall₂ (Builds chain) docs := by
  rw [compileTree, bind_eq_ok_iff]
  simp only [mapError_eq_ok_iff, mapM_eq_ok_iff, Document.loadAll_eq_ok_iff]
  constructor
  · rintro ⟨loaded, same, compiles⟩
    refine ⟨_, same, List.forall₂_map_left_iff.mpr (compiles.imp fun doc compiled h => ⟨doc, rfl, h⟩)⟩
  · rintro ⟨found, same, builds⟩
    obtain ⟨loaded, rfl, compiles⟩ : ∃ loaded : List Document, found = loaded.map .ok ∧
        loaded.Forall₂ (fun doc compiled => compileOne chain doc = .ok compiled) docs := by
      clear same
      induction builds with
      | nil => exact ⟨[], rfl, .nil⟩
      | cons builds _ ih =>
          obtain ⟨doc, rfl, compiles⟩ := builds
          obtain ⟨loaded, rfl, rest⟩ := ih
          exact ⟨doc :: loaded, rfl, .cons compiles rest⟩
    exact ⟨loaded, same, compiles⟩

/-- A router that keeps no documents yet compiles its tree. -/
theorem run_documents (tree : FileTree) {router : Router} (fresh : router.compiled = none) :
    (documents tree).run.run router =
      match compileTree tree router.specsPath router.chain with
      | .error error => (.error error, router)
      | .ok docs => (.ok docs, { router with compiled := some docs }) := by
  obtain ⟨root, chain, bindings, allowStubs, strict, compiled⟩ := router
  cases fresh
  have unfolded : (documents tree).run.run ⟨root, chain, bindings, allowStubs, strict, none⟩ =
      (do
        let docs ← MonadExcept.ofExcept (compileTree tree root chain)
        set (Router.mk root chain bindings allowStubs strict (some docs))
        return docs : Using (List CompiledDocument)).run.run
          ⟨root, chain, bindings, allowStubs, strict, none⟩ := rfl
  rw [unfolded]
  dsimp only
  cases compileTree tree root chain <;> rfl

theorem resolve_of_error {router : Router} {error : BuildError} (fresh : router.compiled = none)
    (h : compileTree tree router.specsPath router.chain = .error error) :
    ((resolve tree).run.run router).1 = .error error := by
  have step := run_documents tree fresh
  rw [h] at step
  rw [resolve, run_bind_of_error step]

theorem resolve_of_ok {router : Router} {docs : List CompiledDocument} (fresh : router.compiled = none)
    (h : compileTree tree router.specsPath router.chain = .ok docs) :
    ((resolve tree).run.run router).1 = Route.resolve router.bindings router.allowStubs docs := by
  have step := run_documents tree fresh
  rw [h] at step
  rw [resolve, run_bind_of_ok step]
  change ((MonadExcept.ofExcept (Route.resolve router.bindings router.allowStubs docs) : Using _).run.run
    _).1 = _
  cases Route.resolve router.bindings router.allowStubs docs <;> rfl

/-- Without bindings, the routes of a tree are resolved exactly if it conforms. -/
theorem resolve_iff {strict : Bool} :
    (∃ entries, ((resolve tree).run.run
      { specsPath := root, chain, allowStubs := true, strict }).1 = .ok entries) ↔
      Conforms tree root chain := by
  cases h : compileTree tree root chain with
  | error error =>
      have same : ((resolve tree).run.run
          { specsPath := root, chain, allowStubs := true, strict }).1 = .error error :=
        resolve_of_error rfl h
      rw [same]
      refine iff_of_false nofun ?_
      rintro ⟨found, same, docs, builds, _⟩
      have compiles := compileTree_eq_ok_iff.mpr ⟨found, same, builds⟩
      rw [h] at compiles
      cases compiles
  | ok docs =>
      have same : ((resolve tree).run.run
          { specsPath := root, chain, allowStubs := true, strict }).1 = Route.resolve {} true docs :=
        resolve_of_ok rfl h
      rw [same, Route.resolve_stubs_iff]
      obtain ⟨found, same, builds⟩ := compileTree_eq_ok_iff.mp h
      constructor
      · intro distinct
        exact ⟨found, same, docs, builds, distinct⟩
      · rintro ⟨_, same', docs', builds', distinct⟩
        have compiles := compileTree_eq_ok_iff.mpr ⟨_, same', builds'⟩
        rw [h] at compiles
        cases compiles
        exact distinct

end Router

theorem TreeReport.exitCode_eq_zero_iff {report : TreeReport} : report.exitCode = 0 ↔ report.passed := by
  have counted : report.passedCount = report.documents.length ↔ ∀ doc ∈ report.documents, doc.passed :=
    List.length_filter_eq_length_iff
  have bound : report.passedCount ≤ report.documents.length := List.length_filter_le _ _
  rw [TreeReport.passed, List.all_eq_true, ← counted, exitCode, failedCount]
  split <;> omega

namespace CommandLine

variable {tree : FileTree} {common : Common}

/-- Reporting ends with success exactly if the validators are known and the tree conforms. -/
theorem validate_exitCode_iff : (validate tree common).exitCode = 0 ↔
    ∃ others, validators tree common = .ok others ∧ Conforms tree common.path { others } := by
  unfold validate
  cases validators tree common with
  | error error => simp [failure]
  | ok others =>
      simp only [Except.ok.injEq, exists_eq_left', ← Conformance.passed_run_iff]
      cases Conformance.run tree common.path { others } with
      | error error => simp [failure]
      | ok report => simp [TreeReport.exitCode_eq_zero_iff]

/-- Listing the routes ends with success exactly if the validators are known and the tree conforms. -/
theorem routes_exitCode_iff {schemas strict : Bool} : (routes tree common schemas strict).exitCode = 0 ↔
    ∃ others, validators tree common = .ok others ∧ Conforms tree common.path { others } := by
  unfold routes
  cases validators tree common with
  | error error => simp [failure]
  | ok others =>
      have resolves : (∃ entries, ((Router.resolve tree).run.run
          { specsPath := common.path, chain := { others }, allowStubs := true, strict }).1 = .ok entries) ↔
          Conforms tree common.path { others } := Router.resolve_iff
      simp only [Except.ok.injEq, exists_eq_left', ← resolves]
      cases ((Router.resolve tree).run.run
        { specsPath := common.path, chain := { others }, allowStubs := true, strict }).1 with
      | error error => simp [failure]
      | ok entries => simp

end CommandLine

/-- Report mode and router mode agree: the report of a tree passes exactly if a router with stubs
resolves its routes, so both commands end with success on the same trees. -/
theorem passed_iff_resolves (tree : FileTree) (root : String) (others : List Validator) (strict : Bool) :
    ((∃ report, Conformance.run tree root { others } = .ok report ∧ report.passed) ↔
      ∃ entries, ((Router.resolve tree).run.run
        { specsPath := root, chain := { others }, allowStubs := true, strict }).1 = .ok entries) ∧
    ∀ common schemas, (CommandLine.run tree (.validate common)).exitCode = 0 ↔
      (CommandLine.run tree (.routes common schemas strict)).exitCode = 0 := by
  refine ⟨?_, fun common schemas => ?_⟩
  · rw [Conformance.passed_run_iff, Router.resolve_iff]
  · rw [CommandLine.run, CommandLine.run, CommandLine.validate_exitCode_iff,
      CommandLine.routes_exitCode_iff]

end ApiAtlas
