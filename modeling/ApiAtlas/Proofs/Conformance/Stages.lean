import ApiAtlas.Proofs.Conformance.Isolation
import ApiAtlas.Proofs.Document.Keyed
import ApiAtlas.Proofs.Route.Resolution
import ApiAtlas.Proofs.Validation.Chain

/-! # Stages of a report

A report lists the stages of a document in a fixed order. It says what each validator says and what compiling comes to,
and that a stage was skipped exactly if an earlier one kept the document from reaching it. A document that was compiled
fails the last stage exactly if it shares a route with an earlier document that was compiled.
-/

namespace ApiAtlas

open Model (CompiledDocument OperationSpec compileDocument)

theorem findSome?_congr {α β : Type} {f g : α → Option β} {list : List α} (same : ∀ a ∈ list, f a = g a) :
    list.findSome? f = list.findSome? g := by
  induction list with
  | nil => rfl
  | cons a list ih =>
      obtain ⟨here, rest⟩ := List.forall_mem_cons.mp same
      rw [List.findSome?_cons, List.findSome?_cons, here, ih rest]

namespace DocumentReport

/-- The outcome of comparing the routes of a document, looked up from the end like that of compiling it. -/
def comparison? (report : DocumentReport) : Option Outcome :=
  Table.get? Conformance.routesStage report.outcomes.reverse

def compiles (report : DocumentReport) : Bool :=
  match report.compilation? with
  | some .passed => true
  | _ => false

theorem compiles_iff {report : DocumentReport} : report.compiles ↔ report.compilation? = some .passed := by
  unfold compiles
  split
  · simp [*]
  · rename_i other
    exact iff_of_false Bool.false_ne_true other

end DocumentReport

namespace Conformance

/-- The documents that were compiled, in order. -/
def compiledOf (found : List (Except LoadError Document)) (reports : List DocumentReport) : List Document :=
  (found.zip reports).filterMap fun (loaded, report) => if report.compiles then loaded.toOption else none

/-- The first operation of a document whose route an earlier document declares, and the first one to declare it. -/
def clash? (earlier : List Document) (doc : Document) : Option (Operation × Document) :=
  doc.operations.findSome? fun op =>
    (earlier.find? fun first => first.routes.contains (op.path, op.method)).map fun first => (op, first)

def violationOfClash (clash : Operation × Document) : Violation where
  kind := "DuplicateRoute"
  message := "route already declared in '" ++ clash.2.path ++ "'"
  location := some clash.1.location

/-! ## Sources of routes -/

section Sources

variable {declared : Declared} {source : String} {route : String × Method} {op : OperationSpec}
  {ops : List OperationSpec} {doc : Document} {docs : List Document}

/-- The document that is listed first for a route. -/
def source? (declared : Declared) (route : String × Method) : Option String :=
  (declared.find? (·.1 == route)).map (·.2)

theorem source?_append (others : Declared) :
    source? (declared ++ others) route = (source? declared route).or (source? others route) := by
  simp only [source?, List.find?_append]
  cases declared.find? (·.1 == route) <;> simp

theorem source?_map (routes : List (String × Method)) :
    source? (routes.map fun route => (route, source)) route = if route ∈ routes then some source else none := by
  induction routes with
  | nil => rfl
  | cons first routes ih =>
      by_cases same : first = route
      · simp [source?, same]
      · simpa [source?, same, Ne.symm same] using ih

/-- The routes of documents in order, each with its document. -/
def declarations (docs : List Document) : Declared :=
  docs.flatMap fun doc => doc.routes.map fun route => (route, doc.path)

theorem declarations_append (others : List Document) :
    declarations (docs ++ others) = declarations docs ++ declarations others := by
  simp [declarations]

theorem declarations_singleton : declarations [doc] = doc.routes.map fun route => (route, doc.path) := by
  simp [declarations]

theorem source?_declarations : source? (declarations docs) route =
    (docs.find? fun doc => doc.routes.contains route).map (·.path) := by
  induction docs with
  | nil => rfl
  | cons doc docs ih =>
      have split : declarations (doc :: docs) = doc.routes.map (fun route => (route, doc.path)) ++ declarations docs := by
        simp [declarations]
      rw [split, source?_append, source?_map, ih]
      by_cases member : route ∈ doc.routes <;> simp [member]

/-- The table knows for each route the first document that declares it. -/
def Tracks (declared : Declared) (docs : List Document) : Prop :=
  ∀ route, source? declared route = source? (declarations docs) route

theorem tracks_nil : Tracks [] [] := fun _ => rfl

variable {clash : Option Violation}

theorem source?_declareOne : source? (declareOne source (clash, declared) op).2 route =
    source? (declared ++ [(routeOf op, source)]) route := by
  by_cases member : routeOf op ∈ declared.map (·.1)
  · obtain ⟨first, same⟩ := declareOne_declared source clash member
    rw [same, source?_append]
    cases found : source? declared route with
    | some _ => rfl
    | none =>
        have other : routeOf op ≠ route := by
          rintro rfl
          exact declaredIn?_eq_none_iff.mp found member
        simp [source?, other]
  · rw [declareOne_fresh member]

/-- Declaring routes is like writing all of them at the end of the table. -/
theorem source?_foldl : source? (ops.foldl (declareOne source) (clash, declared)).2 route =
    source? (declared ++ ops.map fun op => (routeOf op, source)) route := by
  induction ops generalizing clash declared with
  | nil => simp
  | cons op ops ih =>
      have step : source? (declareOne source (clash, declared) op).2 route = _ := source?_declareOne
      rw [List.foldl_cons]
      generalize declareOne source (clash, declared) op = state at step
      obtain ⟨clash, between⟩ := state
      rw [ih, source?_append, step, ← source?_append]
      simp

def violationAt (route : String × Method) (first : String) : Violation where
  kind := "DuplicateRoute"
  message := "route already declared in '" ++ first ++ "'"
  location := some (route.1 ++ " " ++ route.2)

/-- Among operations with distinct routes, the first one that is in the table already is the clash. -/
theorem clash_foldl (distinct : (ops.map routeOf).Nodup) :
    (ops.foldl (declareOne source) (clash, declared)).1 =
      clash.or (ops.findSome? fun op => (source? declared (routeOf op)).map (violationAt (routeOf op))) := by
  induction ops generalizing clash declared with
  | nil => simp
  | cons op ops ih =>
      obtain ⟨apart, distinct⟩ := List.nodup_cons.mp distinct
      rw [List.foldl_cons, List.findSome?_cons]
      cases found : source? declared (routeOf op) with
      | none =>
          rw [declareOne_fresh (declaredIn?_eq_none_iff.mp found), ih distinct]
          congr 1
          apply findSome?_congr
          intro other member
          have different : routeOf op ≠ routeOf other := by
            intro same
            exact apart (same ▸ List.mem_map_of_mem member)
          simp [source?, different]
      | some first =>
          have here : declareOne source (clash, declared) op = (clash.or (violationAt (routeOf op) first), declared) := by
            have there : declaredIn? declared op = some first := found
            rw [declareOne, there]
            cases clash <;> rfl
          rw [here, ih distinct, Option.or_assoc]
          rfl

variable {earlier : List Document} {compiled : CompiledDocument}

theorem clash?_eq (tracks : Tracks declared earlier) : (clash? earlier doc).map violationOfClash =
    doc.routes.findSome? fun route => (source? declared route).map (violationAt route) := by
  rw [clash?, List.map_findSome?, Document.routes, List.findSome?_map]
  congr 1
  funext op
  simp only [Function.comp, tracks _, source?_declarations, Option.map_map]
  rfl

theorem routes_of_compiles (keyed : doc.root.Keyed) (compiles : compileDocument doc = .ok compiled) :
    compiled.operations.map routeOf = doc.routes := by
  have both := congrArg (List.map Prod.fst) (Model.declarations_compileDocument keyed compiles)
  simpa [Function.comp_def] using both

theorem declare_compiled (tracks : Tracks declared earlier) (keyed : doc.root.Keyed)
    (compiles : compileDocument doc = .ok compiled) :
    (declare doc.path compiled.operations declared).1 = (clash? earlier doc).map violationOfClash ∧
    Tracks (declare doc.path compiled.operations declared).2 (earlier ++ [doc]) := by
  have routes := routes_of_compiles keyed compiles
  constructor
  · rw [declare, clash_foldl (routes ▸ Document.nodup_routes keyed), Option.none_or, clash?_eq tracks, ← routes,
      List.findSome?_map]
    rfl
  · intro route
    have written : compiled.operations.map (fun op => (routeOf op, doc.path)) =
        doc.routes.map fun route => (route, doc.path) := by
      rw [← routes, List.map_map]
      rfl
    rw [declare, source?_foldl, written, source?_append, tracks route, declarations_append, source?_append,
      declarations_singleton]

end Sources

/-! ## Stages of a document -/

section Documents

variable {chain : ValidatorChain} {declared : Declared} {earlier : List Document} {doc : Document}
  {loaded : Except LoadError Document} {report : DocumentReport} {verdicts : List (String × Outcome)}
  {compiling comparing : Outcome}

/-- The stage that loads a document is listed only if it fails. -/
def loading : Except LoadError Document → List (String × Outcome)
  | .error error => [(loaderStage, .failed { kind := "LoadError", message := error.fault.message })]
  | .ok _ => []

/-- What the validators say about a document that is loaded. All are skipped for one that is not. -/
inductive Judged (chain : ValidatorChain) : Except LoadError Document → List (String × Outcome) → Prop where
  | unloaded (error : LoadError) :
      Judged chain (.error error) (chain.validators.map fun validator => (validator.name, .skipped))
  | loaded {doc : Document} {verdicts : List (String × Outcome)} (said : chain.Verdicts doc verdicts) :
      Judged chain (.ok doc) verdicts

/-- What compiling a document comes to. It is reached by a document that is loaded and that every validator accepts. -/
inductive Compiled (chain : ValidatorChain) : Except LoadError Document → Outcome → Prop where
  | unloaded (error : LoadError) : Compiled chain (.error error) .skipped
  | rejected {doc : Document} {validator : Validator} {violation : Violation} (listed : validator ∈ chain.validators)
      (rejected : validator.validate doc = .error violation) : Compiled chain (.ok doc) .skipped
  | failed {doc : Document} {error : BuildError}
      (accepted : ∀ validator ∈ chain.validators, validator.validate doc = .ok ())
      (fails : compileDocument doc = .error error) : Compiled chain (.ok doc) (.failed (violationOf error))
  | passed {doc : Document} {compiled : CompiledDocument}
      (accepted : ∀ validator ∈ chain.validators, validator.validate doc = .ok ())
      (compiles : compileDocument doc = .ok compiled) : Compiled chain (.ok doc) .passed

/-- The stages of a document in the order of its report. -/
structure Stages (chain : ValidatorChain) (loaded : Except LoadError Document) (report : DocumentReport)
    (verdicts : List (String × Outcome)) (compiling comparing : Outcome) : Prop where
  outcomes : report.outcomes = loading loaded ++ verdicts ++ [(compilerStage, compiling), (routesStage, comparing)]
  names : verdicts.map (·.1) = chain.validators.map (·.name)
  judged : Judged chain loaded verdicts
  compiled : Compiled chain loaded compiling
  compiling_iff : compiling ≠ .skipped ↔ (∃ doc, loaded = .ok doc) ∧ ∀ verdict ∈ verdicts, verdict.2.isFailed = false
  comparing_iff : comparing ≠ .skipped ↔ compiling = .passed

/-- What the last stage finds when the document is compared with earlier ones. -/
structure Blames (earlier : List Document) (loaded : Except LoadError Document) (compiling comparing : Outcome) :
    Prop where
  failed_iff : comparing.isFailed ↔ compiling = .passed ∧
    ∃ doc, loaded = .ok doc ∧ ∃ route ∈ doc.routes, ∃ first ∈ earlier, route ∈ first.routes
  violation {violation : Violation} : comparing = .failed violation →
    ∃ doc clash, loaded = .ok doc ∧ clash? earlier doc = some clash ∧ violation = violationOfClash clash

/-- All that checking one document can come to. -/
inductive Checked (chain : ValidatorChain) (declared : Declared) :
    Except LoadError Document → DocumentReport × Declared → Prop where
  | unloaded (error : LoadError) : Checked chain declared (.error error) (unloaded chain error, declared)
  | rejected {doc : Document} : (chain.check doc).passed = false → Checked chain declared (.ok doc)
      ((chain.check doc).append [(compilerStage, .skipped), (routesStage, .skipped)], declared)
  | uncompiled {doc : Document} {error : BuildError} : (chain.check doc).passed →
    compileDocument doc = .error error → Checked chain declared (.ok doc)
      ((chain.check doc).append [(compilerStage, .failed (violationOf error)), (routesStage, .skipped)], declared)
  | compiled {doc : Document} {compiled : CompiledDocument} : (chain.check doc).passed →
    compileDocument doc = .ok compiled → Checked chain declared (.ok doc)
      ((chain.check doc).append [(compilerStage, .passed),
        (routesStage, outcomeOfClash (declare doc.path compiled.operations declared).1)],
        (declare doc.path compiled.operations declared).2)

theorem checked_checkOne (chain : ValidatorChain) (declared : Declared) (loaded : Except LoadError Document) :
    Checked chain declared loaded (checkOne chain declared loaded) := by
  cases loaded with
  | error error => exact .unloaded error
  | ok doc =>
      unfold checkOne
      cases accepted : (chain.check doc).passed with
      | false => simpa [accepted] using .rejected accepted
      | true =>
          cases compiles : compileDocument doc with
          | error error => simpa [accepted, compiles] using .uncompiled accepted compiles
          | ok compiled => simpa [accepted, compiles] using .compiled accepted compiles

theorem clash?_eq_none_iff :
    clash? earlier doc = none ↔ ¬ ∃ route ∈ doc.routes, ∃ first ∈ earlier, route ∈ first.routes := by
  simp [clash?, Document.routes]

theorem isFailed_outcomeOfClash {clash : Option Violation} : (outcomeOfClash clash).isFailed ↔ clash ≠ none := by
  cases clash <;> simp [outcomeOfClash, Outcome.isFailed]

theorem forall_not_isFailed_iff {report : DocumentReport} :
    report.passed ↔ ∀ outcome ∈ report.outcomes, outcome.2.isFailed = false := by
  simp [DocumentReport.passed]

theorem Blames.skipped (idle : compiling ≠ .passed) : Blames earlier loaded compiling .skipped where
  failed_iff := by simp [Outcome.isFailed, idle]
  violation := nofun

theorem Blames.compared {clash : Option Violation} (found : clash = (clash? earlier doc).map violationOfClash) :
    Blames earlier (.ok doc) .passed (outcomeOfClash clash) where
  failed_iff := by
    rw [isFailed_outcomeOfClash, found, ne_eq, Option.map_eq_none_iff, clash?_eq_none_iff, not_not]
    simp
  violation := by
    intro violation failed
    cases there : clash? earlier doc with
    | none => simp [found, there, outcomeOfClash] at failed
    | some clash =>
        simp [found, there, outcomeOfClash] at failed
        exact ⟨doc, clash, rfl, there, failed.symm⟩

theorem outcomes_unloaded (error : LoadError) : (unloaded chain error).outcomes =
    (loading (.error error) ++ chain.validators.map fun validator => (validator.name, .skipped)) ++
      [(compilerStage, .skipped), (routesStage, .skipped)] := by
  simp [unloaded, loading, ValidatorChain.names]

theorem Compiled.reached_iff (compiled : Compiled chain (.ok doc) compiling) :
    compiling ≠ .skipped ↔ (chain.check doc).passed := by
  rw [ValidatorChain.passed_check_iff, ValidatorChain.validate_eq_ok_iff]
  cases compiled with
  | rejected listed rejected =>
      refine iff_of_false (not_not.mpr rfl) fun accepted => ?_
      rw [accepted _ listed] at rejected
      cases rejected
  | failed accepted => exact iff_of_true nofun accepted
  | passed accepted => exact iff_of_true nofun accepted

theorem compiled_of_not_passed (rejected : (chain.check doc).passed = false) : Compiled chain (.ok doc) .skipped := by
  by_contra none
  have accepted : ∀ validator ∈ chain.validators, validator.validate doc = .ok () := by
    intro validator listed
    cases said : validator.validate doc with
    | ok => rfl
    | error violation => exact absurd (.rejected listed said) none
  rw [ValidatorChain.passed_check_iff.mpr (ValidatorChain.validate_eq_ok_iff.mpr accepted)] at rejected
  cases rejected

theorem accepted_of_passed (passed : (chain.check doc).passed) :
    ∀ validator ∈ chain.validators, validator.validate doc = .ok () :=
  ValidatorChain.validate_eq_ok_iff.mp (ValidatorChain.passed_check_iff.mp passed)

/-- The stages of a document that is loaded: the last two follow the verdicts of the validators. -/
theorem Stages.append_check (compiled : Compiled chain (.ok doc) compiling)
    (compared : comparing ≠ .skipped ↔ compiling = .passed) : Stages chain (.ok doc)
      ((chain.check doc).append [(compilerStage, compiling), (routesStage, comparing)])
      (chain.check doc).outcomes compiling comparing where
  outcomes := by simp [loading, DocumentReport.append]
  names := ValidatorChain.names_check
  judged := .loaded (ValidatorChain.verdicts_iff.mpr rfl)
  compiled := compiled
  compiling_iff := by
    rw [compiled.reached_iff, forall_not_isFailed_iff]
    simp
  comparing_iff := compared

theorem Judged.unique {others : List (String × Outcome)} (here : Judged chain loaded verdicts)
    (there : Judged chain loaded others) : verdicts = others := by
  cases here with
  | unloaded error =>
      cases there
      rfl
  | loaded said =>
      cases there with
      | loaded said' => rw [ValidatorChain.verdicts_iff.mp said, ValidatorChain.verdicts_iff.mp said']

theorem Compiled.unique {other : Outcome} (here : Compiled chain loaded compiling) (there : Compiled chain loaded other) :
    compiling = other := by
  cases here with
  | unloaded error =>
      cases there
      rfl
  | rejected listed rejected =>
      cases there with
      | rejected => rfl
      | failed accepted | passed accepted =>
          rw [accepted _ listed] at rejected
          cases rejected
  | failed accepted fails =>
      cases there with
      | rejected listed rejected =>
          rw [accepted _ listed] at rejected
          cases rejected
      | failed _ fails' =>
          rw [fails] at fails'
          cases fails'
          rfl
      | passed _ compiles =>
          rw [fails] at compiles
          cases compiles
  | passed accepted compiles =>
      cases there with
      | rejected listed rejected =>
          rw [accepted _ listed] at rejected
          cases rejected
      | failed _ fails =>
          rw [compiles] at fails
          cases fails
      | passed => rfl

/-- The verdicts and what compiling comes to leave no choice but in the last stage. -/
theorem Stages.outcomes_eq {verdicts' : List (String × Outcome)} {compiling' : Outcome}
    (stages : Stages chain loaded report verdicts compiling comparing) (judged : Judged chain loaded verdicts')
    (compiled : Compiled chain loaded compiling') : report.outcomes =
      loading loaded ++ verdicts' ++ [(compilerStage, compiling'), (routesStage, comparing)] := by
  rw [stages.outcomes, stages.judged.unique judged, stages.compiled.unique compiled]

theorem Stages.skipped (stages : Stages chain loaded report verdicts compiling comparing)
    (compiled : Compiled chain loaded .skipped) : comparing = .skipped := by
  by_contra compared
  cases (stages.comparing_iff.mp compared).symm.trans (stages.compiled.unique compiled)

theorem stages_unloaded (error : LoadError) : Stages chain (.error error) (unloaded chain error)
    (chain.validators.map fun validator => (validator.name, .skipped)) .skipped .skipped where
  outcomes := outcomes_unloaded error
  names := by simp [Function.comp_def]
  judged := .unloaded error
  compiled := .unloaded error
  compiling_iff := by simp
  comparing_iff := by simp

theorem stages_of_checked {result : DocumentReport × Declared} (tracks : Tracks declared earlier)
    (keyed : ∀ doc, loaded = .ok doc → doc.root.Keyed) (checked : Checked chain declared loaded result) :
    ∃ verdicts compiling comparing, Stages chain loaded result.1 verdicts compiling comparing ∧
      Blames earlier loaded compiling comparing := by
  cases checked with
  | unloaded error => exact ⟨_, _, _, stages_unloaded error, .skipped (by simp)⟩
  | rejected rejected =>
      exact ⟨_, .skipped, .skipped, .append_check (compiled_of_not_passed rejected) (by simp), .skipped (by simp)⟩
  | uncompiled passed fails =>
      have compiled := Compiled.failed (accepted_of_passed passed) fails
      exact ⟨_, .failed _, .skipped, .append_check compiled (by simp), .skipped (by simp)⟩
  | @compiled doc compiled passed compiles =>
      have found := (declare_compiled tracks (keyed doc rfl) compiles).1
      refine ⟨_, .passed, _, .append_check (.passed (accepted_of_passed passed) compiles) ?_, .compared found⟩
      cases (declare doc.path compiled.operations declared).1 <;> simp [outcomeOfClash]

section Ends

variable {before : List (String × Outcome)}
  (ends : report.outcomes = before ++ [(compilerStage, compiling), (routesStage, comparing)])

include ends

theorem compilation?_of_ends : report.compilation? = some compiling := by
  have apart : routesStage ≠ compilerStage := by decide
  simp [DocumentReport.compilation?, ends, Table.get?, apart]

theorem comparison?_of_ends : report.comparison? = some comparing := by
  simp [DocumentReport.comparison?, ends]

end Ends

theorem checkAll_cons (found : List (Except LoadError Document)) : checkAll chain declared (loaded :: found) =
    (checkOne chain declared loaded).1 :: checkAll chain (checkOne chain declared loaded).2 found := rfl

theorem compiledOf_passed (passed : report.compilation? = some .passed) : compiledOf [.ok doc] [report] = [doc] := by
  have here : report.compiles = true := DocumentReport.compiles_iff.mpr passed
  simp [compiledOf, here, Except.toOption]

theorem compiledOf_idle (idle : report.compilation? ≠ some .passed) : compiledOf [loaded] [report] = [] := by
  have here : report.compiles = false := Bool.eq_false_iff.mpr (mt DocumentReport.compiles_iff.mp idle)
  simp [compiledOf, here]

theorem compiledOf_cons (found : List (Except LoadError Document)) (reports : List DocumentReport) :
    compiledOf (loaded :: found) (report :: reports) = compiledOf [loaded] [report] ++ compiledOf found reports := by
  simp only [compiledOf, List.zip_cons_cons, List.zip_nil_left, List.filterMap_cons, List.filterMap_nil]
  split <;> rfl

/-- Only a document that is compiled declares its routes. -/
theorem tracks_of_checked {result : DocumentReport × Declared} (tracks : Tracks declared earlier)
    (keyed : ∀ doc, loaded = .ok doc → doc.root.Keyed) (checked : Checked chain declared loaded result) :
    Tracks result.2 (earlier ++ compiledOf [loaded] [result.1]) := by
  have idle {report : DocumentReport} {before : List (String × Outcome)} {compiling : Outcome}
      (ends : report.outcomes = before ++ [(compilerStage, compiling), (routesStage, .skipped)])
      (other : compiling ≠ .passed) : Tracks declared (earlier ++ compiledOf [loaded] [report]) := by
    rw [compiledOf_idle (by simpa [compilation?_of_ends ends] using other), List.append_nil]
    exact tracks
  cases checked with
  | unloaded error => exact idle (outcomes_unloaded error) nofun
  | rejected _ => exact idle rfl nofun
  | uncompiled _ _ => exact idle rfl nofun
  | @compiled doc compiled _ compiles =>
      rw [compiledOf_passed (compilation?_of_ends rfl)]
      exact (declare_compiled tracks (keyed doc rfl) compiles).2

/-! ## Stages of all documents -/

variable {found before after : List (Except LoadError Document)}

theorem tracks_declaredAfter (tracks : Tracks declared earlier)
    (keyed : ∀ doc, .ok doc ∈ found → doc.root.Keyed) :
    Tracks (declaredAfter chain declared found) (earlier ++ compiledOf found (checkAll chain declared found)) := by
  induction found generalizing declared earlier with
  | nil => simpa [compiledOf, declaredAfter] using tracks
  | cons loaded found ih =>
      have step := tracks_of_checked tracks (fun doc same => keyed doc (same ▸ List.mem_cons_self))
        (checked_checkOne chain declared loaded)
      rw [checkAll, compiledOf_cons, ← List.append_assoc]
      exact ih step fun doc member => keyed doc (List.mem_cons_of_mem _ member)

/-- In a list of reports, each document has its stages and is compared with those before it that were compiled. -/
theorem stages_checkAll {earlierReports laterReports : List DocumentReport}
    (keyed : ∀ doc, .ok doc ∈ found → doc.root.Keyed) (split : found = before ++ loaded :: after)
    (reports : checkAll chain [] found = earlierReports ++ report :: laterReports)
    (level : before.length = earlierReports.length) : ∃ verdicts compiling comparing,
      Stages chain loaded report verdicts compiling comparing ∧
      Blames (compiledOf before earlierReports) loaded compiling comparing := by
  rw [split, checkAll_append, checkAll] at reports
  obtain ⟨rfl, rest⟩ := List.append_inj reports ((length_checkAll before).trans level)
  obtain ⟨rfl, -⟩ := List.cons.inj rest
  rw [split] at keyed
  have tracks : Tracks (declaredAfter chain [] before) ([] ++ compiledOf before (checkAll chain [] before)) := by
    apply tracks_declaredAfter tracks_nil
    intro doc member
    exact keyed doc (List.mem_append_left _ member)
  apply stages_of_checked tracks
  · intro doc same
    exact keyed doc (same ▸ List.mem_append_right _ List.mem_cons_self)
  · exact checked_checkOne ..

end Documents

end Conformance

end ApiAtlas
