import ApiAtlas.Proofs.Conformance.Stages

/-! # The same documents in a report and in a router

If all documents of a report were compiled, a router that resolves them blames the same two documents for the first
route that is declared twice.
-/

namespace ApiAtlas

open Model (CompiledDocument OperationSpec compileDocument)

namespace Conformance

section Router

variable {earlier docs : List Document} {doc : Document} {earlierOps ops : List OperationSpec}
  {compiled : CompiledDocument} {docsCompiled : List CompiledDocument}

/-- The first document that clashes with one before it. -/
def firstClash? (earlier : List Document) : List Document → Option (Document × Operation × Document)
  | [] => none
  | doc :: rest => ((clash? earlier doc).map (doc, ·)).or (firstClash? (earlier ++ [doc]) rest)

theorem exists_of_firstClash? {clash : Document × Operation × Document} (found : firstClash? earlier docs = some clash) :
    ∃ before after, docs = before ++ clash.1 :: after ∧ firstClash? earlier before = none ∧
      clash? (earlier ++ before) clash.1 = some clash.2 := by
  induction docs generalizing earlier with
  | nil => cases found
  | cons first docs ih =>
      rw [firstClash?] at found
      cases here : clash? earlier first with
      | some clash =>
          simp only [here, Option.map_some, Option.some_or, Option.some.injEq] at found
          subst found
          exact ⟨[], docs, rfl, rfl, by simpa using here⟩
      | none =>
          simp only [here, Option.map_none, Option.none_or] at found
          obtain ⟨before, after, rfl, clear, there⟩ := ih found
          exact ⟨first :: before, after, rfl, by simp [firstClash?, here, clear], by simpa using there⟩

def errorOfClash (clash : Document × Operation × Document) : BuildError :=
  .duplicateRoute clash.2.1.path clash.2.1.method clash.2.2.path clash.1.path

/-- Operations in order are a table of routes, too. -/
def sourcesOf (ops : List OperationSpec) : Declared := ops.map fun op => (routeOf op, op.source)

theorem source?_sourcesOf (route : String × Method) : source? (sourcesOf ops) route =
    (ops.find? fun op => op.path == route.1 && op.method == route.2).map (·.source) := by
  obtain ⟨path, method⟩ := route
  rw [source?, sourcesOf, List.find?_map, Option.map_map]
  rfl

theorem duplicate?_append (distinct : (ops.map routeOf).Nodup) (rest : List OperationSpec) :
    Route.duplicate? earlierOps (ops ++ rest) =
      (ops.findSome? fun op => (source? (sourcesOf earlierOps) (routeOf op)).map fun first =>
        .duplicateRoute op.path op.method first op.source).or (Route.duplicate? (earlierOps ++ ops) rest) := by
  induction ops generalizing earlierOps with
  | nil => simp
  | cons op ops ih =>
      obtain ⟨apart, distinct⟩ := List.nodup_cons.mp distinct
      have others : ops.findSome? (fun other =>
          (source? (sourcesOf (earlierOps ++ [op])) (routeOf other)).map fun first =>
            BuildError.duplicateRoute other.path other.method first other.source) =
          ops.findSome? fun other => (source? (sourcesOf earlierOps) (routeOf other)).map fun first =>
            .duplicateRoute other.path other.method first other.source := by
        apply findSome?_congr
        intro other member
        have different : routeOf op ≠ routeOf other := by
          intro same
          exact apart (same ▸ List.mem_map_of_mem member)
        simp [sourcesOf, source?, different]
      rw [List.cons_append, Route.duplicate?, List.findSome?_cons, source?_sourcesOf]
      dsimp only [routeOf] at others ⊢
      cases earlierOps.find? fun first => first.path == op.path && first.method == op.method with
      | some first => rfl
      | none =>
          dsimp only [Option.map_none]
          rw [ih distinct, List.append_assoc]
          exact congrArg (Option.or · _) others

theorem duplicate?_compiled (sources : sourcesOf earlierOps = declarations earlier) (keyed : doc.root.Keyed)
    (compiles : compileDocument doc = .ok compiled) (rest : List OperationSpec) :
    Route.duplicate? earlierOps (compiled.operations ++ rest) =
      (((clash? earlier doc).map (doc, ·)).map errorOfClash).or
        (Route.duplicate? (earlierOps ++ compiled.operations) rest) := by
  have declares := Model.declarations_compileDocument keyed compiles
  have routes := routes_of_compiles keyed compiles
  let clashing (route : String × Method) : Option BuildError :=
    (source? (declarations earlier) route).map fun first => .duplicateRoute route.1 route.2 first doc.path
  have each : ∀ op ∈ compiled.operations, ((source? (declarations earlier) (routeOf op)).map fun first =>
      BuildError.duplicateRoute op.path op.method first op.source) = clashing (routeOf op) := by
    intro op member
    have listed : (routeOf op, op.source) ∈ doc.routes.map fun route => (route, doc.path) := by
      rw [← declares]
      exact List.mem_map_of_mem member
    obtain ⟨_, _, same⟩ := List.mem_map.mp listed
    obtain ⟨-, source⟩ := Prod.mk.inj same
    simp only [clashing, ← source]
    rfl
  have here : (compiled.operations.findSome? fun op => clashing (routeOf op)) =
      ((clash? earlier doc).map (doc, ·)).map errorOfClash := by
    have listed : (compiled.operations.findSome? fun op => clashing (routeOf op)) = doc.routes.findSome? clashing := by
      rw [← routes, List.findSome?_map]
      rfl
    rw [listed, Document.routes, List.findSome?_map, clash?, Option.map_map, List.map_findSome?]
    congr 1
    funext op
    simp only [Function.comp, clashing, source?_declarations, Option.map_map]
    rfl
  rw [duplicate?_append (routes ▸ Document.nodup_routes keyed), sources, findSome?_congr each, here]

/-- The routes of compiled documents are refused as duplicates exactly for the first clash of the documents. -/
theorem duplicate?_flatMap (sources : sourcesOf earlierOps = declarations earlier)
    (keyed : ∀ doc ∈ docs, doc.root.Keyed)
    (compile : docs.Forall₂ (fun doc compiled => compileDocument doc = .ok compiled) docsCompiled) :
    Route.duplicate? earlierOps (docsCompiled.flatMap (·.operations)) = (firstClash? earlier docs).map errorOfClash := by
  induction compile generalizing earlier earlierOps with
  | nil => rfl
  | @cons doc compiled docs others compiles _ ih =>
      obtain ⟨here, rest⟩ := List.forall_mem_cons.mp keyed
      have extended : sourcesOf (earlierOps ++ compiled.operations) = declarations (earlier ++ [doc]) := by
        have written : sourcesOf compiled.operations = _ := Model.declarations_compileDocument here compiles
        rw [declarations_append, declarations_singleton, ← sources, ← written]
        exact List.map_append
      rw [List.flatMap_cons, duplicate?_compiled sources here compiles, ih extended rest, firstClash?]
      cases clash? earlier doc <;> rfl

theorem resolve_duplicate_iff {bindings : Route.Bindings} {allowStubs : Bool} {path : String} {method : Method}
    {first second : String} {compiled : List CompiledDocument} :
    Route.resolve bindings allowStubs compiled = .error (.duplicateRoute path method first second) ↔
      Route.duplicate? [] (compiled.flatMap (·.operations)) = some (.duplicateRoute path method first second) := by
  rw [Route.resolve]
  cases Route.duplicate? [] (compiled.flatMap (·.operations)) with
  | some error => simp
  | none =>
      refine iff_of_false ?_ (by simp)
      cases unknown : Route.unknown? bindings (compiled.flatMap (·.operations)) with
      | some error =>
          obtain ⟨route, _, _, rfl⟩ := Route.exists_of_unknown? unknown
          simp
      | none =>
          intro failed
          obtain ⟨op, _, fails⟩ := exists_of_mapM_eq_error failed
          cases (Route.resolveOne_eq_error_iff.mp fails).2

variable {chain : ValidatorChain} {declared : Declared} {found : List (Except LoadError Document)}

theorem exists_compiled (all : ∀ report ∈ checkAll chain declared found, report.compiles) :
    ∃ (docs : List Document) (compiled : List CompiledDocument), found = docs.map .ok ∧
      docs.Forall₂ (fun doc compiled => compileDocument doc = .ok compiled) compiled := by
  induction found generalizing declared with
  | nil => exact ⟨[], [], rfl, .nil⟩
  | cons loaded found ih =>
      rw [checkAll, List.forall_mem_cons, DocumentReport.compiles_iff] at all
      obtain ⟨here, rest⟩ := all
      obtain ⟨docs, compiled, rfl, each⟩ := ih rest
      have checked := checked_checkOne chain declared loaded
      generalize checkOne chain declared loaded = result at checked here
      cases checked with
      | unloaded error => cases (compilation?_of_ends (outcomes_unloaded error)).symm.trans here
      | rejected _ => cases (compilation?_of_ends rfl).symm.trans here
      | uncompiled _ _ => cases (compilation?_of_ends rfl).symm.trans here
      | @compiled doc whole _ compiles => exact ⟨doc :: docs, whole :: compiled, rfl, .cons compiles each⟩

theorem comparison?_compiled {result : DocumentReport × Declared} (tracks : Tracks declared earlier)
    (keyed : doc.root.Keyed) (checked : Checked chain declared (.ok doc) result) (compiles : result.1.compiles) :
    result.1.comparison? = some (outcomeOfClash ((clash? earlier doc).map violationOfClash)) ∧
      Tracks result.2 (earlier ++ [doc]) := by
  rw [DocumentReport.compiles_iff] at compiles
  cases checked with
  | rejected _ => cases (compilation?_of_ends rfl).symm.trans compiles
  | uncompiled _ _ => cases (compilation?_of_ends rfl).symm.trans compiles
  | compiled _ same =>
      obtain ⟨clash, tracks⟩ := declare_compiled tracks keyed same
      rw [← clash]
      exact ⟨comparison?_of_ends rfl, tracks⟩

theorem comparisons_passed_iff (tracks : Tracks declared earlier) (keyed : ∀ doc ∈ docs, doc.root.Keyed)
    (all : ∀ report ∈ checkAll chain declared (docs.map .ok), report.compiles) :
    (∀ report ∈ checkAll chain declared (docs.map .ok), report.comparison? = some .passed) ↔
      firstClash? earlier docs = none := by
  induction docs generalizing declared earlier with
  | nil => simp [checkAll, firstClash?]
  | cons doc docs ih =>
      obtain ⟨here, rest⟩ := List.forall_mem_cons.mp keyed
      rw [List.map_cons, checkAll, List.forall_mem_cons] at all ⊢
      obtain ⟨compared, tracks⟩ := comparison?_compiled tracks here (checked_checkOne ..) all.1
      rw [compared, ih tracks rest all.2, firstClash?, Option.or_eq_none_iff]
      cases clash? earlier doc <;> simp [outcomeOfClash]

theorem compiledOf_compiled (all : ∀ report ∈ checkAll chain declared (docs.map .ok), report.compiles) :
    compiledOf (docs.map .ok) (checkAll chain declared (docs.map .ok)) = docs := by
  induction docs generalizing declared with
  | nil => rfl
  | cons doc docs ih =>
      rw [List.map_cons, checkAll, List.forall_mem_cons] at all
      obtain ⟨here, rest⟩ := all
      rw [List.map_cons, checkAll, compiledOf_cons, compiledOf_passed (DocumentReport.compiles_iff.mp here), ih rest]
      rfl

/-- The error names the clash of the first document that fails the comparison of routes. -/
def FirstFailure (docs : List Document) (reports : List DocumentReport) (error : BuildError) : Prop :=
  ∃ before doc after earlier report later clash, docs = before ++ doc :: after ∧
    reports = earlier ++ report :: later ∧ before.length = earlier.length ∧
    (∀ other ∈ earlier, other.comparison? = some .passed) ∧ clash? before doc = some clash ∧
    report.comparison? = some (.failed (violationOfClash clash)) ∧ error = errorOfClash (doc, clash)

theorem firstFailure_of_firstClash? {clash : Document × Operation × Document} (keyed : ∀ doc ∈ docs, doc.root.Keyed)
    (all : ∀ report ∈ checkAll chain [] (docs.map .ok), report.compiles) (first : firstClash? [] docs = some clash) :
    FirstFailure docs (checkAll chain [] (docs.map .ok)) (errorOfClash clash) := by
  obtain ⟨before, after, rfl, clear, there⟩ := exists_of_firstClash? first
  obtain ⟨keyedBefore, keyedRest⟩ := List.forall_mem_append.mp keyed
  rw [List.map_append, checkAll_append, List.map_cons, checkAll_cons] at all ⊢
  obtain ⟨allBefore, allRest⟩ := List.forall_mem_append.mp all
  have tracks : Tracks (declaredAfter chain [] (before.map .ok)) before := by
    have known : ∀ doc, (.ok doc : Except LoadError Document) ∈ before.map .ok → doc.root.Keyed := by
      simpa using keyedBefore
    rw [← List.nil_append before]
    nth_rewrite 2 [← compiledOf_compiled allBefore]
    exact tracks_declaredAfter tracks_nil known
  obtain ⟨compared, -⟩ := comparison?_compiled tracks (keyedRest _ List.mem_cons_self) (checked_checkOne ..)
    (allRest _ List.mem_cons_self)
  refine ⟨before, clash.1, after, _, _, _, clash.2, rfl, rfl, ?_, ?_, there, ?_, rfl⟩
  · rw [length_checkAll, List.length_map]
  · exact (comparisons_passed_iff tracks_nil keyedBefore allBefore).mpr clear
  · rw [List.nil_append] at there
    rw [compared, there]
    rfl

theorem resolve_compiled_iff {bindings : Route.Bindings} {allowStubs : Bool} {path : String} {method : Method}
    {first second : String} (keyed : ∀ doc ∈ docs, doc.root.Keyed)
    (compile : docs.Forall₂ (fun doc compiled => compileDocument doc = .ok compiled) docsCompiled) :
    Route.resolve bindings allowStubs docsCompiled = .error (.duplicateRoute path method first second) ↔
      ∃ clash, firstClash? [] docs = some clash ∧ errorOfClash clash = .duplicateRoute path method first second := by
  have sources : sourcesOf [] = declarations [] := rfl
  rw [resolve_duplicate_iff, duplicate?_flatMap sources keyed compile, Option.map_eq_some_iff]

/-- Resolving routes of the documents that were reported on. -/
structure Resolves (docs : List Document) (reports : List DocumentReport) (compiled : List CompiledDocument)
    (bindings : Route.Bindings) (allowStubs : Bool) : Prop where
  duplicate_iff : (∃ path method first second,
      Route.resolve bindings allowStubs compiled = .error (.duplicateRoute path method first second)) ↔
    ∃ report ∈ reports, ∃ violation, report.comparison? = some (.failed violation)
  blames {path : String} {method : Method} {first second : String} :
    Route.resolve bindings allowStubs compiled = .error (.duplicateRoute path method first second) →
      FirstFailure docs reports (.duplicateRoute path method first second)

theorem resolves_checkAll (bindings : Route.Bindings) (allowStubs : Bool) (keyed : ∀ doc ∈ docs, doc.root.Keyed)
    (compile : docs.Forall₂ (fun doc compiled => compileDocument doc = .ok compiled) docsCompiled)
    (all : ∀ report ∈ checkAll chain [] (docs.map .ok), report.compiles) :
    Resolves docs (checkAll chain [] (docs.map .ok)) docsCompiled bindings allowStubs where
  duplicate_iff := by
    have passed := comparisons_passed_iff tracks_nil keyed all
    constructor
    · intro ⟨path, method, first, second, failed⟩
      obtain ⟨clash, found, _⟩ := (resolve_compiled_iff keyed compile).mp failed
      obtain ⟨_, _, _, earlier, report, later, clash, -, split, -, -, -, fails, -⟩ :=
        firstFailure_of_firstClash? keyed all found
      exact ⟨report, by simp [split], _, fails⟩
    · intro ⟨report, member, violation, fails⟩
      cases found : firstClash? [] docs with
      | none =>
          rw [passed.mpr found report member] at fails
          cases fails
      | some clash => exact ⟨_, _, _, _, (resolve_compiled_iff keyed compile).mpr ⟨clash, found, rfl⟩⟩
  blames failed := by
    obtain ⟨clash, found, same⟩ := (resolve_compiled_iff keyed compile).mp failed
    rw [← same]
    exact firstFailure_of_firstClash? keyed all found

/-- What the reports on documents say about the stages of each of them, and about a router for all of them. -/
structure Reports (chain : ValidatorChain) (found : List (Except LoadError Document)) (reports : List DocumentReport) :
    Prop where
  length : reports.length = found.length
  stages {before after : List (Except LoadError Document)} {loaded : Except LoadError Document}
    {earlier later : List DocumentReport} {report : DocumentReport} : found = before ++ loaded :: after →
    reports = earlier ++ report :: later → before.length = earlier.length → ∃ verdicts compiling comparing,
      Stages chain loaded report verdicts compiling comparing ∧
      Blames (compiledOf before earlier) loaded compiling comparing
  router : (∀ report ∈ reports, report.compiles) → ∃ (docs : List Document) (compiled : List CompiledDocument),
    found = docs.map .ok ∧ docs.Forall₂ (fun doc compiled => compileDocument doc = .ok compiled) compiled ∧
    ∀ bindings allowStubs, Resolves docs reports compiled bindings allowStubs

/-- A document that is not compiled is not compared with others, so that its stages leave no choice. -/
theorem Reports.outcomes_eq {reports : List DocumentReport} {before after : List (Except LoadError Document)}
    {loaded : Except LoadError Document} {earlier later : List DocumentReport} {report : DocumentReport}
    {verdicts : List (String × Outcome)} (told : Reports chain found reports) (split : found = before ++ loaded :: after)
    (there : reports = earlier ++ report :: later) (level : before.length = earlier.length)
    (judged : Judged chain loaded verdicts) (compiled : Compiled chain loaded .skipped) :
    report.outcomes = loading loaded ++ verdicts ++ [(compilerStage, .skipped), (routesStage, .skipped)] := by
  obtain ⟨_, _, _, stages, _⟩ := told.stages split there level
  obtain rfl := stages.skipped compiled
  exact stages.outcomes_eq judged compiled

variable {tree : FileTree} {root : String}

theorem run_stages (loads : Document.loadEach tree root = .ok found) :
    ∃ reports, run tree root chain = .ok ⟨reports⟩ ∧ Reports chain found reports := by
  have keyed (doc : Document) : .ok doc ∈ found → doc.root.Keyed := Document.keyed_of_loadEach loads
  refine ⟨checkAll chain [] found, by rw [run, loads, Except.map], ?_⟩
  constructor
  · exact length_checkAll found
  · exact stages_checkAll keyed
  · intro all
    obtain ⟨docs, compiled, rfl, each⟩ := exists_compiled all
    refine ⟨docs, compiled, rfl, each, fun bindings allowStubs => ?_⟩
    exact resolves_checkAll bindings allowStubs (by simpa using keyed) each all

end Router

section Mixed

open ValidatorChain (fewRule)

def fewChain : ValidatorChain := { others := [fewRule.validator] }

/-- Two paths, which the rule does not allow. -/
def pairText : String := "\x7b\"openapi\":\"3.0.3\",\"paths\":\x7b\"/x\":\x7b\x7d,\"/y\":\x7b\x7d\x7d\x7d"

/-- Paths that are no object, which the structural validator does not allow. -/
def listText : String := "\x7b\"openapi\":\"3.0.3\",\"paths\":[]\x7d"

def pairDocument : Document where
  path := "./c.json"
  relativePath := "c.json"
  fields := [("openapi", .string "3.0.3"), ("paths", .object [("/x", .object []), ("/y", .object [])])]

def listPathsDocument : Document where
  path := "./d.json"
  relativePath := "d.json"
  fields := [("openapi", .string "3.0.3"), ("paths", .array [])]

/-- Two texts declare one route, the next two are rejected, and the last one is no document. -/
def mixedTexts : List (String × String) :=
  [("a.json", sharingText), ("b.json", sharingText), ("c.json", pairText), ("d.json", listText), ("e.json", "")]

def mixedFound : List (Except LoadError Document) :=
  [.ok (sharingDocument "./a.json" "a.json"), .ok (sharingDocument "./b.json" "b.json"), .ok pairDocument,
   .ok listPathsDocument, .error ⟨"./e.json", .malformedJson⟩]

theorem loadEach_mixed : Document.loadEach (.ofTexts mixedTexts) "." = .ok mixedFound := by
  have names : ∀ name ∈ mixedTexts.map (·.1),
      Path.IsName name ∧ Document.isDocumentPath (Path.join "." name) = true := by decide +kernel
  have plain (file) (member : file ∈ mixedTexts) := names file.1 (List.mem_map_of_mem member)
  have ascending : (mixedTexts.map (·.1)).Pairwise (· < ·) := by decide
  have pair : Json.parse? pairText = some pairDocument.root := by cbv
  have list : Json.parse? listText = some listPathsDocument.root := by cbv
  rw [Document.loadEach_ofTexts (fun file member => (plain file member).1) (List.pairwise_map.mp ascending)
    fun file member => (plain file member).2]
  simp only [mixedTexts, List.map_cons, List.map_nil, loadText_sharing, loadText_broken]
  rw [Document.loadText, Document.loadText, pair, list]
  rfl

def tooMany : Violation where
  kind := "TooManyPaths"
  message := "expected at most 1 path(s), found 2"

def noPaths : Violation where
  kind := "InvalidPaths"
  message := "'paths' must be an object"
  location := some "paths"

theorem few_pair : fewRule.validator.validate pairDocument = .error tooMany := rfl

theorem structure_list : Structure.validator.validate listPathsDocument = .error noPaths := rfl

theorem structure_pair : Structure.validator.validate pairDocument = .ok () := by
  have passes : (Structure.validator.validate pairDocument).isOk = true := by decide +kernel
  obtain ⟨⟨⟩, accepted⟩ := exists_eq_ok_of_isOk passes
  exact accepted

/-- The two documents that declare one route. -/
def sharers : List Document := [sharingDocument "./a.json" "a.json", sharingDocument "./b.json" "b.json"]

variable {doc : Document} (member : doc ∈ sharers)

include member

theorem accepts_sharing : ∀ validator ∈ fewChain.validators, validator.validate doc = .ok () := by
  have passes : ∀ doc ∈ sharers, ∀ validator ∈ fewChain.validators, (validator.validate doc).isOk = true := by
    decide +kernel
  intro validator listed
  obtain ⟨⟨⟩, accepted⟩ := exists_eq_ok_of_isOk (passes doc member validator listed)
  exact accepted

theorem judged_sharing : Judged fewChain (.ok doc) [("DefaultValidator", .passed), ("Few", .passed)] := by
  have accepts := accepts_sharing member
  exact .loaded (.asked (accepts _ List.mem_cons_self)
    (.cons ⟨rfl, .passed (accepts _ (List.mem_cons_of_mem _ List.mem_cons_self))⟩ .nil))

theorem compiled_sharing : Compiled fewChain (.ok doc) .passed := by
  have succeeds : ∀ doc ∈ sharers, (compileDocument doc).isOk = true := by decide +kernel
  obtain ⟨compiled, compiles⟩ := exists_eq_ok_of_isOk (succeeds doc member)
  exact .passed (accepts_sharing member) compiles

omit member

/-- A clash with the first document. -/
theorem clash?_sharing : (clash? [sharingDocument "./a.json" "a.json"] (sharingDocument "./b.json" "b.json")).map
    violationOfClash = some (violationAt ("/x", "GET") "./a.json") := by
  have parts : (clash? [sharingDocument "./a.json" "a.json"] (sharingDocument "./b.json" "b.json")).map
      (fun clash => (clash.1.location, clash.2.path)) = some ("/x GET", "./a.json") := by
    decide +kernel
  obtain ⟨clash, found, parts⟩ := Option.map_eq_some_iff.mp parts
  obtain ⟨location, path⟩ := Prod.mk.inj parts
  rw [found, Option.map_some, violationOfClash, location, path]
  rfl

theorem run_stages_siblings : ∃ first second third fourth fifth,
    run (.ofTexts mixedTexts) "." fewChain = .ok ⟨[first, second, third, fourth, fifth]⟩ ∧
    Reports fewChain mixedFound [first, second, third, fourth, fifth] ∧
    first.outcomes = [("DefaultValidator", .passed), ("Few", .passed), ("ModelCompiler", .passed),
      ("RouteResolver", .passed)] ∧
    second.outcomes = [("DefaultValidator", .passed), ("Few", .passed), ("ModelCompiler", .passed),
      ("RouteResolver", .failed (violationAt ("/x", "GET") "./a.json"))] ∧
    third.outcomes = [("DefaultValidator", .passed), ("Few", .failed tooMany), ("ModelCompiler", .skipped),
      ("RouteResolver", .skipped)] ∧
    fourth.outcomes = [("DefaultValidator", .failed noPaths), ("Few", .skipped), ("ModelCompiler", .skipped),
      ("RouteResolver", .skipped)] ∧
    fifth.outcomes = [("SpecLoader", .failed { kind := "LoadError", message := "malformed JSON" }),
      ("DefaultValidator", .skipped), ("Few", .skipped), ("ModelCompiler", .skipped), ("RouteResolver", .skipped)] := by
  obtain ⟨reports, ran, told⟩ : ∃ reports, run _ _ fewChain = .ok ⟨reports⟩ ∧ _ := run_stages loadEach_mixed
  obtain ⟨first, second, third, fourth, fifth, rfl⟩ : ∃ first second third fourth fifth,
      reports = [first, second, third, fourth, fifth] := by
    have length : reports.length = 5 := told.length
    match reports, length with
    | [first, second, third, fourth, fifth], _ => exact ⟨first, second, third, fourth, fifth, rfl⟩
  obtain ⟨_, compiling₁, compared₁, stages₁, blames₁⟩ := told.stages (show mixedFound = [] ++ _ :: _ from rfl)
    (show [first, second, third, fourth, fifth] = [] ++ _ :: _ from rfl) rfl
  obtain ⟨_, compiling₂, compared₂, stages₂, blames₂⟩ := told.stages (show mixedFound = [_] ++ _ :: _ from rfl)
    (show [first, second, third, fourth, fifth] = [_] ++ _ :: _ from rfl) rfl
  have here : sharingDocument "./a.json" "a.json" ∈ sharers := List.mem_cons_self
  have there : sharingDocument "./b.json" "b.json" ∈ sharers := List.mem_cons_of_mem _ List.mem_cons_self
  obtain rfl : compiling₁ = .passed := stages₁.compiled.unique (compiled_sharing here)
  obtain rfl : compiling₂ = .passed := stages₂.compiled.unique (compiled_sharing there)
  have earlier : compiledOf [.ok (sharingDocument "./a.json" "a.json")] [first] = [sharingDocument "./a.json" "a.json"] :=
    compiledOf_passed (compilation?_of_ends stages₁.outcomes)
  rw [earlier] at blames₂
  refine ⟨first, second, third, fourth, fifth, ran, told, ?_, ?_, ?_, ?_, ?_⟩
  · rw [stages₁.outcomes_eq (judged_sharing here) (compiled_sharing here)]
    cases compared₁ with
    | passed => rfl
    | failed violation =>
        obtain ⟨-, _, _, _, _, _, none, _⟩ := blames₁.failed_iff.mp rfl
        cases none
    | skipped => exact absurd rfl (stages₁.comparing_iff.mpr rfl)
  · rw [stages₂.outcomes_eq (judged_sharing there) (compiled_sharing there)]
    have fails : compared₂.isFailed := blames₂.failed_iff.mpr
      ⟨rfl, _, rfl, ("/x", "GET"), by decide +kernel, _, List.mem_singleton_self _, by decide +kernel⟩
    cases compared₂ with
    | passed | skipped => cases fails
    | failed violation =>
        obtain ⟨_, clash, ⟨⟩, found, rfl⟩ := blames₂.violation rfl
        have same := clash?_sharing
        rw [found, Option.map_some, Option.some.injEq] at same
        rw [same]
        rfl
  · have few : ValidatorChain.Verdict pairDocument fewRule.validator (.failed tooMany) := .failed few_pair
    have compiled : Compiled fewChain (.ok pairDocument) .skipped :=
      .rejected (List.mem_cons_of_mem _ List.mem_cons_self) few_pair
    have judged : Judged fewChain (.ok pairDocument) [("DefaultValidator", .passed), ("Few", .failed tooMany)] :=
      .loaded (.asked structure_pair (.cons ⟨rfl, few⟩ .nil))
    exact told.outcomes_eq (show mixedFound = [_, _] ++ _ :: _ from rfl)
      (show _ = [first, second] ++ third :: _ from rfl) rfl judged compiled
  · have judged : Judged fewChain (.ok listPathsDocument) [("DefaultValidator", .failed noPaths), ("Few", .skipped)] :=
      .loaded (.rejected structure_list)
    exact told.outcomes_eq (show mixedFound = [_, _, _] ++ _ :: _ from rfl)
      (show _ = [first, second, third] ++ fourth :: _ from rfl) rfl judged (.rejected List.mem_cons_self structure_list)
  · exact told.outcomes_eq (show mixedFound = [_, _, _, _] ++ _ :: _ from rfl)
      (show _ = [first, second, third, fourth] ++ fifth :: _ from rfl) rfl (.unloaded _) (.unloaded _)

end Mixed

end Conformance

end ApiAtlas
