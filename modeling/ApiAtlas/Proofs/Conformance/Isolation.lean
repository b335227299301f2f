import ApiAtlas.Proofs.Conformance
import ApiAtlas.Proofs.Files.Tree
import ApiAtlas.Proofs.Route.Reach

/-! # Documents do not disturb each other

The report on a document depends on the other documents only through the routes that those before it
declare, and these are only read by the last stage. So a document that breaks changes what is said about
no other document, unless it declared routes that others declare as well.
-/

namespace ApiAtlas

/-- The outcome of compiling a document. It is looked up from the end, where the stages of the report stand,
so that no validator hides it by its name. -/
def DocumentReport.compilation? (report : DocumentReport) : Option Outcome :=
  Table.get? Conformance.compilerStage report.outcomes.reverse

namespace Conformance

/-- Reports on one document that differ at most in the comparison of routes, and there only as allowed. -/
def AlikeUpTo (allowed : Outcome → Outcome → Prop) (report other : DocumentReport) : Prop :=
  report = other ∨ ∃ path shared outcome outcome', allowed outcome outcome' ∧
    report = ⟨path, shared ++ [(routesStage, outcome)]⟩ ∧ other = ⟨path, shared ++ [(routesStage, outcome')]⟩

/-- One outcome is passed and the other one failed. -/
def Turned (outcome outcome' : Outcome) : Prop :=
  outcome = .passed ∧ outcome'.isFailed ∨ outcome.isFailed ∧ outcome' = .passed

/-- What the comparison of routes can say about a document that is compiled. -/
def OfRoutes : Outcome → Prop
  | .passed => True
  | .failed violation => violation.kind = "DuplicateRoute"
  | .skipped => False

/-- Both outcomes are of a comparison of routes. -/
def Compared (outcome outcome' : Outcome) : Prop := OfRoutes outcome ∧ OfRoutes outcome'

variable {chain : ValidatorChain} {declared : Declared} {source : String} {op : Model.OperationSpec}

theorem ofRoutes_declareOne {clash : Option Violation} (before : OfRoutes (outcomeOfClash clash)) :
    OfRoutes (outcomeOfClash (declareOne source (clash, declared) op).1) := by
  unfold declareOne
  cases declaredIn? declared op with
  | none => exact before
  | some first =>
      cases clash with
      | none => rfl
      | some clash => exact before

theorem ofRoutes_declare (source : String) (ops : List Model.OperationSpec) (declared : Declared) :
    OfRoutes (outcomeOfClash (declare source ops declared).1) := by
  have run {clash : Option Violation} (before : OfRoutes (outcomeOfClash clash)) :
      OfRoutes (outcomeOfClash (ops.foldl (declareOne source) (clash, declared)).1) := by
    induction ops generalizing clash declared with
    | nil => exact before
    | cons op ops ih => exact ih _ (ofRoutes_declareOne before)
  exact run trivial

/-- What was declared before a document matters only to the comparison of its routes. -/
theorem alike_checkOne (chain : ValidatorChain) (declared declared' : Declared)
    (loaded : Except LoadError Document) :
    AlikeUpTo Compared (checkOne chain declared loaded).1 (checkOne chain declared' loaded).1 := by
  cases loaded with
  | error error => exact .inl rfl
  | ok doc =>
      simp only [checkOne]
      cases (chain.check doc).passed with
      | false => exact .inl rfl
      | true =>
          cases Model.compileDocument doc with
          | error error => exact .inl rfl
          | ok compiled =>
              -- Only here the table of declared routes is read.
              refine .inr ⟨doc.path, (chain.check doc).outcomes ++ [(compilerStage, .passed)], _, _,
                ⟨ofRoutes_declare doc.path compiled.operations declared,
                  ofRoutes_declare doc.path compiled.operations declared'⟩, ?_, ?_⟩
              all_goals simp [DocumentReport.append, ValidatorChain.check]

theorem alike_checkAll (chain : ValidatorChain) (declared declared' : Declared)
    (found : List (Except LoadError Document)) :
    List.Forall₂ (AlikeUpTo Compared) (checkAll chain declared found) (checkAll chain declared' found) := by
  induction found generalizing declared declared' with
  | nil => exact .nil
  | cons loaded found ih => exact .cons (alike_checkOne chain declared declared' loaded) (ih _ _)

/-- A document that is not compiled declares no route. -/
theorem declared_checkOne {loaded : Except LoadError Document}
    (broken : (checkOne chain declared loaded).1.compilation? ≠ some .passed) :
    (checkOne chain declared loaded).2 = declared := by
  cases loaded with
  | error error => rfl
  | ok doc =>
      simp only [checkOne] at broken ⊢
      cases accepted : (chain.check doc).passed with
      | false => rfl
      | true =>
          simp only [accepted] at broken
          cases compiles : Model.compileDocument doc with
          | error error => rfl
          | ok compiled =>
              -- A compiled document says so, next to last.
              refine absurd ?_ broken
              have apart : routesStage ≠ compilerStage := by decide
              simp [compiles, DocumentReport.compilation?, DocumentReport.append, Table.get?, apart]

/-- The routes that documents declare in order. -/
def declaredAfter (chain : ValidatorChain) (declared : Declared) (found : List (Except LoadError Document)) :
    Declared :=
  found.foldl (fun declared loaded => (checkOne chain declared loaded).2) declared

theorem checkAll_append (before rest : List (Except LoadError Document)) :
    checkAll chain declared (before ++ rest) =
      checkAll chain declared before ++ checkAll chain (declaredAfter chain declared before) rest := by
  induction before generalizing declared with
  | nil => rfl
  | cons loaded before ih => exact congrArg (_ :: ·) ih

theorem length_checkAll (found : List (Except LoadError Document)) :
    (checkAll chain declared found).length = found.length := by
  induction found generalizing declared with
  | nil => rfl
  | cons loaded found ih => exact congrArg (· + 1) ih

/-- The reports on two trees agree on every document but the one after the first `before`: completely on the
earlier ones, and on the `after` later ones up to the comparison of routes, where they differ only as allowed.
If that document is compiled in neither tree they agree completely on the later ones as well. -/
def Undisturbed (allowed : Outcome → Outcome → Prop) (tree tree' : FileTree) (root : String)
    (chain : ValidatorChain) (before after : Nat) : Prop :=
  ∃ earlier report report' later later',
    run tree root chain = .ok ⟨earlier ++ report :: later⟩ ∧
    run tree' root chain = .ok ⟨earlier ++ report' :: later'⟩ ∧
    earlier.length = before ∧ later.length = after ∧ later.Forall₂ (AlikeUpTo allowed) later' ∧
    (report.compilation? ≠ some .passed → report'.compilation? ≠ some .passed → later = later')

variable {tree tree' : FileTree} {root : String} {before after : List (Except LoadError Document)}
  {loaded loaded' : Except LoadError Document}

theorem run_eq (found : Document.loadEach tree root = .ok (before ++ loaded :: after)) :
    run tree root chain = .ok ⟨checkAll chain [] before ++
      (checkOne chain (declaredAfter chain [] before) loaded).1 ::
        checkAll chain (checkOne chain (declaredAfter chain [] before) loaded).2 after⟩ := by
  rw [run, found, Except.map, checkAll_append, checkAll]

/-- Where two trees differ in what one document is loaded to, the reports agree on every other document but
for the comparison of routes: there, each of them lets the document pass or names a duplicate route. -/
theorem run_undisturbed (found : Document.loadEach tree root = .ok (before ++ loaded :: after))
    (found' : Document.loadEach tree' root = .ok (before ++ loaded' :: after)) :
    Undisturbed Compared tree tree' root chain before.length after.length := by
  refine ⟨_, _, _, _, _, run_eq found, run_eq found', length_checkAll before, length_checkAll after,
    alike_checkAll chain _ _ after, fun broken broken' => ?_⟩
  rw [declared_checkOne broken, declared_checkOne broken']

section Siblings

/-- Three documents side by side. -/
def siblings (first second third : String) : FileTree where
  entries := [(["a.json"], .file first.toUTF8), (["b.json"], .file second.toUTF8), (["c.json"], .file third.toUTF8)]

/-- A document with one route. -/
def sharingText : String := "\x7b\"openapi\":\"3.0.3\",\"paths\":\x7b\"/x\":\x7b\"get\":\x7b\x7d\x7d\x7d\x7d"

def sharingDocument (path relativePath : String) : Document where
  path
  relativePath
  fields := [("openapi", .string "3.0.3"), ("paths", .object [("/x", .object [("get", .object [])])])]

theorem loadEach_siblings (first second third : String) : Document.loadEach (siblings first second third) "." =
    .ok [Document.loadText "./a.json" "a.json" first, Document.loadText "./b.json" "b.json" second,
      Document.loadText "./c.json" "c.json" third] := by
  let files : List (String × String) := [("a.json", first), ("b.json", second), ("c.json", third)]
  have names : ∀ name ∈ ["a.json", "b.json", "c.json"],
      Path.IsName name ∧ Document.isDocumentPath (Path.join "." name) = true := by decide +kernel
  have plain (file) (member : file ∈ files) :
      Path.IsName file.1 ∧ Document.isDocumentPath (Path.join "." file.1) = true :=
    names file.1 (List.mem_map_of_mem member)
  have ascending : ["a.json", "b.json", "c.json"].Pairwise (· < ·) := by decide
  have sorted : files.Pairwise fun a b => a.1 < b.1 := List.pairwise_map.mp ascending
  exact Document.loadEach_ofTexts (fun file member => (plain file member).1) sorted fun file member =>
    (plain file member).2

theorem loadText_broken (path relativePath : String) :
    Document.loadText path relativePath "" = .error ⟨path, .malformedJson⟩ := by
  have malformed : Json.parse? "" = none := by cbv
  rw [Document.loadText, malformed]

theorem loadText_sharing (path relativePath : String) :
    Document.loadText path relativePath sharingText = .ok (sharingDocument path relativePath) := by
  have parsed : Json.parse? sharingText = some (sharingDocument path relativePath).root := by cbv
  rw [Document.loadText, parsed]
  rfl

theorem run_undisturbed_siblings :
    Undisturbed Compared (siblings sharingText sharingText sharingText) (siblings sharingText "" sharingText)
      "." {} 1 1 := by
  have found : Document.loadEach (siblings sharingText sharingText sharingText) "." = .ok ([_] ++ _ :: [_]) :=
    loadEach_siblings sharingText sharingText sharingText
  have found' : Document.loadEach (siblings sharingText "" sharingText) "." = .ok ([_] ++ _ :: [_]) :=
    loadEach_siblings sharingText "" sharingText
  exact run_undisturbed found found'

/-- What the comparison of routes says about the last of three siblings of which it knows the first two. -/
def lastOfSiblings (first : Except LoadError Document) : DocumentReport :=
  let declared := declaredAfter {} [] [first, .ok (sharingDocument "./b.json" "b.json")]
  (checkOne {} declared (.ok (sharingDocument "./c.json" "c.json"))).1

theorem not_alike_siblings : ¬ AlikeUpTo Turned (lastOfSiblings (.ok (sharingDocument "./a.json" "a.json")))
    (lastOfSiblings (.error ⟨"./a.json", .malformedJson⟩)) := by
  rintro (same | ⟨path, shared, outcome, outcome', turned, intact, broken⟩)
  · have apart : documentLines (lastOfSiblings (.ok (sharingDocument "./a.json" "a.json"))) ≠
        documentLines (lastOfSiblings (.error ⟨"./a.json", .malformedJson⟩)) := by
      decide +kernel
    exact apart (congrArg documentLines same)
  · have fails : ∀ first ∈ [.ok (sharingDocument "./a.json" "a.json"), .error ⟨"./a.json", .malformedJson⟩],
        (lastOfSiblings first).outcomes.getLast?.map (·.2.isFailed) = some true := by
      decide +kernel
    have fails₁ := fails _ List.mem_cons_self
    have fails₂ := fails _ (List.mem_cons_of_mem _ List.mem_cons_self)
    simp only [intact, broken, List.getLast?_concat, Option.map_some, Option.some.injEq] at fails₁ fails₂
    rcases turned with ⟨rfl, -⟩ | ⟨-, rfl⟩
    · cases fails₁
    · cases fails₂

/-- A document may fail in both trees: it then names the document that is the first to declare its route. -/
theorem run_disturbed : ¬ ∀ (tree tree' : FileTree) (root : String) (chain : ValidatorChain)
    (before after : List (Except LoadError Document)) (loaded loaded' : Except LoadError Document),
    Document.loadEach tree root = .ok (before ++ loaded :: after) →
    Document.loadEach tree' root = .ok (before ++ loaded' :: after) →
    Undisturbed Turned tree tree' root chain before.length after.length := by
  intro undisturbed
  -- All three declare one route; with the first one broken, the second is the first to declare it.
  have found : Document.loadEach (siblings sharingText sharingText sharingText) "." = .ok ([] ++ _ :: _) :=
    loadEach_siblings sharingText sharingText sharingText
  have found' : Document.loadEach (siblings "" sharingText sharingText) "." = .ok ([] ++ _ :: _) :=
    loadEach_siblings "" sharingText sharingText
  obtain ⟨earlier, report, report', later, later', ran, ran', none, -, alike, -⟩ :=
    undisturbed _ _ _ {} [] _ _ _ found found'
  obtain rfl := List.length_eq_zero_iff.mp none
  have same := ran.symm.trans (run_eq found)
  have same' := ran'.symm.trans (run_eq found')
  simp only [loadText_sharing, loadText_broken, checkAll, List.nil_append, Except.ok.injEq, TreeReport.mk.injEq,
    List.cons.injEq] at same same'
  obtain ⟨-, rfl⟩ := same
  obtain ⟨-, rfl⟩ := same'
  obtain ⟨-, last, -⟩ := List.forall₂_cons.mp alike |>.imp_right List.forall₂_cons.mp
  exact not_alike_siblings last

end Siblings

end Conformance

end ApiAtlas
