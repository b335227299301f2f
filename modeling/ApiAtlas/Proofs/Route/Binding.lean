import ApiAtlas.Proofs.Route.Resolution

/-! # The order in which bindings are made

A later binding takes the place of an earlier one for the same target, so that nothing else of the order in which
bindings are made can be seen in the routes.
-/

namespace ApiAtlas

namespace Route

open Model (CompiledDocument OperationSpec)

section Resolving

variable {bindings others : Bindings} {allowStubs : Bool}

theorem resolveOne_congr (same : bindings.get? = others.get?) (op : OperationSpec) :
    resolveOne bindings allowStubs op = resolveOne others allowStubs op := by
  have own : bindings.override? op.path op.method = others.override? op.path op.method :=
    congrFun same (.single op.path op.method)
  have general : bindings.default? op.method = others.default? op.method := congrFun same (.general op.method)
  have layered : layers bindings op = layers others op := by rw [layers, layers, own, general]
  simp only [resolveOne, handlerOf?, entryOf, own, general, layered]

theorem Bindings.mem_overridden_iff_isSome {route : String × Method} :
    route ∈ bindings.overridden ↔ (bindings.get? (.single route.1 route.2)).isSome := by
  simp [overridden, get?, override?, Prod.ext_iff]

/-- The routes that are resolved depend on nothing but what is bound for each target. Of several errors, the order in
which routes were bound may decide which one is reported. -/
theorem resolve_congr (same : bindings.get? = others.get?) (docs : List CompiledDocument) :
    (∃ entries, resolve bindings allowStubs docs = .ok entries ∧ resolve others allowStubs docs = .ok entries) ∨
    ((∃ error, resolve bindings allowStubs docs = .error error) ∧
      ∃ error, resolve others allowStubs docs = .error error) := by
  have known : unknown? bindings (docs.flatMap (·.operations)) = none ↔
      unknown? others (docs.flatMap (·.operations)) = none := by
    simp only [unknown?_eq_none_iff, Bindings.mem_overridden_iff_isSome, same]
  have each : resolveOne bindings allowStubs = resolveOne others allowStubs := funext (resolveOne_congr same)
  rw [resolve, resolve, each]
  cases duplicate? [] (docs.flatMap (·.operations)) with
  | some error => exact .inr ⟨⟨error, rfl⟩, error, rfl⟩
  | none =>
      cases first : unknown? bindings (docs.flatMap (·.operations)) with
      | some error =>
          cases second : unknown? others (docs.flatMap (·.operations)) with
          | some other => exact .inr ⟨⟨error, rfl⟩, other, rfl⟩
          | none =>
              rw [known.mpr second] at first
              cases first
      | none =>
          rw [known.mp first]
          cases (docs.flatMap (·.operations)).mapM (resolveOne others allowStubs) with
          | ok entries => exact .inl ⟨entries, rfl, rfl⟩
          | error error => exact .inr ⟨⟨error, rfl⟩, error, rfl⟩

end Resolving

/-- The last binding counts. After bindings are made one after another, what is bound for a method or for a single
route is what was bound for it last, and each route with a binding of its own is listed once, in the order of the
first ones. So the order in which bindings are made makes no difference to the routes of documents: if the last
bindings are the same, either both resolve, to the same routes, or none does. -/
theorem ofAssignments_records (assignments : List Assignment) :
    (Bindings.ofAssignments assignments).Records assignments ∧
    ∀ others : List Assignment,
      (∀ target binding, LastFor target binding assignments ↔ LastFor target binding others) →
      ∀ (allowStubs : Bool) (docs : List CompiledDocument),
        (∃ entries, resolve (.ofAssignments assignments) allowStubs docs = .ok entries ∧
          resolve (.ofAssignments others) allowStubs docs = .ok entries) ∨
        ((∃ error, resolve (.ofAssignments assignments) allowStubs docs = .error error) ∧
          ∃ error, resolve (.ofAssignments others) allowStubs docs = .error error) := by
  refine ⟨Bindings.records_ofAssignments assignments, fun others last allowStubs docs => resolve_congr ?_ docs⟩
  funext target
  refine Option.ext fun binding => ?_
  simp only [Bindings.get?_ofAssignments, last]

/-- A document with two operations, without bodies. -/
def kennelDocument : Document where
  path := "kennel.json"
  relativePath := "kennel.json"
  fields := [("paths", .object [("/pets", .object [("get", .object []), ("post", .object [])])])]

/-- A handler for all that is listed, and one for the list of pets, which replaces an earlier one. -/
def petAssignments : List Assignment :=
  [⟨.single "/pets" "GET", { summary := some "Draft" }⟩,
   ⟨.general "GET", { handler := some fun _ => stubHandler }⟩,
   ⟨.single "/pets" "GET", { summary := some "All pets" }⟩,
   ⟨.single "/pets" "POST", { handler := some fun _ => stubHandler }⟩]

def reorderedAssignments : List Assignment :=
  [⟨.single "/pets" "POST", { handler := some fun _ => stubHandler }⟩,
   ⟨.single "/pets" "GET", { summary := some "All pets" }⟩,
   ⟨.general "GET", { tags := some ["draft"] }⟩,
   ⟨.general "GET", { handler := some fun _ => stubHandler }⟩]

theorem get?_petAssignments :
    (Bindings.ofAssignments petAssignments).get? = (Bindings.ofAssignments reorderedAssignments).get? := by
  funext target
  simp only [Bindings.ofAssignments, petAssignments, reorderedAssignments, List.foldl_cons, List.foldl_nil,
    Bindings.get?_assign]
  by_cases list : Target.single "/pets" "GET" = target
  · subst list
    simp
  · by_cases add : Target.single "/pets" "POST" = target
    · subst add
      simp
    · by_cases general : Target.general "GET" = target <;> simp [list, add, general]

theorem ofAssignments_records_pets : ∃ compiled, Model.compileDocument kennelDocument = .ok compiled ∧
    (∀ target binding, LastFor target binding petAssignments ↔ LastFor target binding reorderedAssignments) ∧
    ∃ entries, resolve (.ofAssignments petAssignments) false [compiled] = .ok entries ∧
      resolve (.ofAssignments reorderedAssignments) false [compiled] = .ok entries := by
  have resolvable : (Model.compileDocument kennelDocument).toOption.any fun compiled =>
      (resolve (.ofAssignments petAssignments) false [compiled]).isOk := by
    decide +kernel
  obtain ⟨compiled, compiles, resolves⟩ := (Option.any_eq_true _ _).mp resolvable
  have last : ∀ target binding,
      LastFor target binding petAssignments ↔ LastFor target binding reorderedAssignments := by
    intro target binding
    rw [← Bindings.get?_ofAssignments, ← Bindings.get?_ofAssignments, get?_petAssignments]
  refine ⟨compiled, toOption_eq_some_iff.mp compiles, last, ?_⟩
  rcases (ofAssignments_records petAssignments).2 reorderedAssignments last false [compiled] with
    same | ⟨⟨error, fails⟩, _⟩
  · exact same
  · rw [fails] at resolves
    cases resolves

end Route

end ApiAtlas
