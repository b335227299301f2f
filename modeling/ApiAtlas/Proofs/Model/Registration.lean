import ApiAtlas.Proofs.Model.Compilation

/-! # Models are kept apart

A model is registered under the first name that no different model has, and nothing else in the registry changes.
So a model is never replaced, and components with different titles never share one.
-/

namespace ApiAtlas

namespace Model

open Schema (Facets Node Session)

/-- Every model is stored under its own name. -/
def Namespace.Named (models : Namespace) : Prop :=
  ∀ ⦃name model⦄, SortedTable.get? name models = some model → model.name = name

/-- What registering a model under a name comes to: where the model is placed, and the models after that. -/
structure Registers (models : Namespace) (name : String) (body : Body) (facets : Facets) (placed : String)
    (after : Namespace) : Prop where
  /-- The place is the name, or the name with a number from 2. Different models have all the names that are tried
  before. -/
  first : ∃ k, (k = 1 ∧ placed = name ∨ 2 ≤ k ∧ placed = name ++ toString k) ∧
    ∀ j, 1 ≤ j → j < k → Registry.OwnedByOther models body facets (Registry.candidate name j)
  /-- The place was free and holds the model, or it held an equal one before. -/
  holds : SortedTable.get? placed models = none ∧ SortedTable.get? placed after = some ⟨placed, body, facets⟩ ∨
    ∃ present, SortedTable.get? placed models = some present ∧ SortedTable.get? placed after = some present ∧
      present.name = placed ∧ present.body.same body ∧ present.facets.same facets
  /-- No model is replaced. -/
  keeps {other : String} {model : Definition} :
    SortedTable.get? other models = some model → SortedTable.get? other after = some model
  others {other : String} : other ≠ placed → SortedTable.get? other after = SortedTable.get? other models
  grows : after.length ≤ models.length + 1
  named : after.Named
  /-- The search for a place ends: with any more steps than there are models it comes to this. -/
  ends {fuel : Nat} : models.length < fuel → Registry.place models name body facets fuel 1 = (after, placed)

variable {models : Namespace} {name : String} {body : Body} {facets : Facets}

theorem Namespace.Named.put (named : models.Named) :
    Namespace.Named (SortedTable.put name ⟨name, body, facets⟩ models) := by
  intro other model there
  by_cases same : other = name
  · subst same
    rw [SortedTable.get?_put_self] at there
    cases there
    rfl
  · rw [SortedTable.get?_put_ne same] at there
    exact named there

theorem Registry.candidate_cases {k : Nat} (positive : 1 ≤ k) :
    k = 1 ∧ candidate name k = name ∨ 2 ≤ k ∧ candidate name k = name ++ toString k := by
  rw [candidate]
  rcases Nat.lt_or_ge 1 k with more | one
  · exact .inr ⟨more, if_neg (by omega)⟩
  · exact .inl ⟨by omega, if_pos one⟩

namespace Registry.Placed

variable {k : Nat}

/-- A model can be placed in one way only. -/
theorem unique {first second : Namespace × String} (h : Placed models name body facets k first)
    (h' : Placed models name body facets k second) : first = second := by
  cases h with
  | fresh free =>
      cases h' with
      | fresh => rfl
      | shared there =>
          rw [free] at there
          cases there
  | shared there =>
      cases h' with
      | fresh free =>
          rw [free] at there
          cases there
      | shared => rfl

/-- Placing a model leaves all others alone. -/
theorem registers {after : Namespace} {placed : String} (named : models.Named) (positive : 1 ≤ k)
    (owned : ∀ j, 1 ≤ j → j < k → OwnedByOther models body facets (candidate name j))
    (ends : ∀ fuel, models.length < fuel → place models name body facets fuel 1 = (after, placed))
    (h : Placed models name body facets k (after, placed)) : Registers models name body facets placed after := by
  cases h with
  | fresh free =>
      exact {
        first := ⟨k, candidate_cases positive, owned⟩
        holds := .inl ⟨free, SortedTable.get?_put_self⟩
        keeps := get?_put_of_fresh free
        others := SortedTable.get?_put_ne
        grows := SortedTable.length_put_le
        named := named.put
        ends := ends _ }
  | shared there sameBody sameFacets =>
      exact {
        first := ⟨k, candidate_cases positive, owned⟩
        holds := .inr ⟨_, there, there, named there, sameBody, sameFacets⟩
        keeps := id
        others := fun _ => rfl
        grows := Nat.le_succ _
        named := named
        ends := ends _ }

end Registry.Placed

/-- Registering a model places it, and leaves all others alone. -/
theorem Modelling.registers_register (registry : Registry) (named : registry.models.Named) (name : String) (body : Body)
    (facets : Facets) : ∃ placed models, (register name body facets).run registry = (placed, { registry with models }) ∧
      Registers registry.models name body facets placed models := by
  obtain ⟨k, positive, owned, settled⟩ := Registry.placed_place registry.models name body facets
  rcases settles : Registry.place registry.models name body facets (registry.models.length + 1) 1 with ⟨models, placed⟩
  have found := settled _ (Nat.lt_succ_self registry.models.length)
  rw [settles] at found
  exact ⟨placed, models, run_register settles,
    found.registers named positive owned fun fuel enough => (settled fuel enough).unique found⟩

namespace EndsAt

variable {doc : Document} {compiled : CompiledDocument} {stage : Stage doc.schemas} {drafts : List Compiling.Draft}
  {key key' : String} {node node' : Node}

/-- The model of a component has the title of the component. -/
theorem titled (ends : EndsAt doc compiled stage drafts) (answered : Answered doc.schemas (.component key) node) :
    ∃ name, Table.get? key stage.registry.components = some name ∧ stage.models.Titled name node.facets.title := by
  obtain ⟨_, _, present, _⟩ := answered.isComponent
  obtain ⟨_, name, found⟩ := ends.placed key (Table.mem_keys.mpr ⟨_, Table.mem_of_get? present⟩)
  exact ⟨name, found, stage.means.titled found answered.isComponent⟩

/-- Components with different titles have different models. -/
theorem apart (ends : EndsAt doc compiled stage drafts) (answered : Answered doc.schemas (.component key) node)
    (answered' : Answered doc.schemas (.component key') node')
    (different : node.facets.title.getD key ≠ node'.facets.title.getD key') : ∃ name name',
      Table.get? key stage.registry.components = some name ∧ Table.get? key' stage.registry.components = some name' ∧
        name ≠ name' := by
  obtain ⟨name, found, model, there, title⟩ := ends.titled answered
  obtain ⟨name', found', model', there', title'⟩ := ends.titled answered'
  refine ⟨name, name', found, found', ?_⟩
  rintro rfl
  obtain rfl := Option.some.inj (there.symm.trans there')
  have same : node.facets.title = node'.facets.title := title.symm.trans title'
  obtain ⟨text, written⟩ := Option.isSome_iff_exists.mp answered'.isComponent.isSome_title
  rw [same, written] at different
  exact different rfl

theorem named (ends : EndsAt doc compiled stage drafts) : compiled.models.Named := by
  rw [← ends.models]
  exact fun _ _ there => (stage.means.models there).named

end EndsAt

/-- Registering a model places it under the first name that no different model has, and leaves all other models alone.
So in a document that compiles, where every model is stored under its own name, two components with different titles,
the key standing for a title that is missing, become different models. -/
theorem models_kept_apart :
    (∀ (registry : Registry) (name : String) (body : Body) (facets : Facets), registry.models.Named →
      ∃ placed models, (Modelling.register name body facets).run registry = (placed, { registry with models }) ∧
        Registers registry.models name body facets placed models) ∧
    ∀ (doc : Document) (compiled : CompiledDocument), doc.root.Keyed → compileDocument doc = .ok compiled →
      compiled.models.Named ∧ ∃ names, componentModels doc = .ok names ∧
        ∀ (key key' : String) (node node' : Node), Answered doc.schemas (.component key) node →
          Answered doc.schemas (.component key') node' →
          node.facets.title.getD key ≠ node'.facets.title.getD key' →
          ∃ name name', Table.get? key names = some name ∧ Table.get? key' names = some name' ∧ name ≠ name' := by
  refine ⟨fun registry name body facets named => Modelling.registers_register registry named name body facets, ?_⟩
  intro doc compiled keyed compiles
  obtain ⟨stage, drafts, ends⟩ := exists_endsAt keyed compiles
  exact ⟨ends.named, _, ends.components, fun _ _ _ _ answered answered' => ends.apart answered answered'⟩

/-- A fresh resolver answers with a node that has this title. -/
theorem exists_answered {components : Table Json} {key title : String}
    (found : ((Session.resolveComponent components key).outcome {}).1.toOption.bind (·.facets.title) = some title) :
    ∃ node, Answered components (.component key) node ∧ node.facets.title = some title := by
  obtain ⟨node, answered, titled⟩ := Option.bind_eq_some_iff.mp found
  exact ⟨node, ⟨[], toOption_eq_some_iff.mp answered⟩, titled⟩

/-- Two models, the second under the name that the first one would get next. -/
def takenRegistry : Registry where
  models := [("Thing", ⟨"Thing", .alias .any, {}⟩), ("Thing2", ⟨"Thing2", .union .oneOf [], {}⟩)]

/-- Components of one shape, whose titles come to the same in camel case. -/
def thingDocument : Document where
  path := "things.json"
  relativePath := "things.json"
  fields := [("components", .object [("schemas", .object
    [("A", .object [("title", .string "Thing"), ("type", .string "string")]),
     ("B", .object [("title", .string "thing"), ("type", .string "string")])])])]

theorem models_kept_apart_things : takenRegistry.models.Named ∧
    (∃ models, (Modelling.register "Thing" (.alias (.array .any)) {}).run takenRegistry =
        ("Thing3", { takenRegistry with models }) ∧
      Registers takenRegistry.models "Thing" (.alias (.array .any)) {} "Thing3" models) ∧
    thingDocument.root.Keyed ∧ ∃ compiled node node' names name name',
      compileDocument thingDocument = .ok compiled ∧ componentModels thingDocument = .ok names ∧
      Answered thingDocument.schemas (.component "A") node ∧ Answered thingDocument.schemas (.component "B") node' ∧
      node.facets.title.getD "A" ≠ node'.facets.title.getD "B" ∧
      Table.get? "A" names = some name ∧ Table.get? "B" names = some name' ∧ name ≠ name' := by
  obtain ⟨register, compile⟩ := models_kept_apart
  have named : takenRegistry.models.Named := by
    intro name model there
    have member := SortedTable.mem_of_get? there
    simp only [takenRegistry, List.mem_cons, List.not_mem_nil, or_false, Prod.mk.injEq] at member
    rcases member with ⟨rfl, rfl⟩ | ⟨rfl, rfl⟩ <;> rfl
  have keyed : thingDocument.root.Keyed := by
    simp [Document.root, thingDocument, Table.keys]
  have first : ((Modelling.register "Thing" (.alias (.array .any)) {}).run takenRegistry).1 = "Thing3" := by
    decide +kernel
  obtain ⟨placed, models, run, registers⟩ := register takenRegistry "Thing" (.alias (.array .any)) {} named
  rw [run] at first
  obtain rfl : placed = "Thing3" := first
  have succeeds : (compileDocument thingDocument).isOk = true := by decide +kernel
  obtain ⟨compiled, compiles⟩ := exists_eq_ok_of_isOk succeeds
  obtain ⟨node, answered, title⟩ : ∃ node, Answered thingDocument.schemas (.component "A") node ∧
      node.facets.title = some "Thing" := exists_answered (by decide +kernel)
  obtain ⟨node', answered', title'⟩ : ∃ node, Answered thingDocument.schemas (.component "B") node ∧
      node.facets.title = some "thing" := exists_answered (by decide +kernel)
  have different : node.facets.title.getD "A" ≠ node'.facets.title.getD "B" := by
    rw [title, title']
    decide
  obtain ⟨_, names, found, apart⟩ := compile thingDocument compiled keyed compiles
  obtain ⟨name, name', there, there', other⟩ := apart "A" "B" node node' answered answered' different
  exact ⟨named, ⟨models, run, registers⟩, keyed, compiled, node, node', names, name, name', compiles, found, answered,
    answered', different, there, there', other⟩

end Model

end ApiAtlas
