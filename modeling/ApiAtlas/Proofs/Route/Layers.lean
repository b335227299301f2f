import Mathlib.Data.List.Sort
import ApiAtlas.Proofs.Model.Bodies
import ApiAtlas.Proofs.Model.Success
import ApiAtlas.Proofs.Route.Resolution

/-! # The layers of a route

What documents a route is taken from its own binding, from that of its method and from the document, in this order of
precedence. Single fields are read from the first layer that sets them; the responses are written from the last layer
to the first. Both come to the same precedence.
-/

namespace ApiAtlas

namespace Route

open Model (CompiledDocument OperationSpec compileDocument)

/-- A value is that of the first source that has one. -/
inductive Prevails {α : Type} (value : α) : List (Option α) → Prop where
  | first {later : List (Option α)} : Prevails value (some value :: later)
  | next {later : List (Option α)} (there : Prevails value later) : Prevails value (none :: later)

section Sources

variable {α : Type} {value other : α} {rest : List (Option α)} {field : Binding → Option α}
  {list : List Binding}

@[simp]
theorem not_prevails_nil : ¬ Prevails value [] :=
  nofun

@[simp]
theorem prevails_none : Prevails value (none :: rest) ↔ Prevails value rest := by
  constructor
  · rintro ⟨⟩
    assumption
  · exact .next

@[simp]
theorem prevails_some : Prevails value (some other :: rest) ↔ other = value := by
  constructor
  · rintro ⟨⟩
    rfl
  · rintro rfl
    exact .first

theorem prevails_cons {source : Option α} :
    Prevails value (source :: rest) ↔ source = some value ∨ source = none ∧ Prevails value rest := by
  cases source <;> simp

@[simp]
theorem prevails_cons_none {source : Option α} :
    Prevails value (source :: none :: rest) ↔ Prevails value (source :: rest) := by
  cases source <;> simp

theorem prevails_map : Prevails value (list.map field ++ rest) ↔
    list.findSome? field = some value ∨ list.findSome? field = none ∧ Prevails value rest := by
  induction list with
  | nil => simp
  | cons binding list ih => cases set : field binding <;> simp [set, ih]

theorem prevails_getD (list : List Binding) (field : Binding → Option α) (fallback : α) :
    Prevails ((list.findSome? field).getD fallback) (list.map field ++ [some fallback]) := by
  rw [prevails_map]
  cases list.findSome? field <;> simp

theorem prevails_or_getD (list : List Binding) (field : Binding → Option α) (last : Option α) (fallback : α) :
    Prevails ((list.findSome? field <|> last).getD fallback) (list.map field ++ [last, some fallback]) := by
  rw [prevails_map]
  cases list.findSome? field <;> cases last <;> simp

/-- The values of a field in what is bound for a route and for its method. -/
def sources (own general : Option Binding) (field : Binding → Option α) : List (Option α) :=
  [own.bind field, general.bind field]

/-- A layer that is missing sets nothing. -/
theorem prevails_sources {own general : Option Binding} : Prevails value (sources own general field ++ rest) ↔
    Prevails value ((own.toList ++ general.toList).map field ++ rest) := by
  unfold sources
  cases own <;> cases general <;> simp

/-- Inside one layer, a name comes before a way of naming. -/
theorem prevails_name {layer : Option Binding} {op : OperationSpec} {name : String} {rest : List (Option String)} :
    Prevails name (layer.bind (·.name) :: layer.bind (fun binding => binding.naming.map (· op.path op)) :: rest) ↔
      Prevails name (layer.bind (·.name? op) :: rest) := by
  cases layer with
  | none => simp
  | some binding => cases named : binding.name <;> simp [Binding.name?, named]

end Sources

section Responses

variable {status : Nat} {extras : SortedTable Nat String} {responses : SortedTable Nat Model.Response}
  {list : List Binding} {binding : Binding} {op : OperationSpec}

/-- Describes the statuses that a binding describes. -/
def describeAll (extras : SortedTable Nat String) (responses : SortedTable Nat Model.Response) :
    SortedTable Nat Model.Response :=
  extras.foldl (fun responses extra => describe responses extra.1 extra.2) responses

theorem describeAll_cons {extra : Nat × String} :
    describeAll (extra :: extras) responses = describeAll extras (describe responses extra.1 extra.2) :=
  rfl

/-- The most specific layer is written last. -/
theorem describedResponses_cons :
    describedResponses (binding :: list) op = describeAll binding.responses (describedResponses list op) := by
  simp [describedResponses, describeAll]

theorem get?_describe {other : Nat} {description : String} :
    SortedTable.get? status (describe responses other description) =
      if other = status then some ⟨description, (SortedTable.get? status responses).bind (·.model)⟩
      else SortedTable.get? status responses := by
  unfold describe
  split
  · rename_i same
    subst same
    exact SortedTable.get?_put_self
  · rename_i different
    exact SortedTable.get?_put_ne (Ne.symm different)

theorem get?_describeAll (ascending : extras.Ascending) :
    SortedTable.get? status (describeAll extras responses) =
      match SortedTable.get? status extras with
      | some description => some ⟨description, (SortedTable.get? status responses).bind (·.model)⟩
      | none => SortedTable.get? status responses := by
  induction extras generalizing responses with
  | nil => rfl
  | cons extra extras ih =>
      rw [describeAll_cons, ih (SortedTable.ascending_cons.mp ascending).2, get?_describe, SortedTable.get?]
      by_cases same : extra.1 = status
      · -- A status is described once, so that nothing later replaces this description.
        have once : SortedTable.get? status extras = none := same ▸ ascending.get?_head
        simp only [once, if_pos same]
      · simp only [if_neg same]

theorem mem_keys_describeAll : status ∈ SortedTable.keys (describeAll extras responses) ↔
    status ∈ SortedTable.keys extras ∨ status ∈ SortedTable.keys responses := by
  induction extras generalizing responses with
  | nil => simp [describeAll, SortedTable.keys]
  | cons extra extras ih =>
      have keys : SortedTable.keys (extra :: extras) = extra.1 :: SortedTable.keys extras := rfl
      have here : status ∈ SortedTable.keys (describe responses extra.1 extra.2) ↔
          status = extra.1 ∨ status ∈ SortedTable.keys responses := SortedTable.mem_keys_put
      rw [describeAll_cons, ih, here, keys, List.mem_cons, or_left_comm, or_assoc]

/-- The statuses are those of the document and of every layer. -/
theorem mem_keys_describedResponses : status ∈ SortedTable.keys (describedResponses list op) ↔
    status ∈ SortedTable.keys op.responses ∨ ∃ binding ∈ list, status ∈ SortedTable.keys binding.responses := by
  induction list with
  | nil => simp [describedResponses]
  | cons binding list ih =>
      rw [describedResponses_cons, mem_keys_describeAll, ih, List.exists_mem_cons_iff, or_left_comm]

theorem ascending_describeAll (ascending : responses.Ascending) : (describeAll extras responses).Ascending := by
  induction extras generalizing responses with
  | nil => exact ascending
  | cons extra extras ih => exact ih (SortedTable.ascending_put ascending)

theorem ascending_describedResponses (ascending : op.responses.Ascending) :
    (describedResponses list op).Ascending := by
  induction list with
  | nil => exact ascending
  | cons binding list ih =>
      rw [describedResponses_cons]
      exact ascending_describeAll ih

/-- Describing a status leaves its model alone. -/
theorem model_describedResponses (ascending : ∀ binding ∈ list, binding.responses.Ascending) :
    (SortedTable.get? status (describedResponses list op)).bind (·.model) =
      (SortedTable.get? status op.responses).bind (·.model) := by
  induction list with
  | nil => rfl
  | cons binding list ih =>
      obtain ⟨here, there⟩ := List.forall_mem_cons.mp ascending
      rw [describedResponses_cons, get?_describeAll here, ← ih there]
      split <;> rfl

/-- The description of a status is that of the first layer that has one, else that of the document. -/
theorem description_describedResponses (ascending : ∀ binding ∈ list, binding.responses.Ascending)
    {description : String} :
    (SortedTable.get? status (describedResponses list op)).map (·.description) = some description ↔
      Prevails description (list.map (fun binding => SortedTable.get? status binding.responses) ++
        [(SortedTable.get? status op.responses).map (·.description)]) := by
  induction list with
  | nil =>
      have start : describedResponses [] op = op.responses := rfl
      rw [start]
      cases SortedTable.get? status op.responses <;> simp
  | cons binding list ih =>
      obtain ⟨here, there⟩ := List.forall_mem_cons.mp ascending
      rw [describedResponses_cons, get?_describeAll here, List.map_cons, List.cons_append]
      cases SortedTable.get? status binding.responses with
      | none => rw [prevails_none, ih there]
      | some extra => simp

theorem get?_describedResponses (ascending : ∀ binding ∈ list, binding.responses.Ascending)
    {response : Model.Response} :
    SortedTable.get? status (describedResponses list op) = some response ↔
      Prevails response.description (list.map (fun binding => SortedTable.get? status binding.responses) ++
        [(SortedTable.get? status op.responses).map (·.description)]) ∧
      response.model = (SortedTable.get? status op.responses).bind (·.model) := by
  rw [← description_describedResponses ascending, ← model_describedResponses ascending]
  obtain ⟨description, model⟩ := response
  cases SortedTable.get? status (describedResponses list op) with
  | none => simp
  | some found =>
      rw [Option.some.injEq, Option.map_some, Option.some.injEq, Option.bind_some]
      constructor
      · rintro rfl
        exact ⟨rfl, rfl⟩
      · rintro ⟨rfl, rfl⟩
        rfl

end Responses

/-- What is bound for a target, if anything is: the last binding that is made for it. -/
def IsBound (target : Target) (assignments : List Assignment) (layer : Option Binding) : Prop :=
  ∀ binding, layer = some binding ↔ LastFor target binding assignments

/-- The description of the response for a status, unless it is empty. -/
def documented? (op : OperationSpec) (status : Option Nat) : Option String :=
  ((status.bind (SortedTable.get? · op.responses)).map (·.description)).filter (· != "")

/-- What documents a route comes from the first layer that has it: from what is bound for the route itself, from what is
bound for its method, from the operation of the document. -/
structure Layered (own general : Option Binding) (op : OperationSpec) (entry : Entry) : Prop where
  name : Prevails entry.name
    [own.bind (·.name), own.bind fun binding => binding.naming.map (· op.path op),
     general.bind (·.name), general.bind fun binding => binding.naming.map (· op.path op),
     some (Naming.routeName op.method op.path)]
  summary : Prevails entry.summary (sources own general (·.summary) ++ [op.summary, some entry.name])
  description (text : String) : entry.description = some text ↔
    Prevails text (sources own general (·.description) ++ [op.description])
  tags : Prevails entry.tags (sources own general (·.tags) ++ [some op.tags])
  responseDescription : ∃ status, Primary (· ∈ SortedTable.keys op.responses) status ∧
    Prevails entry.responseDescription (sources own general (·.responseDescription) ++
      [documented? op status, some "Successful response"])
  ascending : entry.responses.Ascending
  statuses (status : Nat) : status ∈ SortedTable.keys entry.responses ↔
    status ∈ SortedTable.keys op.responses ∨
      ∃ binding, (own = some binding ∨ general = some binding) ∧ status ∈ SortedTable.keys binding.responses
  responses (status : Nat) (response : Model.Response) :
    SortedTable.get? status entry.responses = some response ↔
      Prevails response.description (sources own general (fun binding => SortedTable.get? status binding.responses) ++
        [(SortedTable.get? status op.responses).map (·.description)]) ∧
      response.model = (SortedTable.get? status op.responses).bind (·.model)

section Layering

variable {bindings : Bindings} {op : OperationSpec} {assignments : List Assignment} {target : Target}

theorem isBound_get? (assignments : List Assignment) (target : Target) :
    IsBound target assignments ((Bindings.ofAssignments assignments).get? target) :=
  fun _ => Bindings.get?_ofAssignments target

theorem mem_layers {binding : Binding} : binding ∈ layers bindings op ↔
    bindings.override? op.path op.method = some binding ∨ bindings.default? op.method = some binding := by
  rw [layers, List.mem_append, Option.mem_toList, Option.mem_toList]

theorem layered_entryOf {handler : Http.Handler} {source : HandlerSource}
    (ordered : ∀ binding ∈ layers bindings op, binding.responses.Ascending) (ascending : op.responses.Ascending) :
    Layered (bindings.override? op.path op.method) (bindings.default? op.method) op
      (entryOf bindings op handler source) where
  name := by
    rw [prevails_name, prevails_cons, prevails_name, ← prevails_cons]
    exact prevails_sources.mpr (prevails_getD _ _ _)
  summary := prevails_sources.mpr (prevails_or_getD _ _ _ _)
  description text := by
    rw [prevails_sources, prevails_map]
    simp only [entryOf, layers]
    cases ((bindings.override? op.path op.method).toList ++ (bindings.default? op.method).toList).findSome?
      (·.description) <;> cases op.description <;> simp
  tags := prevails_sources.mpr (prevails_getD _ _ _)
  responseDescription := by
    have primary := Model.OperationSpec.primary_primaryStatus? ascending
    refine ⟨_, primary, prevails_sources.mpr ?_⟩
    rw [documented?, ← Model.OperationSpec.primaryResponse?_eq ascending primary]
    exact prevails_or_getD _ _ _ _
  ascending := ascending_describedResponses ascending
  statuses status := by simp only [entryOf, mem_keys_describedResponses, mem_layers]
  responses _ _ := by
    rw [prevails_sources]
    exact get?_describedResponses ordered

end Layering

/-- A document with one operation and two responses, of which one has a model. -/
def reportDocument : Document where
  path := "reports.json"
  relativePath := "reports.json"
  fields := [("paths", .object [("/reports", .object [("get", .object
    [("summary", .string "Reports"), ("description", .string "Lists reports."),
     ("tags", .array [.string "reports"]),
     ("responses", .object
       [("200", .object [("description", .string "All reports"), ("content", .object
          [("application/json", .object [("schema", .object [("type", .string "object")])])])]),
        ("404", .object [("description", .string "No reports")])])])])])]

def reportBinding : Binding := { summary := some "Finished reports", responses := [(404, "Not yet")] }

def listBinding : Binding where
  naming := some fun path _ => path
  summary := some "A list"
  tags := some ["lists"]
  responses := [(404, "Missing"), (500, "Broken")]

/-- Bindings of the method and of the route of the reports. The first one does not count, since the last one is for the
same route. -/
def reportAssignments : List Assignment :=
  [⟨.single "/reports" "GET", { summary := some "Draft", description := some "Draft" }⟩,
   ⟨.general "GET", listBinding⟩, ⟨.single "/reports" "GET", reportBinding⟩]

theorem exists_report : ∃ compiled, compileDocument reportDocument = .ok compiled ∧ ∃ op ∈ compiled.operations,
    (op.path, op.method, op.description) = ("/reports", "GET", some "Lists reports.") ∧
    (∃ handle, op.responses = [(200, ⟨"All reports", some handle⟩), (404, ⟨"No reports", none⟩)] ∧
      handle.name = "GetReportsResponse") ∧
    (resolveOne (.ofAssignments reportAssignments) true op).isOk := by
  have outlined : (compileDocument reportDocument).toOption.map (fun compiled => compiled.operations.map fun op =>
      ((op.path, op.method, op.description), (resolveOne (.ofAssignments reportAssignments) true op).isOk)) =
        some [(("/reports", "GET", some "Lists reports."), true)] := by
    decide +kernel
  have responds : (compileDocument reportDocument).toOption.map (fun compiled => compiled.operations.map fun op =>
      op.responses.map fun entry => (entry.1, entry.2.description, entry.2.model.map (·.name))) =
        some [[(200, "All reports", some "GetReportsResponse"), (404, "No reports", none)]] := by
    decide +kernel
  obtain ⟨compiled, compiles, outline⟩ := Option.map_eq_some_iff.mp outlined
  obtain ⟨op, rest, whole, here, empty⟩ := List.map_eq_cons_iff.mp outline
  obtain rfl := List.map_eq_nil_iff.mp empty
  obtain ⟨fields, succeeds⟩ := Prod.mk.inj here
  rw [compiles, Option.map_some, whole, List.map_singleton, Option.some.injEq, List.singleton_inj] at responds
  obtain ⟨⟨first, success⟩, rest, whole', same, others⟩ := List.map_eq_cons_iff.mp responds
  obtain ⟨⟨second, failure⟩, none, rfl, same', empty⟩ := List.map_eq_cons_iff.mp others
  obtain rfl := List.map_eq_nil_iff.mp empty
  obtain ⟨described, model⟩ := success
  obtain ⟨described', model'⟩ := failure
  simp only [Prod.mk.injEq, Option.map_eq_some_iff, Option.map_eq_none_iff] at same same'
  obtain ⟨rfl, rfl, handle, rfl, name⟩ := same
  obtain ⟨rfl, rfl, rfl⟩ := same'
  exact ⟨compiled, toOption_eq_some_iff.mp compiles, op, by simp [whole], fields, ⟨handle, whole', name⟩, succeeds⟩

end Route

end ApiAtlas
