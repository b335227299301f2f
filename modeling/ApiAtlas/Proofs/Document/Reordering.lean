import ApiAtlas.Proofs.Model.Compilable

/-! # The order of components

Whether a document compiles does not depend on the order of its component schemas, unless their nesting is
too deep for one of the orders. The levels that are entered through references count as nesting, and an
order in which components are met from the inside out enters fewer of them.
-/

namespace ApiAtlas

open Schema (Call IsComponent Node Resolves)

/-- The table with one value changed. -/
def Table.modify {α : Type} (key : String) (change : α → α) (table : Table α) : Table α :=
  table.map fun entry => (entry.1, if entry.1 = key then change entry.2 else entry.2)

theorem Table.get?_modify {α : Type} {key other : String} {change : α → α} {table : Table α} :
    get? other (modify key change table) =
      if other = key then (get? other table).map change else get? other table := by
  induction table with
  | nil => simp [modify]
  | cons entry table ih =>
      rw [modify, List.map_cons, ← modify, get?_cons, get?_cons, ih]
      grind

/-- The object with one value changed; other values are left as they are. -/
def Json.modify (key : String) (change : Json → Json) : Json → Json
  | .object fields => .object (Table.modify key change fields)
  | value => value

/-- The object with other fields; other values are left as they are. -/
def Json.withFields (fields : Table Json) : Json → Json
  | .object _ => .object fields
  | value => value

/-- The document with other component schemas, if it has any. -/
def Document.withSchemas (doc : Document) (schemas : Table Json) : Document :=
  { doc with fields := Table.modify "components" (Json.modify "schemas" (Json.withFields schemas)) doc.fields }

theorem rel_bind {α β γ δ : Type} {R : α → β → Prop} {S : γ → δ → Prop} {first : Option α} {second : Option β}
    {next : α → Option γ} {next' : β → Option δ} (related : Option.Rel R first second)
    (each : ∀ {value other}, R value other → Option.Rel S (next value) (next' other)) :
    Option.Rel S (first.bind next) (second.bind next') := by
  cases related with
  | none => exact .none
  | some inside => exact each inside

/-- Values that agree but for the order of keys, down to a number of levels. -/
def Json.Reordered : (levels : Nat) → Json → Json → Prop
  | 0, value, other => value = other
  | levels + 1, value, other => value = other ∨ ∃ fields fields', value = .object fields ∧ other = .object fields' ∧
      ∀ key, Option.Rel (Reordered levels) (Table.get? key fields) (Table.get? key fields')

namespace Json.Reordered

variable {levels : Nat} {value other : Json}

theorem refl : Reordered levels value value := by
  cases levels with
  | zero => rfl
  | succ levels => exact .inl rfl

theorem rel_refl : ∀ found : Option Json, Option.Rel (Reordered levels) found found
  | none => .none
  | some _ => .some refl

theorem rel_mono {found found' : Option Json} (mono : ∀ {value other}, Reordered levels value other →
    Reordered (levels + 1) value other) (related : Option.Rel (Reordered levels) found found') :
    Option.Rel (Reordered (levels + 1)) found found' := by
  cases related with
  | none => exact .none
  | some reordered => exact .some (mono reordered)

theorem succ (reordered : Reordered levels value other) : Reordered (levels + 1) value other := by
  induction levels generalizing value other with
  | zero => exact .inl reordered
  | succ levels ih =>
      rcases reordered with same | ⟨fields, fields', rfl, rfl, each⟩
      · exact .inl same
      · exact .inr ⟨fields, fields', rfl, rfl, fun key => rel_mono ih (each key)⟩

theorem get? (reordered : Reordered (levels + 1) value other) (key : String) :
    Option.Rel (Reordered levels) (value.get? key) (other.get? key) := by
  rcases reordered with rfl | ⟨fields, fields', rfl, rfl, each⟩
  · exact rel_refl _
  · exact each key

theorem step (reordered : Reordered (levels + 1) value other) (name : String) :
    Option.Rel (Reordered levels) (Pointer.step value name) (Pointer.step other name) := by
  rcases reordered with rfl | ⟨fields, fields', rfl, rfl, each⟩
  · exact rel_refl _
  · exact each name

theorem follow (reordered : Reordered (levels + 1) value other) (names : List String) :
    Option.Rel (Reordered (levels + 1)) (Pointer.follow value names) (Pointer.follow other names) := by
  induction names generalizing value other with
  | nil => exact .some reordered
  -- A step leads to values that agree down to fewer levels, hence also down to as many as before.
  | cons name names ih => exact rel_bind (reordered.step name) fun inside => ih inside.succ

theorem eq_of_rel {found found' : Option Json} (related : Option.Rel (Reordered 0) found found') : found = found' := by
  cases related with
  | none => rfl
  | some same => exact congrArg some same

theorem symm (reordered : Reordered levels value other) : Reordered levels other value := by
  induction levels generalizing value other with
  | zero => exact Eq.symm reordered
  | succ levels ih =>
      rcases reordered with same | ⟨fields, fields', rfl, rfl, each⟩
      · exact .inl same.symm
      · refine .inr ⟨fields', fields, rfl, rfl, fun key => ?_⟩
        have related := each key
        generalize Table.get? key fields = found at related
        generalize Table.get? key fields' = found' at related
        cases related with
        | none => exact .none
        | some inside => exact .some (ih inside)

/-- The schema of JSON content lies deeper than the order of keys differs. -/
theorem jsonSchemaOf? (reordered : Reordered 3 value other) :
    Model.Compiling.jsonSchemaOf? value = Model.Compiling.jsonSchemaOf? other :=
  eq_of_rel (rel_bind (rel_bind (reordered.get? _) fun content => content.get? _) fun media => media.get? _)

/-- A value may change by one level more than what stands inside it. -/
theorem modify {key : String} {change : Json → Json}
    (inside : ∀ found, value.get? key = some found → Reordered levels found (change found)) :
    Reordered (levels + 1) value (value.modify key change) := by
  cases value with
  | object fields =>
      refine .inr ⟨fields, _, rfl, rfl, fun other => ?_⟩
      rw [Table.get?_modify]
      split
      · rename_i same
        subst same
        cases there : Table.get? other fields with
        | none => exact .none
        | some found => exact .some (inside found there)
      · exact rel_refl _
  | _ => exact refl

end Json.Reordered

namespace Schema

variable {components others : Table Json}

theorem Resolves.of_same {schema : Json} {node : Node} (same : ∀ name, Table.get? name components = Table.get? name others)
    (resolves : Resolves components schema node) : Resolves others schema node := by
  induction resolves with
  | truth => exact .truth
  | reference written named present _ ih => exact .reference written named (same _ ▸ present) ih
  | plain absent shown _ ih => exact .plain absent shown ih

theorem Call.Answerable.of_same {call : Call} (same : ∀ name, Table.get? name components = Table.get? name others)
    (answerable : call.Answerable components) : call.Answerable others := by
  cases call with
  | resolve schema =>
      obtain ⟨node, resolves⟩ := answerable
      exact ⟨node, resolves.of_same same⟩
  | component name =>
      obtain ⟨named, _, schema, node, present, resolves, rfl⟩ := answerable
      exact ⟨named, _, schema, node, same _ ▸ present, resolves.of_same same, rfl⟩

end Schema

namespace Document

variable {doc other : Document} {schemas : Table Json}

/-- The documents differ in the order of the component schemas at most. -/
structure Alike (doc other : Document) : Prop where
  root : Json.Reordered 3 doc.root other.root
  operations : other.operations = doc.operations
  schemas (name : String) : Table.get? name doc.schemas = Table.get? name other.schemas
  members (entry : String × Json) : entry ∈ other.schemas ↔ entry ∈ doc.schemas

theorem Alike.dereference? (alike : Alike doc other) (written : Json) :
    Option.Rel (Json.Reordered 3) (Operation.dereference? doc written) (Operation.dereference? other written) := by
  unfold Operation.dereference?
  split
  · rename_i reference _
    unfold resolveLocal? Json.pointer?
    cases Text.afterStart? "#" reference with
    | none => exact .none
    | some pointer =>
        rw [Option.bind_some, Option.bind_some]
        cases Pointer.names? pointer with
        | none => exact .none
        | some names => exact alike.root.follow names
  · exact .some .refl

theorem Alike.bodyResolves (alike : Alike doc other) {written : Json} (resolves : doc.BodyResolves written) :
    other.BodyResolves written := by
  obtain ⟨body, leads, content⟩ := resolves
  have related := alike.dereference? written
  rw [leads] at related
  cases found : Operation.dereference? other written with
  | none =>
      rw [found] at related
      cases related
  | some body' =>
      rw [found] at related
      cases related with
      | some reordered =>
          refine ⟨body', found, fun schema there => ?_⟩
          rw [← reordered.jsonSchemaOf?] at there
          exact (content schema there).of_same alike.schemas

theorem Alike.compilable (alike : Alike doc other) (compilable : doc.Compilable) : other.Compilable where
  components entry member := by
    have here := compilable.components entry ((alike.members entry).mp member)
    exact here.of_same alike.schemas
  operations op member := by
    have here := compilable.operations op (alike.operations ▸ member)
    exact ⟨fun written there => alike.bodyResolves (here.request written there),
      fun entry there coded => alike.bodyResolves (here.responses entry there coded)⟩

theorem get?_root_withSchemas {key : String} : (doc.withSchemas schemas).root.get? key =
    if key = "components" then
      (doc.root.get? key).map (Json.modify "schemas" (Json.withFields schemas))
    else doc.root.get? key := Table.get?_modify

theorem operations_withSchemas : (doc.withSchemas schemas).operations = doc.operations := by
  unfold operations paths?
  rw [get?_root_withSchemas, if_neg (by decide)]

theorem schemas?_withSchemas : (doc.withSchemas schemas).schemas? = doc.schemas?.map fun _ => schemas := by
  unfold schemas?
  rw [get?_root_withSchemas, if_pos rfl]
  cases doc.root.get? "components" with
  | none => rfl
  | some components =>
      cases components with
      | object fields =>
          have read : Json.get? "schemas" (Json.modify "schemas" (Json.withFields schemas) (.object fields)) =
              (Table.get? "schemas" fields).map (Json.withFields schemas) := by
            rw [Json.modify, Json.get?, Table.get?_modify, if_pos rfl]
          rw [Option.map_some, Option.bind_some, read, Option.bind_some, Json.get?]
          cases Table.get? "schemas" fields with
          | none => rfl
          | some value => cases value <;> rfl
      | _ => rfl

theorem alike_withSchemas (distinct : (Table.keys doc.schemas).Nodup) (reordered : schemas.Perm doc.schemas) :
    Alike doc (doc.withSchemas schemas) := by
  have same : (doc.withSchemas schemas).schemas.Perm doc.schemas := by
    unfold Document.schemas at reordered ⊢
    rw [schemas?_withSchemas]
    cases there : doc.schemas? with
    | none => exact .nil
    | some fields =>
        rw [there] at reordered
        exact reordered
  refine ⟨?_, operations_withSchemas, fun name => (Table.get?_perm distinct same).symm, fun entry => same.mem_iff⟩
  refine .modify fun components there => .modify fun value inside => ?_
  cases value with
  | object fields =>
      have written : doc.schemas = fields := by
        unfold Document.schemas schemas?
        rw [there, Option.bind_some, inside]
        rfl
      rw [written] at distinct reordered
      refine .inr ⟨fields, schemas, rfl, rfl, fun key => ?_⟩
      rw [Table.get?_perm distinct reordered]
      exact Json.Reordered.rel_refl _
  | _ => exact .refl

theorem Alike.symm (alike : Alike doc other) : Alike other doc where
  root := alike.root.symm
  operations := alike.operations.symm
  schemas name := (alike.schemas name).symm
  members entry := (alike.members entry).symm

end Document

namespace Model

/-- A document compiles in every order of its component schemas, or gives up at the greatest nesting. -/
theorem compileDocument_withSchemas {doc : Document} {schemas : Table Json} (distinct : (Table.keys doc.schemas).Nodup)
    (reordered : schemas.Perm doc.schemas) :
    ((∃ compiled, compileDocument doc = .ok compiled) →
      (∃ compiled, compileDocument (doc.withSchemas schemas) = .ok compiled) ∨ ∃ location,
        compileDocument (doc.withSchemas schemas) = .error (.schema doc.path location (.malformed .tooDeep))) ∧
    ((∃ compiled, compileDocument (doc.withSchemas schemas) = .ok compiled) →
      (∃ compiled, compileDocument doc = .ok compiled) ∨ ∃ location,
        compileDocument doc = .error (.schema doc.path location (.malformed .tooDeep))) := by
  have alike : doc.Alike (doc.withSchemas schemas) := Document.alike_withSchemas distinct reordered
  constructor
  · intro ⟨compiled, compiles⟩
    exact compiles_of_compilable (alike.compilable (compilable_of_compiles compiles))
  · intro ⟨compiled, compiles⟩
    exact compiles_of_compilable (alike.symm.compilable (compilable_of_compiles compiles))

/-- A schema inside lists of lists. -/
def nestedLists (inside : Json) : (levels : Nat) → Json
  | 0 => inside
  | levels + 1 => .object [("type", .string "array"), ("items", nestedLists inside levels)]

/-- Two components, each of which nests half as deep as is allowed; the first one refers to the second. -/
def halvesDocument : Document where
  path := "halves.json"
  relativePath := "halves.json"
  fields := [("components", .object [("schemas", .object
    [("Around", nestedLists (.object [("$ref", .string "#/components/schemas/Inside")]) 64),
     ("Inside", nestedLists (.object [("type", .string "string")]) 64)])])]

theorem compileDocument_withSchemas_halves :
    (Table.keys halvesDocument.schemas).Nodup ∧ halvesDocument.schemas.reverse.Perm halvesDocument.schemas ∧
    (∃ compiled, compileDocument (halvesDocument.withSchemas halvesDocument.schemas.reverse) = .ok compiled ∧
      SortedTable.keys compiled.models = ["Around", "Inside"]) ∧
    compileDocument halvesDocument =
      .error (.schema "halves.json" "#/components/schemas/Around" (.malformed .tooDeep)) := by
  have distinct : (Table.keys halvesDocument.schemas).Nodup := by decide +kernel
  have reordered := List.reverse_perm halvesDocument.schemas
  have models : (compileDocument (halvesDocument.withSchemas halvesDocument.schemas.reverse)).toOption.map
      (fun compiled => SortedTable.keys compiled.models) = some ["Around", "Inside"] := by
    decide +kernel
  have fails : (match compileDocument halvesDocument with
      | .error (.schema _ location _) => some location
      | _ => none) = some "#/components/schemas/Around" := by
    decide +kernel
  obtain ⟨compiled, compiles, models⟩ := Option.map_eq_some_iff.mp models
  rw [toOption_eq_some_iff] at compiles
  refine ⟨distinct, reordered, ⟨compiled, compiles, models⟩, ?_⟩
  -- Since one order compiles, the other one can only be too deep.
  rcases (compileDocument_withSchemas distinct reordered).2 ⟨compiled, compiles⟩ with ⟨_, succeeds⟩ | ⟨_, tooDeep⟩
  · rw [succeeds] at fails
    cases fails
  · rw [tooDeep] at fails
    cases fails
    exact tooDeep

/-- The order of components can decide: the outer component first is too deep, the inner one first is not. -/
theorem compileDocument_depends_on_order : ¬ ∀ (doc : Document) (schemas : Table Json),
    (Table.keys doc.schemas).Nodup → schemas.Perm doc.schemas →
      ((∃ compiled, compileDocument doc = .ok compiled) ↔
        ∃ compiled, compileDocument (doc.withSchemas schemas) = .ok compiled) := by
  intro same
  have distinct : (Table.keys halvesDocument.schemas).Nodup := by decide +kernel
  have fails : (compileDocument halvesDocument).isOk = false := by decide +kernel
  have succeeds : (compileDocument (halvesDocument.withSchemas halvesDocument.schemas.reverse)).isOk = true := by
    decide +kernel
  have reordered := List.reverse_perm halvesDocument.schemas
  obtain ⟨other, compiles⟩ := (same _ _ distinct reordered).mpr (exists_eq_ok_of_isOk succeeds)
  rw [compiles] at fails
  cases fails

end Model

end ApiAtlas
