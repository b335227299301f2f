import ApiAtlas.Proofs.Document.Keyed
import ApiAtlas.Proofs.Schema.Lockstep
import ApiAtlas.Proofs.Validation.References
import ApiAtlas.Validation.Structure

/-! # Data is not searched for references

A document that the structural validator accepts stays accepted when data in it is replaced, as long as no reference
points there and the object around the data does not stand under a key that is taken for a table of names. Such a
key may be the name of a property; the values of keywords for data are searched then, and may be rejected.
-/

namespace ApiAtlas

open Json (LeadsToData Varies)

namespace References

section Walk

variable {pointer name : String} {named : Bool} {change : Json → Json}

theorem references_walkFields {fields : List (String × Json)} (same : (!named && valueKeywords.contains name) = true ∨
    ∀ pointer value, (walk pointer (some name) (change value)).map Spot.reference? =
      (walk pointer (some name) value).map Spot.reference?) :
    (walkFields pointer named (Table.modify name change fields)).map Spot.reference? =
      (walkFields pointer named fields).map Spot.reference? := by
  induction fields with
  | nil => rfl
  | cons field fields ih =>
      obtain ⟨key, value⟩ := field
      rw [Table.modify, List.map_cons, ← Table.modify, walkFields, walkFields]
      split
      · exact ih
      · rename_i structural
        rw [List.map_append, List.map_append, ih]
        congr 1
        split
        · rename_i here
          subst here
          exact same.resolve_left structural _ value
        · rfl

theorem references_walkItems {items : List Json} {index n : Nat} (same : ∀ pointer value,
    (walk pointer none (change value)).map Spot.reference? = (walk pointer none value).map Spot.reference?) :
    (walkItems pointer index (items.modify n change)).map Spot.reference? =
      (walkItems pointer index items).map Spot.reference? := by
  induction items generalizing index n with
  | nil => simp
  | cons item items ih =>
      cases n with
      | zero => simp [walkItems, same]
      | succ n => simp [walkItems, ih]

/-- The walk meets the same references whatever the data. -/
theorem references_walk_replace {key : Option String} {value new : Json} {names : List String}
    (table : key.any nameTables.contains = named) (data : LeadsToData named names) :
    (walk pointer key (value.replace names new)).map Spot.reference? = (walk pointer key value).map Spot.reference? := by
  -- The names lead to the data, and the last of them is a keyword whose value the walk leaves out.
  induction names generalizing pointer key value named with
  | nil => cases data
  | cons name rest ih =>
      have here : (value.replace (name :: rest) new).textAt? "$ref" = value.textAt? "$ref" :=
        ((Varies.replace data).textAt? _ fun _ => by decide).symm
      cases value with
      | object fields =>
          rw [Json.replace] at here ⊢
          rw [walk, walk, List.map_cons, List.map_cons, table]
          congr 1
          apply references_walkFields
          cases data with
          | keyword known => exact .inl (by simpa using known)
          | inside deeper => exact .inr fun pointer value => ih rfl deeper
      | array items =>
          rw [Json.replace]
          cases position : Pointer.position? name with
          | none => rfl
          | some n =>
              cases data with
              | keyword known =>
                  rw [Json.position?_valueKeyword known] at position
                  cases position
              | inside deeper =>
                  rw [walk, walk, List.map_cons, List.map_cons]
                  congr 1
                  exact references_walkItems fun pointer value => ih rfl deeper.mono
      | _ => rfl

end Walk

end References

/-- The second document varies in data to which no reference of the first one points. -/
structure Document.Varies (doc other : Document) : Prop where
  root : Json.Varies false doc.root other.root
  paths : Option.Rel (Json.Varies true) (doc.root.get? "paths") (other.root.get? "paths")
  leads {reference : String} : reference ∈ doc.root.references →
    Option.Rel (Json.Varies false) (doc.resolveLocal? reference) (other.resolveLocal? reference)
  references : (References.walk "" none other.root).map References.Spot.reference? =
    (References.walk "" none doc.root).map References.Spot.reference?

theorem Document.varies_replace {doc : Document} {names : List String} {keyword : String} {new : Json}
    (known : keyword ∈ References.valueKeywords) (inner : names ≠ ["paths"])
    (around : ∀ last, names.getLast? = some last → last ∉ References.nameTables)
    (free : doc.pointsInto (names ++ [keyword]) = false) : doc.Varies (doc.replace (names ++ [keyword]) new) := by
  have data : LeadsToData false (names ++ [keyword]) := Json.leadsToData_concat known (fun _ => rfl) around
  have root : (doc.replace (names ++ [keyword]) new).root = doc.root.replace (names ++ [keyword]) new :=
    root_replace (by simp)
  constructor
  · rw [root]
    exact .replace data
  · rw [root]
    cases names with
    | nil =>
        have structural : "paths" ≠ keyword := by
          rintro rfl
          exact absurd known (by decide)
        rw [List.nil_append, Json.get?_replace, if_neg structural]
        exact Varies.rel_refl _
    | cons name names =>
        rw [List.cons_append, Json.get?_replace]
        split
        · rename_i same
          subst same
          have deeper : LeadsToData true (names ++ [keyword]) := by
            refine Json.leadsToData_concat known (fun none => absurd (none ▸ rfl) inner) fun last found => around last ?_
            rw [List.getLast?_cons, found]
            rfl
          cases doc.root.get? "paths" with
          | none => exact .none
          | some paths => exact .some (.replace deeper)
        · exact Varies.rel_refl _
  · intro reference written
    exact resolveLocal?_replace data free written
  · rw [root]
    exact References.references_walk_replace rfl data

namespace Structure

open References (nameTables valueKeywords)

variable {doc other : Document}

theorem checkVersion_eq (varies : doc.Varies other) : checkVersion doc = checkVersion other := by
  have version : doc.version? = other.version? := varies.root.textAt? _ fun _ => by decide
  rw [checkVersion, checkVersion, version]

theorem checkOperations_eq {path : String} {item item' : Json} (varies : Json.Varies false item item')
    (keys : List OperationKey) : checkOperations path item keys = checkOperations path item' keys := by
  induction keys with
  | nil => rfl
  | cons key keys ih =>
      have structural : key.text ∉ valueKeywords := by cases key <;> decide
      rw [checkOperations, checkOperations]
      rcases rel_cases (varies.get? key.text fun _ => structural) with ⟨absent, absent'⟩ | ⟨_, _, found, found', inner⟩
      · rw [absent, absent']
        exact ih
      · rw [found, found']
        simp only [inner.isObject, ih]

theorem checkPathItems_eq {items items' : List (String × Json)}
    (each : items.Forall₂ Json.VariesEntry items') :
    checkPathItems items = checkPathItems items' := by
  induction each with
  | nil => rfl
  | @cons entry entry' _ _ here _ ih =>
      obtain ⟨path, item⟩ := entry
      obtain ⟨_, item'⟩ := entry'
      obtain ⟨rfl, varies⟩ := here
      rw [checkPathItems, checkPathItems, varies.isObject, checkOperations_eq varies, ih]

theorem checkPaths_eq (varies : doc.Varies other) : checkPaths doc = checkPaths other := by
  unfold checkPaths
  rcases rel_cases varies.paths with ⟨absent, absent'⟩ | ⟨_, _, found, found', inner⟩
  · rw [absent, absent']
  · rw [found, found']
    cases inner.view with
    | object entries => exact checkPathItems_eq (entries rfl)
    | _ => rfl

theorem mem_references_of_mem_walk (keyed : doc.root.Keyed) {spot : References.Spot}
    (member : spot ∈ References.walk "" none doc.root) {reference : String} (written : spot.reference? = some reference) :
    reference ∈ doc.root.references := by
  obtain ⟨names, _, leads⟩ := References.exists_names_of_mem_walk keyed member
  exact Json.mem_references_of_follow leads written

theorem references_check (varies : doc.Varies other) {found : SortedSet String} (keyed : doc.root.Keyed)
    (passes : References.check doc = .ok found) : References.check other = .ok found := by
  obtain ⟨intact, rfl⟩ := References.check_eq_ok_iff.mp passes
  have components (doc : Document) : (References.walk "" none doc.root).filterMap References.Spot.component? =
      ((References.walk "" none doc.root).map References.Spot.reference?).filterMap (·.bind Schema.componentName?) := by
    rw [List.filterMap_map]
    rfl
  refine References.check_eq_ok_iff.mpr ⟨fun spot member reference written => ?_, ?_⟩
  · have met : some reference ∈ (References.walk "" none doc.root).map References.Spot.reference? := by
      rw [← varies.references, ← written]
      exact List.mem_map_of_mem member
    obtain ⟨spot', member', written'⟩ := List.mem_map.mp met
    have whole := intact spot' member' reference written'
    rw [References.broken_iff] at whole ⊢
    intro nowhere
    rcases rel_cases (varies.leads (mem_references_of_mem_walk keyed member' written')) with ⟨absent, _⟩ | ⟨_, _, _, found', _⟩
    · exact whole absent
    · cases found'.symm.trans nowhere
  · rw [components doc, components other, varies.references]

/-- A part of the first document and one that varies from it in data. -/
structure Twin (doc : Document) (named : Bool) (value value' : Json) : Prop where
  varies : Json.Varies named value value'
  stands : ∃ place, Pointer.follow doc.root place = some value

/-- Twins with the same key. -/
def TwinEntry (doc : Document) (entry entry' : String × Json) : Prop :=
  entry.1 = entry'.1 ∧ Twin doc false entry.2 entry'.2

namespace Twin

variable {named : Bool} {value value' : Json} {key : String}

theorem root (varies : doc.Varies other) : Twin doc false doc.root other.root := ⟨varies.root, [], rfl⟩

theorem mono (twin : Twin doc named value value') : Twin doc false value value' := ⟨twin.varies.mono, twin.stands⟩

theorem stands_step (twin : Twin doc named value value') {inner : Json} (step : Pointer.step value key = some inner) :
    ∃ place, Pointer.follow doc.root place = some inner := by
  obtain ⟨place, leads⟩ := twin.stands
  exact ⟨place ++ [key], by rw [Pointer.follow_append, leads, Option.bind_some, Pointer.follow, step]; rfl⟩

theorem get? (twin : Twin doc named value value') (key : String) (structural : named = false → key ∉ valueKeywords) :
    Option.Rel (Twin doc (nameTables.contains key)) (value.get? key) (value'.get? key) := by
  rcases rel_cases (twin.varies.get? key structural) with ⟨absent, absent'⟩ | ⟨inner, inner', found, found', varies⟩
  · rw [absent, absent']
    exact .none
  · rw [found, found']
    exact .some ⟨varies, twin.stands_step (Pointer.step_of_get? found)⟩

theorem items {items items' : List Json} (twin : Twin doc named (.array items) (.array items')) :
    items.Forall₂ (Twin doc false) items' := by
  have stands : ∀ item ∈ items, ∃ place, Pointer.follow doc.root place = some item := by
    intro item member
    obtain ⟨n, there⟩ := List.getElem?_of_mem member
    have step : Pointer.step (.array items) (toString n) = some item := by
      rw [Pointer.step, Pointer.position?_eq_some_iff.mpr rfl, Option.bind_some, there]
    exact twin.stands_step step
  cases twin.varies.view with
  | array each => exact ((List.forall₂_and_left _ _).mpr ⟨stands, each⟩).imp fun _ _ both => ⟨both.2, both.1⟩

theorem entries (keyed : doc.root.Keyed) {fields fields' : List (String × Json)}
    (twin : Twin doc true (.object fields) (.object fields')) : fields.Forall₂ (TwinEntry doc) fields' := by
  have distinct : (Table.keys fields).Nodup := by
    obtain ⟨_, leads⟩ := twin.stands
    exact (Document.keyed_follow keyed leads).distinct
  have stands : ∀ entry ∈ fields, ∃ place, Pointer.follow doc.root place = some entry.2 :=
    fun entry member => twin.stands_step (Table.get?_of_mem distinct member)
  cases twin.varies.view with
  | object each =>
      exact ((List.forall₂_and_left _ _).mpr ⟨stands, each rfl⟩).imp fun _ _ both => ⟨both.2.1, both.2.2, both.1⟩

end Twin

/-! ## Parameters -/

section Parameters

variable {value value' : Json} (varies : doc.Varies other)

include varies

theorem dereference?_rel (twin : Twin doc false value value') :
    Option.Rel (Json.Varies false) (Operation.dereference? doc value) (Operation.dereference? other value') := by
  have same : value.textAt? "$ref" = value'.textAt? "$ref" := twin.varies.textAt? _ fun _ => by decide
  unfold Operation.dereference?
  rw [← same]
  split
  · rename_i reference written
    obtain ⟨place, leads⟩ := twin.stands
    exact varies.leads (Json.mem_references_of_follow leads written)
  · exact .some twin.varies

theorem checkParameter_eq {location : String} (twin : Twin doc false value value') :
    checkParameter doc location value = checkParameter other location value' := by
  have parameter : Json.Varies false ((Operation.dereference? doc value).getD value)
      ((Operation.dereference? other value').getD value') := by
    rcases rel_cases (dereference?_rel varies twin) with ⟨absent, absent'⟩ | ⟨_, _, found, found', inner⟩
    · rw [absent, absent']
      exact twin.varies
    · rw [found, found']
      exact inner
  have name := parameter.textAt? "name" fun _ => by decide
  have place := parameter.textAt? "in" fun _ => by decide
  unfold checkParameter
  dsimp only
  rw [name, place]

theorem checkParameterList_eq {location : String} (twin : Twin doc false value value') :
    checkParameterList doc location value = checkParameterList other location value' := by
  unfold checkParameterList
  rcases rel_cases (twin.get? "parameters" fun _ => by decide) with ⟨absent, absent'⟩ | ⟨_, _, found, found', inner⟩
  · rw [absent, absent']
  · rw [found, found']
    cases inner.varies.view with
    | array _ => exact forM_congr inner.items fun each => checkParameter_eq varies each
    | _ => rfl

end Parameters

/-! ## Bodies and components -/

/-- If the first check passes then so does the second one, when they start with memos of alike nodes and with memos of
alike nodes after them. -/
def Passes {α β : Type} (check : Checking α) (check' : Checking β) : Prop :=
  ∀ ⦃memo memo' : Schema.Memo⦄, (∀ name, Option.Rel Schema.Node.Alike (Table.get? name memo) (Table.get? name memo')) →
    ∀ ⦃value after⦄, check.run memo = .ok (value, after) → ∃ value' after', check'.run memo' = .ok (value', after') ∧
      ∀ name, Option.Rel Schema.Node.Alike (Table.get? name after) (Table.get? name after')

namespace Passes

variable {α β γ δ : Type} {check : Checking α} {check' : Checking β}

theorem pure {value : α} {other : β} : Passes (Pure.pure value : Checking α) (Pure.pure other : Checking β) := by
  intro memo memo' alike _ _ succeeds
  cases succeeds
  exact ⟨other, memo', rfl, alike⟩

theorem throw {violation : Violation} : Passes (MonadExcept.throw violation : Checking α) check' := by
  intro _ _ _ _ _ succeeds
  cases succeeds

theorem throw_bind {violation : Violation} {next : α → Checking γ} :
    Passes ((MonadExcept.throw violation : Checking α) >>= next) check' := by
  intro _ _ _ _ _ succeeds
  cases succeeds

theorem lift (result : Except Violation α) : Passes (liftM result : Checking α) (liftM result : Checking α) := by
  intro memo memo' alike value after succeeds
  cases result with
  | error violation => cases succeeds
  | ok value =>
      cases succeeds
      exact ⟨value, memo', rfl, alike⟩

theorem bind {next : α → Checking γ} {next' : β → Checking δ} (first : Passes check check')
    (second : ∀ value value', Passes (next value) (next' value')) : Passes (check >>= next) (check' >>= next') := by
  intro memo memo' alike result after succeeds
  rw [StateT.run_bind, bind_eq_ok_iff] at succeeds
  obtain ⟨⟨value, between⟩, here, there⟩ := succeeds
  obtain ⟨value', between', here', alike⟩ := first alike here
  obtain ⟨result', after', there', alike⟩ := second value value' alike there
  refine ⟨result', after', ?_, alike⟩
  rw [StateT.run_bind, bind_eq_ok_iff]
  exact ⟨(value', between'), here', there'⟩

theorem forM {ι κ : Type} {R : ι → κ → Prop} {items : List ι} {items' : List κ} {step : ι → Checking PUnit}
    {step' : κ → Checking PUnit} (related : items.Forall₂ R items')
    (each : ∀ {item item'}, R item item' → Passes (step item) (step' item')) :
    Passes (items.forM step) (items'.forM step') := by
  induction related with
  | nil => exact pure
  | cons here _ ih => exact (each here).bind fun _ _ => ih

theorem run_resolving {location : String} {step : Schema.Resolving α} {memo : Schema.Memo} :
    (resolving location step.alone).run memo = (match step.outcome { memo } with
      | (.ok value, session) => .ok (value, session.memo)
      | (.error error, _) => .error (.ofSchema location error)) := by
  have run : step.alone.run.run memo = ((step.outcome { memo }).1, (step.outcome { memo }).2.memo) := rfl
  rcases outcome : step.outcome { memo } with ⟨error | value, session⟩
  all_goals
    rw [outcome] at run
    simp only [Structure.resolving, StateT.run_bind, StateT.run_get, pure_bind, run, StateT.run_set]
    rfl

theorem resolving {R : α → β → Prop} {location location' : String} {step : Schema.Resolving α} {step' : Schema.Resolving β}
    (leads : Schema.Resolving.Leads R step step') :
    Passes (resolving location step.alone) (Structure.resolving location' step'.alone) := by
  intro memo memo' alike value after succeeds
  rw [run_resolving] at succeeds
  split at succeeds
  · rename_i session outcome
    cases succeeds
    have inStep : Schema.Resolving.InStep { memo } { memo := memo' } := ⟨rfl, rfl, alike⟩
    obtain ⟨value', session', outcome', -, inStep⟩ := leads inStep outcome
    exact ⟨value', session'.memo, by rw [run_resolving, outcome'], inStep.memo⟩
  · cases succeeds

end Passes

section Bodies

variable {location : String}

theorem titleViolation?_eq {named : Bool} {name : String} {title title' : Option Json} {referenced : Bool}
    (varies : Option.Rel (Json.Varies named) title title') :
    titleViolation? name title referenced = titleViolation? name title' referenced := by
  rcases rel_cases varies with ⟨rfl, rfl⟩ | ⟨_, _, rfl, rfl, inner⟩
  · rfl
  · simp only [titleViolation?, inner.text?]

/-- The component schemas are the same up to data. -/
theorem schemas_varies (varies : doc.Varies other) : doc.schemas.Forall₂ Json.VariesEntry other.schemas := by
  unfold Document.schemas Document.schemas?
  rcases rel_cases (varies.root.get? "components" fun _ => by decide) with ⟨absent, absent'⟩ | ⟨_, _, found, found', components⟩
  · rw [absent, absent']
    exact .nil
  · rw [found, found', Option.bind_some, Option.bind_some]
    rcases rel_cases (components.get? "schemas" fun _ => by decide) with ⟨absent, absent'⟩ | ⟨_, _, found, found', schemas⟩
    · rw [absent, absent']
      exact .nil
    · rw [found, found', Option.bind_some, Option.bind_some]
      cases schemas.view with
      | object entries => exact entries rfl
      | _ => exact .nil

theorem rel_get?_of_entries {entries entries' : List (String × Json)} (each : entries.Forall₂ Json.VariesEntry entries')
    (name : String) : Option.Rel (Json.Varies false) (Table.get? name entries) (Table.get? name entries') := by
  induction each with
  | nil => exact .none
  | @cons entry entry' _ _ here _ ih =>
      rw [Table.get?_cons, Table.get?_cons, ← here.1]
      split
      · exact .some here.2
      · exact ih

theorem schema_varies (varies : doc.Varies other) (name : String) :
    Option.Rel (Json.Varies false) (Table.get? name doc.schemas) (Table.get? name other.schemas) :=
  rel_get?_of_entries (schemas_varies varies) name

variable (varies : doc.Varies other)

include varies

theorem checkTitle_eq {named : Bool} {schema schema' : Json} (inner : Json.Varies named schema schema') :
    checkTitle doc schema location = checkTitle other schema' location := by
  have same : schema.textAt? "$ref" = schema'.textAt? "$ref" := inner.textAt? _ fun _ => by decide
  unfold checkTitle
  rw [← same]
  split
  · rfl
  · rename_i name _
    have title : Option.Rel (Json.Varies false) ((Table.get? name doc.schemas).bind (·.get? "title"))
        ((Table.get? name other.schemas).bind (·.get? "title")) :=
      rel_bind (schema_varies varies name) fun inner => inner.get? "title" fun _ => by decide
    dsimp only
    rw [titleViolation?_eq title]

theorem passes_checkMedia {media media' : Json} (inner : Json.Varies false media media') :
    Passes (checkMedia doc location media) (checkMedia other location media') := by
  unfold checkMedia
  rcases rel_cases (inner.get? "schema" fun _ => by decide) with ⟨absent, absent'⟩ | ⟨_, _, found, found', schema⟩
  · rw [absent, absent']
    exact .pure
  · rw [found, found']
    have resolves := Schema.Resolving.descends_resolve (schema_varies varies) schema.mono
    refine (Passes.resolving resolves).bind fun _ _ => ?_
    rw [checkTitle_eq varies schema]
    exact .lift _

/-- What a reference leads to is a body that varies, too. -/
theorem passes_checkBody {value value' : Json} (twin : Twin doc false value value') :
    Passes (checkBody doc location value) (checkBody other location value') := by
  have same : value.textAt? "$ref" = value'.textAt? "$ref" := twin.varies.textAt? _ fun _ => by decide
  unfold checkBody
  extract_lets check check'
  have inline {body body' : Json} (inner : Json.Varies false body body') : Passes (check body) (check' body') := by
    unfold check check'
    dsimp only
    rw [← inner.isObject]
    split
    · exact .throw_bind
    · rcases rel_cases (inner.get? "content" fun _ => by decide) with ⟨absent, absent'⟩ | ⟨_, _, found, found', content⟩
      · rw [absent, absent']
        exact .pure
      · rw [found, found']
        cases content.view with
        | object entries => exact .forM (entries rfl) fun both => passes_checkMedia varies both.2
        | _ => exact .throw
  rw [← same]
  cases written : value.textAt? "$ref" with
  | none =>
      dsimp only
      rw [pure_bind, pure_bind]
      exact inline twin.varies
  | some reference =>
      obtain ⟨place, leads⟩ := twin.stands
      dsimp only
      rcases rel_cases (varies.leads (Json.mem_references_of_follow leads written)) with ⟨absent, absent'⟩ | ⟨_, _, found, found', inner⟩
      · rw [absent, absent']
        exact .throw_bind
      · rw [found, found']
        dsimp only
        rw [pure_bind, pure_bind]
        exact inline inner

end Bodies

/-! ## Operations -/

section Operations

/-- Operations with the same method and path. -/
structure TwinOperation (doc : Document) (op op' : Operation) : Prop where
  path : op.path = op'.path
  key : op.key = op'.key
  value : Twin doc false op.value op'.value
  item : Twin doc false op.item op'.item

variable {op op' : Operation}

theorem TwinOperation.location (twin : TwinOperation doc op op') : op.location = op'.location := by
  rw [Operation.location, Operation.location, Operation.method, Operation.method, twin.path, twin.key]

theorem twin_operationsOf {entry entry' : String × Json} (both : TwinEntry doc entry entry') :
    (operationsOf entry.1 entry.2).Forall₂ (TwinOperation doc) (operationsOf entry'.1 entry'.2) := by
  obtain ⟨path, item⟩ := entry
  obtain ⟨path', item'⟩ := entry'
  obtain ⟨rfl : path = path', twin : Twin doc false item item'⟩ := both
  have all : OperationKey.all.Forall₂ Eq OperationKey.all := List.forall₂_same.mpr fun _ _ => rfl
  apply List.rel_filterMap (R := Eq) _ all
  rintro key _ rfl
  have structural : key.text ∉ valueKeywords := by cases key <;> decide
  dsimp only
  rcases rel_cases (twin.get? key.text fun _ => structural) with ⟨absent, absent'⟩ | ⟨_, _, found, found', value⟩
  · rw [absent, absent']
    exact .none
  · rw [found, found']
    exact .some ⟨rfl, rfl, value.mono, twin⟩

variable (varies : doc.Varies other) (keyed : doc.root.Keyed)

include varies

theorem checkParameters_eq (twin : TwinOperation doc op op') : checkParameters doc op = checkParameters other op' := by
  unfold checkParameters
  rw [twin.location, checkParameterList_eq varies twin.item, checkParameterList_eq varies twin.value]

theorem passes_checkRequest (twin : TwinOperation doc op op') : Passes (checkRequest doc op) (checkRequest other op') := by
  unfold checkRequest
  rcases rel_cases (twin.value.get? "requestBody" fun _ => by decide) with ⟨absent, absent'⟩ | ⟨_, _, found, found', body⟩
  · rw [absent, absent']
    exact .pure
  · rw [found, found', twin.location]
    exact passes_checkBody varies body.mono

theorem passes_checkComponent {referenced : SortedSet String} {entry entry' : String × Json}
    (both : Json.VariesEntry entry entry') :
    Passes (checkComponent doc referenced entry) (checkComponent other referenced entry') := by
  obtain ⟨name, schema⟩ := entry
  obtain ⟨name', schema'⟩ := entry'
  obtain ⟨rfl : name = name', inner : Json.Varies false schema schema'⟩ := both
  unfold checkComponent
  have resolves := Schema.Resolving.leads_resolveComponent (schema_varies varies) name
  refine (Passes.resolving resolves).bind fun _ _ => ?_
  dsimp only
  rw [titleViolation?_eq (inner.get? "title" fun _ => by decide)]
  split
  · exact .throw
  · exact .pure

include keyed

theorem twin_operations : doc.operations.Forall₂ (TwinOperation doc) other.operations := by
  unfold Document.operations Document.paths?
  rcases rel_cases varies.paths with ⟨absent, absent'⟩ | ⟨paths, _, found, found', inner⟩
  · rw [absent, absent']
    exact .nil
  · have twin : Twin doc true paths _ := ⟨inner, (Twin.root varies).stands_step found⟩
    rw [found, found', Option.bind_some, Option.bind_some]
    cases inner.view with
    | object _ => exact List.rel_flatMap (twin.entries keyed) fun _ _ => twin_operationsOf
    | _ => exact .nil

theorem passes_checkResponses (twin : TwinOperation doc op op') :
    Passes (checkResponses doc op) (checkResponses other op') := by
  unfold checkResponses
  rcases rel_cases (twin.value.get? "responses" fun _ => by decide) with ⟨absent, absent'⟩ | ⟨_, _, found, found', responses⟩
  · rw [absent, absent']
    exact .pure
  · rw [found, found']
    have table : nameTables.contains "responses" = true := by decide
    rw [table] at responses
    cases responses.varies.view with
    | object _ =>
        refine .forM (responses.entries keyed) fun {entry entry'} both => ?_
        dsimp only
        rw [twin.location, both.1]
        exact passes_checkBody varies both.2
    | _ => exact .throw

theorem passes_checkOperation (twin : TwinOperation doc op op') :
    Passes (checkOperation doc op) (checkOperation other op') := by
  unfold checkOperation
  rw [checkParameters_eq varies twin]
  exact (Passes.lift _).bind fun _ _ => (passes_checkRequest varies twin).bind fun _ _ =>
    passes_checkResponses varies keyed twin

theorem passes_checkSchemas (referenced : SortedSet String) :
    Passes (checkSchemas doc referenced) (checkSchemas other referenced) :=
  (Passes.forM (twin_operations varies keyed) (passes_checkOperation varies keyed)).bind fun _ _ =>
    .forM (schemas_varies varies) (passes_checkComponent varies)

/-- A document that varies from an accepted one in data is accepted. -/
theorem check_of_varies (accepted : check doc = .ok ()) : check other = .ok () := by
  obtain ⟨_, version, accepted⟩ := bind_eq_ok_iff.mp accepted
  obtain ⟨_, paths, accepted⟩ := bind_eq_ok_iff.mp accepted
  obtain ⟨referenced, references, accepted⟩ := bind_eq_ok_iff.mp accepted
  rw [checkVersion_eq varies] at version
  rw [checkPaths_eq varies] at paths
  refine bind_eq_ok_iff.mpr ⟨_, version, bind_eq_ok_iff.mpr ⟨_, paths, bind_eq_ok_iff.mpr
    ⟨referenced, references_check varies keyed references, ?_⟩⟩⟩
  cases run : (checkSchemas doc referenced).run [] with
  | error violation =>
      rw [StateT.run'_eq, run] at accepted
      cases accepted
  | ok outcome =>
      have fresh (name : String) : Option.Rel Schema.Node.Alike (Table.get? name []) (Table.get? name []) := .none
      obtain ⟨_, _, passes, _⟩ := passes_checkSchemas varies keyed referenced fresh run
      rw [StateT.run'_eq, passes]
      rfl

end Operations

/-- Data in a document that is accepted may be replaced, if the object around it does not stand under a key that is
taken for a table of names. -/
theorem check_replace (keyed : doc.root.Keyed) (accepted : check doc = .ok ()) {names : List String} {keyword : String}
    (known : keyword ∈ valueKeywords) (inner : names ≠ ["paths"])
    (around : ∀ last, names.getLast? = some last → last ∉ nameTables) (free : doc.pointsInto (names ++ [keyword]) = false)
    (new : Json) : check (doc.replace (names ++ [keyword]) new) = .ok () :=
  check_of_varies (Document.varies_replace known inner around free) keyed accepted

/-- The schema of a property that shares its name with a keyword for tables of names. -/
def contentSchema : Json := .object [("type", .string "object"), ("example", .object [])]

def messageDocument : Document where
  path := "message.json"
  relativePath := "message.json"
  fields :=
    [("openapi", .string "3.0.3"),
     ("components", .object [("schemas", .object [("Message", .object
       [("type", .string "object"),
        ("properties", .object
          [("default", .object [("type", .string "string"), ("example", .string "none")]),
           ("content", contentSchema)])])])])]

/-- Where the schema of a property of a message stands. -/
def placeOf (property : String) : List String := ["components", "schemas", "Message", "properties", property]

/-- A value that looks like a reference to nowhere. -/
def lostReference : Json := .object [("$ref", .string "#/nowhere")]

theorem keyed_messageDocument : messageDocument.root.Keyed := by
  simp [messageDocument, contentSchema, Document.root, Table.keys]

theorem check_messageDocument : check messageDocument = .ok () := by
  have passes : (check messageDocument).isOk = true := by decide +kernel
  obtain ⟨⟨⟩, accepted⟩ := exists_eq_ok_of_isOk passes
  exact accepted

theorem check_replace_message : messageDocument.root.Keyed ∧ check messageDocument = .ok () ∧
    "example" ∈ valueKeywords ∧ placeOf "default" ≠ ["paths"] ∧
    (∀ last, (placeOf "default").getLast? = some last → last ∉ nameTables) ∧
    messageDocument.pointsInto (placeOf "default" ++ ["example"]) = false ∧
    check (messageDocument.replace (placeOf "default" ++ ["example"]) lostReference) = .ok () := by
  have around : ∀ last, (placeOf "default").getLast? = some last → last ∉ nameTables := by
    rintro last ⟨⟩
    decide
  have free : messageDocument.pointsInto (placeOf "default" ++ ["example"]) = false := by decide +kernel
  refine ⟨keyed_messageDocument, check_messageDocument, by decide, by decide, around, free, ?_⟩
  exact check_replace keyed_messageDocument check_messageDocument (by decide) (by decide) around free lostReference

/-- The example of a property that is named like a table of names is searched. -/
theorem check_searches_data : messageDocument.root.Keyed ∧ check messageDocument = .ok () ∧
    (∃ fields, Table.get? "Message" messageDocument.schemas = some (.object fields) ∧
      contentSchema ∈ Schema.inner fields) ∧
    Pointer.follow messageDocument.root (placeOf "content") = some contentSchema ∧ "example" ∈ valueKeywords ∧
    messageDocument.pointsInto (placeOf "content" ++ ["example"]) = false ∧
    check (messageDocument.replace (placeOf "content" ++ ["example"]) lostReference) ≠ .ok () := by
  have fails : (check (messageDocument.replace (placeOf "content" ++ ["example"]) lostReference)).isOk = false := by
    decide +kernel
  refine ⟨keyed_messageDocument, check_messageDocument, ⟨_, rfl, ?_⟩, rfl, by decide, by decide +kernel, ?_⟩
  · exact List.mem_cons_of_mem _ List.mem_cons_self
  · intro passes
    rw [passes] at fails
    cases fails

end Structure

end ApiAtlas
