import ApiAtlas.Proofs.Model.Keeping

/-! # Strict validation

In strict mode records forbid the undeclared keys that they say nothing about, and formats count, so every record
accepts less. A union that asks for exactly one variant may accept more, though, as soon as strict mode leaves one
of several variants that accept a value in lenient mode. Where that does not happen, strict mode only tightens.
-/

namespace ApiAtlas

namespace Model

open Relation (ReflTransGen)
open Schema (Congruent UnionMode)

variable {models : Namespace} {meaning : Meaning} {name other : String} {model : Definition} {strict : Bool}

/-- What the schema of a model says about a value in a mode. -/
def Namespace.answers (models : Namespace) (strict : Bool) (name : String) (value : Json) : Bool :=
  (Handle.ofName? models name).any fun handle => (Payload.check (handle.jsonSchema strict) strict value).isEmpty

/-- What models accept in a mode, read to a depth. -/
def Namespace.readWithin (models : Namespace) (strict : Bool) : (depth : Nat) → String → Json → Bool
  | 0, _ => fun _ => true
  | depth + 1, name =>
    match SortedTable.get? name models with
    | some model => model.acceptsIn (models.readWithin strict depth) strict
    | none => fun _ => true

theorem readWithin_eq (means : models.Means meaning) {first second : Nat} (enough : meaning.rank name < first)
    (enough' : meaning.rank name < second) :
    models.readWithin strict first name = models.readWithin strict second name := by
  induction first generalizing second name with
  | zero => exact absurd enough (Nat.not_lt_zero _)
  | succ first ih =>
      cases second with
      | zero => exact absurd enough' (Nat.not_lt_zero _)
      | succ second =>
          rw [Namespace.readWithin, Namespace.readWithin]
          cases there : SortedTable.get? name models with
          | none => rfl
          | some model =>
              refine Definition.acceptsIn_congr fun other mentioned => ih ?_ ?_ <;>
                have less := ((means there).earlier other mentioned).2 <;> omega

/-- What models say is what they accept, given what they say of each other. -/
theorem Namespace.Means.reads_answers (means : models.Means meaning) (strict : Bool) :
    models.Reads strict (models.answers strict) := by
  -- Reading a model to just above its rank is already what it says, since nothing it mentions ranks as high.
  have reads : models.Reads strict fun name => models.readWithin strict (meaning.rank name + 1) name := by
    intro name model there
    dsimp only
    rw [readWithin, there]
    refine Definition.acceptsIn_congr fun other mentioned => ?_
    have less := ((means there).earlier other mentioned).2
    exact readWithin_eq means less (Nat.lt_succ_self _)
  have same : ∀ name, models.Has name → models.answers strict name =
      models.readWithin strict (meaning.rank name + 1) name := by
    rintro name ⟨model, there⟩
    funext value
    have named : Handle.ofName? models name = some ⟨models, model⟩ := by rw [Handle.ofName?, there]; rfl
    rw [answers, named, Option.any_some]
    exact check_jsonSchema means reads there value
  intro name model there
  rw [same name ⟨model, there⟩]
  refine (reads there).trans (Definition.acceptsIn_congr fun other mentioned => ?_)
  exact (same other ((means there).earlier other mentioned).1).symm

/-- No two of these variants accept in lenient mode what only one of them accepts in strict mode. -/
def Namespace.KeepsApart (models : Namespace) (variants : List TypeExpr) : Prop :=
  ∀ value, (TypeExpr.variantsAccept (models.answers true) variants value).count true = 1 →
    (TypeExpr.variantsAccept (models.answers false) variants value).count true ≤ 1

theorem Namespace.KeepsApart.single {variants : List TypeExpr} (apart : models.KeepsApart variants) :
    Single (fun first second => first = true → second = true) (models.answers true) (models.answers false)
      variants := by
  intro each value one
  simp only [UnionMode.holds, beq_iff_eq] at one ⊢
  refine le_antisymm (apart value one) ?_
  rw [Nat.succ_le_iff, TypeExpr.variantsAccept_eq, List.count_pos_iff, List.mem_map]
  have some_ : 0 < (TypeExpr.variantsAccept (models.answers true) variants value).count true := by omega
  rw [TypeExpr.variantsAccept_eq, List.count_pos_iff, List.mem_map] at some_
  obtain ⟨variant, member, accepts⟩ := some_
  exact ⟨variant, member, each variant member value accepts⟩

/-- The exclusive variants in a model and in all that it reaches are kept apart. -/
def Namespace.Separates (models : Namespace) (root : String) : Prop :=
  ∀ name model, ReflTransGen models.Mentions root name → SortedTable.get? name models = some model →
    ∀ variants ∈ model.body.exclusives, models.KeepsApart variants

theorem answers_of_strict (means : models.Means meaning) (separates : models.Separates name) (has : models.Has name)
    {value : Json} (accepted : models.answers true name value = true) : models.answers false name value = true := by
  -- The induction is on the rank, which is smaller for what is mentioned.
  induction rank : meaning.rank name using Nat.strong_induction_on generalizing name value with
  | _ rank ih =>
      obtain ⟨model, there⟩ := has
      rw [means.reads_answers true there] at accepted
      rw [means.reads_answers false there]
      refine Definition.acceptsIn_rel Congruent.imp (by decide) (fun other mentioned value accepted => ?_)
        (fun variants member => (separates name model .refl there variants member).single) value accepted
      obtain ⟨there', less⟩ := (means there).earlier other mentioned
      refine ih _ (rank ▸ less) (fun further found path => ?_) there' accepted rfl
      exact separates further found (.head ⟨model, there, mentioned⟩ path)

/-- Strict validation only tightens as long as no two exclusive variants that a model reaches accept in lenient
mode what only one of them accepts in strict mode: what the strict validator of the model accepts, the lenient one
accepts as well. -/
theorem accepts_of_strict {doc : Document} {compiled : CompiledDocument} (keyed : doc.root.Keyed)
    (compiles : compileDocument doc = .ok compiled) {handle : Handle} (named : compiled.model? name = some handle)
    (separates : compiled.models.Separates name) {tight loose : Payload.Validator}
    (built : handle.validator true = .ok tight) (built' : handle.validator false = .ok loose) (value : Json)
    (accepted : tight.accepts value = true) : loose.accepts value = true := by
  obtain ⟨stage, _, ends⟩ := exists_endsAt keyed compiles
  have means : compiled.models.Means stage.meaning := ends.models ▸ stage.means.models
  have has : compiled.models.Has name := by
    obtain ⟨model, there, _⟩ := Option.map_eq_some_iff.mp named
    exact ⟨model, there⟩
  rw [accepts_validator means (means.reads_answers true) named built] at accepted
  rw [accepts_validator means (means.reads_answers false) named built']
  exact answers_of_strict means separates has accepted

def verdicts? (doc : Document) (name : String) (value : Json) : Option (Bool × Bool) := do
  let compiled ← (compileDocument doc).toOption
  let handle ← compiled.model? name
  let tight ← (handle.validator true).toOption
  let loose ← (handle.validator false).toOption
  return (tight.accepts value, loose.accepts value)

theorem exists_of_verdicts? {doc : Document} {value : Json} {verdicts : Bool × Bool}
    (found : verdicts? doc name value = some verdicts) : ∃ compiled handle tight loose,
      compileDocument doc = .ok compiled ∧ compiled.model? name = some handle ∧
      handle.validator true = .ok tight ∧ handle.validator false = .ok loose ∧
      tight.accepts value = verdicts.1 ∧ loose.accepts value = verdicts.2 := by
  simp only [verdicts?, Option.bind_eq_bind, Option.bind_eq_some_iff, toOption_eq_some_iff] at found
  obtain ⟨compiled, compiles, handle, named, tight, built, loose, built', same⟩ := found
  cases same
  exact ⟨compiled, handle, tight, loose, compiles, named, built, built', rfl, rfl⟩

/-- A component whose values have a number or a name, never both. -/
def ticketDocument : Document where
  path := "tickets.json"
  relativePath := "tickets.json"
  fields := [("components", .object [("schemas", .object [("Ticket", .object
    [("type", .string "object"),
     ("properties", .object [("key", .object
        [("oneOf", .array [.object [("type", .string "string")], .object [("type", .string "integer")]])])])])])])]

/-- A choice between two components that leave undeclared keys unsaid. -/
def choiceDocument : Document where
  path := "choice.json"
  relativePath := "choice.json"
  fields := [("components", .object [("schemas", .object
    [("Named", .object
       [("type", .string "object"), ("properties", .object [("name", .object [("type", .string "string")])])]),
     ("Numbered", .object
       [("type", .string "object"), ("properties", .object [("number", .object [("type", .string "string")])])]),
     ("Either", .object [("oneOf", .array
       [.object [("$ref", .string "#/components/schemas/Named")],
        .object [("$ref", .string "#/components/schemas/Numbered")]])])])])]

theorem verdicts_tickets_choice :
    verdicts? ticketDocument "Ticket" (.object [("key", .string "A1")]) = some (true, true) ∧
    ((compileDocument ticketDocument).toOption.all fun compiled => compiled.models.all fun entry =>
      entry.2.body.exclusives.all (· == [.primitive .string, .primitive .integer])) ∧
    verdicts? choiceDocument "Either" (.object [("name", .string "x")]) = some (true, false) := by
  decide +kernel

theorem keepsApart_tickets : models.KeepsApart [.primitive .string, .primitive .integer] := by
  intro value _
  cases value with
  | number n =>
      have one : ([n.integer?.isSome].count true) ≤ 1 := List.count_le_length
      simpa [TypeExpr.variantsAccept, TypeExpr.accepts, Payload.hasType, Schema.Primitive.name] using one
  | _ => simp [TypeExpr.variantsAccept, TypeExpr.accepts, Payload.hasType, Schema.Primitive.name]

theorem accepts_of_strict_tickets : ∃ compiled handle tight loose, compileDocument ticketDocument = .ok compiled ∧
    compiled.model? "Ticket" = some handle ∧ compiled.models.Separates "Ticket" ∧
    handle.validator true = .ok tight ∧ handle.validator false = .ok loose ∧
    tight.accepts (.object [("key", .string "A1")]) = true ∧ loose.accepts (.object [("key", .string "A1")]) = true := by
  have keyed : ticketDocument.root.Keyed := by
    simp [Document.root, ticketDocument, Table.keys]
  obtain ⟨verdicts, variants, _⟩ := verdicts_tickets_choice
  obtain ⟨compiled, handle, tight, loose, compiles, named, built, built', accepted, _⟩ := exists_of_verdicts? verdicts
  have separates : compiled.models.Separates "Ticket" := by
    intro name model _ there listed member
    rw [compiles] at variants
    have each := List.all_eq_true.mp variants _ (SortedTable.mem_of_get? there)
    rw [eq_of_beq (List.all_eq_true.mp each listed member)]
    exact keepsApart_tickets
  exact ⟨compiled, handle, tight, loose, compiles, named, separates, built, built', accepted,
    accepts_of_strict keyed compiles named separates built built' _ accepted⟩

/-- Strict mode can accept more: of two variants that accept a value in lenient mode it leaves one. -/
theorem strict_accepts_more : ¬ ∀ (doc : Document) compiled name (handle : Handle) tight loose,
    doc.root.Keyed → compileDocument doc = .ok compiled → compiled.model? name = some handle →
    handle.validator true = .ok tight → handle.validator false = .ok loose →
    ∀ value, tight.accepts value = true → loose.accepts value = true := by
  intro tightens
  have keyed : choiceDocument.root.Keyed := by
    simp [Document.root, choiceDocument, Table.keys]
  obtain ⟨_, _, verdicts⟩ := verdicts_tickets_choice
  obtain ⟨compiled, handle, tight, loose, compiles, named, built, built', accepted, rejected⟩ :=
    exists_of_verdicts? verdicts
  rw [tightens choiceDocument compiled _ handle tight loose keyed compiles named built built' _ accepted] at rejected
  cases rejected

end Model

end ApiAtlas
