import ApiAtlas.Proofs.Conformance
import ApiAtlas.Proofs.Validation.Acceptance
import ApiAtlas.Validation.Rule

/-! # Stopping at the first rejection or going on

A chain either ends at the first validator that rejects a document, or it reports what all of them say. Both
ways find the same first violation. The validators after it are skipped if the structural one found it, and
have their say otherwise.
-/

namespace ApiAtlas

/-- The error that ends building for a violation: the schema error that it reports, where it is reported, or else
the violation itself under the name of its validator. -/
inductive Violation.EndsAs (violation : Violation) (path validator : String) : BuildError → Prop where
  | schema {cause : Schema.Error} (reports : violation.cause = some cause) :
    EndsAs violation path validator (.schema path (violation.location.getD "") cause)
  | validation (none : violation.cause = none) :
    EndsAs violation path validator (.validation path validator violation)

theorem Violation.endsAs_iff {violation : Violation} {path validator : String} {error : BuildError} :
    violation.EndsAs path validator error ↔ error = BuildError.ofViolation path validator violation := by
  unfold BuildError.ofViolation
  constructor
  · intro ends
    cases ends with
    | schema reports => rw [reports]
    | validation none => rw [none]
  · rintro rfl
    cases reports : violation.cause with
    | some cause => exact .schema reports
    | none => exact .validation reports

namespace ValidatorChain

variable {chain : ValidatorChain} {doc : Document} {before after : List Validator} {validator : Validator}
  {violation : Violation} {error : BuildError}

/-- The validator between `before` and `after` is the first one to reject the document. -/
structure Rejects (chain : ValidatorChain) (doc : Document) (before : List Validator) (validator : Validator)
    (after : List Validator) (violation : Violation) : Prop where
  order : chain.validators = before ++ validator :: after
  accepted : ∀ earlier ∈ before, earlier.validate doc = .ok ()
  rejected : validator.validate doc = .error violation

theorem validate_eq_error_iff : chain.validate doc = .error error ↔
    ∃ before validator after violation, chain.Rejects doc before validator after violation ∧
      violation.EndsAs doc.path validator.name error := by
  simp only [validate, forM_eq_error_iff, mapError_eq_ok_iff, mapError_eq_error_iff, Violation.endsAs_iff]
  constructor
  · rintro ⟨before, validator, after, order, accepted, violation, rejected, ends⟩
    exact ⟨before, validator, after, violation, ⟨order, accepted, rejected⟩, ends⟩
  · rintro ⟨before, validator, after, violation, rejects, ends⟩
    exact ⟨before, validator, after, rejects.order, rejects.accepted, violation, rejects.rejected, ends⟩

theorem outcomeOf_of_accepted (accepted : validator.validate doc = .ok ()) :
    outcomeOf doc validator = (validator.name, .passed) := by
  simp [outcomeOf, accepted]

theorem outcomeOf_of_rejected (rejected : validator.validate doc = .error violation) :
    outcomeOf doc validator = (validator.name, .failed violation) := by
  simp [outcomeOf, rejected]

theorem map_outcomeOf (accepted : ∀ earlier ∈ before, earlier.validate doc = .ok ()) :
    before.map (outcomeOf doc) = before.map fun earlier => (earlier.name, .passed) :=
  List.map_congr_left fun earlier member => outcomeOf_of_accepted (accepted earlier member)

theorem fst_outcomeOf : (outcomeOf doc validator).1 = validator.name := by
  unfold outcomeOf
  cases validator.validate doc <;> rfl

theorem names_check : (chain.check doc).outcomes.map (·.1) = chain.names := by
  simp only [check, names, validators]
  split <;> simp [Function.comp_def, fst_outcomeOf]

/-- What a validator says about a document. -/
inductive Verdict (doc : Document) (validator : Validator) : Outcome → Prop where
  | passed (accepted : validator.validate doc = .ok ()) : Verdict doc validator .passed
  | failed {violation : Violation} (rejected : validator.validate doc = .error violation) :
      Verdict doc validator (.failed violation)

theorem Verdict.unique {outcome other : Outcome} (here : Verdict doc validator outcome)
    (there : Verdict doc validator other) : outcome = other := by
  cases here <;> cases there <;> simp_all

/-- The outcome of a validator is what it says, under its name. -/
theorem outcomeOf_eq_iff {verdict : String × Outcome} : outcomeOf doc validator = verdict ↔
    verdict.1 = validator.name ∧ Verdict doc validator verdict.2 := by
  have verdict' : Verdict doc validator (outcomeOf doc validator).2 := by
    cases said : validator.validate doc with
    | ok => simpa [outcomeOf, said] using Verdict.passed said
    | error violation => simpa [outcomeOf, said] using Verdict.failed said
  constructor
  · rintro rfl
    exact ⟨fst_outcomeOf, verdict'⟩
  · rintro ⟨name, there⟩
    exact Prod.ext (fst_outcomeOf.trans name.symm) (verdict'.unique there)

/-- What the validators of a chain say about a document. The structural one is asked first. If it rejects the document
the others are skipped, and otherwise each of them is asked. -/
inductive Verdicts (chain : ValidatorChain) (doc : Document) : List (String × Outcome) → Prop where
  | rejected {violation : Violation} (structural : Structure.validator.validate doc = .error violation) :
      Verdicts chain doc ((Structure.validator.name, .failed violation) ::
        chain.others.map fun other => (other.name, .skipped))
  | asked {others : List (String × Outcome)} (structural : Structure.validator.validate doc = .ok ())
      (each : chain.others.Forall₂ (fun other said => said.1 = other.name ∧ Verdict doc other said.2) others) :
      Verdicts chain doc ((Structure.validator.name, .passed) :: others)

theorem verdicts_iff {verdicts : List (String × Outcome)} :
    Verdicts chain doc verdicts ↔ verdicts = (chain.check doc).outcomes := by
  have asked (others : List (String × Outcome)) :
      chain.others.Forall₂ (fun other said => said.1 = other.name ∧ Verdict doc other said.2) others ↔
        chain.others.map (outcomeOf doc) = others := by
    simp only [← outcomeOf_eq_iff]
    rw [← List.forall₂_map_left_iff (R := Eq), List.forall₂_eq_eq_eq]
  constructor
  · intro verdicts
    cases verdicts with
    | rejected structural => simp [check, outcomeOf_of_rejected structural, Outcome.isFailed]
    | asked structural each =>
        rw [← (asked _).mp each]
        simp [check, outcomeOf_of_accepted structural, Outcome.isFailed]
  · rintro rfl
    cases structural : Structure.validator.validate doc with
    | error violation => simpa [check, outcomeOf_of_rejected structural, Outcome.isFailed] using .rejected structural
    | ok => simpa [check, outcomeOf_of_accepted structural, Outcome.isFailed] using .asked structural ((asked _).mpr rfl)

/-- No validator rejects a document before the first one that does. -/
theorem Rejects.eq_nil_of_append {others middle : List Validator} {other : Validator} {reason : Violation}
    (here : chain.Rejects doc before validator after violation)
    (there : chain.Rejects doc (before ++ middle) other others reason) : middle = [] := by
  cases middle with
  | nil => rfl
  | cons next middle =>
      have order := here.order.symm.trans there.order
      rw [List.append_assoc, List.append_cancel_left_eq, List.cons_append, List.cons.injEq] at order
      have accepted := there.accepted next (by simp)
      rw [← order.1, here.rejected] at accepted
      cases accepted

theorem Rejects.unique {before' after' : List Validator} {validator' : Validator} {violation' : Violation}
    (here : chain.Rejects doc before validator after violation)
    (there : chain.Rejects doc before' validator' after' violation') :
    before = before' ∧ validator = validator' ∧ after = after' ∧ violation = violation' := by
  have same : before = before' := by
    rcases List.append_eq_append_iff.mp (here.order.symm.trans there.order) with ⟨middle, rfl, _⟩ | ⟨middle, rfl, _⟩
    · rw [here.eq_nil_of_append there, List.append_nil]
    · rw [there.eq_nil_of_append here, List.append_nil]
  subst same
  have order := here.order.symm.trans there.order
  rw [List.append_cancel_left_eq, List.cons.injEq] at order
  obtain ⟨rfl, rfl⟩ := order
  exact ⟨rfl, rfl, rfl, Except.error.inj (here.rejected.symm.trans there.rejected)⟩

/-- What the validators after the first rejection say: nothing if that was the structural one. -/
def laterOutcomes (doc : Document) (before after : List Validator) : List (String × Outcome) :=
  if before.isEmpty then after.map fun later => (later.name, .skipped) else after.map (outcomeOf doc)

theorem Rejects.outcomes (rejects : chain.Rejects doc before validator after violation) :
    (chain.check doc).outcomes = before.map (fun earlier => (earlier.name, .passed)) ++
      (validator.name, .failed violation) :: laterOutcomes doc before after := by
  obtain ⟨order, accepted, rejected⟩ := rejects
  cases before with
  | nil =>
      simp only [validators, List.nil_append, List.cons.injEq] at order
      obtain ⟨rfl, rfl⟩ := order
      simp [check, outcomeOf_of_rejected rejected, Outcome.isFailed, laterOutcomes]
  | cons first before =>
      simp only [validators, List.cons_append, List.cons.injEq] at order
      obtain ⟨rfl, others⟩ := order
      obtain ⟨first, accepted⟩ := List.forall_mem_cons.mp accepted
      simp [check, others, outcomeOf_of_accepted first, outcomeOf_of_rejected rejected, map_outcomeOf accepted,
        Outcome.isFailed, laterOutcomes]

/-- Both ways to run a chain agree. Building goes on exactly if the report finds no violation. If it ends, then with
the first violation of the report: the validators before it passed, and it was found by the validator that ends
building. -/
theorem validate_agrees_check (chain : ValidatorChain) (doc : Document) :
    (chain.validate doc = .ok () ↔ (chain.check doc).passed) ∧
    ∀ error, chain.validate doc = .error error → ∃ before validator after violation,
      chain.Rejects doc before validator after violation ∧
      (chain.check doc).outcomes = before.map (fun earlier => (earlier.name, .passed)) ++
        (validator.name, .failed violation) :: laterOutcomes doc before after ∧
      violation.EndsAs doc.path validator.name error := by
  refine ⟨passed_check_iff.symm, ?_⟩
  intro error fails
  obtain ⟨before, validator, after, violation, rejects, ends⟩ := validate_eq_error_iff.mp fails
  exact ⟨before, validator, after, violation, rejects, rejects.outcomes, ends⟩

/-- At most one path. -/
def fewRule : Rule := { name := "Few", maxPaths := some 1 }

/-- No path at all. -/
def noneRule : Rule := { name := "None", maxPaths := some 0 }

def namedRule : Rule := { name := "Named", requireOperationId := true }

/-- Of these rules the shelter obeys the first one only. -/
def shelterChain : ValidatorChain where
  others := [fewRule.validator, noneRule.validator, namedRule.validator]

def onePath : Violation where
  kind := "TooManyPaths"
  message := "expected at most 0 path(s), found 1"

def unnamed : Violation where
  kind := "MissingOperationId"
  message := "operation has no operationId"
  location := some "/pets PUT"

theorem rejects_shelter : shelterChain.Rejects shelterDocument [Structure.validator, fewRule.validator]
    noneRule.validator [namedRule.validator] onePath where
  order := rfl
  accepted := by
    have structural : (Structure.validator.validate shelterDocument).isOk = true := by decide +kernel
    obtain ⟨⟨⟩, structural⟩ := exists_eq_ok_of_isOk structural
    exact List.forall_mem_cons.mpr ⟨structural, List.forall_mem_singleton.mpr rfl⟩
  rejected := rfl

theorem validate_agrees_check_shelter :
    shelterChain.validate shelterDocument = .error (.validation "shelter.json" "None" onePath) ∧
    (shelterChain.check shelterDocument).outcomes = [("DefaultValidator", .passed), ("Few", .passed),
      ("None", .failed onePath), ("Named", .failed unnamed)] := by
  have rejected : (shelterChain.validate shelterDocument).isOk = false := by decide +kernel
  cases fails : shelterChain.validate shelterDocument with
  | ok _ =>
      rw [fails] at rejected
      cases rejected
  | error error =>
      obtain ⟨before, validator, after, violation, rejects, outcomes, ends⟩ :=
        (validate_agrees_check shelterChain shelterDocument).2 error fails
      obtain ⟨rfl, rfl, rfl, rfl⟩ := rejects.unique rejects_shelter
      have named : namedRule.validator.validate shelterDocument = .error unnamed := rfl
      have later : laterOutcomes shelterDocument [Structure.validator, fewRule.validator] [namedRule.validator] =
          [("Named", .failed unnamed)] := congrArg List.singleton (outcomeOf_of_rejected named)
      rw [later] at outcomes
      cases ends with
      | schema reports => cases reports
      | validation none => exact ⟨rfl, outcomes⟩

end ValidatorChain

end ApiAtlas
