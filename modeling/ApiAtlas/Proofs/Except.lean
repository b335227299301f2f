import Mathlib.Data.List.Forall2

/-! # Computations that succeed

When a chain of computations, or a computation for each element of a list, comes to a value, also with
a state that goes on after an error.
-/

namespace ApiAtlas

variable {ε δ α β : Type}

theorem bind_eq_ok_iff {first : Except ε α} {next : α → Except ε β} {result : β} :
    (first >>= next) = .ok result ↔ ∃ value, first = .ok value ∧ next value = .ok result := by
  cases first with
  | error error => simp [bind, Except.bind]
  | ok value => simp [bind, Except.bind]

/-- A check that comes first has to pass. -/
theorem check_bind_eq_ok_iff {first : Except ε Unit} {next : Unit → Except ε β} {result : β} :
    (first >>= next) = .ok result ↔ first = .ok () ∧ next () = .ok result := by
  cases first with
  | error error => simp [bind, Except.bind]
  | ok value => simp [bind, Except.bind]

theorem map_eq_ok_iff {first : Except ε α} {change : α → β} {result : β} :
    first.map change = .ok result ↔ ∃ value, first = .ok value ∧ change value = result := by
  cases first <;> simp [Except.map]

theorem mapError_eq_ok_iff {first : Except ε α} {change : ε → δ} {value : α} :
    first.mapError change = .ok value ↔ first = .ok value := by
  cases first <;> simp [Except.mapError]

theorem exists_left_of_forall₂ {R : α → β → Prop} {first : List α} {second : List β} {b : β}
    (each : List.Forall₂ R first second) (member : b ∈ second) : ∃ a ∈ first, R a b := by
  induction each with
  | nil => cases member
  | cons here _ ih =>
      rcases List.mem_cons.mp member with rfl | member
      · exact ⟨_, List.mem_cons_self, here⟩
      · obtain ⟨a, there, related⟩ := ih member
        exact ⟨a, List.mem_cons_of_mem _ there, related⟩

theorem mapM_eq_ok_iff {step : α → Except ε β} {inputs : List α} {values : List β} :
    inputs.mapM step = .ok values ↔ inputs.Forall₂ (fun input value => step input = .ok value) values := by
  induction inputs generalizing values with
  | nil => cases values <;> simp [pure, Except.pure]
  | cons input inputs ih =>
      rw [List.mapM_cons, bind_eq_ok_iff]
      cases values with
      | nil => simp [bind_eq_ok_iff, pure, Except.pure]
      | cons value values => simp [bind_eq_ok_iff, ih, pure, Except.pure]

theorem exists_of_mapM_eq_error {step : α → Except ε β} {inputs : List α} {error : ε}
    (h : inputs.mapM step = .error error) : ∃ input ∈ inputs, step input = .error error := by
  induction inputs with
  | nil => cases h
  | cons input inputs ih =>
      rw [List.mapM_cons] at h
      cases first : step input with
      | error reason =>
          rw [first] at h
          cases h
          exact ⟨input, List.mem_cons_self, first⟩
      | ok value =>
          cases rest : inputs.mapM step with
          | error reason =>
              rw [first, rest] at h
              cases h
              obtain ⟨other, member, fails⟩ := ih rest
              exact ⟨other, List.mem_cons_of_mem _ member, fails⟩
          | ok values =>
              rw [first, rest] at h
              cases h

/-- Two passes succeed exactly if the step succeeds on each element that is there. -/
theorem mapM_mapM_eq_ok_iff {step : α → Except ε β} {inputs : List (Except ε α)} {values : List β} :
    (inputs.mapM id >>= (·.mapM step)) = .ok values ↔ inputs.map (·.bind step) = values.map .ok := by
  simp only [bind_eq_ok_iff, mapM_eq_ok_iff]
  induction inputs generalizing values with
  | nil => cases values <;> simp
  | cons input inputs ih =>
      cases values with
      | nil => simp
      | cons value values =>
          rw [List.map_cons, List.map_cons, List.cons.injEq, ← ih]
          cases input with
          | error error => simp [Except.bind, List.forall₂_cons_left_iff]
          | ok input =>
              simp only [Except.bind, List.forall₂_cons_left_iff, id_eq, Except.ok.injEq]
              constructor
              · rintro ⟨_, ⟨_, rest, rfl, each, rfl⟩, there⟩
                cases there with
                | cons here there => exact ⟨here, rest, each, there⟩
              · rintro ⟨here, rest, each, there⟩
                exact ⟨input :: rest, ⟨input, rest, rfl, each, rfl⟩, .cons here there⟩

theorem forM_eq_ok_iff {step : α → Except ε Unit} {inputs : List α} :
    inputs.forM step = .ok () ↔ ∀ input ∈ inputs, step input = .ok () := by
  induction inputs with
  | nil => simp [pure, Except.pure]
  | cons input inputs ih =>
      have first : (input :: inputs).forM step = (step input >>= fun _ => inputs.forM step) := rfl
      rw [first, bind_eq_ok_iff, ih, List.forall_mem_cons]
      constructor
      · rintro ⟨⟨⟩, here, rest⟩
        exact ⟨here, rest⟩
      · rintro ⟨here, rest⟩
        exact ⟨(), here, rest⟩

theorem forM_congr {R : α → β → Prop} {step : α → Except ε Unit} {step' : β → Except ε Unit} {inputs : List α}
    {others : List β} (related : inputs.Forall₂ R others) (each : ∀ {input other}, R input other → step input = step' other) :
    inputs.forM step = others.forM step' := by
  induction related with
  | nil => rfl
  | @cons input other inputs others here _ ih =>
      have first : (input :: inputs).forM step = (step input >>= fun _ => inputs.forM step) := rfl
      rw [first, each here, ih]
      rfl

/-- A pass ends with an error exactly if some element is the first to fail, and then with its error. -/
theorem forM_eq_error_iff {step : α → Except ε Unit} {inputs : List α} {error : ε} :
    inputs.forM step = .error error ↔ ∃ before input after, inputs = before ++ input :: after ∧
      (∀ earlier ∈ before, step earlier = .ok ()) ∧ step input = .error error := by
  induction inputs with
  | nil => simp [pure, Except.pure]
  | cons input inputs ih =>
      have first : (input :: inputs).forM step = (step input >>= fun _ => inputs.forM step) := rfl
      rw [first]
      constructor
      · intro fails
        cases here : step input with
        | error reason =>
            rw [here] at fails
            exact ⟨[], input, inputs, rfl, nofun, here.trans fails⟩
        | ok value =>
            rw [here] at fails
            obtain ⟨before, other, after, rfl, passed, there⟩ := ih.mp fails
            exact ⟨input :: before, other, after, rfl, List.forall_mem_cons.mpr ⟨here, passed⟩, there⟩
      · intro ⟨before, other, after, same, passed, there⟩
        cases before with
        | nil =>
            cases same
            simp [there, bind, Except.bind]
        | cons _ before =>
            cases same
            obtain ⟨here, passed⟩ := List.forall_mem_cons.mp passed
            simp only [here, bind, Except.bind]
            exact ih.mpr ⟨before, other, after, rfl, passed, there⟩

theorem mapError_eq_error_iff {first : Except ε α} {change : ε → δ} {error : δ} :
    first.mapError change = .error error ↔ ∃ reason, first = .error reason ∧ error = change reason := by
  cases first <;> simp [Except.mapError, eq_comm]

/-- The errors among results, in order. -/
def failures (results : List (Except ε α)) : List ε :=
  results.filterMap fun
    | .error error => some error
    | .ok _ => none

section Failures

variable {results : List (Except ε α)} {step : α → Except ε β} {inputs : List α} {error : ε} {value : α}

@[simp] theorem failures_nil : failures ([] : List (Except ε α)) = [] := rfl

@[simp] theorem failures_cons_error : failures (.error error :: results) = error :: failures results := rfl

@[simp] theorem failures_cons_ok : failures (.ok value :: results) = failures results := rfl

theorem failures_eq_nil_iff : failures results = [] ↔ ∃ values : List α, results = values.map .ok := by
  induction results with
  | nil => exact iff_of_true rfl ⟨[], rfl⟩
  | cons result results ih =>
      cases result with
      | error error => exact iff_of_false nofun fun ⟨values, same⟩ => by cases values <;> cases same
      | ok value =>
          rw [failures_cons_ok, ih]
          constructor
          · rintro ⟨values, rfl⟩
            exact ⟨value :: values, rfl⟩
          · rintro ⟨values, same⟩
            cases values with
            | nil => cases same
            | cons _ values => exact ⟨values, (List.cons.inj same).2⟩

/-- A pass fails with its first error. -/
theorem mapM_eq_error_iff : inputs.mapM step = .error error ↔ (failures (inputs.map step)).head? = some error := by
  induction inputs with
  | nil => exact iff_of_false nofun nofun
  | cons input inputs ih =>
      rw [List.mapM_cons, List.map_cons]
      cases here : step input with
      | error reason => simp [bind, Except.bind]
      | ok value =>
          rw [failures_cons_ok, ← ih]
          cases rest : inputs.mapM step <;> simp [bind, Except.bind, pure, Except.pure]

/-- Of two passes the first one fails with its first error, and else the second one does. -/
theorem mapM_mapM_eq_error_iff {inputs : List (Except ε α)} :
    (inputs.mapM id >>= (·.mapM step)) = .error error ↔
      (failures inputs).head?.or (failures (inputs.map (·.bind step))).head? = some error := by
  cases early : failures inputs with
  | cons reason others =>
      have fails : inputs.mapM id = .error reason := by
        rw [mapM_eq_error_iff, List.map_id, early, List.head?_cons]
      simp [fails, bind, Except.bind]
  | nil =>
      obtain ⟨values, rfl⟩ := failures_eq_nil_iff.mp early
      have passes : (values.map Except.ok).mapM id = (.ok values : Except ε (List α)) := by
        rw [mapM_eq_ok_iff, List.forall₂_map_left_iff, List.forall₂_same]
        exact fun _ _ => rfl
      have each : (values.map Except.ok).map (·.bind step) = values.map step := by
        rw [List.map_map]
        rfl
      rw [passes, each, List.head?_nil, Option.none_or, ← mapM_eq_error_iff]
      rfl

end Failures

theorem exists_eq_ok_of_isOk {result : Except ε α} (succeeds : result.isOk = true) : ∃ value, result = .ok value := by
  cases result with
  | error error => cases succeeds
  | ok value => exact ⟨value, rfl⟩

theorem toOption_eq_some_iff {result : Except ε α} {value : α} : result.toOption = some value ↔ result = .ok value := by
  cases result <;> simp [Except.toOption]

/-- A result is the only error that it can be if the condition under which it is a value fails. -/
theorem eq_error_of_iff {result : Except ε α} {error : ε} {succeeds : Prop} {refused : ε → Prop}
    (ok_iff : (∃ value, result = .ok value) ↔ succeeds) (fails : ∀ error, result = .error error → refused error)
    (refuted : ¬ succeeds) (only : ∀ {other}, refused other → other = error) : result = .error error := by
  cases ends : result with
  | error other => rw [only (fails other ends)]
  | ok value => exact absurd (ok_iff.mp ⟨value, ends⟩) refuted

/-- What is computed from a result is computed from its value. -/
theorem apply_eq_of_toOption_map {result : Except ε α} {value : α} {f : α → β} {b : β} (succeeds : result = .ok value)
    (computed : result.toOption.map f = some b) : f value = b := by
  subst succeeds
  exact Option.some.inj computed

section State

variable {σ : Type} {step : ExceptT ε (StateM σ) α} {next : α → ExceptT ε (StateM σ) β} {before after : σ}

theorem run_bind_of_ok {value : α} (h : step.run.run before = (.ok value, after)) :
    (step >>= next).run.run before = (next value).run.run after := by
  change ExceptT.bindCont next (step before).1 (step before).2 = _
  change step before = _ at h
  rw [h]
  rfl

theorem run_bind_of_error {error : ε} (h : step.run.run before = (.error error, after)) :
    (step >>= next).run.run before = (.error error, after) := by
  change ExceptT.bindCont next (step before).1 (step before).2 = _
  change step before = _ at h
  rw [h]
  rfl

end State

end ApiAtlas
