import ApiAtlas.Schema.Inquiry

/-! # Transcripts of inquiries

A transcript lists what an inquiry that came to a value asked and was answered, in order. Which
schemas an inquiry may ask about is said separately, since one that fails has no transcript.
-/

namespace ApiAtlas

namespace Schema

namespace Inquiry

variable {α β : Type}

/-- The questions and answers on the way to a value. -/
inductive Transcript : Inquiry α → List (Json × Node) → α → Prop where
  | done (value : α) : Transcript (.done value) [] value
  | ask {schema : Json} {next : Node → Inquiry α} {node : Node} {answers : List (Json × Node)}
      {value : α} :
    Transcript (next node) answers value → Transcript (.ask schema next) ((schema, node) :: answers) value

/-- Whatever the answers, the inquiry asks about such schemas only. -/
inductive AsksOnly (P : Json → Prop) : Inquiry α → Prop where
  | done (value : α) : AsksOnly P (.done value)
  | fail (objection : Objection) : AsksOnly P (.fail objection)
  | ask {schema : Json} {next : Node → Inquiry α} :
    P schema → (∀ node, AsksOnly P (next node)) → AsksOnly P (.ask schema next)

namespace Transcript

@[simp] theorem done_iff {value result : α} {answers : List (Json × Node)} :
    Transcript (.done value) answers result ↔ answers = [] ∧ result = value := by
  constructor
  · intro h
    cases h
    exact ⟨rfl, rfl⟩
  · rintro ⟨rfl, rfl⟩
    exact .done _

@[simp] theorem fail_iff {objection : Objection} {result : α} {answers : List (Json × Node)} :
    ¬ Transcript (.fail objection) answers result := by
  intro h
  cases h

@[simp] theorem reject_iff {reason : Malformation} {result : α} {answers : List (Json × Node)} :
    ¬ Transcript (reject reason) answers result := fail_iff

theorem ask_iff {schema : Json} {next : Node → Inquiry α} {result : α}
    {answers : List (Json × Node)} :
    Transcript (.ask schema next) answers result ↔
      ∃ node rest, answers = (schema, node) :: rest ∧ Transcript (next node) rest result := by
  constructor
  · intro h
    cases h with
    | ask h => exact ⟨_, _, rfl, h⟩
  · rintro ⟨node, rest, rfl, h⟩
    exact .ask h

@[simp] theorem nodeOf_iff {schema : Json} {node : Node} {answers : List (Json × Node)} :
    Transcript (nodeOf schema) answers node ↔ answers = [(schema, node)] := by
  rw [nodeOf, ask_iff]
  constructor
  · rintro ⟨found, rest, rfl, h⟩
    obtain ⟨rfl, rfl⟩ := done_iff.mp h
    rfl
  · rintro rfl
    exact ⟨node, [], rfl, .done node⟩

/-- A transcript of one reading after another is that of the first, then that of the second. -/
theorem bind_iff {reading : Inquiry α} {next : α → Inquiry β} {result : β}
    {answers : List (Json × Node)} :
    Transcript (reading >>= next) answers result ↔
      ∃ first second value, answers = first ++ second ∧ Transcript reading first value ∧
        Transcript (next value) second result := by
  induction reading generalizing answers with
  | done value =>
      constructor
      · intro h
        exact ⟨[], answers, value, rfl, .done value, h⟩
      · rintro ⟨first, second, found, rfl, h, rest⟩
        obtain ⟨rfl, rfl⟩ := done_iff.mp h
        exact rest
  | fail objection =>
      constructor
      · intro h
        exact absurd h fail_iff
      · rintro ⟨_, _, _, _, h, _⟩
        exact absurd h fail_iff
  | ask schema rest ih =>
      simp only [ask_bind, ask_iff, ih]
      constructor
      · rintro ⟨node, _, rfl, first, second, value, rfl, h, h'⟩
        exact ⟨_, second, value, rfl, ⟨node, first, rfl, h⟩, h'⟩
      · rintro ⟨_, second, value, rfl, ⟨node, first, rfl, h⟩, h'⟩
        exact ⟨node, _, rfl, first, second, value, rfl, h, h'⟩

/-- Inquiries with the same answers come to the same value. -/
theorem value_unique {P : Json → Node → Prop} {reading : Inquiry α} {first second : α}
    {answers others : List (Json × Node)} (h : Transcript reading answers first)
    (fixed : ∀ answer ∈ answers, ∀ {node}, P answer.1 node → answer.2 = node)
    (h' : Transcript reading others second) (given : ∀ answer ∈ others, P answer.1 answer.2) :
    first = second := by
  induction h generalizing others with
  | done => exact (done_iff.mp h').2.symm
  | @ask schema next node answers value _ ih =>
      obtain ⟨other, rest, rfl, onwards⟩ := ask_iff.mp h'
      have same : node = other :=
        fixed (schema, node) List.mem_cons_self (given (schema, other) List.mem_cons_self)
      subst same
      exact ih (fun answer member => fixed answer (List.mem_cons_of_mem _ member)) onwards
        fun answer member => given answer (List.mem_cons_of_mem _ member)

theorem pure_iff {value result : α} {answers : List (Json × Node)} :
    Transcript (pure value) answers result ↔ answers = [] ∧ result = value := done_iff

/-- A value made from that of a reading has the transcript of the reading. -/
theorem bind_pure_iff {reading : Inquiry α} {make : α → β} {result : β}
    {answers : List (Json × Node)} :
    Transcript (reading >>= fun value => pure (make value)) answers result ↔
      ∃ value, Transcript reading answers value ∧ result = make value := by
  rw [bind_iff]
  constructor
  · rintro ⟨first, _, value, rfl, h, last⟩
    obtain ⟨rfl, rfl⟩ := pure_iff.mp last
    exact ⟨value, by rwa [List.append_nil], rfl⟩
  · rintro ⟨value, h, rfl⟩
    exact ⟨answers, [], value, (List.append_nil _).symm, h, pure_iff.mpr ⟨rfl, rfl⟩⟩

theorem mapM_nil_iff {reading : β → Inquiry α} {values : List α} {answers : List (Json × Node)} :
    Transcript ([].mapM reading) answers values ↔ answers = [] ∧ values = [] := by
  rw [List.mapM_nil]
  exact pure_iff

theorem mapM_cons_iff {reading : β → Inquiry α} {input : β} {inputs : List β} {values : List α}
    {answers : List (Json × Node)} :
    Transcript ((input :: inputs).mapM reading) answers values ↔
      ∃ first second value rest, answers = first ++ second ∧ values = value :: rest ∧
        Transcript (reading input) first value ∧ Transcript (inputs.mapM reading) second rest := by
  rw [List.mapM_cons, bind_iff]
  constructor
  · rintro ⟨first, second, value, rfl, h, h'⟩
    obtain ⟨rest, remaining, rfl⟩ := bind_pure_iff.mp h'
    exact ⟨first, second, value, rest, rfl, rfl, h, remaining⟩
  · rintro ⟨first, second, value, rest, rfl, rfl, h, remaining⟩
    exact ⟨first, second, value, rfl, h, bind_pure_iff.mpr ⟨rest, remaining, rfl⟩⟩

theorem mapM_nodeOf_iff {schemas : List Json} {nodes : List Node} {answers : List (Json × Node)} :
    Transcript (schemas.mapM nodeOf) answers nodes ↔
      answers.map (·.1) = schemas ∧ answers.map (·.2) = nodes := by
  induction schemas generalizing nodes answers with
  | nil =>
      rw [mapM_nil_iff, List.map_eq_nil_iff]
      constructor
      · rintro ⟨rfl, rfl⟩
        exact ⟨rfl, rfl⟩
      · rintro ⟨rfl, h⟩
        exact ⟨rfl, h.symm⟩
  | cons schema schemas ih =>
      rw [mapM_cons_iff]
      constructor
      · rintro ⟨_, second, node, rest, rfl, rfl, h, h'⟩
        obtain rfl := nodeOf_iff.mp h
        obtain ⟨rfl, rfl⟩ := ih.mp h'
        exact ⟨rfl, rfl⟩
      · rintro ⟨h, rfl⟩
        obtain ⟨⟨_, node⟩, rest, rfl, rfl, remaining⟩ := List.map_eq_cons_iff.mp h
        exact ⟨[(_, node)], rest, node, rest.map (·.2), rfl, rfl, nodeOf_iff.mpr rfl,
          ih.mpr ⟨remaining, rfl⟩⟩

/-- What a list of readings asks, when each of them asks what it asks whatever the answers. -/
theorem asked_of_mapM {reading : β → Inquiry α} {asked : β → List Json} {inputs : List β}
    {values : List α} {answers : List (Json × Node)}
    (each : ∀ input ∈ inputs, ∀ answers value, Transcript (reading input) answers value →
      answers.map (·.1) = asked input)
    (h : Transcript (inputs.mapM reading) answers values) :
    answers.map (·.1) = inputs.flatMap asked := by
  induction inputs generalizing values answers with
  | nil =>
      obtain ⟨rfl, _⟩ := mapM_nil_iff.mp h
      rfl
  | cons input inputs ih =>
      obtain ⟨first, second, value, rest, rfl, _, h, h'⟩ := mapM_cons_iff.mp h
      rw [List.map_append, List.flatMap_cons, each input List.mem_cons_self first value h,
        ih (fun input member => each input (List.mem_cons_of_mem _ member)) h']

theorem length_of_mapM {reading : β → Inquiry α} {inputs : List β} {values : List α}
    {answers : List (Json × Node)} (h : Transcript (inputs.mapM reading) answers values) :
    values.length = inputs.length := by
  induction inputs generalizing values answers with
  | nil =>
      obtain ⟨_, rfl⟩ := mapM_nil_iff.mp h
      rfl
  | cons input inputs ih =>
      obtain ⟨_, _, _, rest, _, rfl, _, onwards⟩ := mapM_cons_iff.mp h
      exact congrArg (· + 1) (ih onwards)

/-- Every value of a list of readings comes from one of them. -/
theorem mem_of_mapM {reading : β → Inquiry α} {inputs : List β} {values : List α}
    {answers : List (Json × Node)} {value : α}
    (h : Transcript (inputs.mapM reading) answers values) (member : value ∈ values) :
    ∃ input ∈ inputs, ∃ part, part ⊆ answers ∧ Transcript (reading input) part value := by
  induction inputs generalizing values answers with
  | nil =>
      obtain ⟨_, rfl⟩ := mapM_nil_iff.mp h
      exact absurd member List.not_mem_nil
  | cons input inputs ih =>
      obtain ⟨first, second, head, rest, rfl, rfl, h, h'⟩ := mapM_cons_iff.mp h
      rcases List.mem_cons.mp member with rfl | member
      · exact ⟨input, List.mem_cons_self, first, List.subset_append_left _ _, h⟩
      · obtain ⟨input, found, part, subset, h⟩ := ih h' member
        exact ⟨input, List.mem_cons_of_mem _ found, part, fun _ inside => List.mem_append_right _ (subset inside), h⟩

end Transcript

namespace AsksOnly

variable {P : Json → Prop}

theorem bind {reading : Inquiry α} {next : α → Inquiry β} (h : AsksOnly P reading)
    (h' : ∀ value, AsksOnly P (next value)) : AsksOnly P (reading >>= next) := by
  induction h with
  | done value => exact h' value
  | fail objection => exact .fail objection
  | ask here _ ih => exact .ask here ih

theorem mono {Q : Json → Prop} {reading : Inquiry α} (h : AsksOnly P reading)
    (weaker : ∀ schema, P schema → Q schema) : AsksOnly Q reading := by
  induction h with
  | done value => exact .done value
  | fail objection => exact .fail objection
  | ask here _ ih => exact .ask (weaker _ here) ih

theorem nodeOf {schema : Json} (here : P schema) : AsksOnly P (nodeOf schema) :=
  .ask here .done

theorem mapM {reading : β → Inquiry α} {inputs : List β}
    (h : ∀ input ∈ inputs, AsksOnly P (reading input)) : AsksOnly P (inputs.mapM reading) := by
  induction inputs with
  | nil =>
      rw [List.mapM_nil]
      exact .done []
  | cons input inputs ih =>
      rw [List.mapM_cons]
      have first := h input List.mem_cons_self
      have rest := ih fun input member => h input (List.mem_cons_of_mem _ member)
      exact first.bind fun value => rest.bind fun values => .done (value :: values)

end AsksOnly

end Inquiry

end Schema

end ApiAtlas
