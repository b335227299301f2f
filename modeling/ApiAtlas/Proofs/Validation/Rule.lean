import ApiAtlas.Proofs.Validation.Parameters
import ApiAtlas.Validation.Rule

/-! # What a rule asks

A rule accepts a document exactly if each of its conditions holds, whichever of them is looked at first. So it
does not matter in which order and in which letters methods and headers are listed, and a rule that asks for more
accepts no more.
-/

namespace ApiAtlas

theorem Text.sameIgnoringAsciiCase_iff {a b : String} :
    sameIgnoringAsciiCase a b = true ↔ asciiLower a = asciiLower b := by
  rw [sameIgnoringAsciiCase, beq_iff_eq]

theorem Parameter.ofValue?_eq_some_iff {object : Json} {parameter : Parameter} :
    ofValue? object = some parameter ↔ parameter.Reads object := by
  constructor
  · exact reads_of_ofValue?
  · intro reads
    rw [ofValue?, reads.name, reads.place]
    simp only [Option.bind_eq_bind, Option.bind_some, ← reads.required, ← reads.description, ← reads.schema]
    rfl

namespace Operation

variable {doc : Document} {op : Operation}

theorem mem_parameters_iff {parameter : Parameter} :
    parameter ∈ op.parameters doc ↔ ∃ entry ∈ op.declaredParameters, Declares doc entry parameter := by
  rw [parameters_eq, List.mem_filterMap]
  refine exists_congr fun entry => and_congr_right fun _ => ?_
  rw [Option.bind_eq_some_iff]
  exact exists_congr fun object => and_congr_right fun _ => Parameter.ofValue?_eq_some_iff

/-- An operation or its path item declares a header parameter of this name, in whatever letters. References of
the entries are followed. -/
def DeclaresHeader (doc : Document) (op : Operation) (header : String) : Prop :=
  ∃ entry ∈ op.declaredParameters, ∃ parameter, Declares doc entry parameter ∧ parameter.place = .header ∧
    Text.sameIgnoringAsciiCase parameter.name header = true

theorem DeclaresHeader.congr {header other : String} (declares : op.DeclaresHeader doc header)
    (same : Text.asciiLower header = Text.asciiLower other) : op.DeclaresHeader doc other := by
  obtain ⟨entry, declared, parameter, declares, place, named⟩ := declares
  rw [Text.sameIgnoringAsciiCase_iff] at named
  exact ⟨entry, declared, parameter, declares, place, Text.sameIgnoringAsciiCase_iff.mpr (named.trans same)⟩

end Operation

/-- The same texts, in whatever order and in whatever letters. -/
def Respelled (texts others : List String) : Prop :=
  (texts.map Text.asciiLower).Perm (others.map Text.asciiLower)

instance (texts others : List String) : Decidable (Respelled texts others) :=
  inferInstanceAs (Decidable (List.Perm _ _))

variable {texts others : List String}

theorem Respelled.symm (respelled : Respelled texts others) : Respelled others texts :=
  List.Perm.symm respelled

theorem Respelled.exists_same (respelled : Respelled texts others) {other : String} (member : other ∈ others) :
    ∃ text ∈ texts, Text.asciiLower text = Text.asciiLower other :=
  List.mem_map.mp (respelled.mem_iff.mpr (List.mem_map_of_mem member))

namespace Rule

/-- What a rule asks of a document. -/
structure Satisfied (rule : Rule) (doc : Document) : Prop where
  keys : ∀ key ∈ rule.forbiddenKeys, key ∉ Table.keys doc.fields
  exactly : ∀ bound ∈ rule.exactPaths, (doc.paths?.getD []).length = bound
  atLeast : ∀ bound ∈ rule.minPaths, bound ≤ (doc.paths?.getD []).length
  atMost : ∀ bound ∈ rule.maxPaths, (doc.paths?.getD []).length ≤ bound
  allowed : ∀ methods ∈ rule.allowedMethods, ∀ op ∈ doc.operations, ∃ method ∈ methods,
    Text.sameIgnoringAsciiCase op.method method = true
  required : ∀ method ∈ rule.requiredMethods, ∃ op ∈ doc.operations,
    Text.sameIgnoringAsciiCase op.method method = true
  ids : rule.requireOperationId = true → ∀ op ∈ doc.operations, ∃ id, op.value.textAt? "operationId" = some id
  headers : ∀ header ∈ rule.requiredHeaders, ∀ op ∈ doc.operations, op.DeclaresHeader doc header

/-- Two rules differ at most in their names and in the order and the letters of methods and headers. -/
structure Respells (rule other : Rule) : Prop where
  minPaths : other.minPaths = rule.minPaths
  maxPaths : other.maxPaths = rule.maxPaths
  exactPaths : other.exactPaths = rule.exactPaths
  forbiddenKeys : other.forbiddenKeys = rule.forbiddenKeys
  requireOperationId : other.requireOperationId = rule.requireOperationId
  allowedMethods : Option.Rel Respelled rule.allowedMethods other.allowedMethods
  requiredMethods : Respelled rule.requiredMethods other.requiredMethods
  requiredHeaders : Respelled rule.requiredHeaders other.requiredHeaders

/-- The second rule has all conditions of the first one. -/
structure Extends (rule other : Rule) : Prop where
  minPaths : ∀ bound ∈ rule.minPaths, bound ∈ other.minPaths
  maxPaths : ∀ bound ∈ rule.maxPaths, bound ∈ other.maxPaths
  exactPaths : ∀ bound ∈ rule.exactPaths, bound ∈ other.exactPaths
  forbiddenKeys : rule.forbiddenKeys ⊆ other.forbiddenKeys
  requireOperationId : rule.requireOperationId = true → other.requireOperationId = true
  allowedMethods : ∀ methods ∈ rule.allowedMethods, methods ∈ other.allowedMethods
  requiredMethods : rule.requiredMethods ⊆ other.requiredMethods
  requiredHeaders : rule.requiredHeaders ⊆ other.requiredHeaders

variable {rule other : Rule} {doc : Document} {op : Operation} {operations : List Operation} {count : Nat}

theorem checkKeys_eq_ok_iff :
    rule.checkKeys doc = .ok () ↔ ∀ key ∈ rule.forbiddenKeys, key ∉ Table.keys doc.fields := by
  have present (key : String) : (doc.root.get? key).isSome ↔ key ∈ Table.keys doc.fields :=
    Table.mem_keys_iff_has.symm
  simp only [← present]
  rw [← List.find?_eq_none, checkKeys]
  split
  · rename_i found
    simp [found, violated]
  · simp [*]

theorem filter_eq_none_iff (bound : Option Nat) (breaks : Nat → Bool) :
    bound.filter breaks = none ↔ ∀ limit ∈ bound, breaks limit = false := by
  rw [Option.filter_eq_none_iff]
  simp

theorem checkPathCount_eq_ok_iff : rule.checkPathCount count = .ok () ↔
    (∀ bound ∈ rule.exactPaths, count = bound) ∧ (∀ bound ∈ rule.minPaths, bound ≤ count) ∧
      ∀ bound ∈ rule.maxPaths, count ≤ bound := by
  have exactly := filter_eq_none_iff rule.exactPaths fun bound => count ≠ bound
  have atLeast := filter_eq_none_iff rule.minPaths fun bound => count < bound
  have atMost := filter_eq_none_iff rule.maxPaths fun bound => bound < count
  simp only [decide_eq_false_iff_not, not_not, not_lt] at exactly atLeast atMost
  rw [← exactly, ← atLeast, ← atMost, checkPathCount]
  split
  · rename_i found
    exact iff_of_false nofun fun obeys => nomatch found.symm.trans obeys.1
  · rename_i equal
    split
    · rename_i found
      exact iff_of_false nofun fun obeys => nomatch found.symm.trans obeys.2.1
    · rename_i least
      split
      · rename_i found
        exact iff_of_false nofun fun obeys => nomatch found.symm.trans obeys.2.2
      · rename_i most
        have none {bound : Option Nat} (absent : ∀ limit, bound = some limit → False) : bound = none :=
          Option.eq_none_iff_forall_ne_some.mpr absent
        exact iff_of_true rfl ⟨none equal, none least, none most⟩

theorem checkAllowed_eq_ok_iff : rule.checkAllowed operations = .ok () ↔
    ∀ methods ∈ rule.allowedMethods, ∀ op ∈ operations, ∃ method ∈ methods,
      Text.sameIgnoringAsciiCase op.method method = true := by
  cases listed : rule.allowedMethods with
  | none => simp [checkAllowed, listed]
  | some methods =>
      have admitted (op : Operation) : ¬ (!methods.any (Text.sameIgnoringAsciiCase op.method)) = true ↔
          ∃ method ∈ methods, Text.sameIgnoringAsciiCase op.method method = true := by
        simp
      simp only [Option.mem_def, Option.some.injEq, forall_eq', ← admitted]
      rw [← List.find?_eq_none, checkAllowed, listed]
      dsimp only
      split
      · rename_i found
        simp [found, violated]
      · simp [*]

theorem checkRequired_eq_ok_iff : rule.checkRequired operations = .ok () ↔
    ∀ method ∈ rule.requiredMethods, ∃ op ∈ operations, Text.sameIgnoringAsciiCase op.method method = true := by
  have occurs (method : String) :
      ¬ (!operations.any fun op => Text.sameIgnoringAsciiCase op.method method) = true ↔
        ∃ op ∈ operations, Text.sameIgnoringAsciiCase op.method method = true := by
    simp
  simp only [← occurs]
  rw [← List.find?_eq_none, checkRequired]
  split
  · simp [*]
  · rename_i found
    split <;> simp [found, violated]

theorem mem_headerNames {header : String} :
    Text.asciiLower header ∈ headerNames doc op ↔ op.DeclaresHeader doc header := by
  rw [headerNames, List.mem_map]
  simp only [List.mem_filter, Operation.mem_parameters_iff, beq_iff_eq]
  constructor
  · rintro ⟨parameter, ⟨⟨entry, declared, declares⟩, place⟩, same⟩
    exact ⟨entry, declared, parameter, declares, place, Text.sameIgnoringAsciiCase_iff.mpr same⟩
  · rintro ⟨entry, declared, parameter, declares, place, same⟩
    exact ⟨parameter, ⟨⟨entry, declared, declares⟩, place⟩, Text.sameIgnoringAsciiCase_iff.mp same⟩

theorem checkOperation_eq_ok_iff : rule.checkOperation doc op = .ok () ↔
    (rule.requireOperationId = true → ∃ id, op.value.textAt? "operationId" = some id) ∧
      ∀ header ∈ rule.requiredHeaders, op.DeclaresHeader doc header := by
  simp only [← mem_headerNames]
  rw [checkOperation]
  have identified : (∃ id, op.value.textAt? "operationId" = some id) ↔ op.operationId? ≠ none :=
    Option.ne_none_iff_exists'.symm
  have headed : (∀ header ∈ rule.requiredHeaders, Text.asciiLower header ∈ headerNames doc op) ↔
      rule.requiredHeaders.find? (fun header => !(headerNames doc op).contains (Text.asciiLower header)) = none := by
    rw [List.find?_eq_none]
    simp
  rw [identified, headed]
  split
  · rename_i missing
    obtain ⟨demanded, absent⟩ := Bool.and_eq_true_iff.mp missing
    exact iff_of_false nofun fun asked => asked.1 demanded (Option.isNone_iff_eq_none.mp absent)
  · rename_i present
    have present : rule.requireOperationId = true → op.operationId? ≠ none := by simpa using present
    dsimp only
    split
    · rename_i found
      exact iff_of_false nofun fun asked => nomatch found.symm.trans asked.2
    · rename_i none
      exact iff_of_true rfl ⟨present, none⟩

/-- The checks come to all conditions together, in whatever order they are made. -/
theorem check_eq_ok_iff : rule.check doc = .ok () ↔ rule.Satisfied doc := by
  simp only [check, check_bind_eq_ok_iff, forM_eq_ok_iff, checkKeys_eq_ok_iff, checkPathCount_eq_ok_iff,
    checkAllowed_eq_ok_iff, checkRequired_eq_ok_iff, checkOperation_eq_ok_iff]
  constructor
  · rintro ⟨keys, ⟨exactly, atLeast, atMost⟩, allowed, required, each⟩
    exact ⟨keys, exactly, atLeast, atMost, allowed, required, fun demanded op member => (each op member).1 demanded,
      fun header asked op member => (each op member).2 header asked⟩
  · intro satisfied
    exact ⟨satisfied.keys, ⟨satisfied.exactly, satisfied.atLeast, satisfied.atMost⟩, satisfied.allowed,
      satisfied.required, fun op member => ⟨fun demanded => satisfied.ids demanded op member,
        fun header asked => satisfied.headers header asked op member⟩⟩

theorem Respells.symm (respells : Respells rule other) : Respells other rule where
  minPaths := respells.minPaths.symm
  maxPaths := respells.maxPaths.symm
  exactPaths := respells.exactPaths.symm
  forbiddenKeys := respells.forbiddenKeys.symm
  requireOperationId := respells.requireOperationId.symm
  allowedMethods := by
    have related := respells.allowedMethods
    generalize rule.allowedMethods = first, other.allowedMethods = second at related ⊢
    cases related with
    | none => exact .none
    | some respelled => exact .some respelled.symm
  requiredMethods := respells.requiredMethods.symm
  requiredHeaders := respells.requiredHeaders.symm

theorem Satisfied.respelled (satisfied : rule.Satisfied doc) (respells : Respells rule other) :
    other.Satisfied doc where
  keys := respells.forbiddenKeys ▸ satisfied.keys
  exactly := respells.exactPaths ▸ satisfied.exactly
  atLeast := respells.minPaths ▸ satisfied.atLeast
  atMost := respells.maxPaths ▸ satisfied.atMost
  allowed methods listed op member := by
    have related := respells.allowedMethods
    rw [Option.mem_def.mp listed] at related
    cases same : rule.allowedMethods with
    | none =>
        rw [same] at related
        cases related
    | some originals =>
        rw [same] at related
        cases related with
        | some respelled =>
            obtain ⟨original, listed, spelled⟩ := satisfied.allowed originals same op member
            obtain ⟨method, there, letters⟩ := respelled.symm.exists_same listed
            rw [Text.sameIgnoringAsciiCase_iff] at spelled
            exact ⟨method, there, Text.sameIgnoringAsciiCase_iff.mpr (spelled.trans letters.symm)⟩
  required method asked := by
    obtain ⟨original, listed, letters⟩ := respells.requiredMethods.exists_same asked
    obtain ⟨op, member, spelled⟩ := satisfied.required original listed
    rw [Text.sameIgnoringAsciiCase_iff] at spelled
    exact ⟨op, member, Text.sameIgnoringAsciiCase_iff.mpr (spelled.trans letters)⟩
  ids := respells.requireOperationId ▸ satisfied.ids
  headers header asked op member := by
    obtain ⟨original, listed, letters⟩ := respells.requiredHeaders.exists_same asked
    exact (satisfied.headers original listed op member).congr letters

theorem Satisfied.of_extends (satisfied : other.Satisfied doc) (more : Extends rule other) : rule.Satisfied doc where
  keys key listed := satisfied.keys key (more.forbiddenKeys listed)
  exactly bound set := satisfied.exactly bound (more.exactPaths bound set)
  atLeast bound set := satisfied.atLeast bound (more.minPaths bound set)
  atMost bound set := satisfied.atMost bound (more.maxPaths bound set)
  allowed methods set := satisfied.allowed methods (more.allowedMethods methods set)
  required method asked := satisfied.required method (more.requiredMethods asked)
  ids demanded := satisfied.ids (more.requireOperationId demanded)
  headers header asked := satisfied.headers header (more.requiredHeaders asked)

/-- A rule is a conjunction. It accepts a document exactly if the document has no forbidden key, its number of paths
obeys every bound that is set, its operations have allowed methods, ids and headers as far as these are asked for,
and every required method occurs. So other orders and other letters of methods and headers change nothing, and a
rule with further conditions still rejects what was rejected. -/
theorem accepts_iff_satisfied (rule : Rule) (doc : Document) :
    (rule.validator.validate doc = .ok () ↔ rule.Satisfied doc) ∧
    (∀ other, Respells rule other → (other.validator.validate doc = .ok () ↔ rule.validator.validate doc = .ok ())) ∧
    ∀ other, Extends rule other → rule.validator.validate doc ≠ .ok () → other.validator.validate doc ≠ .ok () := by
  have verdict (rule : Rule) : rule.validator.validate doc = .ok () ↔ rule.Satisfied doc := check_eq_ok_iff
  refine ⟨verdict rule, fun other respells => ?_, fun other more rejected accepted => ?_⟩
  · rw [verdict, verdict]
    exact ⟨fun satisfied => satisfied.respelled respells.symm, fun satisfied => satisfied.respelled respells⟩
  · rw [verdict] at accepted
    exact rejected ((verdict rule).mpr (accepted.of_extends more))

/-- A path with two operations, whose headers are declared for both, one of them by a reference. -/
def visitDocument : Document where
  path := "visits.json"
  relativePath := "visits.json"
  fields :=
    [("openapi", .string "3.0.3"),
     ("paths", .object [("/visits", .object
        [("parameters", .array
           [.object [("$ref", .string "#/components/parameters/Trace")],
            .object [("name", .string "X-Clinic"), ("in", .string "Header")]]),
         ("get", .object [("operationId", .string "listVisits"), ("responses", .object [])]),
         ("post", .object [("operationId", .string "addVisit"), ("responses", .object [])])])]),
     ("components", .object [("parameters", .object
        [("Trace", .object [("name", .string "trace-id"), ("in", .string "header")])])])]

def visitRule : Rule where
  name := "Visits"
  exactPaths := some 1
  allowedMethods := some ["get", "post"]
  requiredMethods := ["post"]
  forbiddenKeys := ["servers"]
  requiredHeaders := ["x-clinic", "trace-id"]
  requireOperationId := true

theorem accepts_iff_satisfied_visits :
    let loud := { visitRule with
      allowedMethods := some ["POST", "GET"]
      requiredMethods := ["Post"]
      requiredHeaders := ["Trace-Id", "X-Clinic"] }
    let strict := { visitRule with maxPaths := some 4, forbiddenKeys := ["security", "servers"] }
    let other := { visitDocument with fields := ("servers", .array []) :: visitDocument.fields }
    visitRule.Satisfied visitDocument ∧ Respells visitRule loud ∧ loud.validator.validate visitDocument = .ok () ∧
      Extends visitRule strict ∧ visitRule.validator.validate other ≠ .ok () ∧
      strict.validator.validate other ≠ .ok () := by
  intro loud strict other
  have accepted : (visitRule.check visitDocument).isOk = true := by decide +kernel
  obtain ⟨⟨⟩, accepted⟩ := exists_eq_ok_of_isOk accepted
  have rejected : (visitRule.check other).isOk = false := by decide +kernel
  have rejected : visitRule.check other ≠ .ok () := fun passes => by
    simp [passes, Except.isOk, Except.toBool] at rejected
  have respells : Respells visitRule loud :=
    ⟨rfl, rfl, rfl, rfl, rfl, .some (by decide +kernel), by decide +kernel, by decide +kernel⟩
  have more : Extends visitRule strict :=
    ⟨nofun, nofun, fun _ => id, by decide, id, fun _ => id, List.Subset.refl _, List.Subset.refl _⟩
  exact ⟨(accepts_iff_satisfied visitRule visitDocument).1.mp accepted, respells,
    ((accepts_iff_satisfied visitRule visitDocument).2.1 loud respells).mpr accepted, more, rejected,
    (accepts_iff_satisfied visitRule other).2.2 strict more rejected⟩

end Rule

end ApiAtlas
