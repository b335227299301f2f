import ApiAtlas.Model.Operation
import ApiAtlas.Proofs.Sorted

/-! # The response that stands for success

It is the one for 200 if there is one, and else the one for the least status from 200 to 299. Which one this is does not
depend on how the responses are searched.
-/

namespace ApiAtlas

open Model (OperationSpec)

/-- The status that stands for success, if one of those that are documented does. -/
inductive Primary (Documents : Nat → Prop) : Option Nat → Prop where
  | ok (here : Documents 200) : Primary Documents (some 200)
  | least {status : Nat} (absent : ¬ Documents 200) (here : Documents status) (success : 200 ≤ status ∧ status < 300)
    (least : ∀ other, Documents other → 200 ≤ other ∧ other < 300 → status ≤ other) : Primary Documents (some status)
  | none (absent : ∀ status, Documents status → ¬ (200 ≤ status ∧ status < 300)) : Primary Documents none

section Statuses

variable {Documents Others : Nat → Prop} {first second status : Option Nat} {spec : OperationSpec}

theorem Primary.congr (same : ∀ status, Documents status ↔ Others status) (primary : Primary Documents status) :
    Primary Others status := by
  obtain rfl : Documents = Others := funext fun status => propext (same status)
  exact primary

theorem Primary.unique (one : Primary Documents first) (other : Primary Documents second) : first = second := by
  have range : 200 ≤ 200 ∧ 200 < 300 := by decide
  cases one with
  | ok here =>
      cases other with
      | ok => rfl
      | least absent => exact absurd here absent
      | none absent => exact absurd range (absent 200 here)
  | least absent here success least =>
      cases other with
      | ok there => exact absurd there absent
      | least _ there success' least' => rw [Nat.le_antisymm (least _ there success') (least' _ here success)]
      | none absent => exact absurd success (absent _ here)
  | none absent =>
      cases other with
      | ok there => exact absurd range (absent 200 there)
      | least _ there success => exact absurd success (absent _ there)
      | none => rfl

namespace Model.OperationSpec

theorem primary_primaryStatus? (ascending : SortedTable.Ascending spec.responses) :
    Primary (· ∈ SortedTable.keys spec.responses) spec.primaryStatus? := by
  have range (status : Nat) : (200 ≤ status && status < 300) = true ↔ 200 ≤ status ∧ status < 300 := by simp
  rw [primaryStatus?]
  split
  · rename_i listed
    exact .ok (List.contains_iff_mem.mp listed)
  · rename_i unlisted
    have absent (here : 200 ∈ SortedTable.keys spec.responses) : False := unlisted (List.contains_iff_mem.mpr here)
    cases found : (SortedTable.keys spec.responses).find? fun s => 200 ≤ s && s < 300 with
    | none =>
        rw [List.find?_eq_none] at found
        exact .none fun status here success => found status here ((range status).mpr success)
    | some status =>
        obtain ⟨success, before, after, split, early⟩ := List.find?_eq_some_iff_append.mp found
        refine .least absent (List.mem_of_find?_eq_some found) ((range status).mp success) fun other there success => ?_
        -- Keys before the first one in range are out of range, and those after it are greater.
        rw [SortedTable.Ascending, split, List.pairwise_append, List.pairwise_cons] at ascending
        rw [split, List.mem_append, List.mem_cons] at there
        rcases there with earlier | rfl | later
        · have excluded := early other earlier
          rw [(range other).mpr success] at excluded
          cases excluded
        · exact Nat.le_refl _
        · exact Nat.le_of_lt (ascending.2.1.1 other later)

/-- The response that stands for success is that of the status that does. -/
theorem primaryResponse?_eq (ascending : SortedTable.Ascending spec.responses)
    (primary : Primary (· ∈ SortedTable.keys spec.responses) status) :
    spec.primaryResponse? = status.bind (SortedTable.get? · spec.responses) := by
  rw [primaryResponse?, (primary_primaryStatus? ascending).unique primary]

end Model.OperationSpec

end Statuses

end ApiAtlas
