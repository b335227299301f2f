import Mathlib.Data.List.Basic
import ApiAtlas.Sorted

/-! # Entries of sorted sets and tables

Reading a sorted table after writing to it, and the elements of a sorted set. Neither needs the order. Writing to a
table keeps its keys in order, so that each stands there once.
-/

namespace ApiAtlas

namespace SortedSet

variable {α : Type} [LT α] [DecidableLT α] [DecidableEq α] {x y : α} {xs : List α} {set : SortedSet α}

theorem mem_insert : y ∈ insert x set ↔ y = x ∨ y ∈ set := by
  induction set with
  | nil => simp [insert]
  | cons z rest ih =>
      rw [insert]
      split
      · rename_i same
        subst same
        simp
      · split
        · exact List.mem_cons
        · rw [List.mem_cons, ih, List.mem_cons]
          exact or_left_comm

theorem mem_insertAll : y ∈ insertAll xs set ↔ y ∈ xs ∨ y ∈ set := by
  induction xs generalizing set with
  | nil => simp [insertAll]
  | cons x xs ih =>
      have step : insertAll (x :: xs) set = insertAll xs (insert x set) := rfl
      rw [step, ih, mem_insert, List.mem_cons, or_assoc, or_left_comm]

theorem mem_ofList : y ∈ ofList xs ↔ y ∈ xs := by simp [ofList, mem_insertAll]

end SortedSet

namespace SortedTable

variable {κ α : Type} [DecidableEq κ] {key other : κ} {value : α} {table : SortedTable κ α}

theorem mem_of_get? (h : get? key table = some value) : (key, value) ∈ table := by
  induction table with
  | nil => cases h
  | cons entry table ih =>
      rw [get?] at h
      split at h
      · rename_i same
        cases h
        subst same
        exact List.mem_cons_self
      · exact List.mem_cons_of_mem _ (ih h)

theorem mem_keys_of_get? (h : get? key table = some value) : key ∈ keys table :=
  List.mem_map_of_mem (mem_of_get? h)

theorem isSome_get? : (get? key table).isSome ↔ key ∈ keys table := by
  induction table with
  | nil => simp [get?, keys]
  | cons entry table ih =>
      have here : keys (entry :: table) = entry.1 :: keys table := rfl
      rw [get?, here, List.mem_cons, ← ih]
      split
      · rename_i same
        simp [same]
      · rename_i different
        simp [Ne.symm different]

theorem get?_eq_none (absent : key ∉ keys table) : get? key table = none := by
  rwa [← isSome_get?, Option.not_isSome_iff_eq_none] at absent

theorem get?_map {β : Type} (change : α → β) :
    get? key (table.map fun entry => (entry.1, change entry.2)) = (get? key table).map change := by
  induction table with
  | nil => rfl
  | cons entry table ih =>
      rw [List.map_cons, get?, get?, ih]
      split <;> rfl

variable [LT κ] [DecidableLT κ]

theorem get?_put_self : get? key (put key value table) = some value := by
  induction table with
  | nil => exact if_pos rfl
  | cons entry table ih =>
      obtain ⟨k, v⟩ := entry
      rw [put]
      split
      · exact if_pos rfl
      · rename_i different
        split
        · exact if_pos rfl
        · rw [get?, if_neg (Ne.symm different), ih]

theorem get?_put_ne (different : other ≠ key) : get? other (put key value table) = get? other table := by
  induction table with
  | nil => exact if_neg different.symm
  | cons entry table ih =>
      obtain ⟨k, v⟩ := entry
      rw [put]
      split
      · rename_i same
        subst same
        rw [get?, get?, if_neg different.symm, if_neg different.symm]
      · split
        · rw [get?, if_neg different.symm]
        · rw [get?, get?, ih]

/-- Writing adds at most one entry. -/
theorem length_put_le : (put key value table).length ≤ table.length + 1 := by
  induction table with
  | nil => exact Nat.le_refl _
  | cons entry table ih =>
      rw [put]
      split
      · exact Nat.le_succ _
      · split
        · exact Nat.le_refl _
        · exact Nat.succ_le_succ ih

theorem mem_keys_put : other ∈ keys (put key value table) ↔ other = key ∨ other ∈ keys table := by
  rw [← isSome_get?, ← isSome_get?]
  by_cases same : other = key
  · rw [same, get?_put_self]
    simp
  · rw [get?_put_ne same]
    simp [same]

end SortedTable

namespace SortedTable

/-- The keys increase. -/
def Ascending {κ α : Type} [LT κ] (table : SortedTable κ α) : Prop := (keys table).Pairwise (· < ·)

variable {α : Type} {key : Nat} {value : α} {entry : Nat × α} {table : SortedTable Nat α}

theorem ascending_nil : Ascending ([] : SortedTable Nat α) := List.Pairwise.nil

theorem ascending_cons : Ascending (entry :: table) ↔ (∀ other ∈ keys table, entry.1 < other) ∧ Ascending table :=
  List.pairwise_cons

theorem Ascending.get?_head (ascending : Ascending (entry :: table)) : get? entry.1 table = none :=
  get?_eq_none fun there => Nat.lt_irrefl _ ((ascending_cons.mp ascending).1 _ there)

theorem ascending_put (ascending : Ascending table) : Ascending (put key value table) := by
  induction table with
  | nil => exact List.pairwise_singleton _ _
  | cons entry table ih =>
      obtain ⟨before, rest⟩ := ascending_cons.mp ascending
      rw [put]
      split
      · rename_i same
        subst same
        exact ascending_cons.mpr ⟨before, rest⟩
      · rename_i different
        split
        · rename_i less
          refine ascending_cons.mpr ⟨fun other there => ?_, ascending⟩
          rcases List.mem_cons.mp there with rfl | there
          · exact less
          · exact Nat.lt_trans less (before other there)
        · rename_i least
          refine ascending_cons.mpr ⟨fun other there => ?_, ih rest⟩
          rcases mem_keys_put.mp there with rfl | there
          · exact Nat.lt_of_le_of_ne (Nat.le_of_not_lt least) (Ne.symm different)
          · exact before other there

end SortedTable

end ApiAtlas
